import WmnIot.PowerMode.Frames

/-! # An execution of `SYNCHRONIZATION`

A node that is not the first one hears a control packet, arms its timers from it, and listens on.
The state is taken apart here into these steps.

* **`pktTimeRemaining`** — what is left of the slot in which a packet is heard.
* **`executeSynchronization_cases`**, **`joinFrom_cases`** — an execution of the state.
* **`syncPoll_cases`** — a turn of its listening loop. -/

namespace WmnIot

open Runs

/-- The node begins to listen for a network. -/
def beginListening (n : Node) : Node :=
  { n with hopCount := 0xffff, networkTime := 0 }

/-- The node leaves the listening loop. -/
def endListening (s : Node × SyncLocals) : Node :=
  mclmacSetNextMACState ((s.1.unsetTimeout s.2.frameTimer).unsetTimeout s.2.slotTimer)
    .timeslotAndChannelSelection

/-- What is left of the slot in which a packet is heard, as `SYNCHRONIZATION` computes it. -/
def pktTimeRemaining (pkt : ControlPacket) : UInt32 :=
  timeRemaining pkt.currentFrame pkt.currentSlot pkt.networkTime

theorem adoptCtrlpkt_networkTime {pkt : ControlPacket} {n n' : Node}
    (h : adoptCtrlpkt n pkt = .ok n') : n'.networkTime = pkt.networkTime := by
  obtain ⟨m, hmark, h⟩ := bind_eq_ok.mp h
  cases h
  unfold markSelectedSlot at hmark
  dsimp only at hmark
  split at hmark
  · cases hmark
    rfl
  · cases hmark

/-- **A turn of the listening loop**: a control packet is merged if one is heard, and the timers are
polled. -/
theorem syncPoll_cases {build : Build} {p : SyncPoll} {n : Node} {l : SyncLocals}
    {s' : Node × SyncLocals} {go : Bool} (h : syncPoll build p (n, l) = .ok (s', go)) :
    ∃ m, (mclmacReceiveCtrlpktSync build p.radio n = (m, none) ∨
        ∃ n₁ b, mclmacReceiveCtrlpktSync build p.radio n = (n₁, some b) ∧
          markSelectedSlot (mergeCtrlpkt n₁ (decodeCtrlpkt b)) l.currentSlot = .ok m) ∧
      s' = pollSyncFrame build p.frameTick (pollSyncSlot build p.slotTick m l).1
        (pollSyncSlot build p.slotTick m l).2 ∧
      go = stillListening s'.1 s'.2 := by
  unfold syncPoll at h
  dsimp only at h
  generalize mclmacReceiveCtrlpktSync build p.radio n = received at h ⊢
  obtain ⟨n₁, _ | b⟩ := received
  · obtain ⟨m, hm, h⟩ := bind_eq_ok.mp h
    cases hm
    cases h
    exact ⟨n₁, .inl rfl, rfl, rfl⟩
  · obtain ⟨m, hm, h⟩ := bind_eq_ok.mp h
    cases h
    exact ⟨m, .inr ⟨n₁, b, rfl, hm⟩, rfl, rfl⟩

/-- **Joining** from the first control packet on: the timers cannot be armed, or the node listens
on. -/
theorem joinFrom_cases {build : Build} {polls : List SyncPoll} {pkt : ControlPacket} {n n' : Node}
    {ret : MacExecution} (h : joinFrom build polls pkt n = .ok (n', ret)) :
    ∃ m s, adoptCtrlpkt n pkt = .ok m ∧ armSyncTimers build pkt m = s ∧
      (((s.2.slotTimer = Config.timeoutSetError ∨ s.2.frameTimer = Config.timeoutSetError) ∧
          ret = .failed ∧ n' = s.1) ∨
        (s.2.slotTimer ≠ Config.timeoutSetError ∧ s.2.frameTimer ≠ Config.timeoutSetError ∧
          ret = .success ∧ ∃ s', listenOn build polls s = .ok s' ∧ n' = endListening s')) := by
  obtain ⟨m, hadopt, h⟩ := bind_eq_ok.mp h
  refine ⟨m, _, hadopt, rfl, ?_⟩
  generalize armSyncTimers build pkt m = s at h ⊢
  obtain ⟨m', l⟩ := s
  dsimp only at h ⊢
  split at h
  · next herror =>
    cases h
    exact .inl ⟨herror, rfl, rfl⟩
  · next herror =>
    rw [not_or] at herror
    obtain ⟨s, hlisten, h⟩ := bind_eq_ok.mp h
    cases h
    exact .inr ⟨herror.1, herror.2, rfl, s, hlisten, rfl⟩

/-- **An execution of `SYNCHRONIZATION`** of a node that is not the first one: no control packet is
heard, or the node joins from the one it hears. -/
theorem executeSynchronization_cases {build : Build} {time : UInt32} {attempts : List CtrlRadio}
    {polls : List SyncPoll} {n n' : Node} {ret : MacExecution} (hfirst : n.isFirstNode = false)
    (h : executeSynchronization build time attempts polls n = .ok (n', ret)) :
    (listenCtrlpkt build 11 attempts (beginListening n) = .ok (n', none) ∧ ret = .failed) ∨
      ∃ n₁ b, listenCtrlpkt build 11 attempts (beginListening n) = .ok (n₁, some b) ∧
        joinFrom build polls (decodeCtrlpkt b) n₁ = .ok (n', ret) := by
  unfold executeSynchronization at h
  rw [if_neg (by rw [hfirst]; exact Bool.false_ne_true)] at h
  obtain ⟨⟨n₁, heard⟩, hlisten, h⟩ := bind_eq_ok.mp h
  cases heard with
  | none =>
    cases h
    exact .inl ⟨hlisten, rfl⟩
  | some b => exact .inr ⟨n₁, b, hlisten, h⟩

end WmnIot
