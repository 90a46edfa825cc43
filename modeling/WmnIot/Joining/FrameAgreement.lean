import WmnIot.Joining.SlotIndices

/-! # The frame of a node that has joined

A node counts its frames on from the control packet it has heard. It listens on until the frame
before the one it drew, waits for one more frame while it selects its slot, and then `STARTP` begins
with the frame after the one it drew: that is one frame ahead of the network.

* **`frameAt`**, **`slotAt`** — the frame and the slot of the network at a moment.
* **`Joins`** — a node that goes from `SYNCHRONIZATION` to `STARTP`.
* **`ExactTimers`** — when it hears the packet, and when its timers expire.
* **`joinedFrame_ne`** — it does not begin in the frame of the network. -/

namespace WmnIot

open Runs

/-! ## The network -/

/-- The frame of a network that begins at `start`. -/
def frameAt (start now : ℕ) : ℕ := (now - start) / Config.frameDuration.toNat

/-- The slot of a network that begins at `start`. -/
def slotAt (start now : ℕ) : ℕ :=
  (now - start) % Config.frameDuration.toNat / Config.slotDuration.toNat

theorem frameAt_start (start k : ℕ) : frameAt start (start + k * Config.frameDuration.toNat) = k := by
  rw [frameAt, Nat.add_sub_cancel_left]
  exact Nat.mul_div_cancel k (by decide)

/-- One frame later it is the next frame. -/
theorem frameAt_add {start now : ℕ} (h : start ≤ now) :
    frameAt start (now + Config.frameDuration.toNat) = frameAt start now + 1 := by
  rw [frameAt, Nat.sub_add_comm h]
  exact Nat.add_div_right _ (by decide)

/-! ## Joining -/

/-- The turns of the listening loop in which the frame timer expires. -/
def frameEnds (build : Build) (turns : List (SyncPoll × (Node × SyncLocals))) :
    List (SyncPoll × (Node × SyncLocals)) :=
  turns.filter fun t => (syncEvent build t.1 t.2).frameExpired

/-- The node `n`, which is not the first one and has drawn its offset, hears the packet `pkt` with the
node `m`, goes on from `SYNCHRONIZATION` with the node `n₁` and from
`TIMESLOT_AND_CHANNEL_SELECTION`, with a slot, with the node `n₂`, and has executed `STARTP` with the
node `n₃`. -/
structure Joins (build : Build) (sync select : MacInput) (pkt : ControlPacket)
    (n m n₁ n₂ n₃ : Node) : Prop where
  joiner : n.isFirstNode = false
  offset : 0 < n.wakeupFrame.toNat ∧ n.wakeupFrame.toNat < Config.maxNumberSlots
  heard : ∃ b, listenCtrlpkt build 11 sync.attempts (beginListening n) = .ok (m, some b) ∧
    pkt = decodeCtrlpkt b
  synchronized : executeSynchronization build sync.time sync.attempts sync.syncPolls n =
    .ok (n₁, .success)
  selected : executeTimeslotAndChannelSelection build select.rand select.frameTicks
    (mclmacUpdateMacStateMachine n₁).1 = .ok (n₂, .success)
  found : n₂.macState.nextState = .mediumAccess
  started : enterMediumAccess build (mclmacUpdateMacStateMachine n₂).1 = .ok n₃

/-- The packet is heard in its frame and slot, the first frame timer of `SYNCHRONIZATION` expires at
the end of this frame and every other one `FRAME_DURATION` after it was set, and nothing else takes
time. -/
structure ExactTimers (build : Build) (start : ℕ) (sync : MacInput) (pkt : ControlPacket)
    (m n₁ n₂ : Node) : Prop where
  began : start ≤ m.clock
  frame_eq : frameAt start m.clock = pkt.currentFrame.toNat
  slot_eq : slotAt start m.clock = pkt.currentSlot.toNat
  ends : ∀ k t, (frameEnds build (joinTurns build sync.syncPolls pkt m))[k]? = some t →
    t.1.frameTick.now = start + (pkt.currentFrame.toNat + 1 + k) * Config.frameDuration.toNat
  waits : n₂.clock = n₁.clock + Config.frameDuration.toNat

variable {build : Build}

/-! ## The listening loop -/

/-- A turn ends when the frame timer is polled. -/
theorem syncPoll_clock {p : SyncPoll} {s s' : Node × SyncLocals} {go : Bool}
    (h : syncPoll build p s = .ok (s', go)) : s'.1.clock = p.frameTick.now := by
  obtain ⟨n, l⟩ := s
  obtain ⟨m, -, rfl, -⟩ := syncPoll_cases h
  unfold pollSyncFrame
  dsimp only
  split <;> rfl

/-- Whether the loop goes on. -/
theorem syncPoll_go {p : SyncPoll} {s s' : Node × SyncLocals} {go : Bool}
    (h : syncPoll build p s = .ok (s', go)) : go = stillListening s'.1 s'.2 := by
  obtain ⟨n, l⟩ := s
  obtain ⟨m, -, rfl, rfl⟩ := syncPoll_cases h
  rfl

/-- A turn keeps the frame at which listening ends. -/
theorem syncPoll_wakeupFrame {p : SyncPoll} {s s' : Node × SyncLocals} {go : Bool}
    (h : syncPoll build p s = .ok (s', go)) : s'.1.wakeupFrame = s.1.wakeupFrame := by
  have hlistener := syncPoll_listener h
  simp only [Node.listener, Prod.mk.injEq] at hlistener
  exact hlistener.2.2.1

theorem stillListening_iff (n : Node) (l : SyncLocals) :
    stillListening n l = true ↔ l.currentFrame.toNat < (n.wakeupFrame - 1).toNat := by
  rw [stillListening, decide_eq_true_iff, UInt32.lt_iff_toNat_lt]

/-- **The loop** ends with the expiry of the frame timer that brings it to the frame at which
listening ends. -/
theorem syncLoop_frameEnd (polls : List SyncPoll) {s s' : Node × SyncLocals}
    (hgo : stillListening s.1 s.2 = true)
    (h : pollLoop .polling (syncPoll build) polls s = .ok s') :
    ∃ k t, (frameEnds build (attempted (loopStep (syncPoll build)) polls s))[k]? = some t ∧
      s'.1.clock = t.1.frameTick.now ∧
      s.2.currentFrame.toNat + k + 1 = (s.1.wakeupFrame - 1).toNat := by
  induction polls generalizing s with
  | nil => cases h
  | cons p ps ih =>
    have hlt := (stillListening_iff s.1 s.2).mp hgo
    have hbound := (s.1.wakeupFrame - 1).toNat_lt
    rw [pollLoop] at h
    cases hpoll : syncPoll build p s with
    | error e =>
      rw [hpoll] at h
      cases h
    | ok r =>
      obtain ⟨s₁, go⟩ := r
      rw [hpoll] at h
      have hframe := (syncPoll_locals hpoll).2
      have hwakeup := syncPoll_wakeupFrame hpoll
      have hnext := syncPoll_go hpoll
      have hwhole : frameEnds build (attempted (loopStep (syncPoll build)) (p :: ps) s) =
          (if (syncEvent build p s).frameExpired then [(p, s)] else []) ++ frameEnds build
            ((loopStep (syncPoll build) p s).elim [] (attempted (loopStep (syncPoll build)) ps)) := by
        rw [attempted, frameEnds, List.filter_cons]
        split <;> rfl
      rw [hwhole]
      by_cases hexpired : (syncEvent build p s).frameExpired = true
      · rw [if_pos hexpired] at hframe ⊢
        have hsucc : s₁.2.currentFrame.toNat = s.2.currentFrame.toNat + 1 := by
          rw [hframe, UInt32.toNat_add, UInt32.toNat_one]
          omega
        cases go with
        | true =>
          rw [loopStep_eq_some.mpr hpoll, Option.elim_some]
          obtain ⟨k, t, ht, hclock, hcount⟩ := ih hnext.symm h
          refine ⟨k + 1, t, ht, hclock, ?_⟩
          rw [← hwakeup]
          omega
        | false =>
          -- the last turn
          obtain rfl : s₁ = s' := Except.ok.inj h
          have hstop : ¬ s₁.2.currentFrame.toNat < (s₁.1.wakeupFrame - 1).toNat := by
            rw [← stillListening_iff, ← hnext]
            decide
          rw [hwakeup] at hstop
          exact ⟨0, (p, s), rfl, syncPoll_clock hpoll, by omega⟩
      · rw [if_neg hexpired] at hframe ⊢
        have hlistens : go = true := by
          rw [hnext, stillListening_iff, hframe, hwakeup]
          exact hlt
        subst hlistens
        rw [loopStep_eq_some.mpr hpoll, Option.elim_some, List.nil_append]
        obtain ⟨k, t, ht, hclock, hcount⟩ := ih hnext.symm h
        refine ⟨k, t, ht, hclock, ?_⟩
        rw [← hwakeup, ← hframe]
        exact hcount

/-- **Joining** takes until the frame timer has expired as often as it has to, or no time. -/
theorem joinFrom_clock {polls : List SyncPoll} {pkt : ControlPacket} {m n₁ : Node}
    (h : joinFrom build polls pkt m = .ok (n₁, .success)) :
    n₁.clock = m.clock ∨ ∃ k t, (frameEnds build (joinTurns build polls pkt m))[k]? = some t ∧
      n₁.clock = t.1.frameTick.now ∧
      pkt.currentFrame.toNat + k + 1 = (n₁.wakeupFrame - 1).toNat := by
  obtain ⟨m', s, hadopt, harm, hcases⟩ := joinFrom_cases h
  obtain ⟨timeouts, hframe⟩ := armSyncTimers_frame build pkt m'
  have hcurrent : s.2.currentFrame = pkt.currentFrame := by
    rw [← harm]
    rfl
  have hclock : s.1.clock = m.clock := by
    obtain ⟨m'', hmark, hm'⟩ := bind_eq_ok.mp hadopt
    obtain ⟨_, rfl⟩ := markSelectedSlot_frame hmark
    cases hm'
    rw [← harm, hframe]
  rcases hcases with ⟨-, hret, -⟩ | ⟨hslot, hframe', -, s', hlisten, rfl⟩
  · cases hret
  · have hwakeup : (endListening s').wakeupFrame = s.1.wakeupFrame := by
      have hlistener := listenOn_listener hlisten
      simp only [Node.listener, Prod.mk.injEq] at hlistener
      exact hlistener.2.2.1
    have hturns : joinTurns build polls pkt m = syncTurns build polls s := by
      rw [joinTurns, hadopt]
      dsimp only
      rw [harm, if_neg (not_or.mpr ⟨hslot, hframe'⟩)]
    rw [hturns, hwakeup, ← hcurrent]
    unfold listenOn at hlisten
    unfold syncTurns
    -- the loop ends with a frame, or the node does not enter it
    by_cases hgo : stillListening s.1 s.2 = true
    · rw [if_pos hgo] at hlisten ⊢
      exact .inr (syncLoop_frameEnd polls hgo hlisten)
    · rw [if_neg hgo] at hlisten
      obtain rfl := Except.ok.inj hlisten
      exact .inl hclock

/-! ## The frame in which the session begins -/

/-- The machine is updated without time, and keeps the frame that was drawn. -/
theorem updateMac_clock (n : Node) :
    (mclmacUpdateMacStateMachine n).1.clock = n.clock ∧
      (mclmacUpdateMacStateMachine n).1.wakeupFrame = n.wakeupFrame := by
  obtain ⟨_, h⟩ := mclmacUpdateMacStateMachine_frame n
  rw [h]
  exact ⟨rfl, rfl⟩

/-- `TIMESLOT_AND_CHANNEL_SELECTION` keeps the frame that was drawn. -/
theorem executeTimeslotAndChannelSelection_wakeupFrame {rand : ℕ} {ticks : List Tick} {n n' : Node}
    {ret : MacExecution} (h : executeTimeslotAndChannelSelection build rand ticks n = .ok (n', ret)) :
    n'.wakeupFrame = n.wakeupFrame := by
  rcases executeTimeslotAndChannelSelection_cases h with ⟨-, -, rfl⟩ | ⟨-, -, _, rfl⟩ |
    ⟨-, -, _, _, _, _, _, -, rfl⟩ | ⟨-, -, -, _, _, rfl⟩
  · rfl
  · rfl
  · rfl
  · rfl

/-- `STARTP` takes no time, and begins with the frame after the one that was drawn, in slot 0. -/
theorem enterMediumAccess_frame {n n' : Node} (h : enterMediumAccess build n = .ok n') :
    n'.clock = n.clock ∧ n'.mac.frame.currentFrame = n.wakeupFrame + 1 ∧
      n'.mac.frame.currentSlot = 0 := by
  rw [enterMediumAccess_cases h]
  exact ⟨rfl, rfl, rfl⟩

/-- The node listens on to the frame that is its offset behind that of the packet. -/
theorem Joins.joined {sync select : MacInput} {pkt : ControlPacket} {n m n₁ n₂ n₃ : Node}
    (h : Joins build sync select pkt n m n₁ n₂ n₃) :
    joinFrom build sync.syncPolls pkt m = .ok (n₁, .success) ∧
      n₁.wakeupFrame = n.wakeupFrame + pkt.currentFrame := by
  obtain ⟨b, hlisten, rfl⟩ := h.heard
  rcases executeSynchronization_cases h.joiner h.synchronized with ⟨-, hret⟩ |
    ⟨m', b', hlisten', hjoin⟩
  · cases hret
  · obtain ⟨rfl, hb⟩ := Prod.mk.inj (Except.ok.inj (hlisten.symm.trans hlisten'))
    obtain rfl := Option.some.inj hb
    obtain ⟨timeouts, rfl⟩ := listenCtrlpkt_frame hlisten
    exact ⟨hjoin, (joinFrom_listener hjoin).2.1⟩

/-- What `STARTP` leaves. -/
theorem Joins.session {sync select : MacInput} {pkt : ControlPacket} {n m n₁ n₂ n₃ : Node}
    (h : Joins build sync select pkt n m n₁ n₂ n₃) :
    n₃.clock = n₂.clock ∧ n₃.mac.frame.currentFrame = n.wakeupFrame + pkt.currentFrame + 1 := by
  obtain ⟨hclock, hframe, -⟩ := enterMediumAccess_frame h.started
  obtain ⟨hclock', hwakeup'⟩ := updateMac_clock n₂
  have hwakeup := executeTimeslotAndChannelSelection_wakeupFrame h.selected
  rw [(updateMac_clock n₁).2, h.joined.2] at hwakeup
  rw [hclock, hclock', hframe, hwakeup', hwakeup]
  exact ⟨rfl, rfl⟩

/-- **The frame of a node that has joined** is not that of the network: it is one frame ahead if the
node has listened to the end of a frame, and otherwise as many frames as it drew. -/
theorem Joins.frame_ne {start : ℕ} {sync select : MacInput} {pkt : ControlPacket}
    {n m n₁ n₂ n₃ : Node} (h : Joins build sync select pkt n m n₁ n₂ n₃)
    (hexact : ExactTimers build start sync pkt m n₁ n₂) :
    n₃.mac.frame.currentFrame ≠ UInt32.ofNat (frameAt start n₃.clock) := by
  obtain ⟨hpos, hlt⟩ := h.offset
  obtain ⟨hjoin, hwakeup⟩ := h.joined
  obtain ⟨hclock, hframe⟩ := h.session
  have hframes : n.wakeupFrame.toNat < 16 := hlt
  have hf := pkt.currentFrame.toNat_lt
  intro heq
  have hnat := congrArg UInt32.toNat (hframe.symm.trans heq)
  rw [hclock, hexact.waits, UInt32.toNat_ofNat', UInt32.toNat_add, UInt32.toNat_add,
    UInt32.toNat_one] at hnat
  rcases joinFrom_clock hjoin with hstill | ⟨k, t, ht, hend, hcount⟩
  · -- no frame timer has expired
    rw [hstill, frameAt_add hexact.began, hexact.frame_eq] at hnat
    omega
  · have hnow : start + (pkt.currentFrame.toNat + 1 + k) * Config.frameDuration.toNat +
        Config.frameDuration.toNat =
          start + (pkt.currentFrame.toNat + 2 + k) * Config.frameDuration.toNat := by ring
    rw [hend, hexact.ends k t ht, hnow, frameAt_start] at hnat
    rw [hwakeup, UInt32.toNat_sub, UInt32.toNat_add, UInt32.toNat_one] at hcount
    omega

/-- **A node that has joined** and executes `STARTP` is not in the frame and slot of the network, in
whatever frame and slot it has heard its packet and whatever its offset is. -/
theorem joinedFrame_never (build : Build) (start : ℕ) (sync select : MacInput) (pkt : ControlPacket)
    (n m n₁ n₂ n₃ : Node) (hjoins : Joins build sync select pkt n m n₁ n₂ n₃)
    (hexact : ExactTimers build start sync pkt m n₁ n₂) :
    ¬ (n₃.mac.frame.currentFrame = UInt32.ofNat (frameAt start n₃.clock) ∧
      n₃.mac.frame.currentSlot = UInt8.ofNat (slotAt start n₃.clock)) :=
  fun hagree => hjoins.frame_ne hexact hagree.1

/-! ### A node that hears a packet at the start of frame 3 -/

/-- The network has begun at 0, and this node has drawn the offset 2. -/
def thirdFrameJoiner : Node :=
  { mclmacInit (fun _ => {}) 3840000 initQueues with
    macState := { currentState := .synchronization, nextState := .synchronization }
    wakeupFrame := 2 }

/-- The packet is sent in slot 0 of frame 3. -/
def thirdFramePacket : ByteString :=
  controlpacketGetPacketBytestring { currentFrame := 3, networkTime := 3840000 } 0

/-- The frame timer expires at the end of frame 3. -/
def thirdFrameSync : MacInput where
  attempts := [.heard thirdFramePacket]
  syncPolls := [⟨.lost false, ⟨3840000, false⟩, ⟨5120000, true⟩⟩]

/-- The other one expires at the end of frame 4. -/
def thirdFrameSelect : MacInput where
  frameTicks := [⟨6400000, true⟩]

/-- In the build for Linux with the stubs of the radio. -/
abbrev thirdFrameBuild : Build := ⟨.linux, true⟩

theorem thirdFrame_heard :
    listenCtrlpkt thirdFrameBuild 11 thirdFrameSync.attempts (beginListening thirdFrameJoiner) =
      .ok (beginListening thirdFrameJoiner, some thirdFramePacket) := rfl

/-- The run of this node. -/
theorem thirdFrame_joins :
    ∃ n₁ n₂ n₃, Joins thirdFrameBuild thirdFrameSync thirdFrameSelect
        (decodeCtrlpkt thirdFramePacket) thirdFrameJoiner (beginListening thirdFrameJoiner) n₁ n₂ n₃ ∧
      ExactTimers thirdFrameBuild 0 thirdFrameSync (decodeCtrlpkt thirdFramePacket)
        (beginListening thirdFrameJoiner) n₁ n₂ ∧
      n₃.clock = 6400000 ∧ n₃.mac.frame.currentFrame = 6 := by
  have heval : ((executeSynchronization thirdFrameBuild thirdFrameSync.time thirdFrameSync.attempts
      thirdFrameSync.syncPolls thirdFrameJoiner).toOption.bind fun r₁ =>
      (executeTimeslotAndChannelSelection thirdFrameBuild thirdFrameSelect.rand
        thirdFrameSelect.frameTicks (mclmacUpdateMacStateMachine r₁.1).1).toOption.bind fun r₂ =>
      (enterMediumAccess thirdFrameBuild (mclmacUpdateMacStateMachine r₂.1).1).toOption.map fun n₃ =>
        decide ((r₁.2 = .success ∧ r₂.2 = .success ∧ r₂.1.macState.nextState = .mediumAccess) ∧
          r₂.1.clock = r₁.1.clock + Config.frameDuration.toNat ∧ n₃.clock = 6400000 ∧
          n₃.mac.frame.currentFrame = 6)) = some true := by
    decide +kernel
  obtain ⟨⟨n₁, ret₁⟩, hsync, heval⟩ := Option.bind_eq_some_iff.mp heval
  obtain ⟨⟨n₂, ret₂⟩, hselect, heval⟩ := Option.bind_eq_some_iff.mp heval
  obtain ⟨n₃, hstart, heval⟩ := Option.map_eq_some_iff.mp heval
  obtain ⟨⟨rfl, rfl, hfound⟩, hwaits, hclock, hframe⟩ := of_decide_eq_true heval
  have hends : (frameEnds thirdFrameBuild (joinTurns thirdFrameBuild thirdFrameSync.syncPolls
      (decodeCtrlpkt thirdFramePacket) (beginListening thirdFrameJoiner))).map
        (fun t => t.1.frameTick.now) = [5120000] := by
    decide +kernel
  refine ⟨n₁, n₂, n₃, ⟨rfl, by decide, ⟨_, thirdFrame_heard, rfl⟩, toOption_eq_some.mp hsync,
    toOption_eq_some.mp hselect, hfound, toOption_eq_some.mp hstart⟩,
    ⟨Nat.zero_le _, by decide +kernel, by decide +kernel, ?_, hwaits⟩, hclock, hframe⟩
  intro k t ht
  have hnow := congrArg (fun l : List ℕ => l[k]?) hends
  simp only [List.getElem?_map, ht, Option.map_some] at hnow
  cases k with
  | zero => exact Option.some.inj hnow
  | succ k => cases hnow

/-- It begins its session in frame 6, and the network is in frame 5. -/
theorem joinedFrame_never_thirdFrame :
    ∃ n₁ n₂ n₃, Joins thirdFrameBuild thirdFrameSync thirdFrameSelect
        (decodeCtrlpkt thirdFramePacket) thirdFrameJoiner (beginListening thirdFrameJoiner) n₁ n₂ n₃ ∧
      ExactTimers thirdFrameBuild 0 thirdFrameSync (decodeCtrlpkt thirdFramePacket)
        (beginListening thirdFrameJoiner) n₁ n₂ ∧
      ¬ (n₃.mac.frame.currentFrame = UInt32.ofNat (frameAt 0 n₃.clock) ∧
        n₃.mac.frame.currentSlot = UInt8.ofNat (slotAt 0 n₃.clock)) := by
  obtain ⟨n₁, n₂, n₃, hjoins, hexact, -⟩ := thirdFrame_joins
  exact ⟨n₁, n₂, n₃, hjoins, hexact, joinedFrame_never thirdFrameBuild 0 thirdFrameSync
    thirdFrameSelect _ _ _ n₁ n₂ n₃ hjoins hexact⟩

/-- It is one frame ahead. -/
theorem joinedFrame_ahead :
    ∃ n₁ n₂ n₃, Joins thirdFrameBuild thirdFrameSync thirdFrameSelect
        (decodeCtrlpkt thirdFramePacket) thirdFrameJoiner (beginListening thirdFrameJoiner) n₁ n₂ n₃ ∧
      ExactTimers thirdFrameBuild 0 thirdFrameSync (decodeCtrlpkt thirdFramePacket)
        (beginListening thirdFrameJoiner) n₁ n₂ ∧
      frameAt 0 n₃.clock = 5 ∧ n₃.mac.frame.currentFrame = 6 := by
  obtain ⟨n₁, n₂, n₃, hjoins, hexact, hclock, hframe⟩ := thirdFrame_joins
  refine ⟨n₁, n₂, n₃, hjoins, hexact, ?_, hframe⟩
  rw [hclock]
  decide

end WmnIot
