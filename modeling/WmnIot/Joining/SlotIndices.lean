import WmnIot.Joining.Frames

/-! # The slot that is marked

`SYNCHRONIZATION` marks the slot in which it hears a control packet. It counts the slots on from the
one that the first packet names, which no one validates, and `_selected_slots_neighbors` has room for
`MAX_NUMBER_SLOTS` of them.

* **`SyncEvent`**, **`slotAfter`** — what a turn of the listening loop sees, and the slot it is in
  from what the turns before it have seen.
* **`markSelectedSlot_ne_outOfBounds`** — the slots that can be marked.
* **`joinFrom_inBounds_iff`** — joining is within the bounds. -/

namespace WmnIot

open Runs

/-! ## What a turn sees -/

/-- What a turn of the listening loop sees: a control packet, and which of the timers have
expired. -/
structure SyncEvent where
  heard : Bool
  slotExpired : Bool
  frameExpired : Bool

/-- What a turn sees that starts in a state. -/
def syncEvent (build : Build) (p : SyncPoll) (s : Node × SyncLocals) : SyncEvent :=
  let received := mclmacReceiveCtrlpktSync build p.radio s.1
  let polled := pollSyncSlot build p.slotTick received.1 s.2
  { heard := received.2.isSome
    slotExpired := timeoutPassed (received.1.tick p.slotTick).timeouts s.2.slotTimer == 1
    frameExpired := timeoutPassed (polled.1.tick p.frameTick).timeouts s.2.frameTimer == 1 }

/-- The turns of the listening loop, each with the state it starts in. -/
def syncTurns (build : Build) (polls : List SyncPoll) (s : Node × SyncLocals) :
    List (SyncPoll × (Node × SyncLocals)) :=
  if stillListening s.1 s.2 then attempted (loopStep (syncPoll build)) polls s else []

/-- The turns of a node that joins from a first control packet. -/
def joinTurns (build : Build) (polls : List SyncPoll) (ctrlpkt : ControlPacket) (n : Node) :
    List (SyncPoll × (Node × SyncLocals)) :=
  match adoptCtrlpkt n ctrlpkt with
  | .error _ => []
  | .ok n =>
    let s := armSyncTimers build ctrlpkt n
    if s.2.slotTimer = Config.timeoutSetError ∨ s.2.frameTimer = Config.timeoutSetError then []
    else syncTurns build polls s

/-- What some turns see, in order. -/
def seen (build : Build) (turns : List (SyncPoll × (Node × SyncLocals))) : List SyncEvent :=
  turns.map fun t => syncEvent build t.1 t.2

/-! ## The slot of a turn -/

/-- The expiries of the slot timer behind the last expiry of the frame timer. -/
def slotExpiries (events : List SyncEvent) : ℕ :=
  (events.reverse.takeWhile fun e => !e.frameExpired).countP fun e => e.slotExpired

/-- The slot after some turns, where `first` is the one of the first packet: slots are counted from
there on, or from the last expiry of the frame timer on, in a byte. -/
def slotAfter (first : UInt8) (events : List SyncEvent) : ℕ :=
  ((if events.any fun e => e.frameExpired then 0 else first.toNat) + slotExpiries events) % 256

theorem slotAfter_nil (first : UInt8) : slotAfter first [] = first.toNat :=
  Nat.mod_eq_of_lt first.toNat_lt

/-- The frame timer sets the slot back, and the slot timer counts it on. -/
theorem slotAfter_concat (first : UInt8) (events : List SyncEvent) (e : SyncEvent) :
    slotAfter first (events ++ [e]) =
      if e.frameExpired then 0
      else if e.slotExpired then (slotAfter first events + 1) % 256
      else slotAfter first events := by
  unfold slotAfter slotExpiries
  rw [List.reverse_append, List.reverse_singleton, List.singleton_append, List.any_append]
  by_cases hframe : e.frameExpired
  · rw [List.takeWhile_cons_of_neg (by simpa using hframe)]
    simp [hframe]
  · rw [List.takeWhile_cons_of_pos (by simpa using hframe), List.countP_cons]
    by_cases hslot : e.slotExpired
    · simp only [hframe, hslot, List.any_cons, List.any_nil, Bool.or_false, if_true]
      simp only [Bool.false_eq_true, if_false]
      omega
    · simp [hframe, hslot]

/-! ## The turns of the loop -/

/-- The timers after the slot timer is polled are those of the timers before. -/
theorem pollSyncSlot_timeouts {build : Build} {tick : Tick} {m n : Node} {l : SyncLocals}
    (h : m.timeouts = n.timeouts) :
    (pollSyncSlot build tick m l).1.timeouts = (pollSyncSlot build tick n l).1.timeouts := by
  have htick : (m.tick tick).timeouts = (n.tick tick).timeouts := by
    simp only [Node.tick, h]
  unfold pollSyncSlot
  dsimp only
  rw [htick]
  split
  · show (timeoutSet build.os tick.now (timeoutUnset (m.tick tick).timeouts _) _).1 = _
    rw [htick]
    rfl
  · exact htick

/-- Polling the slot timer counts the slot on. -/
theorem pollSyncSlot_currentSlot (build : Build) (tick : Tick) (n : Node) (l : SyncLocals) :
    (pollSyncSlot build tick n l).2.currentSlot =
      if timeoutPassed (n.tick tick).timeouts l.slotTimer = 1 then l.currentSlot + 1
      else l.currentSlot := by
  unfold pollSyncSlot
  dsimp only
  split <;> rfl

/-- Polling the slot timer leaves the id of the frame timer alone. -/
theorem pollSyncSlot_frameTimer (build : Build) (tick : Tick) (n : Node) (l : SyncLocals) :
    (pollSyncSlot build tick n l).2.frameTimer = l.frameTimer := by
  unfold pollSyncSlot
  dsimp only
  split <;> rfl

/-- Polling the frame timer sets the slot back. -/
theorem pollSyncFrame_currentSlot (build : Build) (tick : Tick) (n : Node) (l : SyncLocals) :
    (pollSyncFrame build tick n l).2.currentSlot =
      if timeoutPassed (n.tick tick).timeouts l.frameTimer = 1 then 0 else l.currentSlot := by
  unfold pollSyncFrame
  dsimp only
  split <;> rfl

/-- What is heard and marked leaves the timers alone. -/
theorem markSelectedSlot_mergeCtrlpkt_timeouts {m n : Node} {pkt : ControlPacket} {slot : UInt8}
    (h : markSelectedSlot (mergeCtrlpkt n pkt) slot = .ok m) : m.timeouts = n.timeouts := by
  obtain ⟨_, rfl⟩ := markSelectedSlot_frame h
  rfl

/-- Polling the frame timer counts the frame on. -/
theorem pollSyncFrame_currentFrame (build : Build) (tick : Tick) (n : Node) (l : SyncLocals) :
    (pollSyncFrame build tick n l).2.currentFrame =
      if timeoutPassed (n.tick tick).timeouts l.frameTimer = 1 then l.currentFrame + 1
      else l.currentFrame := by
  unfold pollSyncFrame
  dsimp only
  split <;> rfl

/-- Polling the slot timer leaves the frame alone. -/
theorem pollSyncSlot_currentFrame (build : Build) (tick : Tick) (n : Node) (l : SyncLocals) :
    (pollSyncSlot build tick n l).2.currentFrame = l.currentFrame := by
  unfold pollSyncSlot
  dsimp only
  split <;> rfl

/-- **A turn** counts the slot and the frame by what it has seen. -/
theorem syncPoll_locals {build : Build} {p : SyncPoll} {s s' : Node × SyncLocals} {go : Bool}
    (h : syncPoll build p s = .ok (s', go)) :
    s'.2.currentSlot =
        (if (syncEvent build p s).frameExpired then 0
          else if (syncEvent build p s).slotExpired then s.2.currentSlot + 1
          else s.2.currentSlot) ∧
      s'.2.currentFrame =
        (if (syncEvent build p s).frameExpired then s.2.currentFrame + 1
          else s.2.currentFrame) := by
  obtain ⟨n, l⟩ := s
  obtain ⟨m, hm, rfl, -⟩ := syncPoll_cases h
  -- a packet that is merged does not touch the timers
  have htimeouts : m.timeouts = (mclmacReceiveCtrlpktSync build p.radio n).1.timeouts := by
    rcases hm with hm | ⟨n₁, b, hm, hmark⟩
    · rw [hm]
    · rw [hm]
      exact markSelectedSlot_mergeCtrlpkt_timeouts hmark
  have hslotTimer : (m.tick p.slotTick).timeouts =
      ((mclmacReceiveCtrlpktSync build p.radio n).1.tick p.slotTick).timeouts := by
    simp only [Node.tick, htimeouts]
  have hframeTimer : ((pollSyncSlot build p.slotTick m l).1.tick p.frameTick).timeouts =
      ((pollSyncSlot build p.slotTick (mclmacReceiveCtrlpktSync build p.radio n).1 l).1.tick
        p.frameTick).timeouts := by
    simp only [Node.tick, pollSyncSlot_timeouts htimeouts]
  rw [pollSyncFrame_currentSlot, pollSyncFrame_currentFrame, pollSyncSlot_frameTimer,
    pollSyncSlot_currentSlot, pollSyncSlot_currentFrame, hframeTimer, hslotTimer]
  simp only [syncEvent, beq_iff_eq, and_self]

/-- The slot after a turn. -/
theorem syncPoll_slotAfter {build : Build} {p : SyncPoll} {s s' : Node × SyncLocals} {go : Bool}
    (h : syncPoll build p s = .ok (s', go)) {first : UInt8} {past : List SyncEvent}
    (hslot : s.2.currentSlot.toNat = slotAfter first past) :
    s'.2.currentSlot.toNat = slotAfter first (past ++ [syncEvent build p s]) := by
  have hnext : (s.2.currentSlot + 1).toNat = (slotAfter first past + 1) % 256 := by
    rw [← hslot]
    exact UInt8.toNat_add _ _
  rw [(syncPoll_locals h).1, slotAfter_concat, ← hnext, ← hslot]
  split
  · rfl
  · split <;> rfl

/-! ## The slots that can be marked -/

/-- The array has a bit for each of the first `MAX_NUMBER_SLOTS` slots. -/
theorem slotByte_lt_iff (slot : UInt8) :
    (slot / 8).toNat < Config.slotBytes ↔ slot.toNat < Config.maxNumberSlots := by
  rw [UInt8.toNat_div]
  show slot.toNat / 8 < 2 ↔ slot.toNat < 16
  omega

/-- **Marking a slot** is within the bounds exactly for these. -/
theorem markSelectedSlot_ne_outOfBounds (n : Node) (slot : UInt8) :
    markSelectedSlot n slot ≠ .error .outOfBounds ↔ slot.toNat < Config.maxNumberSlots := by
  rw [← slotByte_lt_iff]
  unfold markSelectedSlot
  dsimp only
  split
  · next hlt => exact iff_of_true nofun hlt
  · next hlt => exact iff_of_false (not_not.mpr rfl) hlt

/-- A turn is within the bounds unless it hears a packet in another slot. -/
theorem syncPoll_ne_outOfBounds (build : Build) (p : SyncPoll) (s : Node × SyncLocals) :
    syncPoll build p s ≠ .error .outOfBounds ↔
      ((syncEvent build p s).heard = true → s.2.currentSlot.toNat < Config.maxNumberSlots) := by
  obtain ⟨n, l⟩ := s
  unfold syncPoll syncEvent
  dsimp only
  generalize mclmacReceiveCtrlpktSync build p.radio n = received
  obtain ⟨n₁, _ | b⟩ := received
  · exact iff_of_true nofun nofun
  · simp only [Option.isSome_some, true_imp_iff]
    rw [← markSelectedSlot_ne_outOfBounds (mergeCtrlpkt n₁ (decodeCtrlpkt b)) l.currentSlot]
    cases markSelectedSlot (mergeCtrlpkt n₁ (decodeCtrlpkt b)) l.currentSlot with
    | error e => simp
    | ok m => exact iff_of_true nofun nofun

/-! ## The loop -/

/-- The turns that a loop makes are within the bounds exactly if every packet is heard in one of the
first `MAX_NUMBER_SLOTS` slots, where the slot comes from the turns before. -/
theorem forall_attempted_inBounds_iff {build : Build} (polls : List SyncPoll)
    {s : Node × SyncLocals} {first : UInt8} (past : List SyncEvent)
    (hslot : s.2.currentSlot.toNat = slotAfter first past) :
    (∀ t ∈ attempted (loopStep (syncPoll build)) polls s,
        syncPoll build t.1 t.2 ≠ .error .outOfBounds) ↔
      ∀ k e, (seen build (attempted (loopStep (syncPoll build)) polls s))[k]? = some e →
        e.heard = true → slotAfter first (past ++
          (seen build (attempted (loopStep (syncPoll build)) polls s)).take k) <
            Config.maxNumberSlots := by
  induction polls generalizing s past with
  | nil => simp [attempted, seen]
  | cons p ps ih =>
    have hseen : seen build (attempted (loopStep (syncPoll build)) (p :: ps) s) =
        syncEvent build p s :: seen build ((loopStep (syncPoll build) p s).elim []
          (attempted (loopStep (syncPoll build)) ps)) := rfl
    rw [hseen, attempted, List.forall_mem_cons, syncPoll_ne_outOfBounds, hslot]
    -- the slot that this poll leaves is the one of the first packet after one event more
    have hrest : (∀ t ∈ (loopStep (syncPoll build) p s).elim []
          (attempted (loopStep (syncPoll build)) ps), syncPoll build t.1 t.2 ≠ .error .outOfBounds) ↔
        ∀ k e, (seen build ((loopStep (syncPoll build) p s).elim []
            (attempted (loopStep (syncPoll build)) ps)))[k]? = some e → e.heard = true →
          slotAfter first (past ++ [syncEvent build p s] ++
            (seen build ((loopStep (syncPoll build) p s).elim []
              (attempted (loopStep (syncPoll build)) ps))).take k) < Config.maxNumberSlots := by
      cases hstep : loopStep (syncPoll build) p s with
      | none => simp [seen]
      | some s' =>
        rw [Option.elim_some]
        exact ih _ (syncPoll_slotAfter (loopStep_eq_some.mp hstep) hslot)
    rw [hrest]
    constructor
    · rintro ⟨hfirst, hlater⟩ k e hk hheard
      cases k with
      | zero =>
        obtain rfl : syncEvent build p s = e := Option.some.inj hk
        simpa using hfirst hheard
      | succ k =>
        rw [List.take_succ_cons, ← List.singleton_append, ← List.append_assoc]
        exact hlater k e hk hheard
    · intro h
      refine ⟨fun hheard => ?_, fun k e hk hheard => ?_⟩
      · simpa using h 0 _ rfl hheard
      · have hlt := h (k + 1) e hk hheard
        rwa [List.take_succ_cons, ← List.singleton_append, ← List.append_assoc] at hlt

/-- The listening loop is within the bounds exactly if every packet is heard in one of the first
`MAX_NUMBER_SLOTS` slots. -/
theorem listenOn_inBounds_iff {build : Build} (polls : List SyncPoll) (s : Node × SyncLocals) :
    listenOn build polls s ≠ .error .outOfBounds ↔
      ∀ k e, (seen build (syncTurns build polls s))[k]? = some e → e.heard = true →
        slotAfter s.2.currentSlot ((seen build (syncTurns build polls s)).take k) <
          Config.maxNumberSlots := by
  unfold listenOn syncTurns
  by_cases hgo : stillListening s.1 s.2
  · rw [if_pos hgo, if_pos hgo, pollLoop_ne_error_iff (by decide)]
    rw [forall_attempted_inBounds_iff polls [] (slotAfter_nil s.2.currentSlot).symm]
    rfl
  · rw [if_neg hgo, if_neg hgo]
    exact iff_of_true nofun (by simp [seen])

/-- The first packet is adopted within the bounds exactly if it names one of the first
`MAX_NUMBER_SLOTS` slots. -/
theorem adoptCtrlpkt_ne_outOfBounds (n : Node) (pkt : ControlPacket) :
    adoptCtrlpkt n pkt ≠ .error .outOfBounds ↔ pkt.currentSlot.toNat < Config.maxNumberSlots := by
  unfold adoptCtrlpkt
  dsimp only
  rw [bind_pure_comp, Ne, map_eq_error]
  exact markSelectedSlot_ne_outOfBounds _ _

/-- **Joining is within the bounds** exactly if the first packet names one of the first
`MAX_NUMBER_SLOTS` slots and every later one is heard in one of them, counted from the first one by
the expiries of the timers. -/
theorem joinFrom_inBounds_iff (build : Build) (polls : List SyncPoll) (pkt : ControlPacket)
    (n : Node) :
    joinFrom build polls pkt n ≠ .error .outOfBounds ↔
      pkt.currentSlot.toNat < Config.maxNumberSlots ∧
      ∀ k e, (seen build (joinTurns build polls pkt n))[k]? = some e → e.heard = true →
        slotAfter pkt.currentSlot ((seen build (joinTurns build polls pkt n)).take k) <
          Config.maxNumberSlots := by
  rw [← adoptCtrlpkt_ne_outOfBounds n pkt]
  unfold joinFrom joinTurns
  cases hadopt : adoptCtrlpkt n pkt with
  | error e => simp [seen]
  | ok m =>
    have harm : (armSyncTimers build pkt m).2.currentSlot = pkt.currentSlot := rfl
    rw [ok_bind]
    dsimp only
    generalize armSyncTimers build pkt m = s at harm ⊢
    obtain ⟨m', l⟩ := s
    dsimp only at harm ⊢
    by_cases herror : l.slotTimer = Config.timeoutSetError ∨ l.frameTimer = Config.timeoutSetError
    · rw [if_pos herror, if_pos herror]
      have hok : (Except.ok m : Except Halt Node) ≠ .error .outOfBounds := fun h => by cases h
      exact iff_of_true (fun h => by cases h) ⟨hok, by simp [seen]⟩
    · rw [if_neg herror, if_neg herror, ← harm, bind_pure_comp, Ne, map_eq_error]
      have hok : (Except.ok m : Except Halt Node) ≠ .error .outOfBounds := fun h => by cases h
      exact (listenOn_inBounds_iff polls (m', l)).trans (and_iff_right hok).symm

/-- A control packet that names slot 16. -/
def slot16Packet : ByteString := controlpacketGetPacketBytestring { currentSlot := 16 } 0

/-- A node that hears it first marks a slot behind the array. -/
theorem joinFrom_slot16_outOfBounds :
    (decodeCtrlpkt slot16Packet).currentSlot = 16 ∧
      joinFrom ⟨.linux, true⟩ [] (decodeCtrlpkt slot16Packet) {} = .error .outOfBounds := by
  have hslot : (decodeCtrlpkt slot16Packet).currentSlot = 16 := by decide
  refine ⟨hslot, ?_⟩
  by_contra h
  have hadopt : adoptCtrlpkt {} (decodeCtrlpkt slot16Packet) ≠ .error .outOfBounds := by
    intro herror
    apply h
    unfold joinFrom
    rw [herror]
    rfl
  rw [adoptCtrlpkt_ne_outOfBounds, hslot] at hadopt
  exact absurd hadopt (by decide)

end WmnIot
