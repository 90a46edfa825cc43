import WmnIot.Joining.NetworkTime

/-! # The timers of `SYNCHRONIZATION`

From the frame, the slot and the network time of the first control packet, `SYNCHRONIZATION`
computes what is left of the slot and arms a timer for the slot and one for the frame with it. The
time is that of the slot only in the first slot of a frame, and never that of the frame.

* **`InSlot`** — the network time of a packet lies in its slot.
* **`leftOfSlot`**, **`leftOfFrame`** — what is left then of the slot and of the frame.
* **`syncTimers_never`** — the timers that are armed are other ones. -/

namespace WmnIot

open Runs

/-! ## What is left of the slot and of the frame -/

/-- How far the network time of the packet, in microseconds, lies behind the start of its slot, in
32-bit arithmetic. -/
def sinceSlotStart (pkt : ControlPacket) : UInt32 :=
  pkt.networkTime.toUInt32 -
    (pkt.currentFrame * Config.frameDuration + pkt.currentSlot.toUInt32 * Config.slotDuration)

/-- The network time of the packet lies in its slot. -/
def InSlot (pkt : ControlPacket) : Prop :=
  pkt.currentSlot.toNat < Config.maxNumberSlots ∧ sinceSlotStart pkt < Config.slotDuration

/-- `f * FRAME_DURATION + (s + 1) * SLOT_DURATION - t`. -/
def leftOfSlot (pkt : ControlPacket) : UInt32 :=
  pkt.currentFrame * Config.frameDuration +
    (pkt.currentSlot.toUInt32 + 1) * Config.slotDuration - pkt.networkTime.toUInt32

/-- `(f + 1) * FRAME_DURATION - t`. -/
def leftOfFrame (pkt : ControlPacket) : UInt32 :=
  (pkt.currentFrame + 1) * Config.frameDuration - pkt.networkTime.toUInt32

/-- A packet of a slot whose bounds are those of the integers is in its slot. -/
theorem inSlot_of_bounds {pkt : ControlPacket} (hslot : pkt.currentSlot.toNat < 16)
    (hstart : pkt.currentFrame.toNat * 1280000 + pkt.currentSlot.toNat * 80000 ≤
      pkt.networkTime.toNat)
    (hend : pkt.networkTime.toNat <
      pkt.currentFrame.toNat * 1280000 + (pkt.currentSlot.toNat + 1) * 80000) :
    InSlot pkt := by
  refine ⟨hslot, ?_⟩
  have hframe : Config.frameDuration.toNat = 1280000 := rfl
  have hduration : Config.slotDuration.toNat = 80000 := rfl
  rw [sinceSlotStart, UInt32.lt_iff_toNat_lt, UInt32.toNat_sub, UInt64.toNat_toUInt32,
    UInt32.toNat_add, UInt32.toNat_mul, UInt32.toNat_mul, UInt8.toNat_toUInt32, hframe, hduration]
  omega

variable {pkt : ControlPacket}

/-- `SYNCHRONIZATION` in terms of the time since the start of the slot: it leaves out the slot before
that of the packet, if there is one in the frame. -/
theorem pktTimeRemaining_eq (pkt : ControlPacket) :
    pktTimeRemaining pkt =
      if pkt.currentSlot = 0 then Config.slotDuration - sinceSlotStart pkt
      else 0 - sinceSlotStart pkt := by
  rw [pktTimeRemaining, timeRemaining_eq, timePassed, sinceSlotStart]
  generalize pkt.currentFrame * Config.frameDuration = frames
  split
  · next h =>
    have hzero : (0 : UInt8).toUInt32 = 0 := rfl
    rw [h, hzero, UInt32.zero_mul]
  · generalize pkt.currentSlot.toUInt32 = slot
    generalize Config.slotDuration = duration
    grind

theorem leftOfSlot_eq (pkt : ControlPacket) :
    leftOfSlot pkt = Config.slotDuration - sinceSlotStart pkt := by
  rw [leftOfSlot, sinceSlotStart]
  generalize Config.slotDuration = duration
  grind

theorem leftOfFrame_eq (pkt : ControlPacket) :
    leftOfFrame pkt = (Config.frameDuration - pkt.currentSlot.toUInt32 * Config.slotDuration) -
      sinceSlotStart pkt := by
  rw [leftOfFrame, sinceSlotStart]
  generalize Config.slotDuration = duration
  generalize Config.frameDuration = frame
  grind

/-! ### As numbers -/

namespace InSlot

theorem since_lt (h : InSlot pkt) : (sinceSlotStart pkt).toNat < 80000 :=
  UInt32.lt_iff_toNat_lt.mp h.2

theorem leftOfSlot (h : InSlot pkt) :
    (leftOfSlot pkt).toNat = 80000 - (sinceSlotStart pkt).toNat := by
  have hsince := h.since_lt
  have hduration : Config.slotDuration.toNat = 80000 := rfl
  rw [leftOfSlot_eq, UInt32.toNat_sub, hduration]
  omega

theorem leftOfFrame (h : InSlot pkt) :
    (leftOfFrame pkt).toNat =
      (16 - pkt.currentSlot.toNat) * 80000 - (sinceSlotStart pkt).toNat := by
  have hsince := h.since_lt
  have hslot : pkt.currentSlot.toNat < 16 := h.1
  have hduration : Config.slotDuration.toNat = 80000 := rfl
  have hframe : Config.frameDuration.toNat = 1280000 := rfl
  rw [leftOfFrame_eq, UInt32.toNat_sub, UInt32.toNat_sub, UInt32.toNat_mul, UInt8.toNat_toUInt32,
    hduration, hframe]
  omega

theorem pktTimeRemaining (h : InSlot pkt) :
    (pktTimeRemaining pkt).toNat =
      if pkt.currentSlot = 0 then 80000 - (sinceSlotStart pkt).toNat
      else (2 ^ 32 - (sinceSlotStart pkt).toNat) % 2 ^ 32 := by
  have hsince := h.since_lt
  have hduration : Config.slotDuration.toNat = 80000 := rfl
  rw [pktTimeRemaining_eq]
  split
  · rw [UInt32.toNat_sub, hduration]
    omega
  · rw [UInt32.toNat_sub, UInt32.toNat_zero, Nat.add_zero]

/-- What `SYNCHRONIZATION` computes is what is left of the slot exactly in the first slot. -/
theorem remaining_eq_slot_iff (h : InSlot pkt) :
    (WmnIot.pktTimeRemaining pkt).toNat = (WmnIot.leftOfSlot pkt).toNat ↔ pkt.currentSlot = 0 := by
  have hsince := h.since_lt
  rw [h.pktTimeRemaining, h.leftOfSlot]
  split
  · next hzero => exact iff_of_true rfl hzero
  · next hslot =>
    refine iff_of_false ?_ hslot
    omega

/-- What `SYNCHRONIZATION` computes is never what is left of the frame. -/
theorem remaining_ne_frame (h : InSlot pkt) :
    (WmnIot.pktTimeRemaining pkt).toNat ≠ (WmnIot.leftOfFrame pkt).toNat := by
  have hsince := h.since_lt
  have hslot : pkt.currentSlot.toNat < 16 := h.1
  rw [h.pktTimeRemaining, h.leftOfFrame]
  split
  · next hzero =>
    rw [hzero, UInt8.toNat_zero]
    omega
  · next hne =>
    have hpos : pkt.currentSlot.toNat ≠ 0 := fun he => hne (UInt8.toNat_inj.mp he)
    -- at the start of the slot nothing is left, and otherwise more than a frame
    rcases Nat.eq_zero_or_pos (sinceSlotStart pkt).toNat with hstart | hafter
    · rw [hstart, Nat.sub_zero, Nat.mod_self]
      omega
    · have hwrap : (2 ^ 32 - (sinceSlotStart pkt).toNat) % 2 ^ 32 =
          2 ^ 32 - (sinceSlotStart pkt).toNat := Nat.mod_eq_of_lt (by omega)
      rw [hwrap]
      omega

end InSlot

/-! ## The timers that are armed -/

/-- The timeout is pending, and its deadline is `duration` from now. -/
def ArmedFor (n : Node) (timer duration : ℕ) : Prop :=
  ∃ h : timer < Config.timeouts, n.timeouts ⟨timer, h⟩ =
    { used := true, armed := true, passed := false, time := n.clock + duration }

/-- A timeout set for one duration is armed for no other. -/
theorem ArmedFor.eq_of_set {build : Build} {n : Node} {seconds duration : ℕ} (hpos : 0 < duration)
    (h : ArmedFor (n.setTimeout build seconds).1 (n.setTimeout build seconds).2 duration) :
    seconds = duration := by
  obtain ⟨hlt, hentry⟩ := h
  have hset : (timeoutSet build.os n.clock n.timeouts seconds).2 ≠ Config.timeoutSetError := by
    intro herror
    exact absurd (show (timeoutSet build.os n.clock n.timeouts seconds).2 < Config.timeouts from hlt)
      (by rw [herror]; decide)
  obtain ⟨_, harmed⟩ := timeoutSet_entry hset
  have htime : timespecAdd build.os n.clock seconds = n.clock + duration :=
    congrArg TimeoutEntry.time (harmed.symm.trans hentry)
  unfold timespecAdd at htime
  split at htime
  · omega
  · split at htime <;> omega

/-- A timeout of less than `2 ^ 31` microseconds set in a table with an unused entry is armed for its
duration. -/
theorem armedFor_set (build : Build) {n : Node} {seconds : ℕ} (hpos : 0 < seconds)
    (hlt : seconds < 2 ^ 31) (hfree : 0 < freeEntries n.timeouts) :
    ArmedFor (n.setTimeout build seconds).1 (n.setTimeout build seconds).2 seconds := by
  have hset : (timeoutSet build.os n.clock n.timeouts seconds).2 ≠ Config.timeoutSetError :=
    timeoutSet_ne_error_iff.mpr ⟨by omega, exists_unused_of_freeEntries hfree⟩
  obtain ⟨hid, hentry⟩ := timeoutSet_entry hset
  have htime : timespecAdd build.os n.clock seconds = n.clock + seconds := by
    unfold timespecAdd
    split
    · rfl
    · exact if_pos hlt
  rw [htime] at hentry
  exact ⟨hid, hentry⟩

/-- Setting another timeout leaves an armed one as it is. -/
theorem armedFor_setTimeout_iff {build : Build} {n : Node} {seconds timer duration : ℕ}
    (hused : ∀ h : timer < Config.timeouts, (n.timeouts ⟨timer, h⟩).used = true) :
    ArmedFor (n.setTimeout build seconds).1 timer duration ↔ ArmedFor n timer duration := by
  unfold ArmedFor
  refine exists_congr fun h => ?_
  show (timeoutSet build.os n.clock n.timeouts seconds).1 _ = _ ↔ _
  rw [timeoutSet_of_used (hused h)]
  rfl

/-- The entry of a timeout that was just set is used, if there is one. -/
theorem used_setTimeout {build : Build} {n : Node} {seconds : ℕ}
    (h : (n.setTimeout build seconds).2 < Config.timeouts) :
    ((n.setTimeout build seconds).1.timeouts ⟨_, h⟩).used = true := by
  have hset : (timeoutSet build.os n.clock n.timeouts seconds).2 ≠ Config.timeoutSetError := by
    intro herror
    exact absurd (show (timeoutSet build.os n.clock n.timeouts seconds).2 < Config.timeouts from h)
      (by rw [herror]; decide)
  obtain ⟨_, hentry⟩ := timeoutSet_entry hset
  exact congrArg TimeoutEntry.used hentry

/-- The slot timer of the listening loop ends with the slot. -/
def SlotTimerExact (build : Build) (pkt : ControlPacket) (m : Node) : Prop :=
  ArmedFor (armSyncTimers build pkt m).1 (armSyncTimers build pkt m).2.slotTimer
    (leftOfSlot pkt).toNat

/-- The frame timer of the listening loop ends with the frame. -/
def FrameTimerExact (build : Build) (pkt : ControlPacket) (m : Node) : Prop :=
  ArmedFor (armSyncTimers build pkt m).1 (armSyncTimers build pkt m).2.frameTimer
    (leftOfFrame pkt).toNat

/-- What `SYNCHRONIZATION` takes to be left of the slot when it has adopted the packet. -/
theorem timeRemaining_adopted {n m : Node} (hadopt : adoptCtrlpkt n pkt = .ok m) :
    timeRemaining pkt.currentFrame pkt.currentSlot m.networkTime = pktTimeRemaining pkt := by
  rw [adoptCtrlpkt_networkTime hadopt]
  rfl

/-- **The frame timer** never ends with the frame. -/
theorem not_frameTimerExact (build : Build) {n m : Node} (hin : InSlot pkt)
    (hadopt : adoptCtrlpkt n pkt = .ok m) : ¬ FrameTimerExact build pkt m := by
  intro h
  have hslot : pkt.currentSlot.toNat < 16 := hin.1
  have hsince := hin.since_lt
  unfold FrameTimerExact armSyncTimers at h
  dsimp only at h
  rw [timeRemaining_adopted hadopt] at h
  exact hin.remaining_ne_frame (ArmedFor.eq_of_set (by rw [hin.leftOfFrame]; omega) h)

/-- **The slot timer** ends with the slot in the first slot of a frame only. -/
theorem slotTimerExact_iff (build : Build) {n m : Node} (hin : InSlot pkt)
    (hadopt : adoptCtrlpkt n pkt = .ok m) (hfree : 0 < freeEntries m.timeouts) :
    SlotTimerExact build pkt m ↔ pkt.currentSlot = 0 := by
  have hsince := hin.since_lt
  have hleft := hin.leftOfSlot
  have hfirst : SlotTimerExact build pkt m ↔
      ArmedFor (m.setTimeout build (pktTimeRemaining pkt).toNat).1
        (m.setTimeout build (pktTimeRemaining pkt).toNat).2 (leftOfSlot pkt).toNat := by
    unfold SlotTimerExact armSyncTimers
    dsimp only
    rw [timeRemaining_adopted hadopt]
    exact armedFor_setTimeout_iff fun h => used_setTimeout h
  rw [hfirst, ← hin.remaining_eq_slot_iff]
  constructor
  · exact fun h => ArmedFor.eq_of_set (by omega) h
  · intro h
    rw [← h]
    exact armedFor_set build (by omega) (by omega) hfree

/-- **The timers of `SYNCHRONIZATION`**: whatever packet is heard in its slot, the two timers are not
both armed up to the ends of the slot and of the frame. The frame timer never is, and the slot timer
is in the first slot of a frame only. -/
theorem syncTimers_never (build : Build) (pkt : ControlPacket) (n m : Node) (hin : InSlot pkt)
    (hadopt : adoptCtrlpkt n pkt = .ok m) :
    ¬ (SlotTimerExact build pkt m ∧ FrameTimerExact build pkt m) ∧
    ¬ FrameTimerExact build pkt m ∧
    (0 < freeEntries m.timeouts → (SlotTimerExact build pkt m ↔ pkt.currentSlot = 0)) :=
  ⟨fun h => not_frameTimerExact build hin hadopt h.2, not_frameTimerExact build hin hadopt,
    slotTimerExact_iff build hin hadopt⟩

/-- The packet of a node in slot 3 of frame 2, ten microseconds after the start of the slot. -/
def thirdSlot : ControlPacket :=
  { currentFrame := 2, currentSlot := 3, networkTime := 2 * 1280000 + 3 * 80000 + 10 }

theorem inSlot_thirdSlot : InSlot thirdSlot :=
  ⟨by decide, by decide⟩

/-- A node that hears this packet arms its frame timer for another time. -/
theorem syncTimers_never_thirdSlot :
    ∃ m, adoptCtrlpkt ({} : Node) thirdSlot = .ok m ∧
      ¬ FrameTimerExact ⟨.linux, true⟩ thirdSlot m :=
  ⟨_, rfl, (syncTimers_never ⟨.linux, true⟩ thirdSlot {} _ inSlot_thirdSlot rfl).2.1⟩

/-- For this packet, and with the table empty, both timers are armed for more than an hour. -/
theorem syncTimers_overAnHour :
    ∃ m, adoptCtrlpkt ({} : Node) thirdSlot = .ok m ∧
      ¬ (SlotTimerExact ⟨.linux, true⟩ thirdSlot m ∧ FrameTimerExact ⟨.linux, true⟩ thirdSlot m) ∧
      (pktTimeRemaining thirdSlot).toNat = 2 ^ 32 - 10 := by
  refine ⟨_, rfl, fun h => not_frameTimerExact _ inSlot_thirdSlot rfl h.2, ?_⟩
  rw [inSlot_thirdSlot.pktTimeRemaining]
  decide

end WmnIot
