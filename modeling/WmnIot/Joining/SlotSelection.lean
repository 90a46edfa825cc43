import WmnIot.Foundations.FirstFit
import WmnIot.Joining.Frames

/-! # The selection of a slot

`TIMESLOT_AND_CHANNEL_SELECTION` scans the slot map byte by byte and bit by bit, from the top bit
down, for a slot that no channel uses. It numbers the slot at bit `j` of byte `i` as
`m * i + (j - 1)`, where `m` is the number of bytes of a row and not that of bits of a byte.

* **`FreeSlot`**, **`findSlot_eq_some_iff`** — the scan finds the least free slot.
* **`executeTimeslotAndChannelSelection_returns`** — the state ends with the frame.
* **`slotSelection_leastFree_iff`** — when the slot that is taken is the one that was found. -/

namespace WmnIot

open Runs FirstFit

/-! ## The scan -/

/-- The byte of a row of a slot map that holds the bit of the slot. -/
def slotByte (s : Fin Config.maxNumberSlots) : Fin Config.slotBytes :=
  ⟨s / 8, by
    have hs := s.isLt
    simp only [Config.maxNumberSlots, Config.slotBytes] at *
    omega⟩

/-- The bit of the slot in a row of a slot map: the top bit of a byte is its lowest slot. -/
def slotBit (row : Fin Config.slotBytes → UInt8) (s : Fin Config.maxNumberSlots) : Bool :=
  (row (slotByte s)).toNat.testBit (7 - s % 8)

/-- The slot is free: its bit is clear for every channel. -/
def FreeSlot (occupied : SlotMap) (s : Fin Config.maxNumberSlots) : Prop :=
  ∀ k, slotBit (occupied k) s = false

instance (occupied : SlotMap) (s : Fin Config.maxNumberSlots) : Decidable (FreeSlot occupied s) :=
  inferInstanceAs (Decidable (∀ _, _))

/-- The byte and the bit at which the scan looks for the slot. -/
def slotPosition (s : Fin Config.maxNumberSlots) : Fin Config.slotBytes × ℕ :=
  (slotByte s, s % 8 + 1)

/-- The scan looks for the slots in order. -/
theorem scan_eq_map : List.product (List.finRange Config.slotBytes) (List.range' 1 8) =
    (List.finRange Config.maxNumberSlots).map slotPosition := by
  decide

/-- The mask `1U << (8 - j)` picks the bit `j`, counted from the top and from one. -/
theorem and_mask_beq_zero (b : UInt8) {j : ℕ} (hj : 1 ≤ j) (hj' : j ≤ 8) :
    (b &&& 1 <<< UInt8.ofNat (8 - j) == 0) = !b.toNat.testBit (8 - j) := by
  have hmask : ∀ i < 8, (1 <<< UInt8.ofNat i : UInt8).toNat = 2 ^ i := by decide
  rw [Bool.eq_iff_iff, beq_iff_eq, ← UInt8.toNat_inj, UInt8.toNat_and, hmask (8 - j) (by omega),
    Nat.and_two_pow]
  cases b.toNat.testBit (8 - j) <;> simp

theorem slotAvailable_slotPosition (occupied : SlotMap) (s : Fin Config.maxNumberSlots) :
    slotAvailable occupied (slotPosition s).1 (slotPosition s).2 = decide (FreeSlot occupied s) := by
  rw [Bool.eq_iff_iff, decide_eq_true_eq]
  simp only [slotAvailable, slotPosition, FreeSlot, slotBit, List.all_eq_true, List.mem_finRange,
    forall_const]
  refine forall_congr' fun k => ?_
  have hbit : 8 - (s.val % 8 + 1) = 7 - s.val % 8 := by omega
  rw [and_mask_beq_zero _ (by omega) (by omega), hbit, Bool.not_eq_true']

/-- The scan, slot by slot. -/
theorem findSlot_eq_map (occupied : SlotMap) : findSlot occupied =
    ((List.finRange Config.maxNumberSlots).find? fun s => decide (FreeSlot occupied s)).map
      slotPosition := by
  unfold findSlot
  rw [scan_eq_map, List.find?_map]
  congr 2
  funext s
  exact slotAvailable_slotPosition occupied s

/-- **The scan** finds the least free slot. -/
theorem findSlot_eq_some_iff {occupied : SlotMap} {i : Fin Config.slotBytes} {j : ℕ} :
    findSlot occupied = some (i, j) ↔
      ∃ s, IsLeast {t | FreeSlot occupied t} s ∧ slotPosition s = (i, j) := by
  rw [findSlot_eq_map, Option.map_eq_some_iff]
  refine exists_congr fun s => and_congr_left fun _ => ?_
  rw [find?_finRange_eq_some_iff]
  simp only [decide_eq_true_eq]

theorem findSlot_eq_none_iff {occupied : SlotMap} :
    findSlot occupied = none ↔ ∀ s, ¬ FreeSlot occupied s := by
  rw [findSlot_eq_map, Option.map_eq_none_iff, find?_finRange_eq_none_iff]
  simp only [decide_eq_false_iff_not]

/-- The number that is given to the slot is its own in the first byte, and six less in the
second. -/
theorem slotNumber_slotPosition (s : Fin Config.maxNumberSlots) :
    (slotNumber (slotPosition s).1 (slotPosition s).2).toNat = if s.val < 8 then s.val else s.val - 6 := by
  revert s
  decide

/-! ## The wait for the end of the frame -/

variable {build : Build} {n n' : Node}

/-- A pending timeout passes when the handler runs at its deadline or later, and is left alone
otherwise. -/
theorem tick_pending {timer : Fin Config.timeouts} {deadline : ℕ} (tick : Tick)
    (h : n.timeouts timer = { used := true, armed := true, passed := false, time := deadline }) :
    if tick.handler = true ∧ deadline ≤ tick.now then timeoutPassed (n.tick tick).timeouts timer = 1
    else (n.tick tick).timeouts timer = n.timeouts timer := by
  split
  · next hpass =>
    refine timeoutPassed_eq_one.mpr ⟨timer.isLt, ?_⟩
    simp [Node.tick, hpass.1, timeoutSignalHandler, h, hpass.2]
  · next hpass =>
    cases hhandler : tick.handler with
    | false => simp [Node.tick, hhandler]
    | true =>
      have hlate : ¬ deadline ≤ tick.now := fun hle => hpass ⟨hhandler, hle⟩
      simp [Node.tick, hhandler, timeoutSignalHandler, h, hlate]

/-- The wait ends once the handler has run at the end of the frame. -/
theorem framePoll_returns {timer : Fin Config.timeouts} {deadline : ℕ} {ticks : List Tick}
    (h : n.timeouts timer = { used := true, armed := true, passed := false, time := deadline })
    (hends : ∃ tick ∈ ticks, tick.handler = true ∧ deadline ≤ tick.now) :
    ∃ m, pollLoop .polling (framePoll timer) ticks n = .ok m := by
  induction ticks generalizing n with
  | nil =>
    obtain ⟨tick, htick, -⟩ := hends
    exact nomatch htick
  | cons tick ticks ih =>
    have htick := tick_pending tick h
    have hpoll : framePoll timer tick n =
        .ok (n.tick tick, decide (timeoutPassed (n.tick tick).timeouts timer ≠ 1)) := rfl
    rw [pollLoop, hpoll]
    by_cases hpassed : timeoutPassed (n.tick tick).timeouts timer = 1
    · rw [decide_eq_false (not_not_intro hpassed)]
      exact ⟨_, rfl⟩
    · rw [decide_eq_true hpassed]
      by_cases hnow : tick.handler = true ∧ deadline ≤ tick.now
      · rw [if_pos hnow] at htick
        exact absurd htick hpassed
      · rw [if_neg hnow] at htick
        obtain ⟨later, hlater, hend⟩ := hends
        rcases List.mem_cons.mp hlater with rfl | hlater
        · exact absurd hend hnow
        · exact ih (htick.trans h) ⟨later, hlater, hend⟩

/-- **The state ends with the frame**: it returns when the handler runs at the end of the frame, and
at once if no timer is free. -/
theorem executeTimeslotAndChannelSelection_returns (build : Build) (rand : ℕ) {ticks : List Tick}
    (hends : ∃ tick ∈ ticks, tick.handler = true ∧
      n.clock + Config.frameDuration.toNat ≤ tick.now) :
    ∃ n' ret, executeTimeslotAndChannelSelection build rand ticks n = .ok (n', ret) := by
  unfold executeTimeslotAndChannelSelection
  by_cases hfirst : n.isFirstNode = true
  · rw [if_pos hfirst]
    exact ⟨_, _, rfl⟩
  rw [if_neg hfirst]
  rcases timeoutSet_cases build.os n.clock n.timeouts Config.frameDuration.toNat with
    ⟨hset, -⟩ | ⟨i, hi, -, hset⟩
  · -- no entry is free, so the state returns an error
    have herror : (n.setTimeout build Config.frameDuration.toNat).2 = Config.timeoutSetError :=
      congrArg Prod.snd hset
    generalize n.setTimeout build Config.frameDuration.toNat = set at herror ⊢
    obtain ⟨m, timer⟩ := set
    dsimp only at herror ⊢
    rw [if_pos herror]
    exact ⟨_, _, rfl⟩
  · have htimer : (n.setTimeout build Config.frameDuration.toNat).2 = i := congrArg Prod.snd hset
    -- the timer that is set passes at the end of the frame, which one of the ticks reaches
    have hentry : (n.setTimeout build Config.frameDuration.toNat).1.timeouts i =
        { used := true
          armed := true
          passed := false
          time := n.clock + Config.frameDuration.toNat } := by
      show (timeoutSet build.os n.clock n.timeouts Config.frameDuration.toNat).1 i = _
      have htime : timespecAdd build.os n.clock Config.frameDuration.toNat =
          n.clock + Config.frameDuration.toNat := by
        have hshort : Config.frameDuration.toNat < 2 ^ 31 := by decide
        cases build.os with
        | linux => rfl
        | riot => rw [timespecAdd, if_pos hshort]
      rw [hset]
      show Function.update n.timeouts i _ i = _
      rw [Function.update_self, htime]
    generalize n.setTimeout build Config.frameDuration.toNat = set at htimer hentry ⊢
    obtain ⟨m, timer⟩ := set
    dsimp only at htimer hentry ⊢
    subst htimer
    rw [if_neg (by have := i.isLt; simp only [Config.timeouts, Config.timeoutSetError] at *; omega)]
    cases hfind : findSlot m.occupiedFrequenciesSlots with
    | none =>
      obtain ⟨m', hloop⟩ := framePoll_returns (n := mclmacSetNextMACState m .synchronization)
        hentry hends
      dsimp only
      rw [hloop]
      exact ⟨_, _, rfl⟩
    | some p =>
      dsimp only
      obtain ⟨m', hloop⟩ := framePoll_returns (n := takeSlot m (slotNumber p.1 p.2)
        (Fin.ofNat _ (rand % Config.maxNumberFreqs))) hentry hends
      unfold takeSlot slotNumber at hloop
      rw [hloop]
      exact ⟨_, _, rfl⟩

/-- The state succeeds exactly if a timer is free. -/
theorem executeTimeslotAndChannelSelection_success_iff {rand : ℕ} {ticks : List Tick}
    {ret : MacExecution} (hjoins : n.isFirstNode = false)
    (h : executeTimeslotAndChannelSelection build rand ticks n = .ok (n', ret)) :
    ret = .success ↔ ∃ i, (n.timeouts i).used = false := by
  have hset : (n.setTimeout build Config.frameDuration.toNat).2 ≠ Config.timeoutSetError ↔
      Config.frameDuration.toNat ≠ 0 ∧ ∃ i, (n.timeouts i).used = false := timeoutSet_ne_error_iff
  have hduration : Config.frameDuration.toNat ≠ 0 := by decide
  rw [and_iff_right hduration] at hset
  rw [← hset]
  unfold executeTimeslotAndChannelSelection at h
  rw [if_neg (by rw [hjoins]; exact Bool.false_ne_true)] at h
  generalize n.setTimeout build Config.frameDuration.toNat = set at h ⊢
  obtain ⟨m, timer⟩ := set
  dsimp only at h ⊢
  split at h
  · next herror =>
    cases h
    exact iff_of_false (by decide) (not_not_intro herror)
  · next hne =>
    obtain ⟨m', -, h⟩ := bind_eq_ok.mp h
    cases h
    exact iff_of_true rfl hne

/-! ## The slot that is taken -/

/-- The state has done its work: it has taken the least free slot and a channel and goes on, or it
has left both alone and goes back to listen, if no slot is free. -/
structure SelectsLeastFree (n n' : Node) (ret : MacExecution) : Prop where
  success : ret = .success
  free : ∀ s, IsLeast {t | FreeSlot n.occupiedFrequenciesSlots t} s →
    n'.mac.selectedSlot = UInt8.ofNat s ∧ (∃ k, n'.mac.transmitChannel = n.frequencies k) ∧
      n'.macState.nextState = .mediumAccess
  occupied : (∀ s, ¬ FreeSlot n.occupiedFrequenciesSlots s) →
    n'.mac.selectedSlot = n.mac.selectedSlot ∧ n'.mac.transmitChannel = n.mac.transmitChannel ∧
      n'.macState.nextState = .synchronization

/-- The number of the slot is right in the first byte only. -/
theorem slotNumber_slotPosition_iff (s : Fin Config.maxNumberSlots) :
    slotNumber (slotPosition s).1 (slotPosition s).2 = UInt8.ofNat s ↔ s.val < 8 := by
  have hs := s.isLt
  have hnumber := slotNumber_slotPosition s
  rw [← UInt8.toNat_inj, hnumber, UInt8.toNat_ofNat']
  simp only [Config.maxNumberSlots] at hs
  split <;> omega

/-- **The selected slot**: the state takes the least free slot, or goes back to listen without one,
exactly if a timer is free, and one of the first eight slots is unless all slots are occupied. -/
theorem slotSelection_leastFree_iff (build : Build) (rand : ℕ) (ticks : List Tick) (n : Node)
    (hjoins : n.isFirstNode = false)
    (hends : ∃ tick ∈ ticks, tick.handler = true ∧
      n.clock + Config.frameDuration.toNat ≤ tick.now) :
    ∃ n' ret, executeTimeslotAndChannelSelection build rand ticks n = .ok (n', ret) ∧
      (SelectsLeastFree n n' ret ↔ (∃ i, (n.timeouts i).used = false) ∧
        ((∃ s, FreeSlot n.occupiedFrequenciesSlots s) →
          ∃ s, s.val < 8 ∧ FreeSlot n.occupiedFrequenciesSlots s)) := by
  obtain ⟨n', ret, hexec⟩ := executeTimeslotAndChannelSelection_returns build rand hends
  refine ⟨n', ret, hexec, ?_⟩
  have htimer := executeTimeslotAndChannelSelection_success_iff hjoins hexec
  rcases executeTimeslotAndChannelSelection_cases hexec with ⟨hfirst, -⟩ | ⟨-, hret, -⟩ |
    ⟨-, hret, timeouts, clock, i, j, k, hfind, rfl⟩ | ⟨-, hret, hfind, timeouts, clock, rfl⟩
  · exact nomatch hfirst.symm.trans hjoins
  · constructor
    · intro h
      exact nomatch hret.symm.trans h.success
    · rintro ⟨hunused, -⟩
      exact nomatch hret.symm.trans (htimer.mpr hunused)
  · -- a slot is found: its number is right exactly if it lies in the first byte of the map
    obtain ⟨s, hleast, hposition⟩ := findSlot_eq_some_iff.mp hfind
    have hnumber := slotNumber_slotPosition_iff s
    rw [hposition] at hnumber
    constructor
    · intro h
      refine ⟨htimer.mp hret, fun _ => ⟨s, hnumber.mp ?_, hleast.1⟩⟩
      exact (h.free s hleast).1
    · rintro ⟨-, hlow⟩
      obtain ⟨t, ht, hfree⟩ := hlow ⟨s, hleast.1⟩
      have hs : s.val < 8 := lt_of_le_of_lt (Fin.le_def.mp (hleast.2 hfree)) ht
      refine ⟨hret, fun s' hleast' => ?_, fun hnone => absurd hleast.1 (hnone s)⟩
      rw [hleast'.unique hleast]
      exact ⟨hnumber.mpr hs, ⟨k, rfl⟩, rfl⟩
  · -- no slot is free, and the node goes back
    have hnone := findSlot_eq_none_iff.mp hfind
    constructor
    · intro _
      exact ⟨htimer.mp hret, fun ⟨s, hs⟩ => absurd hs (hnone s)⟩
    · intro _
      exact ⟨hret, fun s hleast => absurd hleast.1 (hnone s), fun _ => ⟨rfl, rfl, rfl⟩⟩

/-! ### Two slot maps -/

/-- A node that is to select its slot from the map. -/
def selectingNode (occupied : SlotMap) : Node :=
  { macState := ⟨.timeslotAndChannelSelection, .timeslotAndChannelSelection⟩
    frequencies := Config.frequencies
    occupiedFrequenciesSlots := occupied }

/-- With the first five slots occupied, the sixth one is taken. -/
theorem slotSelection_sixthSlot :
    ∃ n' ret, executeTimeslotAndChannelSelection ⟨.linux, true⟩ 3 [⟨1280000, true⟩]
        (selectingNode fun _ _ => 0xf8) = .ok (n', ret) ∧
      SelectsLeastFree (selectingNode fun _ _ => 0xf8) n' ret := by
  obtain ⟨n', ret, hexec, hiff⟩ := slotSelection_leastFree_iff ⟨.linux, true⟩ 3 [⟨1280000, true⟩]
    (selectingNode fun _ _ => 0xf8) rfl ⟨⟨1280000, true⟩, List.mem_singleton_self _, rfl, by decide⟩
  exact ⟨n', ret, hexec, hiff.mpr ⟨⟨0, rfl⟩, fun _ => ⟨5, by decide, by decide⟩⟩⟩

/-- With the first eight slots occupied, slot 2 is taken. -/
theorem slotSelection_secondByte :
    ∃ n', executeTimeslotAndChannelSelection ⟨.linux, true⟩ 3 [⟨1280000, true⟩]
        (selectingNode fun _ => ![0xff, 0]) = .ok (n', .success) ∧
      IsLeast {s | FreeSlot (fun _ => ![0xff, 0]) s} 8 ∧ n'.mac.selectedSlot = 2 ∧
      ¬ SelectsLeastFree (selectingNode fun _ => ![0xff, 0]) n' .success := by
  have hleast : IsLeast {s | FreeSlot (fun _ => ![0xff, 0]) s} 8 := by
    constructor
    · show FreeSlot (fun _ => ![0xff, 0]) 8
      decide
    · intro s hs
      have hs : FreeSlot (fun _ => ![0xff, 0]) s := hs
      revert s
      decide
  refine ⟨_, rfl, hleast, rfl, fun h => ?_⟩
  have hslot := (h.free 8 hleast).1
  exact absurd hslot (by decide)

end WmnIot
