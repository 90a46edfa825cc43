import WmnIot.PowerMode.MediumAccess

/-! # Slots, frames and network time

`STARTP` sets the counters of a node, and `PASSIVE` advances them: the slot is counted up to the
number of slots of a frame, and then the frame. No other state touches them, whatever it returns.

* **`Accounting`** — the counters after a number of executions of `PASSIVE`.
* **`Accounting.execute`** — what an execution of a power-mode state does to them.
* **`powerModeRun_accounting`** — the counters in every run of the machine from `STARTP`. -/

namespace WmnIot

open Runs

/-! ## The counters -/

/-- The counters of a node that executed `STARTP` in `n₀`, after `k` executions of `PASSIVE`. -/
structure Accounting (n₀ : Node) (k : ℕ) (n : Node) : Prop where
  slotsNumber : n.mac.frame.slotsNumber = n₀.nSlots
  currentSlot : n.mac.frame.currentSlot.toNat = k % n₀.nSlots.toNat
  currentFrame : n.mac.frame.currentFrame.toNat =
    (n₀.wakeupFrame.toNat + 1 + k / n₀.nSlots.toNat) % 2 ^ 32
  networkTime : n.networkTime.toNat = (n₀.networkTime.toNat + k) % 2 ^ 64

variable {build : Build} {n₀ n m : Node} {k : ℕ}

/-- Counting one more slot of frames of `slots` slots: the frame goes on, or the next one begins. -/
theorem succ_div_mod {slots : ℕ} (hslots : 0 < slots) (k : ℕ) :
    (k % slots + 1 = slots ∧ (k + 1) / slots = k / slots + 1 ∧ (k + 1) % slots = 0) ∨
      (k % slots + 1 < slots ∧ (k + 1) / slots = k / slots ∧ (k + 1) % slots = k % slots + 1) := by
  have hk := Nat.div_add_mod k slots
  have hlt := Nat.mod_lt k hslots
  by_cases hlast : k % slots + 1 = slots
  · refine .inl ⟨hlast, ?_⟩
    have hnext : k + 1 = 0 + slots * (k / slots + 1) := by
      rw [Nat.mul_add, Nat.mul_one]
      omega
    rw [hnext, Nat.add_mul_div_left _ _ hslots, Nat.add_mul_mod_self_left, Nat.zero_div,
      Nat.zero_add, Nat.zero_mod]
    exact ⟨rfl, rfl⟩
  · have hnext : k + 1 = k % slots + 1 + slots * (k / slots) := by omega
    have hlt' : k % slots + 1 < slots := by omega
    refine .inr ⟨hlt', ?_⟩
    rw [hnext, Nat.add_mul_div_left _ _ hslots, Nat.add_mul_mod_self_left, Nat.div_eq_of_lt hlt',
      Nat.mod_eq_of_lt hlt', Nat.zero_add]
    exact ⟨rfl, rfl⟩

theorem Accounting.of_schedule (h : Accounting n₀ k n) (hm : m.schedule = n.schedule) :
    Accounting n₀ k m where
  slotsNumber := (congrArg Schedule.slotsNumber hm).trans h.slotsNumber
  currentSlot := (congrArg (fun s => s.currentSlot.toNat) hm).trans h.currentSlot
  currentFrame := (congrArg (fun s => s.currentFrame.toNat) hm).trans h.currentFrame
  networkTime := (congrArg (fun s => s.networkTime.toNat) hm).trans h.networkTime

/-- An advance of the schedule counts one more slot. -/
theorem Accounting.advance (h : Accounting n₀ k n) (hslots : 0 < n₀.nSlots) {slotTimer : ℕ}
    {mode : PowerMode} (hm : m.schedule = { n.schedule.advance slotTimer with mode := mode }) :
    Accounting n₀ (k + 1) m := by
  obtain ⟨hnumber, hslot, hframe, htime⟩ := h
  have hpos : 0 < n₀.nSlots.toNat := UInt8.lt_iff_toNat_lt.mp hslots
  have hle := n₀.nSlots.toNat_lt
  have hlast : n.mac.frame.currentSlot + 1 = n.mac.frame.slotsNumber ↔
      k % n₀.nSlots.toNat + 1 = n₀.nSlots.toNat := by
    have hmod := Nat.mod_lt k hpos
    rw [hnumber, ← UInt8.toNat_inj, UInt8.toNat_add, hslot, UInt8.toNat_one]
    omega
  have htime' : (n.networkTime + 1).toNat = (n₀.networkTime.toNat + (k + 1)) % 2 ^ 64 := by
    rw [UInt64.toNat_add, htime, UInt64.toNat_one]
    omega
  have hslots_m := congrArg Schedule.slotsNumber hm
  have hslot_m := congrArg Schedule.currentSlot hm
  have hframe_m := congrArg Schedule.currentFrame hm
  have htime_m := congrArg Schedule.networkTime hm
  unfold Schedule.advance at hslots_m hslot_m hframe_m htime_m
  simp only [Node.schedule, hlast] at hslots_m hslot_m hframe_m htime_m
  -- the last slot of a frame starts the next one
  rcases succ_div_mod hpos k with ⟨hk, hdiv, hmod⟩ | ⟨hk, hdiv, hmod⟩
  · rw [if_pos hk] at hslots_m hslot_m hframe_m htime_m
    refine ⟨hslots_m.trans hnumber, ?_, ?_, ?_⟩
    · rw [hslot_m, hmod]
      rfl
    · rw [hframe_m, UInt32.toNat_add, hframe, UInt32.toNat_one, hdiv]
      omega
    · rw [htime_m, htime']
  · rw [if_neg (Nat.ne_of_lt hk)] at hslots_m hslot_m hframe_m htime_m
    refine ⟨hslots_m.trans hnumber, ?_, ?_, ?_⟩
    · rw [hslot_m, UInt8.toNat_add, hslot, UInt8.toNat_one, hmod]
      omega
    · rw [hframe_m, hframe, hdiv]
    · rw [htime_m, htime']

/-! ## The states -/

instance (mode : PowerMode) : Decidable (InSession mode) := inferInstanceAs (Decidable (_ ∨ _))

/-- **`STARTP`** sets the counters. -/
theorem accounting_startp {inp : PmInput} {ret : PmExecution}
    (hstate : n₀.powerMode.currentState = .startp)
    (h : mclmacExecutePowermodeState build inp n₀ = .ok (n, ret)) :
    0 < n₀.nSlots ∧ Accounting n₀ 0 n := by
  obtain ⟨_, hassert, h⟩ := bind_eq_ok.mp h
  have hslots : 0 < n₀.nSlots := by
    by_contra hzero
    rw [decide_eq_false hzero] at hassert
    cases hassert
  simp only [hstate] at h
  obtain ⟨m, hstart, h⟩ := bind_eq_ok.mp h
  obtain ⟨-, -, hstart⟩ := bind_eq_ok.mp hstart
  cases hstart
  cases h
  have hframe := (n₀.wakeupFrame + 1).toNat_lt
  refine ⟨hslots, rfl, ?_, ?_, ?_⟩
  · show (0 : UInt8).toNat = 0 % n₀.nSlots.toNat
    rw [Nat.zero_mod]
    rfl
  · show (n₀.wakeupFrame + 1).toNat = _
    rw [UInt32.toNat_add, UInt32.toNat_one, Nat.zero_div, Nat.add_zero]
  · show n₀.networkTime.toNat = _
    have htime := n₀.networkTime.toNat_lt
    rw [Nat.add_zero, Nat.mod_eq_of_lt htime]

/-- **An execution of a state after `STARTP`** counts a slot exactly if the state is `PASSIVE`,
whatever it returns. -/
theorem Accounting.execute (h : Accounting n₀ k n) (hslots : 0 < n₀.nSlots) {inp : PmInput}
    {ret : PmExecution} (hmode : InSession n.powerMode.currentState)
    (hexec : mclmacExecutePowermodeState build inp n = .ok (m, ret)) :
    Accounting n₀ (if n.powerMode.currentState = .passive then k + 1 else k) m := by
  obtain ⟨-, -, hexec⟩ := bind_eq_ok.mp hexec
  rcases hmode with hmode | hmode | hmode | hmode <;> simp only [hmode] at hexec ⊢
  · obtain ⟨m', hpassive, hexec⟩ := bind_eq_ok.mp hexec
    cases hexec
    rw [if_pos trivial]
    apply h.advance hslots
    exact executePassive_schedule hpassive
  · rw [if_neg (by decide)]
    exact h.of_schedule (executeActive_schedule hexec)
  · rw [if_neg (by decide)]
    exact h.of_schedule (executeTransmit_schedule hexec)
  · rw [if_neg (by decide)]
    exact h.of_schedule (executeReceive_schedule hexec)

/-! ## Runs -/

/-- A turn of the machine: its caller chooses the state that is executed next and notes what it
knows of a collision. -/
structure PmTurn where
  powerMode : RadioPowerMode
  record : CollisionRecord := {}
  input : PmInput := {}

/-- The node when the turn begins. -/
def PmTurn.begin (t : PmTurn) (n : Node) : Node :=
  { n with
    powerMode := t.powerMode
    mac.collisionDetected := t.record.detected
    mac.isInternalCollision := t.record.internal
    mac.collisionSlot := t.record.slot
    mac.collisionFrequency := t.record.frequency
    mac.destinationId := t.record.destinationId }

/-- One turn: a state after `STARTP` is executed and may return anything. -/
def pmTurn (build : Build) (t : PmTurn) (n : Node) : Option Node :=
  if InSession t.powerMode.currentState then
    (mclmacExecutePowermodeState build t.input (t.begin n)).toOption.map Prod.fst
  else none

/-- The executions of `PASSIVE` among the turns. -/
def passiveTurns (turns : List PmTurn) : ℕ :=
  turns.countP fun t => t.powerMode.currentState = .passive

theorem Accounting.turn (h : Accounting n₀ k n) (hslots : 0 < n₀.nSlots) {t : PmTurn}
    (hturn : pmTurn build t n = some m) :
    Accounting n₀ (if t.powerMode.currentState = .passive then k + 1 else k) m := by
  unfold pmTurn at hturn
  split at hturn
  · next hmode =>
    obtain ⟨⟨m', ret⟩, hexec, rfl⟩ := Option.map_eq_some_iff.mp hturn
    have hbegin : Accounting n₀ k (t.begin n) :=
      ⟨h.slotsNumber, h.currentSlot, h.currentFrame, h.networkTime⟩
    exact hbegin.execute hslots hmode (toOption_eq_some.mp hexec)
  · cases hturn

theorem Accounting.run (h : Accounting n₀ k n) (hslots : 0 < n₀.nSlots) {turns : List PmTurn}
    (hrun : turns.foldlM (fun s t => pmTurn build t s) n = some m) :
    Accounting n₀ (k + passiveTurns turns) m := by
  induction turns generalizing n k with
  | nil =>
    obtain rfl : n = m := Option.some.inj hrun
    exact h
  | cons t turns ih =>
    rw [List.foldlM_cons] at hrun
    obtain ⟨s, hturn, hrun⟩ := Option.bind_eq_some_iff.mp hrun
    have hcount : k + passiveTurns (t :: turns) =
        (if t.powerMode.currentState = .passive then k + 1 else k) + passiveTurns turns := by
      simp only [passiveTurns, List.countP_cons, decide_eq_true_eq]
      split <;> omega
    rw [hcount]
    exact ih (h.turn hslots hturn) hrun

/-- **A turn of the loop of `MEDIUM_ACCESS`** counts like a turn of the machine: noting a collision and
moving to the next state leave the counters alone. -/
theorem Accounting.session (h : Accounting n₀ k n) (hslots : 0 < n₀.nSlots) {inp : PmInput}
    (hturn : Session build inp n m) :
    Accounting n₀ (if n.powerMode.currentState = .passive then k + 1 else k) m := by
  cases hturn with
  | passive hmode hexec =>
    rw [if_pos hmode]
    obtain ⟨hnumber, hslot, hframe, htime⟩ := h.advance hslots (executePassive_schedule hexec)
    exact ⟨hnumber, hslot, hframe, htime⟩
  | active hmode hexec hnext =>
    rw [if_neg (by rw [hmode]; decide)]
    obtain ⟨hnumber, hslot, hframe, htime⟩ := h.of_schedule (executeActive_schedule hexec)
    exact ⟨hnumber, hslot, hframe, htime⟩
  | collision hmode hexec =>
    rw [if_neg (by rw [hmode]; decide)]
    obtain ⟨hnumber, hslot, hframe, htime⟩ := h.of_schedule (executeActive_schedule hexec)
    exact ⟨hnumber, hslot, hframe, htime⟩
  | transmit hmode hexec =>
    rw [if_neg (by rw [hmode]; decide)]
    obtain ⟨hnumber, hslot, hframe, htime⟩ := h.of_schedule (executeTransmit_schedule hexec)
    exact ⟨hnumber, hslot, hframe, htime⟩
  | receive hmode hexec =>
    rw [if_neg (by rw [hmode]; decide)]
    obtain ⟨hnumber, hslot, hframe, htime⟩ := h.of_schedule (executeReceive_schedule hexec)
    exact ⟨hnumber, hslot, hframe, htime⟩

/-- **Slots, frames and network time**: in every run of the machine from `STARTP`, the counters go
with the number of executions of `PASSIVE`, and the slot stays below the number of slots. -/
theorem powerModeRun_accounting (build : Build) (inp : PmInput) (turns : List PmTurn)
    (n₀ n m : Node) (ret : PmExecution) (hstate : n₀.powerMode.currentState = .startp)
    (hstart : mclmacExecutePowermodeState build inp n₀ = .ok (n, ret))
    (hrun : turns.foldlM (fun s t => pmTurn build t s) n = some m) :
    m.mac.frame.currentSlot.toNat = passiveTurns turns % n₀.nSlots.toNat ∧
      m.mac.frame.currentFrame.toNat =
        (n₀.wakeupFrame.toNat + 1 + passiveTurns turns / n₀.nSlots.toNat) % 2 ^ 32 ∧
      m.networkTime.toNat = (n₀.networkTime.toNat + passiveTurns turns) % 2 ^ 64 ∧
      m.mac.frame.currentSlot < n₀.nSlots := by
  obtain ⟨hslots, h₀⟩ := accounting_startp hstate hstart
  have h := h₀.run hslots hrun
  rw [Nat.zero_add] at h
  refine ⟨h.currentSlot, h.currentFrame, h.networkTime, ?_⟩
  rw [UInt8.lt_iff_toNat_lt, h.currentSlot]
  exact Nat.mod_lt _ (UInt8.lt_iff_toNat_lt.mp hslots)

/-! ### Two frames of three slots -/

/-- A node in a network with three slots a frame. -/
def threeSlotsNode : Node :=
  { nSlots := 3, nChannels := 8, wakeupFrame := 4, networkTime := 10, macQueueId := 1 }

/-- The slot timer passes in slot `k`. -/
def slotPasses (k : ℕ) : PmTurn where
  powerMode := ⟨.passive, .active⟩
  input := { passive := [{ tick := ⟨(k + 1) * 80000, true⟩ }] }

/-- A collision is reported in the slot. -/
def reportsCollision : PmTurn where
  powerMode := ⟨.transmit, .passive⟩
  record := { detected := true, internal := true }

/-- After four executions of `PASSIVE`, the node is in slot 1 of its second frame. -/
theorem powerModeRun_accounting_fourSlots :
    ∃ n m, mclmacExecutePowermodeState ⟨.linux, true⟩ {} threeSlotsNode = .ok (n, .success) ∧
      [slotPasses 0, slotPasses 1, reportsCollision, slotPasses 2, slotPasses 3].foldlM
        (fun s t => pmTurn ⟨.linux, true⟩ t s) n = some m ∧
      m.mac.frame.currentSlot.toNat = 1 ∧ m.mac.frame.currentFrame.toNat = 6 ∧
      m.networkTime.toNat = 14 := by
  have hrun : ([slotPasses 0, slotPasses 1, reportsCollision, slotPasses 2, slotPasses 3].foldlM
      (fun s t => pmTurn ⟨.linux, true⟩ t s)
      (setSlotTimer ⟨.linux, true⟩ (startSession threeSlotsNode))).isSome = true := by
    decide +kernel
  obtain ⟨m, hm⟩ := Option.isSome_iff_exists.mp hrun
  have h := powerModeRun_accounting ⟨.linux, true⟩ {} _ threeSlotsNode _ m .success rfl rfl hm
  exact ⟨_, m, rfl, hm, h.1, h.2.1, h.2.2.1⟩

end WmnIot
