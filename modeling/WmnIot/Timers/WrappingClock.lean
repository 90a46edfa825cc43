import WmnIot.Foundations.Runs
import WmnIot.Model.HardwareTimer

/-! # Timeouts on a clock that wraps around

On RIOT the deadlines of the timeouts are instants of a 32-bit clock, and whether one is reached is
read off a signed difference. As long as the handler runs in time that is exact, whatever the clock
starts at and however often it wraps around.

* **`Holding`**, **`Holds`** — the timeouts that are held, and a table with exact deadlines that
  shows them.
* **`riotStep`** — an event of a run: a call, or a run of the handler.
* **`wrappingClock_exact`** — every answer is that of the timeouts held. -/

namespace WmnIot

open Runs

/-! ## The timeouts that are held -/

/-- A timeout from the call that set it to the call that releases it: its id, the moment of its
deadline, and whether the handler has run since then at or after the deadline. -/
structure Holding where
  id : ℕ
  deadline : ℕ
  fired : Bool
  deriving DecidableEq, Repr

/-- The handler runs. -/
def Holding.handlerRun (now : ℕ) (h : Holding) : Holding :=
  { h with fired := h.fired || decide (h.deadline ≤ now) }

/-- A table with exact deadlines shows the timeouts that are held. -/
structure Holds (exact : Timeouts) (holdings : List Holding) : Prop where
  distinct : (holdings.map Holding.id).Nodup
  entry : ∀ h ∈ holdings, ∃ hlt : h.id < Config.timeouts, exact ⟨h.id, hlt⟩ =
    { used := true, armed := true, passed := h.fired, time := h.deadline }
  used : ∀ i, (exact i).used = true → ∃ h ∈ holdings, h.id = i

section Holdings

variable {exact : Timeouts} {holdings : List Holding}

/-- What a poll answers for a timeout that is held. -/
theorem Holds.timeoutPassed_of_mem (h : Holds exact holdings) {x : Holding} (hx : x ∈ holdings) :
    timeoutPassed exact x.id = if x.fired then 1 else 0 := by
  obtain ⟨hlt, hentry⟩ := h.entry x hx
  rw [timeoutPassed, dif_pos hlt, hentry]
  rfl

/-- What a poll answers for a timeout that is not held. -/
theorem Holds.timeoutPassed_of_not_mem (h : Holds exact holdings) {id : ℕ}
    (hid : ∀ x ∈ holdings, x.id ≠ id) : timeoutPassed exact id = 2 := by
  unfold timeoutPassed
  split
  · next hlt =>
    have hunused : (exact ⟨id, hlt⟩).used = false := by
      by_contra hused
      obtain ⟨x, hx, hxid⟩ := h.used ⟨id, hlt⟩ (by simpa using hused)
      exact hid x hx hxid
    simp [TimeoutEntry.answer, hunused]
  · rfl

/-- Setting a timeout that can be set: it is held from now on. -/
theorem Holds.set (h : Holds exact holdings) {os : OS} {now seconds : ℕ}
    (hset : (timeoutSet os now exact seconds).2 ≠ Config.timeoutSetError) :
    Holds (timeoutSet os now exact seconds).1 (holdings ++
      [{ id := (timeoutSet os now exact seconds).2
         deadline := timespecAdd os now seconds
         fired := false }]) := by
  obtain ⟨hlt, hentry⟩ := timeoutSet_entry hset
  have hkept (x : Holding) (hx : x ∈ holdings) : ∃ hlt : x.id < Config.timeouts,
      (timeoutSet os now exact seconds).1 ⟨x.id, hlt⟩ =
        { used := true, armed := true, passed := x.fired, time := x.deadline } := by
    obtain ⟨hxlt, hx⟩ := h.entry x hx
    exact ⟨hxlt, (timeoutSet_of_used (by rw [hx])).trans hx⟩
  refine ⟨?_, ?_, ?_⟩
  · rw [List.map_append, List.nodup_append]
    refine ⟨h.distinct, List.nodup_singleton _, ?_⟩
    intro id hid new hnew heq
    obtain ⟨x, hx, rfl⟩ := List.mem_map.mp hid
    obtain rfl := List.mem_singleton.mp hnew
    obtain ⟨hxlt, hxentry⟩ := h.entry x hx
    exact timeoutSet_ne_of_live ⟨hxlt, by rw [hxentry]; exact ⟨rfl, rfl⟩⟩ heq.symm
  · intro x hx
    rcases List.mem_append.mp hx with hx | hx
    · exact hkept x hx
    · rw [List.mem_singleton.mp hx]
      exact ⟨hlt, hentry⟩
  · intro i hi
    by_cases hnew : (i : ℕ) = (timeoutSet os now exact seconds).2
    · exact ⟨_, List.mem_append_right _ (List.mem_singleton.mpr rfl), hnew.symm⟩
    · have hold : (exact i).used = true := by
        obtain ⟨heq, -⟩ | ⟨j, -, -, heq⟩ := timeoutSet_cases os now exact seconds
        · rwa [heq] at hi
        · rw [heq] at hi hnew
          dsimp only at hi hnew
          rwa [Function.update_of_ne (fun hij => hnew (congrArg Fin.val hij))] at hi
      obtain ⟨x, hx, hid⟩ := h.used i hold
      exact ⟨x, List.mem_append_left _ hx, hid⟩

/-- Releasing a timeout: it is no longer held. -/
theorem Holds.unset (h : Holds exact holdings) (timeout : ℕ) :
    Holds (timeoutUnset exact timeout) (holdings.filter fun x => x.id ≠ timeout) := by
  refine ⟨(List.filter_sublist.map _).nodup h.distinct, ?_, ?_⟩
  · intro x hx
    obtain ⟨hx, hid⟩ := List.mem_filter.mp hx
    obtain ⟨hlt, hentry⟩ := h.entry x hx
    exact ⟨hlt, (timeoutUnset_of_ne (i := ⟨x.id, hlt⟩) (by simpa using hid)).trans hentry⟩
  · intro i hi
    by_cases heq : (i : ℕ) = timeout
    · exfalso
      subst heq
      simp [timeoutUnset, i.isLt] at hi
    · rw [timeoutUnset_of_ne heq] at hi
      obtain ⟨x, hx, hid⟩ := h.used i hi
      exact ⟨x, List.mem_filter.mpr ⟨hx, by simpa [hid] using heq⟩, hid⟩

/-- A run of the handler. -/
theorem Holds.handler (h : Holds exact holdings) (now : ℕ) :
    Holds (timeoutSignalHandler now exact) (holdings.map (Holding.handlerRun now)) := by
  have hused (i : Fin Config.timeouts) : (timeoutSignalHandler now exact i).used = (exact i).used := by
    unfold timeoutSignalHandler
    split <;> rfl
  refine ⟨?_, ?_, ?_⟩
  · rw [List.map_map]
    exact h.distinct
  · intro y hy
    obtain ⟨x, hx, rfl⟩ := List.mem_map.mp hy
    obtain ⟨hlt, hentry⟩ := h.entry x hx
    refine ⟨hlt, ?_⟩
    show timeoutSignalHandler now exact ⟨x.id, hlt⟩ = _
    rw [timeoutSignalHandler, hentry]
    cases hfired : x.fired <;> by_cases hdue : x.deadline ≤ now <;>
      simp [Holding.handlerRun, hfired, hdue]
  · intro i hi
    rw [hused] at hi
    obtain ⟨x, hx, hid⟩ := h.used i hi
    exact ⟨_, List.mem_map_of_mem hx, hid⟩

end Holdings

/-! ## Runs -/

/-- The calls of the clients of the timeouts, and the runs of the handler. -/
inductive TimeoutCall where
  | set (seconds : UInt32)
  | unset (timeout : UInt32)
  | passed (timeout : UInt32)
  | handler
  deriving DecidableEq, Repr

/-- An event of a run, so much later than the one before it. -/
structure TimeoutEvent where
  elapsed : ℕ
  call : TimeoutCall

/-- A state of a run: the moment, counted without wrapping around, the table, and the timeouts that
are held. -/
structure RiotTimeouts where
  now : ℕ
  table : TimerTable UInt32
  holdings : List Holding

/-- `ztimer_now`. -/
def ztimerNow (now : ℕ) : UInt32 :=
  UInt32.ofNat now

/-- `timeout_init`, at any moment. -/
def riotInit (start : ℕ) : RiotTimeouts where
  now := start
  table := { entries := fun _ => ⟨false, false, false, 0⟩, timer := none }
  holdings := []

/-- An event of a run. -/
def riotStep (e : TimeoutEvent) (s : RiotTimeouts) : RiotTimeouts :=
  let now := s.now + e.elapsed
  match e.call with
  | .set seconds =>
    let (table, timeout) := riotTime.timeoutSet (ztimerNow now) s.table seconds
    { now := now
      table := table
      holdings :=
        if timeout = Config.timeoutSetError then s.holdings
        else s.holdings ++ [{ id := timeout, deadline := now + seconds.toNat, fired := false }] }
  | .unset timeout =>
    { now := now
      table := (s.table.timeoutUnset timeout.toNat).1
      holdings := s.holdings.filter fun x => x.id ≠ timeout.toNat }
  | .passed _ => { s with now := now }
  | .handler =>
    { now := now
      table := riotTime.timeoutSignalHandler (ztimerNow now) s.table
      holdings := s.holdings.map (Holding.handlerRun now) }

/-- The durations are positive and below `2 ^ 31`, and the handler runs earlier than `2 ^ 31` ticks
after the deadlines of the timeouts that are held. -/
def InTime : TimeoutEvent → RiotTimeouts → Prop
  | ⟨_, .set seconds⟩, _ => 0 < seconds.toNat ∧ seconds.toNat < 2 ^ 31
  | ⟨elapsed, .handler⟩, s => ∀ x ∈ s.holdings, s.now + elapsed < x.deadline + 2 ^ 31
  | ⟨_, .unset _⟩, _ => True
  | ⟨_, .passed _⟩, _ => True

instance (e : TimeoutEvent) (s : RiotTimeouts) : Decidable (InTime e s) :=
  match e with
  | ⟨_, .set _⟩ => inferInstanceAs (Decidable (_ ∧ _))
  | ⟨_, .handler⟩ => inferInstanceAs (Decidable (∀ x ∈ s.holdings, _))
  | ⟨_, .unset _⟩ => inferInstanceAs (Decidable True)
  | ⟨_, .passed _⟩ => inferInstanceAs (Decidable True)

/-- The timeouts that are held have different ids, and each poll answers for them: 1 if the handler
has run at or after the deadline, 0 if it has not, and 2 if the timeout is not held. -/
structure AnswersExactly (s : RiotTimeouts) : Prop where
  distinct : (s.holdings.map Holding.id).Nodup
  passed : ∀ timeout : UInt32, s.table.timeoutPassed timeout.toNat = 1 ↔
    ∃ x ∈ s.holdings, x.id = timeout.toNat ∧ x.fired = true
  pending : ∀ timeout : UInt32, s.table.timeoutPassed timeout.toNat = 0 ↔
    ∃ x ∈ s.holdings, x.id = timeout.toNat ∧ x.fired = false
  none : ∀ timeout : UInt32, s.table.timeoutPassed timeout.toNat = 2 ↔
    ∀ x ∈ s.holdings, x.id ≠ timeout.toNat

/-- What a call for one timeout does to the answers for the others, and to the table if it fails. -/
def LeavesOthers (e : TimeoutEvent) (s : RiotTimeouts) : Prop :=
  let now := ztimerNow (s.now + e.elapsed)
  match e.call with
  | .set seconds =>
    ((riotTime.timeoutSet now s.table seconds).2 = Config.timeoutSetError →
        (riotStep e s).table = s.table) ∧
      ∀ timeout : UInt32, timeout.toNat ≠ (riotTime.timeoutSet now s.table seconds).2 →
        (riotStep e s).table.timeoutPassed timeout.toNat = s.table.timeoutPassed timeout.toNat
  | .unset timeout => ∀ other : UInt32, other ≠ timeout →
    (riotStep e s).table.timeoutPassed other.toNat = s.table.timeoutPassed other.toNat
  | .passed _ => (riotStep e s).table = s.table
  | .handler => True

/-! ## Signed differences -/

/-- The signed difference of two instants less than `2 ^ 31` apart is that of the moments. -/
theorem toInt_diff {deadline now : ℕ} (hsoon : deadline < now + 2 ^ 31)
    (hlate : now < deadline + 2 ^ 31) :
    riotTime.timespecDiff (ztimerNow deadline) (ztimerNow now) = (deadline : ℤ) - now := by
  have hsize : Int32.size = 2 ^ 32 := rfl
  show (UInt32.ofNat deadline - UInt32.ofNat now).toInt32.toInt = _
  rw [UInt32.toInt32_sub, Int32.toInt_sub, UInt32.toInt32_ofNat', UInt32.toInt32_ofNat',
    Int32.toInt_ofNat', Int32.toInt_ofNat', hsize, Int.bmod_sub_bmod, Int.sub_bmod_bmod]
  apply Int.bmod_eq_of_le <;> omega

/-- A duration below `2 ^ 31` is added as it is. -/
theorem timespecAdd_ztimerNow {seconds : UInt32} (hpos : 0 < seconds.toNat)
    (hlt : seconds.toNat < 2 ^ 31) (now : ℕ) :
    riotTime.timespecAdd (ztimerNow now) seconds = ztimerNow (now + seconds.toNat) := by
  have hsigned := Int32.toInt_ofNat_of_lt hlt
  rw [← UInt32.toInt32_ofNat', UInt32.ofNat_toNat] at hsigned
  have hpositive : 0 < seconds.toInt32 := by
    rw [Int32.lt_iff_toInt_lt, hsigned]
    exact Int.natCast_pos.mpr hpos
  show (if 0 < seconds.toInt32 then ztimerNow now + seconds else ztimerNow now) = _
  rw [if_pos hpositive, ztimerNow, ztimerNow, UInt32.ofNat_add, UInt32.ofNat_toNat]

/-! ## The invariant -/

/-- The table shows the timeouts that are held, none of which is further ahead than `2 ^ 31`. -/
def ShowsHoldings (s : RiotTimeouts) : Prop :=
  ∃ exact, Simulates (fun instant deadline => instant = ztimerNow deadline) s.table.entries exact ∧
    Holds exact s.holdings ∧ ∀ x ∈ s.holdings, x.deadline < s.now + 2 ^ 31

variable {s : RiotTimeouts} {e : TimeoutEvent}

theorem showsHoldings_init (start : ℕ) : ShowsHoldings (riotInit start) :=
  ⟨fun _ => {}, fun _ => ⟨rfl, rfl, rfl, nofun⟩, ⟨List.nodup_nil, nofun, nofun⟩, nofun⟩

/-- **An event** of a run. -/
theorem ShowsHoldings.step (h : ShowsHoldings s) (htime : InTime e s) :
    ShowsHoldings (riotStep e s) := by
  obtain ⟨exact, hsim, hholds, hahead⟩ := h
  obtain ⟨elapsed, call⟩ := e
  cases call with
  | set seconds =>
    obtain ⟨hpos, hlt⟩ := htime
    have hadd : timespecAdd .riot (s.now + elapsed) seconds.toNat =
        s.now + elapsed + seconds.toNat := if_pos hlt
    have hpositive : riotTime.isPositive seconds = decide (seconds.toNat ≠ 0) := by
      rw [decide_eq_true (Nat.pos_iff_ne_zero.mp hpos)]
      exact decide_eq_true (UInt32.lt_iff_toNat_lt.mpr hpos)
    have htime : riotTime.timespecAdd (ztimerNow (s.now + elapsed)) seconds =
        ztimerNow (timespecAdd .riot (s.now + elapsed) seconds.toNat) := by
      rw [hadd]
      exact timespecAdd_ztimerNow hpos hlt _
    -- the 32-bit table arms the same entry as the exact one, under the same id
    obtain ⟨hsim', hid⟩ := hsim.timeoutSet hpositive htime
    refine ⟨_, hsim', ?_, ?_⟩
    · simp only [riotStep, hid]
      split
      · next herror =>
        obtain ⟨heq, -⟩ | ⟨i, -, -, heq⟩ :=
          timeoutSet_cases .riot (s.now + elapsed) exact seconds.toNat
        · rw [heq]
          exact hholds
        · rw [heq] at herror
          exact absurd i.isLt (by rw [show (i : ℕ) = _ from herror]; decide)
      · next hset =>
        rw [← hadd]
        exact hholds.set hset
    · intro x hx
      simp only [riotStep] at hx ⊢
      split at hx
      · exact (hahead x hx).trans_le (by omega)
      · rcases List.mem_append.mp hx with hx | hx
        · exact (hahead x hx).trans_le (by omega)
        · rw [List.mem_singleton.mp hx]
          exact Nat.add_lt_add_left hlt _
  | unset timeout =>
    refine ⟨_, hsim.timeoutUnset timeout.toNat, hholds.unset timeout.toNat, ?_⟩
    intro x hx
    have hsoon := hahead x (List.mem_filter.mp hx).1
    exact hsoon.trans_le (Nat.add_le_add_right (Nat.le_add_right _ _) _)
  | passed timeout =>
    refine ⟨exact, hsim, hholds, fun x hx => ?_⟩
    exact (hahead x hx).trans_le (Nat.add_le_add_right (Nat.le_add_right _ _) _)
  | handler =>
    refine ⟨_, hsim.timeoutSignalHandler ?_, hholds.handler (s.now + elapsed), ?_⟩
    · -- a pending entry is held, so it is near enough for the signed difference to be exact
      intro i hpending
      obtain ⟨hused, -, -, hinstant⟩ := hsim i
      have hheld : (exact i).used = true := by
        rw [← hused]
        simp only [TimerEntry.pending, Bool.and_eq_true] at hpending
        exact hpending.1.1
      obtain ⟨x, hx, hid⟩ := hholds.used i hheld
      obtain ⟨hlt, hentry⟩ := hholds.entry x hx
      have hdeadline : (exact i).time = x.deadline := by
        rw [show i = ⟨x.id, hlt⟩ from Fin.ext hid.symm, hentry]
      have hsoon := hahead x hx
      have hlate := htime x hx
      rw [hinstant hpending, hdeadline, toInt_diff (by omega) hlate]
      omega
    · intro y hy
      obtain ⟨x, hx, rfl⟩ := List.mem_map.mp hy
      exact (hahead x hx).trans_le (Nat.add_le_add_right (Nat.le_add_right _ _) _)

/-- What the table shows it answers. -/
theorem ShowsHoldings.answersExactly (h : ShowsHoldings s) : AnswersExactly s := by
  obtain ⟨exact, hsim, hholds, -⟩ := h
  have hcases (id : ℕ) :
      (∃ x ∈ s.holdings, x.id = id ∧ s.table.timeoutPassed id = if x.fired then 1 else 0) ∨
        ((∀ x ∈ s.holdings, x.id ≠ id) ∧ s.table.timeoutPassed id = 2) := by
    rw [hsim.timeoutPassed]
    by_cases hheld : ∃ x ∈ s.holdings, x.id = id
    · obtain ⟨x, hx, rfl⟩ := hheld
      exact .inl ⟨x, hx, rfl, hholds.timeoutPassed_of_mem hx⟩
    · have hnone : ∀ x ∈ s.holdings, x.id ≠ id := fun x hx hid => hheld ⟨x, hx, hid⟩
      exact .inr ⟨hnone, hholds.timeoutPassed_of_not_mem hnone⟩
  have hmem (x : Holding) (hx : x ∈ s.holdings) :
      s.table.timeoutPassed x.id = if x.fired then 1 else 0 := by
    rw [hsim.timeoutPassed]
    exact hholds.timeoutPassed_of_mem hx
  refine ⟨hholds.distinct, fun timeout => ⟨fun hanswer => ?_, ?_⟩,
    fun timeout => ⟨fun hanswer => ?_, ?_⟩, fun timeout => ⟨fun hanswer => ?_, ?_⟩⟩
  · obtain ⟨x, hx, hid, heq⟩ | ⟨-, heq⟩ := hcases timeout.toNat
    · cases hfired : x.fired with
      | true => exact ⟨x, hx, hid, hfired⟩
      | false => simp [hanswer, hfired] at heq
    · simp [hanswer] at heq
  · rintro ⟨x, hx, hid, hfired⟩
    rw [← hid, hmem x hx, if_pos hfired]
  · obtain ⟨x, hx, hid, heq⟩ | ⟨-, heq⟩ := hcases timeout.toNat
    · cases hfired : x.fired with
      | true => simp [hanswer, hfired] at heq
      | false => exact ⟨x, hx, hid, hfired⟩
    · simp [hanswer] at heq
  · rintro ⟨x, hx, hid, hfired⟩
    rw [← hid, hmem x hx, hfired]
    rfl
  · obtain ⟨x, -, -, heq⟩ | ⟨hnone, -⟩ := hcases timeout.toNat
    · cases hfired : x.fired <;> simp [hanswer, hfired] at heq
    · exact hnone
  · intro hnone
    obtain ⟨x, hx, hid, -⟩ | ⟨-, heq⟩ := hcases timeout.toNat
    · exact absurd hid (hnone x hx)
    · exact heq

/-- A call leaves the other timeouts alone, in any state. -/
theorem leavesOthers (e : TimeoutEvent) (s : RiotTimeouts) : LeavesOthers e s := by
  obtain ⟨elapsed, call⟩ := e
  cases call with
  | set seconds =>
    obtain ⟨heq, -⟩ | ⟨i, -, -, heq⟩ :=
      riotTime.timeoutSet_cases (ztimerNow (s.now + elapsed)) s.table seconds
    · simp only [LeavesOthers, riotStep, heq]
      exact ⟨fun _ => trivial, fun _ _ => trivial⟩
    · simp only [LeavesOthers, riotStep, heq]
      refine ⟨fun herror => ?_, fun timeout hother => ?_⟩
      · exact absurd i.isLt (by rw [show (i : ℕ) = _ from herror]; decide)
      · unfold TimerTable.timeoutPassed
        split
        · next hlt =>
          dsimp only
          rw [Function.update_of_ne fun hi => hother (congrArg Fin.val hi)]
        · rfl
  | unset timeout =>
    intro other hother
    have hne : other.toNat ≠ timeout.toNat := fun heq => hother (UInt32.toNat_inj.mp heq)
    simp only [riotStep]
    unfold TimerTable.timeoutUnset TimerTable.timeoutPassed
    split
    · next hlt =>
      split
      · next hlt' =>
        have hentry : (⟨other.toNat, hlt⟩ : Fin Config.timeouts) ≠ ⟨timeout.toNat, hlt'⟩ := by
          rw [Ne, Fin.mk.injEq]
          exact hne
        dsimp only
        rw [Function.update_of_ne hentry]
      · rfl
    · rfl
  | passed timeout => rfl
  | handler => trivial

/-- **Timeouts are exact** across the wraps of the clock: after any events in time, whatever the
clock starts at, the timeouts held have different ids, every poll answers for them, and no call for
one changes the answer for another. -/
theorem wrappingClock_exact (start : ℕ) (events : List TimeoutEvent)
    (h : Along riotStep InTime events (riotInit start)) :
    AnswersExactly (events.foldl (fun s e => riotStep e s) (riotInit start)) ∧
      ∀ e, LeavesOthers e (events.foldl (fun s e => riotStep e s) (riotInit start)) := by
  have hshows := h.inv ShowsHoldings (fun _ _ hs hi => hs.step hi) (showsHoldings_init start)
  exact ⟨hshows.answersExactly, fun e => leavesOthers e _⟩

/-- A clock that wraps around between a timeout and its deadline. -/
theorem wrappingClock_exact_wrap :
    AnswersExactly ([⟨0, .set 10⟩, ⟨5, .handler⟩, ⟨6, .handler⟩].foldl (fun s e => riotStep e s)
      (riotInit (2 ^ 32 - 1))) ∧
      ∀ e, LeavesOthers e ([⟨0, .set 10⟩, ⟨5, .handler⟩, ⟨6, .handler⟩].foldl
        (fun s e => riotStep e s) (riotInit (2 ^ 32 - 1))) :=
  wrappingClock_exact (2 ^ 32 - 1) [⟨0, .set 10⟩, ⟨5, .handler⟩, ⟨6, .handler⟩]
    ⟨by decide +kernel, by decide +kernel, by decide +kernel, trivial⟩

end WmnIot
