import WmnIot.Model.Timeouts

/-! # The hardware timer under the timeouts

Both builds of `timeouts.c` keep the table of timeouts next to one hardware timer, which calls the
handler once when it expires. Their code is the same up to the clock: Linux counts in seconds and
nanoseconds, taken here as exact nanoseconds, and RIOT in the microseconds of a 32-bit clock that
wraps around.

* **`TimeBase`**, **`linuxTime`**, **`riotTime`** — what depends on the clock.
* **`TimeBase.timeoutSet`**, **`TimeBase.timeoutSignalHandler`** — the functions of `timeouts.c`.
* **`TimeBase.soonest_spec`**, **`TimeBase.handlerLoop_entries`**, **`TimeBase.handlerLoop_next`** —
  their loops.
* **`Simulates`** — a table of this module behaves as one of exact deadlines. -/

namespace WmnIot

/-- An entry of the table: `TIMEOUT_USED`, `TIMEOUT_ARMED`, `TIMEOUT_PASSED` and the deadline. -/
structure TimerEntry (τ : Type) where
  used : Bool
  armed : Bool
  passed : Bool
  time : τ

/-- The flags of a timeout that is used and armed, but not passed yet. -/
def TimerEntry.pending {τ : Type} (e : TimerEntry τ) : Bool :=
  e.used && e.armed && !e.passed

/-- The static `timeouts`: the table, and the instant the one-shot timer is armed for. -/
structure TimerTable (τ : Type) where
  entries : Fin Config.timeouts → TimerEntry τ
  timer : Option τ

/-- What `timeouts.c` does with the instants `τ` and the durations `δ` of a build. -/
structure TimeBase (τ δ : Type) where
  /-- Not `seconds <= 0.0`. -/
  isPositive : δ → Bool
  timespecAdd : τ → δ → τ
  timespecDiff : τ → τ → ℤ
  /-- `next = seconds`. -/
  next : δ → ℤ
  /-- The value of `next` with which the handler starts. -/
  noNext : ℤ
  /-- How `timeout_set` arms the timer at an instant. -/
  setTimer : τ → ℤ → Option τ
  /-- How the handler leaves the timer. -/
  resetTimer : Option τ → τ → ℤ → Option τ

/-- `timespec_set`. -/
def timespecSet (seconds : ℤ) : ℤ :=
  if 0 < seconds then seconds else 0

/-- `timer_settime` of a one-shot timer: zero disarms it. -/
def timerSettime (now : ℕ) (when : ℤ) : Option ℕ :=
  if when = 0 then none else some (now + when.toNat)

/-- The clock of the Linux build. -/
def linuxTime : TimeBase ℕ ℤ where
  isPositive seconds := decide (0 < seconds)
  timespecAdd now seconds := if 0 < seconds then now + seconds.toNat else now
  timespecDiff after before := (after : ℤ) - before
  next seconds := seconds
  noNext := -1
  setTimer := timerSettime
  resetTimer _ := timerSettime

/-- `ztimer_set` at an instant: the timer expires so much later. -/
def ztimerSet (now : UInt32) (when : ℤ) : Option UInt32 :=
  some (now + UInt32.ofInt when)

/-- The clock of the RIOT build. Durations are read as signed numbers, and so are the differences
of instants. -/
def riotTime : TimeBase UInt32 UInt32 where
  isPositive seconds := decide (0 < seconds)
  timespecAdd now seconds := if 0 < seconds.toInt32 then now + seconds else now
  timespecDiff after before := (after - before).toInt32.toInt
  next seconds := seconds.toInt32.toInt
  noNext := 0
  setTimer := ztimerSet
  resetTimer timer now when := if when ≤ 0 then timer else ztimerSet now when

section Table

variable {τ δ : Type}

/-- What `timeout_passed` and `timeout_unset` answer for the flags of an entry. -/
def TimerEntry.answer (e : TimerEntry τ) : ℕ :=
  if !e.used then 2 else if !e.armed then 2 else if e.passed then 1 else 0

/-- `timeout_passed`. -/
def TimerTable.timeoutPassed (t : TimerTable τ) (timeout : ℕ) : ℕ :=
  if h : timeout < Config.timeouts then (t.entries ⟨timeout, h⟩).answer else 2

/-- `timeout_unset`: it clears all flags but `TIMEOUT_PASSED`, and answers for what they were. -/
def TimerTable.timeoutUnset (t : TimerTable τ) (timeout : ℕ) : TimerTable τ × ℕ :=
  if h : timeout < Config.timeouts then
    let e := t.entries ⟨timeout, h⟩
    ({ t with
        entries := Function.update t.entries ⟨timeout, h⟩ { e with used := false, armed := false } },
      e.answer)
  else (t, 2)

/-- The loop that finds an unused timeout: it sets `TIMEOUT_USED` in every entry it looks at. -/
def claimTimeout (entries : Fin Config.timeouts → TimerEntry τ) :
    List (Fin Config.timeouts) →
      (Fin Config.timeouts → TimerEntry τ) × Option (Fin Config.timeouts)
  | [] => (entries, none)
  | i :: is =>
    let claimed := Function.update entries i { entries i with used := true }
    if !(entries i).used then (claimed, some i) else claimTimeout claimed is

namespace TimeBase

/-- One turn of the loop that looks for the soonest timeout. -/
def soonestStep (b : TimeBase τ δ) (now : τ) (entries : Fin Config.timeouts → TimerEntry τ)
    (next : ℤ) (i : Fin Config.timeouts) : ℤ :=
  if (entries i).pending then
    let secs := b.timespecDiff (entries i).time now
    if 0 ≤ secs ∧ secs < next then secs else next
  else next

/-- `timeout_set`. -/
def timeoutSet (b : TimeBase τ δ) (now : τ) (t : TimerTable τ) (seconds : δ) : TimerTable τ × ℕ :=
  if !b.isPositive seconds then (t, Config.timeoutSetError)
  else
    match claimTimeout t.entries (List.finRange Config.timeouts) with
    | (entries, none) => ({ t with entries := entries }, Config.timeoutSetError)
    | (entries, some i) =>
      let entries := Function.update entries i
        { entries i with armed := true, passed := false, time := b.timespecAdd now seconds }
      let next := (List.finRange Config.timeouts).foldl (b.soonestStep now entries) (b.next seconds)
      ({ entries := entries, timer := b.setTimer now (timespecSet next) }, i)

/-- One turn of the loop of the handler, on the table and `next`. -/
def handlerStep (b : TimeBase τ δ) (now : τ) (s : (Fin Config.timeouts → TimerEntry τ) × ℤ)
    (i : Fin Config.timeouts) : (Fin Config.timeouts → TimerEntry τ) × ℤ :=
  if (s.1 i).pending then
    let seconds := b.timespecDiff (s.1 i).time now
    if seconds ≤ 0 then (Function.update s.1 i { s.1 i with passed := true }, s.2)
    else if s.2 ≤ 0 ∨ seconds < s.2 then (s.1, seconds)
    else s
  else s

/-- `timeout_signal_handler`. -/
def timeoutSignalHandler (b : TimeBase τ δ) (now : τ) (t : TimerTable τ) : TimerTable τ :=
  let (entries, next) :=
    (List.finRange Config.timeouts).foldl (b.handlerStep now) (t.entries, b.noNext)
  { entries := entries, timer := b.resetTimer t.timer now (timespecSet next) }

end TimeBase

/-- The first entry that is not used. -/
def unusedEntry (entries : Fin Config.timeouts → TimerEntry τ) : Option (Fin Config.timeouts) :=
  (List.finRange Config.timeouts).find? fun i => !(entries i).used

/-! ## The loops -/

/-- The search sets a flag in the entry it finds, and else changes nothing. -/
theorem claimTimeout_eq (entries : Fin Config.timeouts → TimerEntry τ)
    (is : List (Fin Config.timeouts)) :
    claimTimeout entries is =
      match is.find? fun i => !(entries i).used with
      | none => (entries, none)
      | some i => (Function.update entries i { entries i with used := true }, some i) := by
  induction is with
  | nil => rfl
  | cons i is ih =>
    rw [claimTimeout, List.find?_cons]
    cases hused : (entries i).used with
    | false => simp
    | true =>
      have hsame : Function.update entries i { entries i with used := true } = entries := by
        rw [← hused]
        exact Function.update_eq_self i entries
      simp only [Bool.not_true, Bool.false_eq_true, if_false]
      rw [hsame, ih]

namespace TimeBase

variable (b : TimeBase τ δ) (now : τ)

/-- What `timeout_set` does: it fails and changes nothing, or arms the first unused entry. -/
theorem timeoutSet_cases (t : TimerTable τ) (seconds : δ) :
    (b.timeoutSet now t seconds = (t, Config.timeoutSetError) ∧
        (b.isPositive seconds = false ∨ unusedEntry t.entries = none)) ∨
      ∃ i, unusedEntry t.entries = some i ∧ b.isPositive seconds = true ∧
        let entries := Function.update t.entries i
          { used := true, armed := true, passed := false, time := b.timespecAdd now seconds }
        b.timeoutSet now t seconds =
          ({ entries := entries
             timer := b.setTimer now (timespecSet
              ((List.finRange Config.timeouts).foldl (b.soonestStep now entries)
                (b.next seconds))) }, i.val) := by
  unfold timeoutSet
  cases hpositive : b.isPositive seconds with
  | false => exact .inl ⟨rfl, .inl rfl⟩
  | true =>
    rw [claimTimeout_eq]
    cases hunused : (List.finRange Config.timeouts).find? fun i => !(t.entries i).used with
    | none => exact .inl ⟨rfl, .inr hunused⟩
    | some i =>
      refine .inr ⟨i, hunused, rfl, ?_⟩
      simp only [Bool.not_true, Bool.false_eq_true, if_false, Function.update_self,
        Function.update_idem]

/-- **The soonest timeout**: the least of the first value and the differences of the pending entries
that are not negative. -/
theorem soonest_spec (entries : Fin Config.timeouts → TimerEntry τ) (is : List (Fin Config.timeouts))
    (next : ℤ) :
    (is.foldl (b.soonestStep now entries) next ≤ next ∧
        ∀ i ∈ is, (entries i).pending = true → 0 ≤ b.timespecDiff (entries i).time now →
          is.foldl (b.soonestStep now entries) next ≤ b.timespecDiff (entries i).time now) ∧
      (is.foldl (b.soonestStep now entries) next = next ∨
        ∃ i ∈ is, (entries i).pending = true ∧ 0 ≤ b.timespecDiff (entries i).time now ∧
          is.foldl (b.soonestStep now entries) next = b.timespecDiff (entries i).time now) := by
  induction is generalizing next with
  | nil => simp
  | cons i is ih =>
    rw [List.foldl_cons]
    obtain ⟨⟨hle, hall⟩, hattained⟩ := ih (b.soonestStep now entries next i)
    -- one entry: it is sooner than what was found so far, or changes nothing
    have hstep : b.soonestStep now entries next i ≤ next ∧
        ((entries i).pending = true → 0 ≤ b.timespecDiff (entries i).time now →
          b.soonestStep now entries next i ≤ b.timespecDiff (entries i).time now) ∧
        (b.soonestStep now entries next i = next ∨ (entries i).pending = true ∧
          0 ≤ b.timespecDiff (entries i).time now ∧
          b.soonestStep now entries next i = b.timespecDiff (entries i).time now) := by
      unfold soonestStep
      cases (entries i).pending with
      | false => simp
      | true =>
        by_cases hsooner : 0 ≤ b.timespecDiff (entries i).time now ∧
            b.timespecDiff (entries i).time now < next
        · simp only [if_true, if_pos hsooner]
          exact ⟨hsooner.2.le, fun _ _ => le_rfl, .inr ⟨trivial, hsooner.1, trivial⟩⟩
        · simp only [if_true, if_neg hsooner]
          refine ⟨le_rfl, fun _ hnonneg => ?_, .inl trivial⟩
          exact not_lt.mp fun hlt => hsooner ⟨hnonneg, hlt⟩
    obtain ⟨hnext, hthis, hkept⟩ := hstep
    refine ⟨⟨hle.trans hnext, ?_⟩, ?_⟩
    · intro j hj hpending hnonneg
      rcases List.mem_cons.mp hj with rfl | hj
      · exact hle.trans (hthis hpending hnonneg)
      · exact hall j hj hpending hnonneg
    · -- the minimum is the one of the other entries, or this entry has it
      rcases hattained with heq | ⟨j, hj, hpending, hnonneg, heq⟩
      · rcases hkept with hkept | ⟨hpending, hnonneg, hkept⟩
        · exact .inl (heq.trans hkept)
        · exact .inr ⟨i, List.mem_cons_self, hpending, hnonneg, heq.trans hkept⟩
      · exact .inr ⟨j, List.mem_cons_of_mem i hj, hpending, hnonneg, heq⟩

/-- The entry the handler makes of one. -/
def fire (e : TimerEntry τ) : TimerEntry τ :=
  if e.pending = true ∧ b.timespecDiff e.time now ≤ 0 then { e with passed := true } else e

/-- A turn of the handler sees to its own entry. -/
theorem handlerStep_entries (s : (Fin Config.timeouts → TimerEntry τ) × ℤ)
    (i : Fin Config.timeouts) :
    (b.handlerStep now s i).1 = Function.update s.1 i (b.fire now (s.1 i)) := by
  unfold handlerStep fire
  by_cases hpending : (s.1 i).pending = true
  · by_cases hdue : b.timespecDiff (s.1 i).time now ≤ 0
    · simp only [if_pos hpending, if_pos hdue, if_pos (And.intro hpending hdue)]
    · simp only [if_pos hpending, if_neg hdue, if_neg (mt And.right hdue), Function.update_eq_self]
      split <;> rfl
  · simp only [if_neg hpending, if_neg (mt And.left hpending), Function.update_eq_self]

/-- **The loop of the handler** makes every timeout pass that is due. -/
theorem handlerLoop_entries {is : List (Fin Config.timeouts)} (hnodup : is.Nodup)
    (s : (Fin Config.timeouts → TimerEntry τ) × ℤ) (i : Fin Config.timeouts) :
    (is.foldl (b.handlerStep now) s).1 i = if i ∈ is then b.fire now (s.1 i) else s.1 i := by
  induction is generalizing s with
  | nil => simp
  | cons j is ih =>
    obtain ⟨hj, hnodup⟩ := List.nodup_cons.mp hnodup
    rw [List.foldl_cons, ih hnodup, handlerStep_entries]
    by_cases hij : i = j
    · subst hij
      rw [if_neg hj, if_pos List.mem_cons_self, Function.update_self]
    · have hmem : i ∈ j :: is ↔ i ∈ is := by simp [hij]
      simp only [hmem, Function.update_of_ne hij]

/-- A turn of the handler keeps the least of the positive differences. -/
theorem handlerStep_next (s : (Fin Config.timeouts → TimerEntry τ) × ℤ) (i : Fin Config.timeouts) :
    ((s.1 i).pending = true → 0 < b.timespecDiff (s.1 i).time now →
        0 < (b.handlerStep now s i).2 ∧
          (b.handlerStep now s i).2 ≤ b.timespecDiff (s.1 i).time now) ∧
      (0 < s.2 → 0 < (b.handlerStep now s i).2 ∧ (b.handlerStep now s i).2 ≤ s.2) ∧
      ((b.handlerStep now s i).2 = s.2 ∨ (s.1 i).pending = true ∧
        0 < b.timespecDiff (s.1 i).time now ∧
        (b.handlerStep now s i).2 = b.timespecDiff (s.1 i).time now) := by
  unfold handlerStep
  cases (s.1 i).pending with
  | false => simp
  | true =>
    by_cases hdue : b.timespecDiff (s.1 i).time now ≤ 0
    · simp only [if_true, if_pos hdue]
      exact ⟨fun _ hpos => absurd hpos (not_lt.mpr hdue), fun h => ⟨h, le_rfl⟩, .inl trivial⟩
    · have hpos := not_le.mp hdue
      by_cases hsooner : s.2 ≤ 0 ∨ b.timespecDiff (s.1 i).time now < s.2
      · simp only [if_true, if_neg hdue, if_pos hsooner]
        refine ⟨fun _ _ => ⟨hpos, le_rfl⟩, fun h => ⟨hpos, ?_⟩, .inr ⟨trivial, hpos, trivial⟩⟩
        rcases hsooner with hnone | hless
        · exact absurd h (not_lt.mpr hnone)
        · exact hless.le
      · simp only [if_true, if_neg hdue, if_neg hsooner]
        obtain ⟨hnext, hle⟩ := not_or.mp hsooner
        exact ⟨fun _ _ => ⟨not_le.mp hnext, not_lt.mp hle⟩, fun h => ⟨h, le_rfl⟩, .inl trivial⟩

/-- **The loop of the handler** finds the soonest timeout in the future. -/
theorem handlerLoop_next {is : List (Fin Config.timeouts)} (hnodup : is.Nodup)
    (s : (Fin Config.timeouts → TimerEntry τ) × ℤ) :
    (∀ i ∈ is, (s.1 i).pending = true → 0 < b.timespecDiff (s.1 i).time now →
        0 < (is.foldl (b.handlerStep now) s).2 ∧
          (is.foldl (b.handlerStep now) s).2 ≤ b.timespecDiff (s.1 i).time now) ∧
      (0 < s.2 → 0 < (is.foldl (b.handlerStep now) s).2 ∧
        (is.foldl (b.handlerStep now) s).2 ≤ s.2) ∧
      ((is.foldl (b.handlerStep now) s).2 = s.2 ∨ ∃ i ∈ is, (s.1 i).pending = true ∧
        0 < b.timespecDiff (s.1 i).time now ∧
        (is.foldl (b.handlerStep now) s).2 = b.timespecDiff (s.1 i).time now) := by
  induction is generalizing s with
  | nil => simp
  | cons j is ih =>
    obtain ⟨hj, hnodup⟩ := List.nodup_cons.mp hnodup
    obtain ⟨hthis, hnext, hkept⟩ := b.handlerStep_next now s j
    obtain ⟨hall, hle, hattained⟩ := ih hnodup (b.handlerStep now s j)
    -- each entry is handled once, so the others are still as they were
    have hothers (i : Fin Config.timeouts) (hi : i ∈ is) : (b.handlerStep now s j).1 i = s.1 i := by
      rw [handlerStep_entries]
      refine Function.update_of_ne ?_ _ _
      rintro rfl
      exact hj hi
    rw [List.foldl_cons]
    refine ⟨?_, ?_, ?_⟩
    · intro i hi hpending hpos
      rcases List.mem_cons.mp hi with rfl | hi
      · obtain ⟨hpos', hle'⟩ := hthis hpending hpos
        exact ⟨(hle hpos').1, (hle hpos').2.trans hle'⟩
      · rw [← hothers i hi] at hpending hpos ⊢
        exact hall i hi hpending hpos
    · intro h
      obtain ⟨hpos', hle'⟩ := hnext h
      exact ⟨(hle hpos').1, (hle hpos').2.trans hle'⟩
    · rcases hattained with heq | ⟨i, hi, hpending, hpos, heq⟩
      · rcases hkept with hkept | ⟨hpending, hpos, hkept⟩
        · exact .inl (heq.trans hkept)
        · exact .inr ⟨j, List.mem_cons_self, hpending, hpos, heq.trans hkept⟩
      · rw [hothers i hi] at hpending hpos heq
        exact .inr ⟨i, List.mem_cons_of_mem j hi, hpending, hpos, heq⟩

theorem timeoutSignalHandler_timer (t : TimerTable τ) :
    (b.timeoutSignalHandler now t).timer = b.resetTimer t.timer now (timespecSet
      ((List.finRange Config.timeouts).foldl (b.handlerStep now) (t.entries, b.noNext)).2) := by
  unfold timeoutSignalHandler
  generalize (List.finRange Config.timeouts).foldl (b.handlerStep now) (t.entries, b.noNext) = r
  rfl

/-- **What the handler does** to an entry. -/
theorem timeoutSignalHandler_entries (t : TimerTable τ) (i : Fin Config.timeouts) :
    (b.timeoutSignalHandler now t).entries i = b.fire now (t.entries i) := by
  have hloop := b.handlerLoop_entries now (List.nodup_finRange Config.timeouts)
    (t.entries, b.noNext) i
  rw [if_pos (List.mem_finRange i)] at hloop
  rw [← hloop, timeoutSignalHandler]

end TimeBase

/-! ## Exact deadlines -/

/-- The entries of a table show those of a table with exact deadlines: the flags are the same, and
the instant of a pending timeout represents its deadline. -/
def Simulates (represents : τ → ℕ → Prop) (entries : Fin Config.timeouts → TimerEntry τ)
    (exact : Timeouts) : Prop :=
  ∀ i, (entries i).used = (exact i).used ∧ (entries i).armed = (exact i).armed ∧
    (entries i).passed = (exact i).passed ∧
    ((entries i).pending = true → represents (entries i).time (exact i).time)

section Simulation

variable {represents : τ → ℕ → Prop} {t : TimerTable τ} {exact : Timeouts}

theorem Simulates.unusedEntry (h : Simulates represents t.entries exact) :
    unusedEntry t.entries = firstUnused exact := by
  unfold WmnIot.unusedEntry firstUnused
  congr 1
  funext i
  rw [(h i).1]

/-- The answers are those of the exact deadlines. -/
theorem Simulates.timeoutPassed (h : Simulates represents t.entries exact) (timeout : ℕ) :
    t.timeoutPassed timeout = WmnIot.timeoutPassed exact timeout := by
  unfold TimerTable.timeoutPassed WmnIot.timeoutPassed
  split
  · next hlt =>
    obtain ⟨hused, harmed, hpassed, -⟩ := h ⟨timeout, hlt⟩
    rw [TimerEntry.answer, TimeoutEntry.answer, hused, harmed, hpassed]
  · rfl

theorem Simulates.timeoutUnset (h : Simulates represents t.entries exact) (timeout : ℕ) :
    Simulates represents (t.timeoutUnset timeout).1.entries (WmnIot.timeoutUnset exact timeout) := by
  unfold TimerTable.timeoutUnset WmnIot.timeoutUnset
  split
  · next hlt =>
    intro i
    by_cases hi : i = ⟨timeout, hlt⟩
    · subst hi
      simp only [Function.update_self]
      exact ⟨trivial, trivial, (h _).2.2.1, fun hpending => by simp [TimerEntry.pending] at hpending⟩
    · simp only [Function.update_of_ne hi]
      exact h i
  · exact h

/-- Setting a timeout gives the id of the table with exact deadlines. -/
theorem Simulates.timeoutSet (h : Simulates represents t.entries exact) {b : TimeBase τ δ} {now : τ}
    {seconds : δ} {os : OS} {now' seconds' : ℕ}
    (hpositive : b.isPositive seconds = decide (seconds' ≠ 0))
    (htime : represents (b.timespecAdd now seconds) (timespecAdd os now' seconds')) :
    Simulates represents (b.timeoutSet now t seconds).1.entries
        (WmnIot.timeoutSet os now' exact seconds').1 ∧
      (b.timeoutSet now t seconds).2 = (WmnIot.timeoutSet os now' exact seconds').2 := by
  have hunused := h.unusedEntry
  obtain ⟨heq, hfail⟩ | ⟨i, hi, hpos, heq⟩ := b.timeoutSet_cases now t seconds
  · -- the call fails for a zero time or a full table, which both tables agree on
    have hfail' : WmnIot.timeoutSet os now' exact seconds' = (exact, Config.timeoutSetError) := by
      unfold WmnIot.timeoutSet
      rcases hfail with hzero | hnone
      · rw [if_pos (by simpa [hpositive] using hzero)]
      · rw [← hunused, hnone]
        split <;> rfl
    rw [heq, hfail']
    exact ⟨h, rfl⟩
  · have hset : WmnIot.timeoutSet os now' exact seconds' = (Function.update exact i
        { used := true, armed := true, passed := false, time := timespecAdd os now' seconds' },
          i.val) := by
      unfold WmnIot.timeoutSet
      rw [if_neg (by simpa [hpositive] using hpos), ← hunused, hi]
    rw [heq, hset]
    refine ⟨?_, rfl⟩
    intro j
    by_cases hj : j = i
    · subst hj
      simp only [Function.update_self]
      exact ⟨trivial, trivial, trivial, fun _ => htime⟩
    · simp only [Function.update_of_ne hj]
      exact h j

/-- The handler makes the same timeouts pass, if it sees the same deadlines reached. -/
theorem Simulates.timeoutSignalHandler (h : Simulates represents t.entries exact)
    {b : TimeBase τ δ} {now : τ} {now' : ℕ}
    (hdue : ∀ i, (t.entries i).pending = true →
      (b.timespecDiff (t.entries i).time now ≤ 0 ↔ (exact i).time ≤ now')) :
    Simulates represents (b.timeoutSignalHandler now t).entries
      (WmnIot.timeoutSignalHandler now' exact) := by
  intro i
  obtain ⟨hused, harmed, hpassed, htime⟩ := h i
  have hpending : (t.entries i).pending = ((exact i).used && (exact i).armed && !(exact i).passed) := by
    rw [TimerEntry.pending, hused, harmed, hpassed]
  rw [b.timeoutSignalHandler_entries, TimeBase.fire, WmnIot.timeoutSignalHandler, ← hpending]
  by_cases hp : (t.entries i).pending = true
  · by_cases hreached : (exact i).time ≤ now'
    · rw [if_pos ⟨hp, (hdue i hp).mpr hreached⟩, if_pos (by simp [hp, hreached])]
      refine ⟨hused, harmed, rfl, fun hno => ?_⟩
      simp [TimerEntry.pending] at hno
    · rw [if_neg (fun hc => hreached ((hdue i hp).mp hc.2)), if_neg (by simp [hreached])]
      exact ⟨hused, harmed, hpassed, htime⟩
  · rw [if_neg (fun hc => hp hc.1), if_neg (by simp [hp])]
    exact ⟨hused, harmed, hpassed, htime⟩

end Simulation

end Table

end WmnIot
