import WmnIot.Model.Config

/-! # The timeout table

The table of `timeouts.c`: twenty entries, each with its flags and its deadline. A timeout is set
in the first unused entry, marked as passed by the handler of the hardware timer, polled, and
released. Time is a count of microseconds; the handler runs at arbitrary moments, so a poll may
come before the handler has seen an expired deadline.

* **`timeoutPassed`**, **`timeoutUnset`**, **`timeoutSet`**, **`timeoutSignalHandler`** — the
  functions of `timeouts.c`.
* **`Live`** — an entry whose timeout can still pass.
* **`timeoutSet_spec`** — a set timeout is live and every other entry is as before. -/

namespace WmnIot

/-- An entry of the table: `TIMEOUT_USED`, `TIMEOUT_ARMED`, `TIMEOUT_PASSED` and the deadline. -/
structure TimeoutEntry where
  used : Bool := false
  armed : Bool := false
  passed : Bool := false
  time : ℕ := 0
  deriving DecidableEq, Repr

/-- The table `timeouts`. -/
abbrev Timeouts : Type := Fin Config.timeouts → TimeoutEntry

/-! ## The functions of the table -/

/-- What `timeout_passed` and `timeout_unset` answer for the flags of an entry. -/
def TimeoutEntry.answer (e : TimeoutEntry) : ℕ :=
  if !e.used then 2 else if !e.armed then 2 else if e.passed then 1 else 0

/-- `timeout_passed`: 1 if the timeout passed, 0 if it is pending, 2 if there is none. -/
def timeoutPassed (t : Timeouts) (timeout : ℕ) : ℕ :=
  if h : timeout < Config.timeouts then (t ⟨timeout, h⟩).answer else 2

/-- `timeout_unset`: release the entry, clearing all of its flags but `TIMEOUT_PASSED`. -/
def timeoutUnset (t : Timeouts) (timeout : ℕ) : Timeouts :=
  if h : timeout < Config.timeouts then
    Function.update t ⟨timeout, h⟩ { t ⟨timeout, h⟩ with used := false, armed := false }
  else t

/-- `timespec_add`: the moment `seconds` after `now`. On RIOT the duration is read as a signed
32-bit number, and a negative one adds nothing. -/
def timespecAdd (os : OS) (now seconds : ℕ) : ℕ :=
  match os with
  | .linux => now + seconds
  | .riot => if seconds < 2 ^ 31 then now + seconds else now

/-- The first entry of the table that is not used. -/
def firstUnused (t : Timeouts) : Option (Fin Config.timeouts) :=
  (List.finRange Config.timeouts).find? fun i => !(t i).used

/-- `timeout_set`: arm a timeout in the first unused entry and return its id, or return
`TIMEOUT_SET_ERROR` when the duration is zero or the table is full. -/
def timeoutSet (os : OS) (now : ℕ) (t : Timeouts) (seconds : ℕ) : Timeouts × ℕ :=
  if seconds = 0 then (t, Config.timeoutSetError)
  else
    match firstUnused t with
    | none => (t, Config.timeoutSetError)
    | some i =>
      (Function.update t i
        { used := true, armed := true, passed := false, time := timespecAdd os now seconds }, i.val)

/-- `timeout_signal_handler`: mark the pending timeouts whose deadline is reached. -/
def timeoutSignalHandler (now : ℕ) (t : Timeouts) : Timeouts := fun i =>
  if (t i).used && (t i).armed && !(t i).passed && decide ((t i).time ≤ now) then
    { t i with passed := true }
  else t i

/-! ## Live entries -/

/-- The timeout id names an entry that is used and armed. -/
def Live (t : Timeouts) (timeout : ℕ) : Prop :=
  ∃ h : timeout < Config.timeouts, (t ⟨timeout, h⟩).used ∧ (t ⟨timeout, h⟩).armed

instance (t : Timeouts) (timeout : ℕ) : Decidable (Live t timeout) :=
  inferInstanceAs (Decidable (∃ _ : _, _))

/-- The number of entries of the table that are not used. -/
def freeEntries (t : Timeouts) : ℕ :=
  ((List.finRange Config.timeouts).filter fun i => !(t i).used).length

/-- A poll answers 1 exactly for a live entry that is marked as passed. -/
theorem timeoutPassed_eq_one {t : Timeouts} {timeout : ℕ} :
    timeoutPassed t timeout = 1 ↔
      ∃ h : timeout < Config.timeouts,
        (t ⟨timeout, h⟩).used ∧ (t ⟨timeout, h⟩).armed ∧ (t ⟨timeout, h⟩).passed := by
  unfold timeoutPassed TimeoutEntry.answer
  by_cases h : timeout < Config.timeouts
  · cases hu : (t ⟨timeout, h⟩).used <;> cases ha : (t ⟨timeout, h⟩).armed <;>
      cases hp : (t ⟨timeout, h⟩).passed <;> simp [h, hu, ha, hp]
  · simp [h]

/-- The answer depends on the entry of the timeout only. -/
theorem timeoutPassed_congr {t t' : Timeouts} {timeout : ℕ}
    (h : ∀ hlt : timeout < Config.timeouts, t ⟨timeout, hlt⟩ = t' ⟨timeout, hlt⟩) :
    timeoutPassed t timeout = timeoutPassed t' timeout := by
  unfold timeoutPassed
  split
  · next hlt => rw [h hlt]
  · rfl

/-- A timeout that passed is live. -/
theorem live_of_passed {t : Timeouts} {timeout : ℕ} (h : timeoutPassed t timeout = 1) :
    Live t timeout := by
  obtain ⟨hlt, hu, ha, -⟩ := timeoutPassed_eq_one.mp h
  exact ⟨hlt, hu, ha⟩

/-! ### Releasing -/

/-- A released entry is no longer live. -/
theorem not_live_timeoutUnset (t : Timeouts) (timeout : ℕ) :
    ¬ Live (timeoutUnset t timeout) timeout := by
  rintro ⟨h, hu, -⟩
  rw [timeoutUnset, dif_pos h, Function.update_self] at hu
  exact absurd hu (by simp)

/-- Releasing one entry leaves the others as they are. -/
theorem timeoutUnset_of_ne {t : Timeouts} {timeout : ℕ} {i : Fin Config.timeouts}
    (h : (i : ℕ) ≠ timeout) : timeoutUnset t timeout i = t i := by
  unfold timeoutUnset
  split
  · next hlt => exact Function.update_of_ne (fun he => h (by rw [he])) _ _
  · rfl

/-- Releasing one entry leaves the others live. -/
theorem live_timeoutUnset_of_ne {t : Timeouts} {timeout id : ℕ} (h : id ≠ timeout) :
    Live (timeoutUnset t timeout) id ↔ Live t id := by
  unfold Live
  refine exists_congr fun hlt => ?_
  rw [timeoutUnset_of_ne (i := ⟨id, hlt⟩) h]

/-! ### The handler -/

/-- The handler changes no flag but `TIMEOUT_PASSED`. -/
theorem live_timeoutSignalHandler {now : ℕ} {t : Timeouts} {id : ℕ} :
    Live (timeoutSignalHandler now t) id ↔ Live t id := by
  unfold Live timeoutSignalHandler
  refine exists_congr fun hlt => ?_
  split <;> rfl

/-- The handler leaves alone what it does not make pass. -/
theorem timeoutSignalHandler_of_not_passed {now : ℕ} {t : Timeouts} {id : ℕ}
    (h : timeoutPassed (timeoutSignalHandler now t) id ≠ 1) (hlt : id < Config.timeouts) :
    timeoutSignalHandler now t ⟨id, hlt⟩ = t ⟨id, hlt⟩ := by
  rw [Ne, timeoutPassed_eq_one] at h
  unfold timeoutSignalHandler at h ⊢
  split
  · next hcond =>
    refine absurd ⟨hlt, ?_⟩ h
    simp only [hcond, if_true]
    simp only [Bool.and_eq_true] at hcond
    exact ⟨hcond.1.1.1, hcond.1.1.2, trivial⟩
  · rfl

/-! ### Setting -/

/-- What `firstUnused` finds is not used. -/
theorem used_of_firstUnused {t : Timeouts} {i : Fin Config.timeouts}
    (h : firstUnused t = some i) : (t i).used = false := by
  simpa using List.find?_some h

/-- An unused entry makes `firstUnused` find one. -/
theorem exists_firstUnused {t : Timeouts} {i : Fin Config.timeouts} (h : (t i).used = false) :
    ∃ j, firstUnused t = some j := by
  cases hf : firstUnused t with
  | some j => exact ⟨j, rfl⟩
  | none =>
    have hused := List.find?_eq_none.mp hf i (List.mem_finRange i)
    simp [h] at hused

/-- A table with a free entry has an unused one. -/
theorem exists_unused_of_freeEntries {t : Timeouts} (h : 0 < freeEntries t) :
    ∃ i, (t i).used = false := by
  obtain ⟨i, hi⟩ := List.exists_mem_of_length_pos h
  exact ⟨i, by simpa using (List.mem_filter.mp hi).2⟩

/-- **What `timeout_set` does**: either it fails and changes nothing, or it arms an unused entry. -/
theorem timeoutSet_cases (os : OS) (now : ℕ) (t : Timeouts) (seconds : ℕ) :
    (timeoutSet os now t seconds = (t, Config.timeoutSetError) ∧
      (seconds = 0 ∨ firstUnused t = none)) ∨
    ∃ i, firstUnused t = some i ∧ seconds ≠ 0 ∧
      timeoutSet os now t seconds = (Function.update t i
        { used := true, armed := true, passed := false, time := timespecAdd os now seconds }, i.val) := by
  unfold timeoutSet
  by_cases hs : seconds = 0
  · exact .inl ⟨by simp [hs], .inl hs⟩
  · cases hf : firstUnused t with
    | none => exact .inl ⟨by simp [hs], .inr rfl⟩
    | some i => exact .inr ⟨i, rfl, hs, by simp [hs]⟩

/-- Setting a timeout keeps every live entry as it is. -/
theorem timeoutSet_of_used {os : OS} {now : ℕ} {t : Timeouts} {seconds : ℕ}
    {i : Fin Config.timeouts} (h : (t i).used = true) : (timeoutSet os now t seconds).1 i = t i := by
  obtain ⟨he, -⟩ | ⟨j, hj, -, he⟩ := timeoutSet_cases os now t seconds
  · rw [he]
  · rw [he]
    refine Function.update_of_ne (fun hij => ?_) _ _
    rw [hij, used_of_firstUnused hj] at h
    exact absurd h (by simp)

/-- Setting a timeout keeps the live entries live. -/
theorem live_timeoutSet_of_live {os : OS} {now : ℕ} {t : Timeouts} {seconds id : ℕ}
    (h : Live t id) : Live (timeoutSet os now t seconds).1 id := by
  obtain ⟨hlt, hu, ha⟩ := h
  refine ⟨hlt, ?_⟩
  rw [timeoutSet_of_used hu]
  exact ⟨hu, ha⟩

/-- The id of a set timeout is not that of a live entry. -/
theorem timeoutSet_ne_of_live {os : OS} {now : ℕ} {t : Timeouts} {seconds id : ℕ}
    (h : Live t id) : (timeoutSet os now t seconds).2 ≠ id := by
  obtain ⟨hlt, hu, -⟩ := h
  obtain ⟨he, -⟩ | ⟨j, hj, -, he⟩ := timeoutSet_cases os now t seconds
  · rw [he]
    show Config.timeoutSetError ≠ id
    unfold Config.timeoutSetError
    omega
  · rw [he]
    rintro rfl
    rw [used_of_firstUnused hj] at hu
    exact absurd hu (by simp)

/-- A timeout can be set exactly if its duration is positive and an entry is unused. -/
theorem timeoutSet_ne_error_iff {os : OS} {now : ℕ} {t : Timeouts} {seconds : ℕ} :
    (timeoutSet os now t seconds).2 ≠ Config.timeoutSetError ↔
      seconds ≠ 0 ∧ ∃ i, (t i).used = false := by
  obtain ⟨he, hfail⟩ | ⟨j, hj, hs, he⟩ := timeoutSet_cases os now t seconds
  · rw [he]
    refine iff_of_false (fun h => h rfl) ?_
    rintro ⟨hs, i, hi⟩
    obtain ⟨k, hk⟩ := exists_firstUnused hi
    rcases hfail with hfail | hfail
    · exact hs hfail
    · rw [hk] at hfail
      cases hfail
  · rw [he]
    refine iff_of_true ?_ ⟨hs, j, used_of_firstUnused hj⟩
    have hlt := j.isLt
    simp only [Config.timeouts, Config.timeoutSetError] at hlt ⊢
    omega

/-- The entry of a set timeout is pending until its deadline. -/
theorem timeoutSet_entry {os : OS} {now : ℕ} {t : Timeouts} {seconds : ℕ}
    (h : (timeoutSet os now t seconds).2 ≠ Config.timeoutSetError) :
    ∃ hlt : (timeoutSet os now t seconds).2 < Config.timeouts,
      (timeoutSet os now t seconds).1 ⟨_, hlt⟩ =
        { used := true, armed := true, passed := false, time := timespecAdd os now seconds } := by
  obtain ⟨he, -⟩ | ⟨j, -, -, he⟩ := timeoutSet_cases os now t seconds
  · rw [he] at h
    exact absurd rfl h
  · rw [he]
    exact ⟨j.isLt, Function.update_self _ _ _⟩

/-- A timeout of positive duration set in a table with an unused entry is live. -/
theorem live_timeoutSet {os : OS} {now : ℕ} {t : Timeouts} {seconds : ℕ} (hs : seconds ≠ 0)
    {i : Fin Config.timeouts} (hi : (t i).used = false) :
    Live (timeoutSet os now t seconds).1 (timeoutSet os now t seconds).2 := by
  obtain ⟨hlt, hentry⟩ := timeoutSet_entry (timeoutSet_ne_error_iff.mpr ⟨hs, i, hi⟩)
  exact ⟨hlt, by rw [hentry]; exact ⟨rfl, rfl⟩⟩

/-! ## Counting the entries -/

/-- The number of entries of the table that are used. -/
def usedEntries (t : Timeouts) : ℕ :=
  ((List.finRange Config.timeouts).filter fun i => (t i).used).length

/-- Every entry is used or free. -/
theorem usedEntries_add_freeEntries (t : Timeouts) :
    usedEntries t + freeEntries t = Config.timeouts := by
  have hsplit := List.length_eq_length_filter_add (l := List.finRange Config.timeouts)
    fun i => (t i).used
  rw [List.length_finRange] at hsplit
  exact hsplit.symm

theorem usedEntries_eq_card (t : Timeouts) :
    usedEntries t = (Finset.univ.filter fun i => (t i).used = true).card := by
  rw [usedEntries, ← List.toFinset_card_of_nodup ((List.nodup_finRange _).filter _)]
  congr 1
  ext i
  simp

/-- The count depends on the flag `TIMEOUT_USED` only. -/
theorem usedEntries_congr {t t' : Timeouts} (h : ∀ i, (t' i).used = (t i).used) :
    usedEntries t' = usedEntries t := by
  unfold usedEntries
  congr 2
  funext i
  exact h i

theorem usedEntries_timeoutSignalHandler (now : ℕ) (t : Timeouts) :
    usedEntries (timeoutSignalHandler now t) = usedEntries t := by
  apply usedEntries_congr
  intro i
  unfold timeoutSignalHandler
  split <;> rfl

/-- An entry that begins to be used is one more. -/
theorem usedEntries_update {t : Timeouts} {i : Fin Config.timeouts} {e : TimeoutEntry}
    (hi : (t i).used = false) (he : e.used = true) :
    usedEntries (Function.update t i e) = usedEntries t + 1 := by
  rw [usedEntries_eq_card, usedEntries_eq_card,
    ← Finset.card_insert_of_notMem (a := i) (by simp [hi])]
  congr 1
  ext j
  by_cases hj : j = i
  · subst hj
    simp [he]
  · simp [hj]

/-- **Releasing a live entry** makes it one less. -/
theorem usedEntries_timeoutUnset {t : Timeouts} {timeout : ℕ} (h : Live t timeout) :
    usedEntries (timeoutUnset t timeout) + 1 = usedEntries t := by
  obtain ⟨hlt, hu, -⟩ := h
  have hunset : (timeoutUnset t timeout ⟨timeout, hlt⟩).used = false := by
    simp [timeoutUnset, hlt]
  rw [← usedEntries_update hunset hu]
  congr 1
  funext i
  by_cases hi : i = ⟨timeout, hlt⟩
  · rw [hi, Function.update_self]
  · rw [Function.update_of_ne hi, timeoutUnset_of_ne fun he => hi (Fin.ext he)]

/-- No entry has the id that `timeout_set` returns when it fails. -/
theorem timeoutUnset_error (t : Timeouts) : timeoutUnset t Config.timeoutSetError = t :=
  dif_neg (by decide)

theorem freeEntries_pos_iff {t : Timeouts} : 0 < freeEntries t ↔ ∃ i, (t i).used = false := by
  constructor
  · exact exists_unused_of_freeEntries
  · rintro ⟨i, hi⟩
    refine List.length_pos_of_mem (List.mem_filter.mpr ⟨List.mem_finRange i, ?_⟩)
    rw [hi]
    rfl

/-- **Setting a timeout** makes the used entries one more, or fails and changes nothing. -/
theorem timeoutSet_balance (os : OS) (now : ℕ) (t : Timeouts) (seconds : ℕ) :
    ((timeoutSet os now t seconds).2 = Config.timeoutSetError ∧
        (timeoutSet os now t seconds).1 = t ∧ ¬ (seconds ≠ 0 ∧ 0 < freeEntries t)) ∨
      ((timeoutSet os now t seconds).2 ≠ Config.timeoutSetError ∧
        (seconds ≠ 0 ∧ 0 < freeEntries t) ∧
        Live (timeoutSet os now t seconds).1 (timeoutSet os now t seconds).2 ∧
        usedEntries (timeoutSet os now t seconds).1 = usedEntries t + 1) := by
  have hiff : (timeoutSet os now t seconds).2 ≠ Config.timeoutSetError ↔
      seconds ≠ 0 ∧ ∃ i, (t i).used = false := timeoutSet_ne_error_iff
  rw [← freeEntries_pos_iff] at hiff
  obtain ⟨he, -⟩ | ⟨i, hi, -, he⟩ := timeoutSet_cases os now t seconds
  · refine .inl ⟨congrArg Prod.snd he, congrArg Prod.fst he, fun h => ?_⟩
    exact hiff.mpr h (congrArg Prod.snd he)
  · have hne : (timeoutSet os now t seconds).2 ≠ Config.timeoutSetError := by
      rw [he]
      have hlt := i.isLt
      simp only [Config.timeouts, Config.timeoutSetError] at hlt ⊢
      omega
    have hset := hiff.mp hne
    obtain ⟨j, hj⟩ := freeEntries_pos_iff.mp hset.2
    refine .inr ⟨hne, hset, live_timeoutSet hset.1 hj, ?_⟩
    rw [he]
    exact usedEntries_update (used_of_firstUnused hi) rfl

end WmnIot
