import WmnIot.Foundations.Runs
import WmnIot.Model.HardwareTimer

/-! # One hardware timer for all timeouts

On Linux the handler is called by one timer, which `timeout_set` and the handler itself arm for the
soonest deadline. A duration of zero disarms it.

* **`linuxStep`** — an event of a run; the clock does not run past the instant the timer is armed
  for.
* **`TimerCovers`** — the timer is armed for the pending timeouts.
* **`oneShotTimer_covers_iff`** — the runs in which it always is. -/

namespace WmnIot

open Runs

/-! ## Runs -/

/-- The calls of the clients, and the runs of the handler. A negative id is like one beyond the
table. -/
inductive LinuxCall where
  | set (seconds : ℤ)
  | unset (timeout : ℕ)
  | handler
  deriving DecidableEq, Repr

/-- An event of a run, so many nanoseconds later than the one before it. -/
structure LinuxEvent where
  elapsed : ℕ
  call : LinuxCall

/-- A state of a run: the moment in nanoseconds, and the table. -/
structure LinuxTimeouts where
  now : ℕ
  table : TimerTable ℕ

/-- `timeout_init`, at any moment. -/
def linuxInit (start : ℕ) : LinuxTimeouts where
  now := start
  table := { entries := fun _ => ⟨false, false, false, 0⟩, timer := none }

/-- A call at a moment. -/
def linuxCall (call : LinuxCall) (now : ℕ) (t : TimerTable ℕ) : TimerTable ℕ :=
  match call with
  | .set seconds => (linuxTime.timeoutSet now t seconds).1
  | .unset timeout => (t.timeoutUnset timeout).1
  | .handler => linuxTime.timeoutSignalHandler now t

/-- An event of a run. The clock gets at most to the instant the timer is armed for. -/
def linuxStep (e : LinuxEvent) (s : LinuxTimeouts) : Option LinuxTimeouts :=
  if ∀ expiry ∈ s.table.timer, s.now + e.elapsed ≤ expiry then
    some
      { now := s.now + e.elapsed
        table := linuxCall e.call (s.now + e.elapsed) s.table }
  else none

/-- If a timeout is pending, the timer is armed for an instant no later than the deadline of any
pending one. -/
def TimerCovers (t : TimerTable ℕ) : Prop :=
  (∃ i, (t.entries i).pending = true) →
    ∃ expiry, t.timer = some expiry ∧ ∀ i, (t.entries i).pending = true → expiry ≤ (t.entries i).time

/-- A timeout is set, successfully, at the moment of the deadline of a pending one. -/
def SetsAtDeadline (e : LinuxEvent) (s : LinuxTimeouts) : Prop :=
  match e.call with
  | .set seconds => 0 < seconds ∧ (∃ i, (s.table.entries i).used = false) ∧
    ∃ i, (s.table.entries i).pending = true ∧ (s.table.entries i).time = s.now + e.elapsed
  | _ => False

/-- The deadlines of the pending timeouts are not over yet. -/
def NoneOverdue (now : ℕ) (t : TimerTable ℕ) : Prop :=
  ∀ i, (t.entries i).pending = true → now ≤ (t.entries i).time

variable {t : TimerTable ℕ} {now : ℕ} {e : LinuxEvent} {s s' : LinuxTimeouts}

/-! ## Setting a timeout -/

/-- The pending timeouts stay pending, next to the new one. -/
theorem pending_timeoutSet {i : Fin Config.timeouts}
    (hi : unusedEntry t.entries = some i) (j : Fin Config.timeouts) (e : TimerEntry ℕ)
    (hj : (t.entries j).pending = true) : Function.update t.entries i e j = t.entries j := by
  refine Function.update_of_ne ?_ _ _
  rintro rfl
  have hunused : (t.entries j).used = false := by simpa using List.find?_some hi
  simp [TimerEntry.pending, hunused] at hj

/-- Setting a timeout at the deadline of a pending one disarms the timer. -/
theorem not_timerCovers_timeoutSet {seconds : ℤ} (hpositive : 0 < seconds)
    (hfree : ∃ i, (t.entries i).used = false) {j : Fin Config.timeouts}
    (hj : (t.entries j).pending = true) (hnow : (t.entries j).time = now) :
    ¬ TimerCovers (linuxTime.timeoutSet now t seconds).1 := by
  obtain ⟨-, hfail⟩ | ⟨i, hi, -, heq⟩ := linuxTime.timeoutSet_cases now t seconds
  · exfalso
    rcases hfail with hzero | hnone
    · exact absurd hpositive (of_decide_eq_false hzero)
    · obtain ⟨k, hk⟩ := hfree
      have hused := List.find?_eq_none.mp hnone k (List.mem_finRange k)
      simp [hk] at hused
  · rw [heq]
    intro hcovers
    have hkept := pending_timeoutSet hi j
      { used := true, armed := true, passed := false, time := linuxTime.timespecAdd now seconds } hj
    obtain ⟨expiry, htimer, -⟩ := hcovers ⟨j, by dsimp only; rw [hkept, hj]⟩
    -- the difference to the deadline that is reached is zero
    have hzero : linuxTime.timespecDiff (t.entries j).time now = 0 := by
      rw [hnow]
      exact sub_self (now : ℤ)
    have hsoonest := ((linuxTime.soonest_spec now (Function.update t.entries i
      { used := true, armed := true, passed := false, time := linuxTime.timespecAdd now seconds })
      (List.finRange Config.timeouts) (linuxTime.next seconds)).1).2 j (List.mem_finRange j)
      (by rw [hkept, hj]) (by rw [hkept, hzero])
    rw [hkept, hzero] at hsoonest
    have hdisarm : timespecSet ((List.finRange Config.timeouts).foldl (linuxTime.soonestStep now
        (Function.update t.entries i { used := true, armed := true, passed := false, time := linuxTime.timespecAdd now seconds }))
        (linuxTime.next seconds)) = 0 := if_neg (not_lt.mpr hsoonest)
    rw [hdisarm] at htimer
    cases htimer

/-- Setting a timeout at another moment arms the timer for the soonest deadline. -/
theorem timerCovers_timeoutSet {seconds : ℤ} (hcovers : TimerCovers t) (hover : NoneOverdue now t)
    (hapart : 0 < seconds → (∃ i, (t.entries i).used = false) →
      ∀ j, (t.entries j).pending = true → (t.entries j).time ≠ now) :
    TimerCovers (linuxTime.timeoutSet now t seconds).1 ∧
      NoneOverdue now (linuxTime.timeoutSet now t seconds).1 := by
  obtain ⟨heq, -⟩ | ⟨i, hi, hpos, heq⟩ := linuxTime.timeoutSet_cases now t seconds
  · rw [heq]
    exact ⟨hcovers, hover⟩
  · have hpositive : 0 < seconds := of_decide_eq_true hpos
    have hfree : ∃ i, (t.entries i).used = false := ⟨i, by simpa using List.find?_some hi⟩
    dsimp only at heq
    rw [heq]
    generalize hentries : Function.update t.entries i
      { used := true, armed := true, passed := false
        time := linuxTime.timespecAdd now seconds } = entries
    -- every pending deadline is ahead, the new one by the duration
    have hahead (j : Fin Config.timeouts) (hj : (entries j).pending = true) :
        0 < linuxTime.timespecDiff (entries j).time now := by
      rw [← hentries] at hj ⊢
      by_cases hji : j = i
      · subst hji
        rw [Function.update_self]
        show 0 < (((if 0 < seconds then now + seconds.toNat else now : ℕ) : ℤ) - (now : ℤ))
        rw [if_pos hpositive]
        omega
      · rw [Function.update_of_ne hji] at hj ⊢
        have hle := hover j hj
        have hne := hapart hpositive hfree j hj
        show 0 < (((t.entries j).time : ℤ) - (now : ℤ))
        omega
    obtain ⟨⟨-, hall⟩, hattained⟩ := linuxTime.soonest_spec now entries
      (List.finRange Config.timeouts) (linuxTime.next seconds)
    generalize (List.finRange Config.timeouts).foldl (linuxTime.soonestStep now entries)
      (linuxTime.next seconds) = next at hall hattained
    have hnext : 0 < next := by
      rcases hattained with hsame | ⟨j, -, hj, -, hsame⟩
      · exact hsame ▸ hpositive
      · exact hsame ▸ hahead j hj
    have htimer : linuxTime.setTimer now (timespecSet next) = some (now + next.toNat) := by
      rw [timespecSet, if_pos hnext]
      exact if_neg hnext.ne'
    refine ⟨fun _ => ⟨now + next.toNat, htimer, fun j hj => ?_⟩, fun j hj => ?_⟩
    · have hle : next ≤ ((entries j).time : ℤ) - (now : ℤ) :=
        hall j (List.mem_finRange j) hj (hahead j hj).le
      show now + next.toNat ≤ (entries j).time
      omega
    · have hpos' : 0 < ((entries j).time : ℤ) - (now : ℤ) := hahead j hj
      show now ≤ (entries j).time
      omega

/-! ## The other calls -/

/-- A released timeout is not pending. -/
theorem timerCovers_timeoutUnset (hcovers : TimerCovers t) (hover : NoneOverdue now t)
    (timeout : ℕ) :
    TimerCovers (t.timeoutUnset timeout).1 ∧ NoneOverdue now (t.timeoutUnset timeout).1 := by
  unfold TimerTable.timeoutUnset
  split
  · next hlt =>
    have hkept (i : Fin Config.timeouts)
        (hi : (Function.update t.entries ⟨timeout, hlt⟩
          { t.entries ⟨timeout, hlt⟩ with used := false, armed := false } i).pending = true) :
        Function.update t.entries ⟨timeout, hlt⟩
          { t.entries ⟨timeout, hlt⟩ with used := false, armed := false } i = t.entries i := by
      refine Function.update_of_ne ?_ _ _
      rintro rfl
      simp [TimerEntry.pending] at hi
    refine ⟨?_, fun i hi => ?_⟩
    · rintro ⟨i, hi⟩
      have hpending := hi
      dsimp only at hpending
      rw [hkept i hi] at hpending
      obtain ⟨expiry, htimer, hle⟩ := hcovers ⟨i, hpending⟩
      refine ⟨expiry, htimer, fun j hj => ?_⟩
      have hsame := hkept j hj
      dsimp only at hj ⊢
      rw [hsame] at hj ⊢
      exact hle j hj
    · have hsame := hkept i hi
      dsimp only at hi ⊢
      rw [hsame] at hi ⊢
      exact hover i hi
  · exact ⟨hcovers, hover⟩

/-- The handler arms the timer for the soonest deadline in the future. -/
theorem timerCovers_timeoutSignalHandler (now : ℕ) (t : TimerTable ℕ) :
    TimerCovers (linuxTime.timeoutSignalHandler now t) ∧
      NoneOverdue now (linuxTime.timeoutSignalHandler now t) := by
  -- what is still pending is ahead
  have hahead (i : Fin Config.timeouts)
      (hi : ((linuxTime.timeoutSignalHandler now t).entries i).pending = true) :
      (linuxTime.timeoutSignalHandler now t).entries i = t.entries i ∧
        (t.entries i).pending = true ∧ 0 < linuxTime.timespecDiff (t.entries i).time now := by
    rw [linuxTime.timeoutSignalHandler_entries, TimeBase.fire] at hi ⊢
    by_cases hdue : (t.entries i).pending = true ∧
        linuxTime.timespecDiff (t.entries i).time now ≤ 0
    · rw [if_pos hdue] at hi
      simp [TimerEntry.pending] at hi
    · rw [if_neg hdue] at hi ⊢
      exact ⟨rfl, hi, not_le.mp fun hle => hdue ⟨hi, hle⟩⟩
  obtain ⟨hall, -, -⟩ := linuxTime.handlerLoop_next now (List.nodup_finRange Config.timeouts)
    (t.entries, linuxTime.noNext)
  refine ⟨?_, fun i hi => ?_⟩
  · rintro ⟨i, hi⟩
    obtain ⟨-, hpending, hpos⟩ := hahead i hi
    obtain ⟨hnext, -⟩ := hall i (List.mem_finRange i) hpending hpos
    refine ⟨now + ((List.finRange Config.timeouts).foldl (linuxTime.handlerStep now)
      (t.entries, linuxTime.noNext)).2.toNat, ?_, fun j hj => ?_⟩
    · rw [linuxTime.timeoutSignalHandler_timer, timespecSet, if_pos hnext]
      exact if_neg hnext.ne'
    · obtain ⟨hentry, hpending', hpos'⟩ := hahead j hj
      have hle : _ ≤ ((t.entries j).time : ℤ) - (now : ℤ) :=
        (hall j (List.mem_finRange j) hpending' hpos').2
      rw [hentry]
      omega
  · obtain ⟨hentry, -, hpos⟩ := hahead i hi
    have hpos' : 0 < ((t.entries i).time : ℤ) - (now : ℤ) := hpos
    rw [hentry]
    omega

/-! ## The timer over a run -/

theorem linuxStep_eq_some (h : linuxStep e s = some s') :
    (∀ expiry ∈ s.table.timer, s.now + e.elapsed ≤ expiry) ∧ s'.now = s.now + e.elapsed ∧
      s'.table = linuxCall e.call (s.now + e.elapsed) s.table := by
  unfold linuxStep at h
  split at h
  · next hclock =>
    rw [← Option.some.inj h]
    exact ⟨hclock, rfl, rfl⟩
  · cases h

/-- The clock does not run past a deadline the timer covers. -/
theorem TimerCovers.noneOverdue (h : TimerCovers t)
    (hclock : ∀ expiry ∈ t.timer, now ≤ expiry) : NoneOverdue now t := by
  intro i hi
  obtain ⟨expiry, htimer, hle⟩ := h ⟨i, hi⟩
  exact (hclock expiry htimer).trans (hle i hi)

/-- **No timeout is forgotten**: the timer covers the pending timeouts in every state of a run
exactly if no timeout is set, successfully, at the moment of the deadline of a pending one. -/
theorem oneShotTimer_covers_iff (start : ℕ) (events : List LinuxEvent) :
    (∀ s ∈ visited linuxStep events (linuxInit start), TimerCovers s.table) ↔
      ∀ t ∈ taken linuxStep events (linuxInit start), ¬ SetsAtDeadline t.1 t.2 := by
  have hgood (e : LinuxEvent) (s s' : LinuxTimeouts) (hs : TimerCovers s.table)
      (hstep : linuxStep e s = some s') (hapart : ¬ SetsAtDeadline e s) : TimerCovers s'.table := by
    obtain ⟨hclock, -, htable⟩ := linuxStep_eq_some hstep
    have hover := hs.noneOverdue hclock
    rw [htable]
    unfold SetsAtDeadline at hapart
    cases hcall : e.call with
    | set seconds =>
      rw [hcall] at hapart
      refine (timerCovers_timeoutSet hs hover ?_).1
      intro hpositive hfree j hj hnow
      exact hapart ⟨hpositive, hfree, j, hj, hnow⟩
    | unset timeout => exact (timerCovers_timeoutUnset hs hover timeout).1
    | handler => exact (timerCovers_timeoutSignalHandler _ _).1
  -- a set at the deadline of another entry arms the timer with zero
  have hbad (e : LinuxEvent) (s s' : LinuxTimeouts) (_ : TimerCovers s.table)
      (hstep : linuxStep e s = some s') (hsets : ¬ ¬ SetsAtDeadline e s) :
      ¬ TimerCovers s'.table := by
    obtain ⟨-, -, htable⟩ := linuxStep_eq_some hstep
    rw [htable]
    have hsets := not_not.mp hsets
    unfold SetsAtDeadline at hsets
    cases hcall : e.call with
    | set seconds =>
      rw [hcall] at hsets
      obtain ⟨hpositive, hfree, j, hj, hnow⟩ := hsets
      exact not_timerCovers_timeoutSet hpositive hfree hj hnow
    | unset timeout =>
      rw [hcall] at hsets
      exact hsets.elim
    | handler =>
      rw [hcall] at hsets
      exact hsets.elim
  have hinit : TimerCovers (linuxInit start).table := by
    rintro ⟨i, hi⟩
    cases hi
  exact forall_visited_iff (fun s : LinuxTimeouts => TimerCovers s.table) (fun _ hs => hs) hgood hbad events hinit

/-- A timeout of ten nanoseconds, and another one that is set at its deadline. -/
theorem oneShotTimer_covers_disarmed :
    ¬ ∀ s ∈ visited linuxStep [⟨0, .set 10⟩, ⟨10, .set 5⟩] (linuxInit 0), TimerCovers s.table := by
  intro h
  have hlast : ((linuxStep ⟨0, .set 10⟩ (linuxInit 0)).bind (linuxStep ⟨10, .set 5⟩)).map
      (fun s => ((s.table.entries 0).pending, s.table.timer)) = some (true, none) := by
    decide +kernel
  obtain ⟨s, hs, hs'⟩ := Option.map_eq_some_iff.mp hlast
  obtain ⟨hpending, htimer⟩ := Prod.mk.inj hs'
  obtain ⟨s₁, hs₁, hs₂⟩ := Option.bind_eq_some_iff.mp hs
  obtain ⟨expiry, hexpiry, -⟩ := h s (by simp [visited, hs₁, hs₂]) ⟨0, hpending⟩
  rw [htimer] at hexpiry
  cases hexpiry

end WmnIot
