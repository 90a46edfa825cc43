import Mathlib

/-! # Fallible calls, polling loops and runs

A call either returns a value or fails. A busy-waiting loop reads one input per iteration until
its body says to stop. A run feeds a list of inputs to a step function, one at a time, and ends
early at a step that does not return. This file collects the rules used to reason about them.

* **`bind_eq_ok`**, **`bind_eq_error`** — a sequence of calls returns if each of them does.
* **`pollLoop`**, **`pollLoop_inv`**, **`pollLoop_clocked`** — a busy-waiting loop, its invariant rule,
  and that of a loop in time.
* **`visited`**, **`taken`**, **`attempted`** — the states a run stands in, the steps it completes
  and the steps it tries.
* **`run_inv`** — the invariant rule for runs.
* **`lastVisited`**, **`pollLoop_last`**, **`pollLoop_eq_ok_iff`**, **`pollLoop_eq_error_iff`** — the
  state a run gets to, and how a loop ends or fails.
* **`forall_visited_iff`**, **`isChain_visited_iff`** — a property holds throughout a run exactly
  if every completed step is a good one.
* **`recorded`**, **`run_recorded`**, **`pollLoop_recorded`** — what the steps of a run record, and
  invariants that speak of it.
* **`forall_attempted_lockstep`**, **`run_lockstep`** — two machines that return from the same steps
  run side by side.
* **`Along`**, **`Tracks`**, **`tracks_iff_along`** — a run refines an abstract machine exactly if
  the abstract run only takes supported steps. -/

namespace Runs

variable {ι σ τ ε : Type*}

/-! ## Fallible calls -/

universe u

variable {α β : Type u}

/-- A sequence of calls returns if the first returns and the rest does from there. -/
theorem bind_eq_ok {x : Except ε α} {f : α → Except ε β} {b : β} :
    x >>= f = .ok b ↔ ∃ a, x = .ok a ∧ f a = .ok b := by
  cases x with
  | error e => exact ⟨fun h => (nomatch h), fun ⟨_, h, _⟩ => (nomatch h)⟩
  | ok a =>
    constructor
    · exact fun h => ⟨a, rfl, h⟩
    · rintro ⟨a', h, hb⟩
      rwa [Except.ok.inj h]

/-- A sequence of calls fails where the first fails, or it returns and the rest fails from there. -/
theorem bind_eq_error {x : Except ε α} {f : α → Except ε β} {e : ε} :
    x >>= f = .error e ↔ x = .error e ∨ ∃ a, x = .ok a ∧ f a = .error e := by
  cases x with
  | error e' =>
    constructor
    · intro h
      exact .inl (congrArg _ (Except.error.inj h))
    · rintro (h | ⟨_, h, -⟩)
      · exact congrArg _ (Except.error.inj h)
      · cases h
  | ok a =>
    constructor
    · exact fun h => .inr ⟨a, rfl, h⟩
    · rintro (h | ⟨a', h, he⟩)
      · cases h
      · rwa [Except.ok.inj h]

theorem map_eq_ok {x : Except ε α} {f : α → β} {b : β} :
    f <$> x = .ok b ↔ ∃ a, x = .ok a ∧ f a = b := by
  cases x with
  | error e => exact ⟨fun h => (nomatch h), fun ⟨_, h, _⟩ => (nomatch h)⟩
  | ok a =>
    constructor
    · exact fun h => ⟨a, rfl, Except.ok.inj h⟩
    · rintro ⟨a', h, hb⟩
      rw [Except.ok.inj h, ← hb]
      rfl

theorem map_eq_error {x : Except ε α} {f : α → β} {e : ε} : f <$> x = .error e ↔ x = .error e := by
  cases x with
  | error e' => exact ⟨fun h => congrArg _ (Except.error.inj h), fun h => congrArg _ (Except.error.inj h)⟩
  | ok a => exact ⟨fun h => (nomatch h), fun h => (nomatch h)⟩

@[simp] theorem ok_bind (a : α) (f : α → Except ε β) : (Except.ok a >>= f) = f a := rfl

@[simp] theorem error_bind (e : ε) (f : α → Except ε β) :
    (Except.error e >>= f) = .error e := rfl

@[simp] theorem throw_eq_error (e : ε) : (throw e : Except ε α) = .error e := rfl

@[simp] theorem pure_eq_ok (a : α) : (pure a : Except ε α) = .ok a := rfl

/-- A call is a step of a run if it returns. -/
theorem toOption_eq_some {x : Except ε α} {a : α} : x.toOption = some a ↔ x = .ok a := by
  cases x with
  | error e => exact ⟨fun h => (nomatch h), fun h => (nomatch h)⟩
  | ok b =>
    constructor
    · exact fun h => congrArg Except.ok (Option.some.inj h)
    · exact fun h => congrArg some (Except.ok.inj h)

/-! ## Polling loops -/

/-- A loop reading one input per iteration. The body returns the new state and whether to go on;
the loop fails with `starved` if the inputs end first. -/
def pollLoop (starved : ε) (body : ι → σ → Except ε (σ × Bool)) : List ι → σ → Except ε σ
  | [], _ => .error starved
  | i :: is, s =>
    match body i s with
    | .error e => .error e
    | .ok (s', true) => pollLoop starved body is s'
    | .ok (s', false) => .ok s'

variable {starved : ε} {body : ι → σ → Except ε (σ × Bool)}

/-- **Invariant rule**: what every iteration that goes on keeps, and every last iteration turns
into `post`, is `post` when the loop returns. -/
theorem pollLoop_inv (inv post : σ → Prop)
    (hgo : ∀ i s s', inv s → body i s = .ok (s', true) → inv s')
    (hend : ∀ i s s', inv s → body i s = .ok (s', false) → post s') (is : List ι) {s s' : σ}
    (hs : inv s) (h : pollLoop starved body is s = .ok s') : post s' := by
  induction is generalizing s with
  | nil => simp [pollLoop] at h
  | cons i is ih =>
    rw [pollLoop] at h
    split at h
    · exact absurd h (by simp)
    · next t ht => exact ih (hgo i s t hs ht) h
    · next t ht =>
      cases h
      exact hend i s _ hs ht

/-- **Frame rule**: what no iteration changes, the loop does not change. -/
theorem pollLoop_frame {β : Type*} {f : σ → β}
    (hbody : ∀ i s s' b, body i s = .ok (s', b) → f s' = f s) (is : List ι) {s s' : σ}
    (h : pollLoop starved body is s = .ok s') : f s' = f s :=
  pollLoop_inv (fun t => f t = f s) (fun t => f t = f s)
    (fun i t t' ht hb => (hbody i t t' true hb).trans ht)
    (fun i t t' ht hb => (hbody i t t' false hb).trans ht) is rfl h

/-- The states in which the iterations of a loop begin; the last one may lack its input. -/
def iterations (body : ι → σ → Except ε (σ × Bool)) : List ι → σ → List σ
  | [], s => [s]
  | i :: is, s =>
    s :: match body i s with
      | .ok (s', true) => iterations body is s'
      | _ => []

/-- What every iteration that goes on keeps holds whenever an iteration begins. -/
theorem iterations_inv (inv : σ → Prop)
    (hgo : ∀ i s s', inv s → body i s = .ok (s', true) → inv s') (is : List ι) {s : σ} (hs : inv s) :
    ∀ t ∈ iterations body is s, inv t := by
  induction is generalizing s with
  | nil =>
    intro t ht
    rw [List.mem_singleton.mp ht]
    exact hs
  | cons i is ih =>
    intro t ht
    rcases List.mem_cons.mp ht with rfl | ht
    · exact hs
    · split at ht
      · next s' hbody => exact ih (hgo i s s' hs hbody) t ht
      · cases ht

/-! ## Runs -/

/-- The states a run stands in: before each of its inputs and after the last one. -/
def visited (step : ι → σ → Option σ) : List ι → σ → List σ
  | [], s => [s]
  | i :: is, s => s :: (step i s).elim [] (visited step is)

/-- The steps a run completes, each as its input and the state it starts in. -/
def taken (step : ι → σ → Option σ) : List ι → σ → List (ι × σ)
  | [], _ => []
  | i :: is, s => (step i s).elim [] fun s' => (i, s) :: taken step is s'

variable {step : ι → σ → Option σ} {good : ι → σ → Prop}

/-- A run stands in its first state. -/
theorem mem_visited_self (is : List ι) (s : σ) : s ∈ visited step is s := by
  cases is <;> simp [visited]

/-- What every step keeps holds in every state a run stands in. -/
theorem visited_inv (inv : σ → Prop) (hinv : ∀ i s s', inv s → step i s = some s' → inv s')
    (is : List ι) {s : σ} (hs : inv s) : ∀ t ∈ visited step is s, inv t := by
  induction is generalizing s with
  | nil =>
    intro t ht
    rw [List.mem_singleton.mp ht]
    exact hs
  | cons i is ih =>
    intro t ht
    rcases List.mem_cons.mp ht with rfl | ht
    · exact hs
    · cases hstep : step i s with
      | none => simp [hstep] at ht
      | some s' =>
        rw [hstep] at ht
        exact ih (hinv i s s' hs hstep) t ht

/-- The completed steps of a run return, from states in which an invariant of the steps holds, if
these are good. -/
theorem forall_taken_good (good : ι → σ → Prop) (inv : σ → Prop)
    (hinv : ∀ i s s', inv s → good i s → step i s = some s' → inv s') (is : List ι) {s : σ}
    (hs : inv s) (hgood : ∀ t ∈ taken step is s, good t.1 t.2) :
    ∀ t ∈ taken step is s, inv t.2 ∧ ∃ s', step t.1 t.2 = some s' := by
  induction is generalizing s with
  | nil => simp [taken]
  | cons i is ih =>
    cases hstep : step i s with
    | none => simp [taken, hstep]
    | some s' =>
      simp only [taken, hstep, Option.elim_some, List.forall_mem_cons] at hgood ⊢
      exact ⟨⟨hs, s', rfl⟩, ih (hinv i s s' hs hgood.1 hstep) hgood.2⟩

/-- The completed steps of a run return, from states in which an invariant of the steps holds. -/
theorem forall_taken (inv : σ → Prop) (hinv : ∀ i s s', inv s → step i s = some s' → inv s')
    (is : List ι) {s : σ} (hs : inv s) :
    ∀ t ∈ taken step is s, inv t.2 ∧ ∃ s', step t.1 t.2 = some s' :=
  forall_taken_good (fun _ _ => True) inv (fun i s s' hs _ => hinv i s s' hs) is hs
    fun _ _ => trivial

/-- **Invariant rule**: what the step of every input keeps holds after a run. -/
theorem run_inv_of_mem (inv : σ → Prop) (is : List ι)
    (hinv : ∀ i ∈ is, ∀ s s', inv s → step i s = some s' → inv s') {s s' : σ} (hs : inv s)
    (h : is.foldlM (fun t i => step i t) s = some s') : inv s' := by
  induction is generalizing s with
  | nil =>
    obtain rfl : s = s' := Option.some.inj h
    exact hs
  | cons i is ih =>
    rw [List.foldlM_cons] at h
    obtain ⟨t, hstep, h⟩ := Option.bind_eq_some_iff.mp h
    exact ih (fun j hj => hinv j (List.mem_cons_of_mem i hj))
      (hinv i List.mem_cons_self s t hs hstep) h

/-- What every step keeps holds after a run. -/
theorem run_inv (inv : σ → Prop) (hinv : ∀ i s s', inv s → step i s = some s' → inv s')
    (is : List ι) {s s' : σ} (hs : inv s) (h : is.foldlM (fun t i => step i t) s = some s') :
    inv s' :=
  run_inv_of_mem inv is (fun i _ => hinv i) hs h

/-- Steps that are repeated take an invariant from each round to the next. -/
theorem foldlM_rounds (round : List ι) (inv : ℕ → σ → Prop) (count : ℕ)
    (hround : ∀ m < count, ∀ s, inv m s →
      ∃ s', round.foldlM (fun s i => step i s) s = some s' ∧ inv (m + 1) s') {s : σ} (hs : inv 0 s) :
    ∃ s', (List.replicate count round).flatten.foldlM (fun s i => step i s) s = some s' ∧
      inv count s' := by
  induction count with
  | zero => exact ⟨s, rfl, hs⟩
  | succ m ih =>
    obtain ⟨t, hsteps, ht⟩ := ih fun m' hm' => hround m' (by omega)
    obtain ⟨s', hlast, hs'⟩ := hround m (Nat.lt_succ_self m) t ht
    refine ⟨s', ?_, hs'⟩
    rw [List.replicate_succ', List.flatten_append, List.foldlM_append, hsteps]
    simpa using hlast

/-- The steps a run attempts: the ones it completes, and the first one that does not return. -/
def attempted (step : ι → σ → Option σ) : List ι → σ → List (ι × σ)
  | [], _ => []
  | i :: is, s => (i, s) :: (step i s).elim [] (attempted step is)

/-- After steps that are all taken, a run attempts the next one. -/
theorem mem_attempted_append {i : ι} (is rest : List ι) {s s' : σ}
    (h : is.foldlM (fun s i => step i s) s = some s') :
    (i, s') ∈ attempted step (is ++ i :: rest) s := by
  induction is generalizing s with
  | nil =>
    obtain rfl := Option.some.inj h
    exact List.mem_cons_self
  | cons j is ih =>
    rw [List.foldlM_cons] at h
    obtain ⟨t, hstep, hrest⟩ := Option.bind_eq_some_iff.mp h
    rw [List.cons_append, attempted, hstep]
    exact List.mem_cons_of_mem _ (ih hrest)

/-- A run that gets through returns from all the steps it attempts. -/
theorem forall_attempted_of_run (is : List ι) {s s' : σ}
    (h : is.foldlM (fun s i => step i s) s = some s') :
    ∀ t ∈ attempted step is s, ∃ s', step t.1 t.2 = some s' := by
  induction is generalizing s with
  | nil => simp [attempted]
  | cons i is ih =>
    rw [List.foldlM_cons] at h
    obtain ⟨t, hstep, hrest⟩ := Option.bind_eq_some_iff.mp h
    rw [attempted, hstep, List.forall_mem_cons]
    exact ⟨⟨t, hstep⟩, ih hrest⟩

/-- **Good steps exactly**: if good steps keep an invariant under which the good steps are those
with a property, the steps a run attempts have the property exactly if they are good. -/
theorem forall_attempted_iff (inv : σ → Prop) {prop : ι → σ → Prop} (is : List ι)
    (hinv : ∀ i ∈ is, ∀ s s', inv s → good i s → step i s = some s' → inv s')
    (hiff : ∀ i ∈ is, ∀ s, inv s → (prop i s ↔ good i s)) {s : σ} (hs : inv s) :
    (∀ t ∈ attempted step is s, prop t.1 t.2) ↔ ∀ t ∈ attempted step is s, good t.1 t.2 := by
  induction is generalizing s with
  | nil => simp [attempted]
  | cons i is ih =>
    have hi : i ∈ i :: is := List.mem_cons_self
    simp only [attempted, List.forall_mem_cons]
    rw [hiff i hi s hs]
    -- only a good step takes the invariant to the rest of the run
    refine and_congr_right fun hgood => ?_
    cases hstep : step i s with
    | none => simp
    | some s' =>
      exact ih (fun j hj => hinv j (List.mem_cons_of_mem i hj))
        (fun j hj => hiff j (List.mem_cons_of_mem i hj)) (hinv i hi s s' hs hgood hstep)

/-- An iteration that goes on is a step. -/
def loopStep (body : ι → σ → Except ε (σ × Bool)) (i : ι) (s : σ) : Option σ :=
  match body i s with
  | .ok (s', true) => some s'
  | _ => none

theorem loopStep_eq_some {i : ι} {s s' : σ} :
    loopStep body i s = some s' ↔ body i s = .ok (s', true) := by
  unfold loopStep
  cases body i s with
  | error e => simp
  | ok r =>
    obtain ⟨t, b⟩ := r
    cases b <;> simp

/-- **How a loop fails**: with an error of one of the iterations it makes, or for want of inputs. -/
theorem pollLoop_ne_error_iff {e : ε} (he : starved ≠ e) (is : List ι) (s : σ) :
    pollLoop starved body is s ≠ .error e ↔
      ∀ t ∈ attempted (loopStep body) is s, body t.1 t.2 ≠ .error e := by
  induction is generalizing s with
  | nil => simpa [pollLoop, attempted] using he
  | cons i is ih =>
    rw [pollLoop, attempted, List.forall_mem_cons]
    cases hbody : body i s with
    | error e' => simp [loopStep, hbody]
    | ok r =>
      obtain ⟨s', _ | _⟩ := r
      · simp [loopStep, hbody]
      · simp [loopStep, hbody, ih s']

/-- What the good iterations keep holds when a loop that makes only good ones returns. -/
theorem pollLoop_good (inv : σ → Prop) (is : List ι)
    (hbody : ∀ i ∈ is, ∀ s s' b, inv s → good i s → body i s = .ok (s', b) → inv s') {s s' : σ}
    (hgood : ∀ t ∈ attempted (loopStep body) is s, good t.1 t.2) (hs : inv s)
    (h : pollLoop starved body is s = .ok s') : inv s' := by
  induction is generalizing s with
  | nil => exact nomatch h
  | cons i is ih =>
    simp only [attempted, List.forall_mem_cons] at hgood
    have hi := hbody i List.mem_cons_self s
    rw [pollLoop] at h
    split at h
    · exact nomatch h
    · next t ht =>
      have hrest := hgood.2
      -- the iteration goes on, and what is attempted then is attempted by the loop
      rw [loopStep_eq_some.mpr ht] at hrest
      exact ih (fun j hj => hbody j (List.mem_cons_of_mem i hj)) hrest
        (hi t true hs hgood.1 ht) h
    · next t ht =>
      obtain rfl : t = s' := Except.ok.inj h
      exact hi t false hs hgood.1 ht

/-- **Invariant rule for loops in time**: every iteration leaves the clock at the moment of its input,
and each moment is related to the next one; then the iterations may take it that the clock is related
to the moment of the input. -/
theorem pollLoop_clocked {α : Type*} {r : α → α → Prop} (clock : σ → α) (moment : ι → α)
    (inv post : σ → Prop) (hclock : ∀ i s s', body i s = .ok (s', true) → clock s' = moment i)
    (hgo : ∀ i s s', inv s → r (clock s) (moment i) → body i s = .ok (s', true) → inv s')
    (hend : ∀ i s s', inv s → r (clock s) (moment i) → body i s = .ok (s', false) → post s')
    (is : List ι) {s s' : σ} (htime : (clock s :: is.map moment).IsChain r) (hs : inv s)
    (h : pollLoop starved body is s = .ok s') : post s' := by
  induction is generalizing s with
  | nil => exact nomatch h
  | cons i is ih =>
    rw [List.map_cons, List.isChain_cons_cons] at htime
    obtain ⟨hfirst, hrest⟩ := htime
    rw [pollLoop] at h
    split at h
    · exact nomatch h
    · next t ht =>
      -- the clock stands at the moment of the input that was read
      rw [← hclock i s t ht] at hrest
      exact ih hrest (hgo i s t hs hfirst ht) h
    · next t ht =>
      obtain rfl : t = s' := Except.ok.inj h
      exact hend i s t hs hfirst ht

/-- The state a run gets to: the one after its last input, or before the first input for which
there is no step. -/
def lastVisited (step : ι → σ → Option σ) : List ι → σ → σ
  | [], s => s
  | i :: is, s => (step i s).elim s (lastVisited step is)

/-- The run stands in the state it gets to. -/
theorem lastVisited_mem_visited (is : List ι) (s : σ) :
    lastVisited step is s ∈ visited step is s := by
  induction is generalizing s with
  | nil => exact List.mem_singleton.mpr rfl
  | cons i is ih =>
    rw [lastVisited, visited]
    cases step i s with
    | none => exact List.mem_cons_self
    | some s' => exact List.mem_cons_of_mem s (ih s')

/-- What the steps keep holds where the run gets to. -/
theorem lastVisited_inv (inv : σ → Prop) (hinv : ∀ i s s', inv s → step i s = some s' → inv s')
    (is : List ι) {s : σ} (hs : inv s) : inv (lastVisited step is s) := by
  induction is generalizing s with
  | nil => exact hs
  | cons i is ih =>
    rw [lastVisited]
    cases hstep : step i s with
    | none => exact hs
    | some s' => exact ih (hinv i s s' hs hstep)

/-- **How a loop ends**: the iterations that go on lead to a state in which the last one is made. -/
theorem pollLoop_last (hgo : ∀ i s s', step i s = some s' ↔ body i s = .ok (s', true))
    (is : List ι) {s s' : σ} (h : pollLoop starved body is s = .ok s') :
    ∃ i ∈ is, body i (lastVisited step is s) = .ok (s', false) := by
  induction is generalizing s with
  | nil => exact nomatch h
  | cons i is ih =>
    rw [pollLoop] at h
    split at h
    · exact nomatch h
    · next t ht =>
      obtain ⟨j, hj, hlast⟩ := ih h
      refine ⟨j, List.mem_cons_of_mem i hj, ?_⟩
      rwa [lastVisited, (hgo i s t).mpr ht]
    · next t ht =>
      obtain rfl : t = s' := Except.ok.inj h
      -- an iteration that ends the loop is not a step
      have hstop : step i s = none := by
        cases hstep : step i s with
        | none => rfl
        | some u =>
          rw [(hgo i s u).mp hstep] at ht
          cases ht
      refine ⟨i, List.mem_cons_self, ?_⟩
      rwa [lastVisited, hstop]

/-- **A loop returns** exactly if some iterations go on and the next one ends it. -/
theorem pollLoop_eq_ok_iff (is : List ι) {s s' : σ} :
    pollLoop starved body is s = .ok s' ↔ ∃ pre i rest t, is = pre ++ i :: rest ∧
      pre.foldlM (fun s i => loopStep body i s) s = some t ∧ body i t = .ok (s', false) := by
  induction is generalizing s with
  | nil => simp [pollLoop]
  | cons i is ih =>
    rw [pollLoop]
    constructor
    · intro h
      split at h
      · cases h
      · next t ht =>
        obtain ⟨pre, j, rest, u, rfl, hpre, hlast⟩ := ih.mp h
        refine ⟨i :: pre, j, rest, u, rfl, ?_, hlast⟩
        rw [List.foldlM_cons, loopStep_eq_some.mpr ht]
        exact hpre
      · next t ht =>
        cases h
        exact ⟨[], i, is, s, rfl, rfl, ht⟩
    · rintro ⟨pre, j, rest, u, his, hpre, hlast⟩
      -- the first iteration ends the loop if none goes on before, and is the first of these otherwise
      cases pre with
      | nil =>
        obtain ⟨rfl, rfl⟩ := List.cons.inj his
        obtain rfl := Option.some.inj hpre
        rw [hlast]
      | cons k pre =>
        obtain ⟨rfl, rfl⟩ := List.cons.inj his
        rw [List.foldlM_cons] at hpre
        obtain ⟨t, ht, hpre⟩ := Option.bind_eq_some_iff.mp hpre
        rw [loopStep_eq_some.mp ht]
        exact ih.mpr ⟨pre, j, rest, u, rfl, hpre, hlast⟩

/-- **A loop fails** with an error of its own exactly if some iterations go on and the next one fails
with it. -/
theorem pollLoop_eq_error_iff {e : ε} (he : starved ≠ e) (is : List ι) {s : σ} :
    pollLoop starved body is s = .error e ↔ ∃ pre i rest t, is = pre ++ i :: rest ∧
      pre.foldlM (fun s i => loopStep body i s) s = some t ∧ body i t = .error e := by
  induction is generalizing s with
  | nil => simpa [pollLoop] using he
  | cons i is ih =>
    rw [pollLoop]
    constructor
    · intro h
      split at h
      · next e' hbody =>
        cases h
        exact ⟨[], i, is, s, rfl, rfl, hbody⟩
      · next t ht =>
        obtain ⟨pre, j, rest, u, rfl, hpre, hlast⟩ := ih.mp h
        refine ⟨i :: pre, j, rest, u, rfl, ?_, hlast⟩
        rw [List.foldlM_cons, loopStep_eq_some.mpr ht]
        exact hpre
      · cases h
    · rintro ⟨pre, j, rest, u, his, hpre, hlast⟩
      cases pre with
      | nil =>
        obtain ⟨rfl, rfl⟩ := List.cons.inj his
        obtain rfl := Option.some.inj hpre
        rw [hlast]
      | cons k pre =>
        obtain ⟨rfl, rfl⟩ := List.cons.inj his
        rw [List.foldlM_cons] at hpre
        obtain ⟨t, ht, hpre⟩ := Option.bind_eq_some_iff.mp hpre
        rw [loopStep_eq_some.mp ht]
        exact ih.mpr ⟨pre, j, rest, u, rfl, hpre, hlast⟩

/-- A property of states that good steps keep and other steps break holds throughout a run exactly
if the run only completes good steps. -/
theorem forall_visited_iff (inv : σ → Prop) {prop : σ → Prop} (hprop : ∀ s, inv s → prop s)
    (hgood : ∀ i s s', inv s → step i s = some s' → good i s → inv s')
    (hbad : ∀ i s s', inv s → step i s = some s' → ¬ good i s → ¬ prop s')
    (is : List ι) {s : σ} (hs : inv s) :
    (∀ x ∈ visited step is s, prop x) ↔ ∀ t ∈ taken step is s, good t.1 t.2 := by
  induction is generalizing s with
  | nil => simpa [visited, taken] using hprop s hs
  | cons i is ih =>
    cases hstep : step i s with
    | none => simpa [visited, taken, hstep] using hprop s hs
    | some s' =>
      simp only [visited, taken, hstep, Option.elim_some, List.forall_mem_cons]
      by_cases hg : good i s
      · rw [ih (hgood i s s' hs hstep hg)]
        exact ⟨fun h => ⟨hg, h.2⟩, fun h => ⟨hprop s hs, h.2⟩⟩
      · refine ⟨fun h => ?_, fun h => absurd h.1 hg⟩
        -- the run stands in the state to which the bad step leads
        exact absurd (h.2 s' (mem_visited_self is s')) (hbad i s s' hs hstep hg)

/-- A relation of neighbours that good steps establish and other steps break holds along a run
exactly if the run only completes good steps. -/
theorem isChain_visited_iff (inv : σ → Prop) {rel : σ → σ → Prop}
    (hgood : ∀ i s s', inv s → step i s = some s' → good i s → rel s s' ∧ inv s')
    (hbad : ∀ i s s', inv s → step i s = some s' → ¬ good i s → ¬ rel s s')
    (is : List ι) {s : σ} (hs : inv s) :
    (visited step is s).IsChain rel ↔ ∀ t ∈ taken step is s, good t.1 t.2 := by
  induction is generalizing s with
  | nil => simp [visited, taken]
  | cons i is ih =>
    cases hstep : step i s with
    | none => simp [visited, taken, hstep]
    | some s' =>
      -- the run goes on from `s'`, so the first two states are `s` and `s'`
      obtain ⟨l, hl⟩ : ∃ l, visited step is s' = s' :: l := by
        cases is <;> exact ⟨_, rfl⟩
      simp only [visited, taken, hstep, Option.elim_some, List.forall_mem_cons]
      by_cases hg : good i s
      · obtain ⟨hrel, hs'⟩ := hgood i s s' hs hstep hg
        rw [← ih hs', hl, List.isChain_cons_cons]
        exact ⟨fun h => ⟨hg, h.2⟩, fun h => ⟨hrel, h.2⟩⟩
      · rw [hl, List.isChain_cons_cons]
        exact ⟨fun h => absurd h.1 (hbad i s s' hs hstep hg), fun h => absurd h.1 hg⟩

/-! ## Runs with a record -/

section

variable {α : Type*} {record : ι → σ → List α}

/-- What the completed steps of a run record, in order. -/
def recorded (record : ι → σ → List α) (step : ι → σ → Option σ) (is : List ι) (s : σ) : List α :=
  (taken step is s).flatMap fun t => record t.1 t.2

/-- What the iterations of a loop record, in order, up to the one that ends it. -/
def loopRecorded (record : ι → σ → List α) (body : ι → σ → Except ε (σ × Bool)) (is : List ι)
    (s : σ) : List α :=
  (attempted (loopStep body) is s).flatMap fun t => record t.1 t.2

/-- What every good step keeps, given what it records, holds after a run that completes only good
ones of all that the run has recorded. -/
theorem run_recorded_good (good : ι → σ → Prop) (inv : σ → List α → Prop)
    (hinv : ∀ i s s' l, inv s l → good i s → step i s = some s' → inv s' (l ++ record i s))
    (is : List ι) {s s' : σ} {l : List α} (hs : inv s l)
    (hgood : ∀ t ∈ taken step is s, good t.1 t.2)
    (h : is.foldlM (fun s i => step i s) s = some s') :
    inv s' (l ++ recorded record step is s) := by
  induction is generalizing s l with
  | nil =>
    obtain rfl := Option.some.inj h
    rw [recorded, taken, List.flatMap_nil, List.append_nil]
    exact hs
  | cons i is ih =>
    rw [List.foldlM_cons] at h
    obtain ⟨t, hstep, hrest⟩ := Option.bind_eq_some_iff.mp h
    simp only [taken, hstep, Option.elim_some, List.forall_mem_cons] at hgood
    have ht := ih (hinv i s t l hs hgood.1 hstep) hgood.2 hrest
    rw [List.append_assoc] at ht
    rwa [recorded, taken, hstep, Option.elim_some, List.flatMap_cons]

/-- **Invariant rule with a record**: what every step keeps, given what it records, holds after a
run of all that the run has recorded. -/
theorem run_recorded (inv : σ → List α → Prop)
    (hinv : ∀ i s s' l, inv s l → step i s = some s' → inv s' (l ++ record i s)) (is : List ι)
    {s s' : σ} {l : List α} (hs : inv s l) (h : is.foldlM (fun s i => step i s) s = some s') :
    inv s' (l ++ recorded record step is s) :=
  run_recorded_good (fun _ _ => True) inv (fun i s s' l hs _ => hinv i s s' l hs) is hs
    (fun _ _ => trivial) h

/-- **Invariant rule for loops with a record**: what every iteration that goes on keeps, and every
last iteration turns into `post`, given what they record. -/
theorem pollLoop_recorded (inv post : σ → List α → Prop)
    (hgo : ∀ i s s' l, inv s l → body i s = .ok (s', true) → inv s' (l ++ record i s))
    (hend : ∀ i s s' l, inv s l → body i s = .ok (s', false) → post s' (l ++ record i s))
    (is : List ι) {s s' : σ} {l : List α} (hs : inv s l)
    (h : pollLoop starved body is s = .ok s') : post s' (l ++ loopRecorded record body is s) := by
  induction is generalizing s l with
  | nil => exact nomatch h
  | cons i is ih =>
    rw [pollLoop] at h
    rw [loopRecorded, attempted, List.flatMap_cons]
    split at h
    · exact nomatch h
    · next t ht =>
      have hrest := ih (hgo i s t l hs ht) h
      rw [List.append_assoc] at hrest
      rwa [loopStep_eq_some.mpr ht]
    · next t ht =>
      obtain rfl : t = s' := Except.ok.inj h
      -- the iteration that ends the loop is the last one to be recorded
      have hstop : loopStep body i s = none := by
        unfold loopStep
        rw [ht]
      rw [hstop, Option.elim_none, List.flatMap_nil, List.append_nil]
      exact hend i s t l hs ht

end

/-! ## Two machines side by side -/

section

variable {next : ι → τ → Option τ} {inv : σ → τ → Prop}

/-- **Lockstep rule**: if two machines return from the same steps, with related states, and a property
of the one is a property of the other in related states, then the steps attempted in a run of the one
have it exactly if those of the other do. -/
theorem forall_attempted_lockstep {prop : ι → σ → Prop} {good : ι → τ → Prop}
    (hstep : ∀ i s t, inv s t → Option.Rel inv (step i s) (next i t))
    (hiff : ∀ i s t, inv s t → (prop i s ↔ good i t)) (is : List ι) {s : σ} {t : τ}
    (hst : inv s t) :
    (∀ x ∈ attempted step is s, prop x.1 x.2) ↔ ∀ x ∈ attempted next is t, good x.1 x.2 := by
  induction is generalizing s t with
  | nil => simp [attempted]
  | cons i is ih =>
    simp only [attempted, List.forall_mem_cons]
    rw [hiff i s t hst]
    refine and_congr_right fun _ => ?_
    have hrel := hstep i s t hst
    generalize step i s = s₁ at hrel
    generalize next i t = t₁ at hrel
    cases hrel with
    | none => simp
    | some h => exact ih h

/-- Of two such machines one gets through exactly if the other does. -/
theorem run_lockstep (hstep : ∀ i s t, inv s t → Option.Rel inv (step i s) (next i t))
    (is : List ι) {s : σ} {t : τ} (hst : inv s t) :
    (∃ s', is.foldlM (fun s i => step i s) s = some s') ↔
      ∃ t', is.foldlM (fun t i => next i t) t = some t' := by
  induction is generalizing s t with
  | nil => exact iff_of_true ⟨s, rfl⟩ ⟨t, rfl⟩
  | cons i is ih =>
    simp only [List.foldlM_cons]
    have hrel := hstep i s t hst
    generalize step i s = s₁ at hrel
    generalize next i t = t₁ at hrel
    cases hrel with
    | none => simp
    | some h => exact ih h

end

/-! ## Refinement along a run -/

/-- Every input of a run of the abstract machine `next` meets `p` where it is taken. -/
def Along (next : ι → τ → τ) (p : ι → τ → Prop) : List ι → τ → Prop
  | [], _ => True
  | i :: is, t => p i t ∧ Along next p is (next i t)

/-- What the steps that meet `p` keep holds after a run of such steps. -/
theorem Along.inv {next : ι → τ → τ} {p : ι → τ → Prop} (inv : τ → Prop)
    (hinv : ∀ i t, inv t → p i t → inv (next i t)) {is : List ι} {t : τ} (h : Along next p is t)
    (ht : inv t) : inv (is.foldl (fun t i => next i t) t) := by
  induction is generalizing t with
  | nil => exact ht
  | cons i is ih => exact ih h.2 (hinv i t ht h.1)

/-- Every step of a run returns, and the states of the run refine those of the abstract one. -/
def Tracks (step : ι → σ → Option σ) (next : ι → τ → τ) (refines : σ → τ → Prop) :
    List ι → σ → τ → Prop
  | [], s, t => refines s t
  | i :: is, s, t => refines s t ∧ ∃ s', step i s = some s' ∧ Tracks step next refines is s' (next i t)

variable {next : ι → τ → τ} {refines : σ → τ → Prop}

/-- A run that tracks the abstract machine starts in a state that refines the abstract one. -/
theorem Tracks.head {is : List ι} {s : σ} {t : τ} (h : Tracks step next refines is s t) :
    refines s t := by
  cases is with
  | nil => exact h
  | cons i is => exact h.1

/-- A run that tracks the abstract machine returns from all its steps and ends in a state that
refines the abstract one. -/
theorem Tracks.last {is : List ι} {s : σ} {t : τ} (h : Tracks step next refines is s t) :
    ∃ s', is.foldlM (fun s i => step i s) s = some s' ∧
      refines s' (is.foldl (fun t i => next i t) t) := by
  induction is generalizing s t with
  | nil => exact ⟨s, rfl, h⟩
  | cons i is ih =>
    obtain ⟨-, s', hstep, h⟩ := h
    simpa [List.foldlM_cons, hstep] using ih h

/-- **Exact refinement**: if supported steps return and keep the invariant that gives the
refinement, and unsupported ones fail or break the refinement, then a legal run tracks the abstract
machine exactly if all its steps are supported. -/
theorem tracks_iff_along (inv : σ → τ → Prop) {legal supported : ι → τ → Prop}
    (hrefines : ∀ s t, inv s t → refines s t)
    (hgood : ∀ i s t, inv s t → legal i t → supported i t →
      ∃ s', step i s = some s' ∧ inv s' (next i t))
    (hbad : ∀ i s s' t, inv s t → legal i t → ¬ supported i t → step i s = some s' →
      ¬ refines s' (next i t))
    (is : List ι) {s : σ} {t : τ} (hs : inv s t) (hlegal : Along next legal is t) :
    Tracks step next refines is s t ↔ Along next supported is t := by
  induction is generalizing s t with
  | nil => exact ⟨fun _ => trivial, fun _ => hrefines s t hs⟩
  | cons i is ih =>
    constructor
    · rintro ⟨-, s', hstep, h⟩
      by_cases hsup : supported i t
      · obtain ⟨s'', hstep', hinv⟩ := hgood i s t hs hlegal.1 hsup
        obtain rfl : s' = s'' := Option.some.inj (hstep.symm.trans hstep')
        exact ⟨hsup, (ih hinv hlegal.2).mp h⟩
      · exact absurd h.head (hbad i s s' t hs hlegal.1 hsup hstep)
    · rintro ⟨hsup, h⟩
      obtain ⟨s', hstep, hinv⟩ := hgood i s t hs hlegal.1 hsup
      exact ⟨hrefines s t hs, s', hstep, (ih hinv hlegal.2).mpr h⟩

end Runs
