import Mathlib
import WmnIot.Foundations.Runs

/-! # Networks of parties

Parties that take steps of their own and share nothing but what they send. A party may hear, in a
step, what some party has sent before, any number of times and in any order, or not at all. What
holds of every party alone, as long as what it hears is good, then holds of all of them together.

* **`Party`** — a party: its steps, what it hears in them and what it has sent.
* **`Party.netStep`** — one party takes a step.
* **`Party.net_inv`** — the invariant rule.
* **`Party.netStep_one`** — a party takes steps while the others rest. -/

namespace Runs

variable {ι σ μ M : Type*}

/-! ## Runs that complete certain steps -/

/-- What the steps that a run completes keep holds after the run. -/
theorem run_inv_of_taken {step : μ → σ → Option σ} (inv : σ → Prop) (fits : μ → σ → Prop)
    (hinv : ∀ i s s', inv s → fits i s → step i s = some s' → inv s') (is : List μ) {s s' : σ}
    (hs : inv s) (hfits : ∀ t ∈ taken step is s, fits t.1 t.2)
    (h : is.foldlM (fun s i => step i s) s = some s') : inv s' := by
  induction is generalizing s with
  | nil =>
    obtain rfl := Option.some.inj h
    exact hs
  | cons i is ih =>
    rw [List.foldlM_cons] at h
    obtain ⟨t, hstep, hrest⟩ := Option.bind_eq_some_iff.mp h
    simp only [taken, hstep, Option.elim_some, List.forall_mem_cons] at hfits
    exact ih (hinv i s t hs hfits.1 hstep) hfits.2 hrest

/-! ## Parties -/

/-- A party: what it does on an input, what it hears in doing so, and what it has sent. -/
structure Party (σ μ M : Type*) where
  step : μ → σ → Option σ
  heard : μ → Set M
  sent : σ → Set M

namespace Party

variable {P : ι → Party σ μ M}

/-- What is on the air: what some party has sent. -/
def onAir (P : ι → Party σ μ M) (net : ι → σ) : Set M :=
  ⋃ i, (P i).sent (net i)

theorem mem_onAir {net : ι → σ} {m : M} : m ∈ onAir P net ↔ ∃ i, m ∈ (P i).sent (net i) :=
  Set.mem_iUnion

section

variable [DecidableEq ι]

open Classical in
/-- One party of the network takes a step, in which it hears what is on the air. -/
noncomputable def netStep (P : ι → Party σ μ M) (mv : ι × μ) (net : ι → σ) : Option (ι → σ) :=
  if (P mv.1).heard mv.2 ⊆ onAir P net then
    ((P mv.1).step mv.2 (net mv.1)).map (Function.update net mv.1)
  else none

theorem netStep_eq_some {mv : ι × μ} {net net' : ι → σ} :
    netStep P mv net = some net' ↔ (P mv.1).heard mv.2 ⊆ onAir P net ∧
      ∃ s, (P mv.1).step mv.2 (net mv.1) = some s ∧ net' = Function.update net mv.1 s := by
  unfold netStep
  split
  · next hheard => simp [hheard, eq_comm]
  · next hheard => simp [hheard]

/-- **Invariant rule for networks**: what every party keeps in its steps, as long as what it hears is
good, holds of all parties, if the invariant says that what a party has sent is good. The steps may
be restricted to those that fit. -/
theorem net_inv (inv : σ → Prop) (good : Set M) (fits : μ → σ → Prop)
    (hsent : ∀ i s, inv s → (P i).sent s ⊆ good)
    (hstep : ∀ i mv s s', inv s → fits mv s → (P i).heard mv ⊆ good → (P i).step mv s = some s' →
      inv s')
    (moves : List (ι × μ)) {net net' : ι → σ} (hnet : ∀ i, inv (net i))
    (hfits : ∀ t ∈ taken (netStep P) moves net, fits t.1.2 (t.2 t.1.1))
    (h : moves.foldlM (fun net mv => netStep P mv net) net = some net') : ∀ i, inv (net' i) := by
  refine run_inv_of_taken (fun net => ∀ i, inv (net i)) (fun mv net => fits mv.2 (net mv.1)) ?_ moves
    hnet hfits h
  intro mv net net' hinv hfit hmove i
  obtain ⟨hheard, s, hs, rfl⟩ := netStep_eq_some.mp hmove
  have hgood : (P mv.1).heard mv.2 ⊆ good := by
    intro m hm
    obtain ⟨j, hj⟩ := mem_onAir.mp (hheard hm)
    exact hsent j _ (hinv j) hj
  rcases eq_or_ne i mv.1 with rfl | hi
  · rw [Function.update_self]
    exact hstep mv.1 mv.2 _ s (hinv _) hfit hgood hs
  · rw [Function.update_of_ne hi]
    exact hinv i

/-- **One party takes steps** while the others rest, if it hears what these have sent. -/
theorem netStep_one {i : ι} (mvs : List μ) {net : ι → σ}
    (hheard : ∀ mv ∈ mvs, ∀ m ∈ (P i).heard mv, ∃ j, j ≠ i ∧ m ∈ (P j).sent (net j)) {s : σ}
    (h : mvs.foldlM (fun s mv => (P i).step mv s) (net i) = some s) :
    (mvs.map fun mv => (i, mv)).foldlM (fun net mv => netStep P mv net) net =
      some (Function.update net i s) := by
  induction mvs generalizing net with
  | nil =>
    obtain rfl := Option.some.inj h
    rw [Function.update_eq_self]
    rfl
  | cons mv mvs ih =>
    rw [List.foldlM_cons] at h
    obtain ⟨t, ht, hrest⟩ := Option.bind_eq_some_iff.mp h
    have hfirst : netStep P (i, mv) net = some (Function.update net i t) := by
      refine netStep_eq_some.mpr ⟨fun m hm => ?_, t, ht, rfl⟩
      obtain ⟨j, -, hj⟩ := hheard mv List.mem_cons_self m hm
      exact mem_onAir.mpr ⟨j, hj⟩
    -- the others have sent the same after the step
    have hothers : ∀ mv' ∈ mvs, ∀ m ∈ (P i).heard mv',
        ∃ j, j ≠ i ∧ m ∈ (P j).sent (Function.update net i t j) := by
      intro mv' hmv' m hm
      obtain ⟨j, hji, hj⟩ := hheard mv' (List.mem_cons_of_mem _ hmv') m hm
      exact ⟨j, hji, by rwa [Function.update_of_ne hji]⟩
    rw [List.map_cons, List.foldlM_cons, hfirst]
    refine (ih hothers ?_).trans ?_
    · rwa [Function.update_self]
    · rw [Function.update_idem]

/-- Parties that start alike and hear nothing run one after the other, each alone. -/
theorem netStep_each_alone (mvs : List μ) (hquiet : ∀ i, ∀ mv ∈ mvs, (P i).heard mv = ∅) {s t : σ}
    (h : ∀ i, mvs.foldlM (fun s mv => (P i).step mv s) s = some t) {l : List ι} (hl : l.Nodup)
    {net : ι → σ} (hnet : ∀ i ∈ l, net i = s) :
    (l.flatMap fun i => mvs.map fun mv => (i, mv)).foldlM (fun net mv => netStep P mv net) net =
      some fun i => if i ∈ l then t else net i := by
  induction l generalizing net with
  | nil => simp
  | cons i l ih =>
    obtain ⟨hi, hl⟩ := List.nodup_cons.mp hl
    have hfirst : mvs.foldlM (fun s mv => (P i).step mv s) (net i) = some t := by
      rw [hnet i List.mem_cons_self]
      exact h i
    have hheard : ∀ mv ∈ mvs, ∀ m ∈ (P i).heard mv, ∃ j, j ≠ i ∧ m ∈ (P j).sent (net j) := by
      intro mv hmv m hm
      rw [hquiet i mv hmv] at hm
      exact absurd hm (Set.notMem_empty m)
    rw [List.flatMap_cons, List.foldlM_append, netStep_one mvs hheard hfirst]
    -- the processes that are still to come have not moved
    have hrest : ∀ j ∈ l, Function.update net i t j = s := by
      intro j hj
      rw [Function.update_of_ne (ne_of_mem_of_not_mem hj hi)]
      exact hnet j (List.mem_cons_of_mem i hj)
    refine (ih hl hrest).trans (congrArg some (funext fun j => ?_))
    by_cases hij : j = i
    · subst hij
      simp [hi]
    · simp [hij]

end

end Party

end Runs
