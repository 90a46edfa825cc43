import Mathlib

/-! # Traces of accesses

A computation that reads from an unbounded memory, together with the positions it has read, and the
memory that a list of writes leaves behind.

* **`Traced`** — a value and the positions that were read for it.
* **`read`**, **`readEach`** — reading.
* **`written`** — writing.
* **`written_run`** — writing a list of elements to consecutive positions. -/

namespace Traces

variable {ι : Type*} {α β : Type}

/-- A computation with a value, which has read some positions. -/
structure Traced (ι : Type*) (α : Type) where
  value : α
  positions : List ι

instance : Monad (Traced ι) where
  pure a := ⟨a, []⟩
  bind x f := ⟨(f x.value).value, x.positions ++ (f x.value).positions⟩

@[simp] theorem value_pure (a : α) : (pure a : Traced ι α).value = a := rfl

@[simp] theorem positions_pure (a : α) : (pure a : Traced ι α).positions = [] := rfl

@[simp] theorem value_bind (x : Traced ι α) (f : α → Traced ι β) :
    (x >>= f).value = (f x.value).value := rfl

@[simp] theorem positions_bind (x : Traced ι α) (f : α → Traced ι β) :
    (x >>= f).positions = x.positions ++ (f x.value).positions := rfl

/-! ## Reading -/

/-- Read one position. -/
def read (mem : ι → α) (i : ι) : Traced ι α := ⟨mem i, [i]⟩

/-- Read some positions, in order. -/
def readEach (mem : ι → α) : List ι → Traced ι (List α)
  | [] => pure []
  | i :: is => do
    let a ← read mem i
    let rest ← readEach mem is
    return a :: rest

@[simp] theorem value_read (mem : ι → α) (i : ι) : (read mem i).value = mem i := rfl

@[simp] theorem positions_read (mem : ι → α) (i : ι) : (read mem i).positions = [i] := rfl

@[simp] theorem value_readEach (mem : ι → α) (is : List ι) :
    (readEach mem is).value = is.map mem := by
  induction is with
  | nil => rfl
  | cons i is ih => simp [readEach, ih]

@[simp] theorem positions_readEach (mem : ι → α) (is : List ι) :
    (readEach mem is).positions = is := by
  induction is with
  | nil => rfl
  | cons i is ih => simp [readEach, ih]

/-! ## Writing -/

/-- The memory after some writes, in order. -/
def written [DecidableEq ι] (writes : List (ι × α)) (mem : ι → α) : ι → α :=
  writes.foldl (fun mem w => Function.update mem w.1 w.2) mem

theorem written_append [DecidableEq ι] (ws ws' : List (ι × α)) (mem : ι → α) :
    written (ws ++ ws') mem = written ws' (written ws mem) :=
  List.foldl_append

/-- The writes of some elements to consecutive positions, from `first` on. -/
def run (first : ℕ) : List α → List (ℕ × α)
  | [] => []
  | a :: as => (first, a) :: run (first + 1) as

@[simp] theorem mem_run_positions {first i : ℕ} {as : List α} :
    i ∈ (run first as).map Prod.fst ↔ first ≤ i ∧ i < first + as.length := by
  induction as generalizing first with
  | nil => simp [run]
  | cons a as ih =>
    rw [run, List.map_cons, List.mem_cons, ih, List.length_cons]
    omega

theorem run_append (first : ℕ) (as bs : List α) :
    run first (as ++ bs) = run first as ++ run (first + as.length) bs := by
  induction as generalizing first with
  | nil => rfl
  | cons a as ih =>
    rw [List.cons_append, run, ih, run, List.length_cons, List.cons_append]
    congr 3
    omega

/-- Positions outside the run keep what they hold. -/
theorem written_run_of_not_mem {first i : ℕ} (as : List α) (mem : ℕ → α)
    (hi : ¬ (first ≤ i ∧ i < first + as.length)) : written (run first as) mem i = mem i := by
  induction as generalizing first mem with
  | nil => rfl
  | cons a as ih =>
    rw [List.length_cons] at hi
    have hrest : ¬ (first + 1 ≤ i ∧ i < first + 1 + as.length) := by omega
    have hne : i ≠ first := by omega
    have hcons : written (run first (a :: as)) mem =
        written (run (first + 1) as) (Function.update mem first a) := rfl
    rw [hcons, ih _ hrest, Function.update_of_ne hne]

/-- **Elements that are written to consecutive positions** are found there. -/
theorem written_run {first i : ℕ} (as : List α) (mem : ℕ → α) (hi : i < as.length) :
    written (run first as) mem (first + i) = as[i] := by
  induction as generalizing first i mem with
  | nil => exact absurd hi (Nat.not_lt_zero i)
  | cons a as ih =>
    have hcons : written (run first (a :: as)) mem =
        written (run (first + 1) as) (Function.update mem first a) := rfl
    rw [hcons]
    cases i with
    | zero =>
      rw [Nat.add_zero, written_run_of_not_mem as _ (by omega)]
      exact Function.update_self first a mem
    | succ i =>
      have hpos : first + (i + 1) = first + 1 + i := by omega
      rw [hpos, ih _ (Nat.lt_of_succ_lt_succ hi)]
      rfl

end Traces
