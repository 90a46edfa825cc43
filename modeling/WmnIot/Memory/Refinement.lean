import WmnIot.Memory.FreeList

/-! # Any calls on any arrays

A run of `memory.c` calls its functions on any number of arrays, in any order, and creates an array
only where none is live. Next to it run the flat arrays.

* **`ArrayCall`**, **`arrayStep`** — the calls of a run.
* **`Refines.step`** — a call keeps the separation invariant.
* **`ActsAsFlat`** — what the functions return and leave behind.
* **`arrays_refine_flat`** — in every run. -/

namespace WmnIot

open Chains Runs

/-- The calls of a run. -/
inductive ArrayCall (A : Type)
  | create (array : A) (size : ℕ)
  | write (array : A) (element : UInt8) (i : ℕ)
  | read (array : A) (element : UInt8) (i : ℕ)
  | free (array : A)

variable {A P S : Type} [DecidableEq A] [DecidableEq P]

namespace ArrayCall

/-- An array is created where none is live, and the other functions get an array with a value. -/
def Legal (f : FlatArrays A) : ArrayCall A → Prop
  | create array _ => ¬ f.Live array
  | write array _ _ => (f.contents array).isSome
  | read array _ _ => (f.contents array).isSome
  | free array => (f.contents array).isSome

instance (f : FlatArrays A) (call : ArrayCall A) : Decidable (call.Legal f) :=
  match call with
  | create array _ => inferInstanceAs (Decidable (¬ f.Live array))
  | write array _ _ => inferInstanceAs (Decidable ((f.contents array).isSome = true))
  | read array _ _ => inferInstanceAs (Decidable ((f.contents array).isSome = true))
  | free array => inferInstanceAs (Decidable ((f.contents array).isSome = true))

/-- The flat arrays after a call. -/
def next (f : FlatArrays A) : ArrayCall A → FlatArrays A
  | create array size => f.create array size
  | write array element i => f.write array element i
  | read _ _ _ => f
  | free array => f.free array

/-- The memory after a call. -/
def run [Fintype P] (M : Memarray P S) (m : Memory A P S) : ArrayCall A → Except Fault (Memory A P S)
  | create array size => Prod.fst <$> createArray M array size m
  | write array element i => Prod.fst <$> writeElement array element i m
  | read array element i => (fun _ => m) <$> readElement array element i m
  | free array => Prod.fst <$> freeArray M array m

end ArrayCall

/-- A step of a run, with the flat arrays next to the memory. -/
def arrayStep [Fintype P] (M : Memarray P S) (call : ArrayCall A) (x : Memory A P S × FlatArrays A) :
    Option (Memory A P S × FlatArrays A) :=
  if call.Legal x.2 then (call.run M x.1).toOption.map fun m => (m, call.next x.2) else none

/-! ## The invariant of a run -/

/-- The memory holds the flat arrays. -/
def Refines (Free : Pool P S → Finset P → Prop) (m : Memory A P S) (f : FlatArrays A) : Prop :=
  ∃ F cells, Represents Free m F cells f

section Invariant

variable {M : Memarray P S} {Free : Pool P S → Finset P → Prop} {m : Memory A P S}
  {f : FlatArrays A} {array : A} {bytes : List UInt8}

/-- Giving a variable the contents it has changes nothing. -/
theorem FlatArrays.update_contents (hbytes : f.contents array = some bytes) :
    Function.update f.contents array (some bytes) = f.contents := by
  rw [← hbytes, Function.update_eq_self]

/-- Writing past the end changes nothing. -/
theorem FlatArrays.write_of_le (hbytes : f.contents array = some bytes) (element : UInt8) {i : ℕ}
    (hi : bytes.length ≤ i) : f.write array element i = f := by
  unfold FlatArrays.write
  rw [hbytes, Option.map_some, List.set_eq_of_length_le hi, update_contents hbytes]

/-- Freeing an array that is not live changes nothing. -/
theorem FlatArrays.free_of_nil (hbytes : f.contents array = some []) : f.free array = f := by
  unfold FlatArrays.free FlatArrays.size
  rw [hbytes, Option.map_some, update_contents hbytes]
  rfl

theorem Refines.createArray (hM : M.Lawful Free) (h : Refines Free m f) (size : ℕ) :
    (1 ≤ size ∧ size ≤ f.available → ∃ m', createArray M array size m = .ok (m', 1) ∧
      Refines Free m' (f.create array size)) ∧
    (¬ (1 ≤ size ∧ size ≤ f.available) → WmnIot.createArray M array size m = .ok (m, 0) ∧
      f.create array size = f) := by
  obtain ⟨F, cells, h⟩ := h
  obtain ⟨hroom, hfull⟩ := h.createArray hM size
  constructor
  · intro hsize
    obtain ⟨m', F', cells', hcreate, h'⟩ := hroom hsize
    exact ⟨m', hcreate, F', cells', h'⟩
  · intro hsize
    refine ⟨hfull hsize, ?_⟩
    unfold FlatArrays.create
    rw [if_neg hsize]

theorem Refines.freeArray [Fintype P] (hM : M.Lawful Free) (h : Refines Free m f)
    (hbytes : f.contents array = some bytes) :
    ∃ m' r, freeArray M array m = .ok (m', r) ∧ Refines Free m' (f.free array) ∧
      (bytes ≠ [] → r = 1) := by
  obtain ⟨F, cells, h⟩ := h
  obtain ⟨hlive, hnil⟩ := h.freeArray hM hbytes
  by_cases hne : bytes = []
  · refine ⟨m, 0, hnil hne, ?_, fun hne' => absurd hne hne'⟩
    rw [FlatArrays.free_of_nil (hne ▸ hbytes)]
    exact ⟨F, cells, h⟩
  · obtain ⟨m', F', cells', hfree, h'⟩ := hlive hne
    exact ⟨m', 1, hfree, ⟨F', cells', h'⟩, fun _ => rfl⟩

theorem Refines.writeElement (hM : M.Lawful Free) (h : Refines Free m f)
    (hbytes : f.contents array = some bytes) (element : UInt8) (i : ℕ) :
    ∃ m' r, writeElement array element i m = .ok (m', r) ∧
      Refines Free m' (f.write array element i) ∧ (r = 0 ↔ bytes.length ≤ i) ∧ (r = 0 → m' = m) := by
  obtain ⟨F, cells, h⟩ := h
  obtain ⟨hwithin, hpast⟩ := h.writeElement hM hbytes element i
  by_cases hi : bytes.length ≤ i
  · refine ⟨m, 0, hpast hi, ?_, iff_of_true rfl hi, fun _ => rfl⟩
    rw [FlatArrays.write_of_le hbytes element hi]
    exact ⟨F, cells, h⟩
  · obtain ⟨m', cells', hwrite, h'⟩ := hwithin (not_le.mp hi)
    exact ⟨m', 1, hwrite, ⟨F, cells', h'⟩, iff_of_false Nat.one_ne_zero hi,
      fun h01 => absurd h01 Nat.one_ne_zero⟩

omit [DecidableEq A] [DecidableEq P] in
theorem Refines.readElement (h : Refines Free m f) (hbytes : f.contents array = some bytes)
    (element : UInt8) (i : ℕ) :
    readElement array element i m =
      .ok (bytes.getD i element, if i < bytes.length then 1 else 0) := by
  obtain ⟨F, cells, h⟩ := h
  exact h.readElement hbytes element i

/-- **A legal call returns and keeps the invariant.** -/
theorem Refines.step [Fintype P] (hM : M.Lawful Free) (h : Refines Free m f) {call : ArrayCall A}
    (hlegal : call.Legal f) : ∃ m', call.run M m = .ok m' ∧ Refines Free m' (call.next f) := by
  cases call with
  | create array size =>
    obtain ⟨hroom, hfull⟩ := h.createArray hM size
    by_cases hsize : 1 ≤ size ∧ size ≤ f.available
    · obtain ⟨m', hcreate, h'⟩ := hroom hsize
      exact ⟨m', map_eq_ok.mpr ⟨_, hcreate, rfl⟩, h'⟩
    · obtain ⟨hcreate, hsame⟩ := hfull hsize
      refine ⟨m, map_eq_ok.mpr ⟨_, hcreate, rfl⟩, ?_⟩
      show Refines Free m (f.create array size)
      rwa [hsame]
  | write array element i =>
    obtain ⟨bytes, hbytes⟩ := Option.isSome_iff_exists.mp hlegal
    obtain ⟨m', r, hwrite, h', -⟩ := h.writeElement hM hbytes element i
    exact ⟨m', map_eq_ok.mpr ⟨_, hwrite, rfl⟩, h'⟩
  | read array element i =>
    obtain ⟨bytes, hbytes⟩ := Option.isSome_iff_exists.mp hlegal
    exact ⟨m, map_eq_ok.mpr ⟨_, h.readElement hbytes element i, rfl⟩, h⟩
  | free array =>
    obtain ⟨bytes, hbytes⟩ := Option.isSome_iff_exists.mp hlegal
    obtain ⟨m', r, hfree, h', -⟩ := h.freeArray hM hbytes
    exact ⟨m', map_eq_ok.mpr ⟨_, hfree, rfl⟩, h'⟩

end Invariant

/-! ## What the functions do -/

/-- The arrays of the memory act as the flat ones, and the lists of their blocks end and are kept
apart. -/
structure ActsAsFlat [Fintype P] (M : Memarray P S) (m : Memory A P S) (f : FlatArrays A) : Prop where
  available : M.available m.pool = f.available
  size : ∀ a, (m.arrays a).map ArrayT.size = (f.contents a).map List.length
  blocks : ∃ cells : A → List P,
    (∀ a value, m.arrays a = some value → Segment m.pool.next value.head (cells a) none ∧
      (cells a).Nodup ∧ (cells a).length = value.size) ∧
    ∀ a b, a ≠ b → (cells a).Disjoint (cells b)
  create : ∀ a, ¬ f.Live a → ∀ size, ∃ m' r, createArray M a size m = .ok (m', r) ∧
    (r = 1 ↔ 1 ≤ size ∧ size ≤ M.available m.pool) ∧ (r ≠ 1 → r = 0 ∧ m' = m)
  write : ∀ a bytes, f.contents a = some bytes → ∀ element i, ∃ m' r,
    writeElement a element i m = .ok (m', r) ∧ (r = 0 ↔ bytes.length ≤ i) ∧ (r = 0 → m' = m)
  read : ∀ a bytes, f.contents a = some bytes → ∀ element i, ∃ byte r,
    readElement a element i m = .ok (byte, r) ∧ (r = 0 ↔ bytes.length ≤ i) ∧
      (r = 0 → byte = element) ∧ ∀ hi : i < bytes.length, byte = bytes.get ⟨i, hi⟩
  free : ∀ a, f.Live a → ∃ m', freeArray M a m = .ok (m', 1) ∧
    M.available m'.pool = M.available m.pool + f.size a

section

variable {M : Memarray P S} {Free : Pool P S → Finset P → Prop} {m : Memory A P S}
  {f : FlatArrays A}

omit [DecidableEq A] in
theorem Refines.available (hM : M.Lawful Free) (h : Refines Free m f) :
    M.available m.pool = f.available := by
  obtain ⟨F, cells, h⟩ := h
  rw [hM.available h.free, h.available]

theorem Refines.actsAsFlat [Fintype P] (hM : M.Lawful Free) (h : Refines Free m f) : ActsAsFlat M m f where
  available := h.available hM
  size a := by
    obtain ⟨F, cells, h⟩ := h
    have harray := h.isArray a
    rw [h.contents]
    -- an array is its chain of blocks, and its size counts them
    cases hvalue : m.arrays a with
    | none => rfl
    | some value =>
      rw [hvalue] at harray
      simp [Pool.bytes, harray.2]
  blocks := by
    obtain ⟨F, cells, h⟩ := h
    refine ⟨cells, fun a value hvalue => ?_, h.disjoint⟩
    have harray := h.isArray a
    rw [hvalue] at harray
    exact ⟨harray.1, harray.1.nodup, harray.2.symm⟩
  create a _ size := by
    obtain ⟨hroom, hfull⟩ := h.createArray hM size
    rw [h.available hM]
    by_cases hsize : 1 ≤ size ∧ size ≤ f.available
    · obtain ⟨m', hcreate, -⟩ := hroom hsize
      exact ⟨m', 1, hcreate, iff_of_true rfl hsize, fun hr => absurd rfl hr⟩
    · exact ⟨m, 0, (hfull hsize).1, iff_of_false Nat.zero_ne_one hsize, fun _ => ⟨rfl, rfl⟩⟩
  write a bytes hbytes element i := by
    obtain ⟨m', r, hwrite, -, hr, hsame⟩ := h.writeElement hM hbytes element i
    exact ⟨m', r, hwrite, hr, hsame⟩
  read a bytes hbytes element i := by
    have hread := h.readElement hbytes element i
    by_cases hi : i < bytes.length
    · rw [if_pos hi, List.getD_eq_getElem bytes element hi] at hread
      exact ⟨_, 1, hread, iff_of_false Nat.one_ne_zero (not_le.mpr hi),
        fun h01 => absurd h01 Nat.one_ne_zero, fun _ => rfl⟩
    · rw [if_neg hi, List.getD_eq_default bytes element (not_lt.mp hi)] at hread
      exact ⟨element, 0, hread, iff_of_true rfl (not_lt.mp hi), fun _ => rfl,
        fun hi' => absurd hi' hi⟩
  free a hlive := by
    cases hbytes : f.contents a with
    | none => exact absurd (by rw [hbytes]; rfl) hlive
    | some bytes =>
      obtain ⟨m', r, hfree, h', hr⟩ := h.freeArray hM hbytes
      have hne : bytes ≠ [] := by
        intro hnil
        exact hlive (by rw [hbytes, hnil]; rfl)
      refine ⟨m', ?_, ?_⟩
      · rw [hfree, hr hne]
      · rw [h'.available hM, h.available hM]
        rfl

end

/-- The flat arrays of a memory in which no array is live. -/
def noArrays (F : Finset P) (arrays : A → Option (ArrayT P)) : FlatArrays A where
  available := F.card
  contents a := (arrays a).map fun _ => []

omit [DecidableEq A] [DecidableEq P] in
/-- As long as no array is live, the memory holds none. -/
theorem refines_noArrays {Free : Pool P S → Finset P → Prop} {s : Pool P S} {F : Finset P}
    (hfree : Free s F) {arrays : A → Option (ArrayT P)}
    (harrays : ∀ a value, arrays a = some value → value = {}) :
    Refines Free ⟨s, arrays⟩ (noArrays F arrays) := by
  refine ⟨F, fun _ => [], hfree, fun a => ?_, ?_, ?_, rfl, fun _ => rfl⟩
  · show IsArray s (arrays a) []
    cases hvalue : arrays a with
    | none => rfl
    | some value =>
      rw [harrays a value hvalue]
      exact ⟨rfl, rfl⟩
  · exact fun _ _ _ p hp => absurd hp List.not_mem_nil
  · exact fun _ p hp => absurd hp List.not_mem_nil

/-- **Arrays are flat byte arrays**: in every state of a run that starts with no array live. -/
theorem arrays_refine_flat [Fintype P] {M : Memarray P S} {Free : Pool P S → Finset P → Prop}
    (hM : M.Lawful Free) {s : Pool P S} {F : Finset P} (hfree : Free s F)
    {arrays : A → Option (ArrayT P)} (harrays : ∀ a value, arrays a = some value → value = {})
    (calls : List (ArrayCall A)) :
    ∀ x ∈ visited (arrayStep M) calls (⟨s, arrays⟩, noArrays F arrays), ActsAsFlat M x.1 x.2 := by
  intro x hx
  refine Refines.actsAsFlat hM (visited_inv
    (fun y : Memory A P S × FlatArrays A => Refines Free y.1 y.2) ?_ calls ?_ x hx)
  · intro call y y' hy hstep
    unfold arrayStep at hstep
    by_cases hlegal : call.Legal y.2
    · rw [if_pos hlegal] at hstep
      obtain ⟨m', hrun, h'⟩ := hy.step hM hlegal
      rw [hrun] at hstep
      obtain rfl := Option.some.inj hstep
      exact h'
    · rw [if_neg hlegal] at hstep
      cases hstep
  · exact refines_noArrays hfree harrays

/-- Two arrays in a pool of four blocks: the first one is freed while the second one is live, and a
larger one takes its place. -/
def twoArrays : List (ArrayCall Bool) :=
  [.create false 2, .write false 7 1, .create true 1, .write true 9 0, .free false, .create false 3]

/-- Neither of the two variables has a value before these calls. -/
def noValues : Bool → Option (ArrayT (Fin 4)) := fun _ => none

/-- The memory and the flat arrays after these calls. -/
def afterTwoArrays : Memory Bool (Fin 4) (Option (Fin 4)) × FlatArrays Bool :=
  lastVisited (arrayStep freeList) twoArrays (⟨initPool 4, noValues⟩, noArrays Finset.univ noValues)

theorem arrays_refine_flat_two :
    ActsAsFlat freeList afterTwoArrays.1 afterTwoArrays.2 ∧
      afterTwoArrays.2.contents false = some [0, 0, 0] ∧
      afterTwoArrays.2.contents true = some [9] := by
  have hnone : ∀ a value, noValues a = some value → value = {} := nofun
  refine ⟨?_, ?_, ?_⟩
  · exact arrays_refine_flat freeList_lawful (onList_initPool 4) hnone twoArrays _
      (lastVisited_mem_visited _ _)
  all_goals decide +kernel

end WmnIot
