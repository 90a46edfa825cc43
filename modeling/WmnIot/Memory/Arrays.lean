import WmnIot.Foundations.Chains
import WmnIot.Foundations.Runs
import WmnIot.Model.Memory

/-! # Arrays of blocks are byte arrays

Whatever the order of the calls, the arrays of `memory.c` behave as byte arrays that share nothing:
the blocks of each of them form a list that ends, and no block is in two of them or free.

* **`Memarray.Lawful`** — what `memory.c` relies on.
* **`FlatArrays`** — byte arrays, and a number of bytes that are left.
* **`Represents`** — the separation invariant.
* **`createLoop_spec`**, **`freeLoop_spec`**, **`elementBlock_spec`** — the loops.
* **`Represents.createArray`**, **`Represents.freeArray`**, **`Represents.writeElement`**,
  **`Represents.readElement`** — the calls. -/

namespace WmnIot

open Chains Runs

variable {A P S : Type}

/-- The link of a block to the next one. -/
def Pool.next (s : Pool P S) (p : P) : Option P := (s.blocks p).next

/-- The bytes in the blocks of a list. -/
def Pool.bytes (s : Pool P S) (l : List P) : List UInt8 := l.map fun p => (s.blocks p).block

/-- What `memory.c` relies on, where `Free s F` says that `F` are the free blocks: `memarray` hands
out free blocks and takes back others, and keeps its records in free blocks only. -/
structure Memarray.Lawful [DecidableEq P] (M : Memarray P S) (Free : Pool P S → Finset P → Prop) : Prop where
  available : ∀ {s F}, Free s F → M.available s = F.card
  alloc : ∀ {s F}, Free s F → F.Nonempty → ∃ p ∈ F, ∃ s', M.alloc s = (some p, s') ∧
    Free s' (F.erase p) ∧ ∀ q ∉ F, s'.blocks q = s.blocks q
  free : ∀ {s F p}, Free s F → p ∉ F → Free (M.free p s) (insert p F) ∧
    ∀ q ∉ insert p F, (M.free p s).blocks q = s.blocks q
  write : ∀ {s F p} b, Free s F → p ∉ F → Free { s with blocks := Function.update s.blocks p b } F

/-! ## The loops -/

section Loops

variable {M : Memarray P S} {Free : Pool P S → Finset P → Prop} {s : Pool P S} {F : Finset P}

/-- The loop of `write_element` and `read_element` walks to the block with index `i`. -/
theorem ithBlock_spec {head : Option P} {l : List P} (hl : Segment s.next head l none) {i ith : ℕ}
    (hith : ith ≤ i) (hi : i < ith + l.length) :
    ithBlock s.blocks i l.length ith head = .ok l[i - ith]? := by
  induction l generalizing head ith with
  | nil => exact absurd hi (Nat.not_lt.mpr hith)
  | cons p l ih =>
    obtain ⟨rfl, hl⟩ := hl
    rw [List.length_cons] at hi
    rw [List.length_cons, ithBlock]
    by_cases heq : ith = i
    · rw [if_pos heq, heq, Nat.sub_self]
      rfl
    · have hsub : i - ith = i - (ith + 1) + 1 := by omega
      rw [if_neg heq, hsub, List.getElem?_cons_succ]
      exact ih hl (by omega) (by omega)

/-- The block that an index within the size leads to. -/
theorem elementBlock_spec {m : Memory A P S} {value : ArrayT P} {l : List P}
    (hspells : Segment m.pool.next value.head l none) (hsize : value.size = l.length) {i : ℕ}
    (hi : i < l.length) : elementBlock m value i = .ok (l.get ⟨i, hi⟩) := by
  have hblock := ithBlock_spec hspells (Nat.zero_le i) (by omega)
  rw [Nat.sub_zero, List.getElem?_eq_getElem hi] at hblock
  unfold elementBlock
  rw [hsize, hblock, ok_bind]
  rfl

variable [DecidableEq P]

theorem Pool.setNext_of_ne {p q : P} (h : q ≠ p) (next : Option P) :
    (s.setNext p next).blocks q = s.blocks q :=
  Function.update_of_ne h _ _

theorem Pool.setNext_self (p : P) (next : Option P) :
    (s.setNext p next).blocks p = { s.blocks p with next := next } :=
  Function.update_self p _ _

theorem Pool.setBlock_of_ne {p q : P} (h : q ≠ p) (element : UInt8) :
    (s.setBlock p element).blocks q = s.blocks q :=
  Function.update_of_ne h _ _

theorem Pool.setBlock_self (p : P) (element : UInt8) :
    (s.setBlock p element).blocks p = { s.blocks p with block := element } :=
  Function.update_self p _ _

theorem Pool.next_setBlock (p : P) (element : UInt8) : (s.setBlock p element).next = s.next := by
  funext q
  unfold Pool.next
  by_cases hq : q = p
  · subst hq
    rw [setBlock_self]
  · rw [setBlock_of_ne hq]

/-- Writing to the block with index `i` sets the byte with this index. -/
theorem Pool.bytes_setBlock {s : Pool P S} {l : List P} (hnodup : l.Nodup) {i : ℕ}
    (hi : i < l.length) (element : UInt8) :
    (s.setBlock (l.get ⟨i, hi⟩) element).bytes l = (s.bytes l).set i element := by
  unfold Pool.bytes
  refine List.ext_getElem ?_ fun j hj hj' => ?_
  · rw [List.length_set, List.length_map, List.length_map]
  · rw [List.length_map] at hj
    rw [List.getElem_map, List.getElem_set]
    by_cases hij : i = j
    · subst hij
      rw [if_pos rfl]
      exact congrArg MemoryBlock.block (Pool.setBlock_self _ _)
    · have hne : l[j] ≠ l.get ⟨i, hi⟩ := fun heq => hij ((hnodup.getElem_inj_iff).mp heq).symm
      rw [if_neg hij, Pool.setBlock_of_ne hne, List.getElem_map]

/-- What the loop of `create_array` leaves behind: `n` blocks that were free, cleared, and linked in
a list that follows the block `last`. -/
structure Built (Free : Pool P S → Finset P → Prop) (n : ℕ) (last : P) (s : Pool P S)
    (F : Finset P) (s' : Pool P S) (F' : Finset P) (l : List P) : Prop where
  free : Free s' F'
  subset : F' ⊆ F
  card : F'.card + n = F.card
  length : l.length = n
  taken : ∀ p ∈ l, p ∈ F ∧ p ∉ F'
  spells : Segment s'.next (s'.next last) l none
  cleared : ∀ p ∈ l, (s'.blocks p).block = 0
  block : (s'.blocks last).block = (s.blocks last).block
  frame : ∀ q ∉ F, q ≠ last → s'.blocks q = s.blocks q

theorem createLoop_spec (hM : M.Lawful Free) {n : ℕ} {block : P} (hfree : Free s F)
    (hn : n ≤ F.card) (hblock : block ∉ F) (hnext : s.next block = none) :
    ∃ s' F' l, createLoop M n block s = .ok s' ∧ Built Free n block s F s' F' l := by
  induction n generalizing block s F with
  | zero =>
    refine ⟨s, F, [], rfl, hfree, Finset.Subset.refl F, rfl, rfl, ?_, hnext, ?_, rfl, ?_⟩
    · exact fun p hp => absurd hp List.not_mem_nil
    · exact fun p hp => absurd hp List.not_mem_nil
    · exact fun _ _ _ => rfl
  | succ n ih =>
    obtain ⟨p, hp, s₁, halloc, hfree₁, hframe₁⟩ :=
      hM.alloc hfree (Finset.card_pos.mp (Nat.lt_of_lt_of_le (Nat.succ_pos n) hn))
    have hne : block ≠ p := fun heq => hblock (heq ▸ hp)
    have hblock₁ : block ∉ F.erase p := fun hmem => hblock (Finset.mem_of_mem_erase hmem)
    have hp₁ : p ∉ F.erase p := Finset.notMem_erase p F
    -- the three writes of an iteration go to blocks that are not free any more
    have hfree₂ : Free (((s₁.setNext block (some p)).setNext p none).setBlock p 0) (F.erase p) :=
      hM.write _ (hM.write _ (hM.write _ hfree₁ hblock₁) hp₁) hp₁
    have hcard : (F.erase p).card + 1 = F.card := Finset.card_erase_add_one hp
    have hnext₂ : (((s₁.setNext block (some p)).setNext p none).setBlock p 0).next p = none := by
      unfold Pool.next
      rw [Pool.setBlock_self, Pool.setNext_self]
    obtain ⟨s', F', l, hloop, hbuilt⟩ := ih hfree₂ (by omega) hp₁ hnext₂
    have hblock' : s'.blocks block = { s.blocks block with next := some p } := by
      rw [hbuilt.frame block hblock₁ hne, Pool.setBlock_of_ne hne, Pool.setNext_of_ne hne,
        Pool.setNext_self, hframe₁ block hblock]
    refine ⟨s', F', p :: l, ?_, hbuilt.free, ?_, ?_, ?_, ?_, ?_, ?_, ?_, ?_⟩
    · simp only [createLoop, halloc]
      exact hloop
    · exact hbuilt.subset.trans (Finset.erase_subset p F)
    · have hcard' := hbuilt.card
      omega
    · rw [List.length_cons, hbuilt.length]
    · intro q hq
      rcases List.mem_cons.mp hq with rfl | hq
      · exact ⟨hp, fun hmem => hp₁ (hbuilt.subset hmem)⟩
      · exact ⟨Finset.mem_of_mem_erase (hbuilt.taken q hq).1, (hbuilt.taken q hq).2⟩
    · refine ⟨?_, hbuilt.spells⟩
      unfold Pool.next
      rw [hblock']
    · intro q hq
      rcases List.mem_cons.mp hq with rfl | hq
      · rw [hbuilt.block, Pool.setBlock_self]
      · exact hbuilt.cleared q hq
    · rw [hblock']
    · intro q hq hqb
      have hqp : q ≠ p := fun heq => hq (heq ▸ hp)
      have hq₁ : q ∉ F.erase p := fun hmem => hq (Finset.mem_of_mem_erase hmem)
      rw [hbuilt.frame q hq₁ hqp, Pool.setBlock_of_ne hqp, Pool.setNext_of_ne hqp,
        Pool.setNext_of_ne hqb, hframe₁ q hq]

/-- The loop of `free_array` frees the blocks of the list, if it may visit as many. -/
theorem freeLoop_spec (hM : M.Lawful Free) {head : Option P} {l : List P} {fuel : ℕ}
    (hfree : Free s F) (hl : Segment s.next head l none) (hused : ∀ p ∈ l, p ∉ F)
    (hfuel : l.length ≤ fuel) :
    ∃ s', freeLoop M fuel head s = .ok s' ∧ Free s' (F ∪ l.toFinset) ∧
      ∀ q ∉ F, q ∉ l → s'.blocks q = s.blocks q := by
  induction l generalizing head s F fuel with
  | nil =>
    obtain rfl : head = none := hl
    refine ⟨s, by cases fuel <;> rfl, ?_, fun _ _ _ => rfl⟩
    rwa [List.toFinset_nil, Finset.union_empty]
  | cons p l ih =>
    have hnodup := List.nodup_cons.mp hl.nodup
    obtain ⟨rfl, hl⟩ := hl
    obtain ⟨hfree₁, hframe₁⟩ := hM.free hfree (hused p List.mem_cons_self)
    -- the rest of the chain is still in use, and still linked as it was
    have hused₁ : ∀ q ∈ l, q ∉ insert p F := by
      intro q hq hmem
      rcases Finset.mem_insert.mp hmem with rfl | hmem
      · exact hnodup.1 hq
      · exact hused q (List.mem_cons_of_mem p hq) hmem
    have hl₁ : Segment (M.free p s).next (s.next p) l none := by
      refine hl.congr fun q hq => ?_
      unfold Pool.next
      rw [hframe₁ q (hused₁ q hq)]
    cases fuel with
    | zero => exact absurd hfuel (Nat.not_succ_le_zero _)
    | succ fuel =>
      obtain ⟨s', hloop, hfree', hframe'⟩ := ih hfree₁ hl₁ hused₁ (Nat.le_of_succ_le_succ hfuel)
      refine ⟨s', hloop, ?_, ?_⟩
      · rw [List.toFinset_cons, Finset.union_insert]
        rwa [Finset.insert_union] at hfree'
      · intro q hq hql
        obtain ⟨hqp, hql⟩ := not_or.mp (mt List.mem_cons.mpr hql)
        have hq₁ : q ∉ insert p F := mt Finset.mem_insert.mp (not_or.mpr ⟨hqp, hq⟩)
        rw [hframe' q hq₁ hql, hframe₁ q hq₁]

end Loops

/-! ## Flat arrays -/

/-- Byte arrays by the name of the variable, and how many bytes are left for others. A variable
without a value has no contents, and one that was freed has the contents `[]`. -/
structure FlatArrays (A : Type) where
  available : ℕ
  contents : A → Option (List UInt8)

namespace FlatArrays

variable [DecidableEq A] (f : FlatArrays A) (array : A)

/-- The array was created and not freed since. -/
def Live : Prop := (f.contents array).getD [] ≠ []

instance : Decidable (f.Live array) := inferInstanceAs (Decidable (_ ≠ _))

/-- The size of an array. -/
def size : ℕ := ((f.contents array).getD []).length

/-- A new array is of zeros, if there is room for it. -/
def create (size : ℕ) : FlatArrays A :=
  if 1 ≤ size ∧ size ≤ f.available then
    { available := f.available - size
      contents := Function.update f.contents array (some (List.replicate size 0)) }
  else f

/-- The element is set, if there is one with the index. -/
def write (element : UInt8) (i : ℕ) : FlatArrays A :=
  { f with
      contents := Function.update f.contents array
        ((f.contents array).map fun l => l.set i element) }

/-- The element, if there is one with the index. -/
def read (i : ℕ) : Option UInt8 := (f.contents array).bind fun l => l[i]?

/-- The array is gone, and its bytes are left for others. -/
def free : FlatArrays A :=
  { available := f.available + f.size array
    contents := Function.update f.contents array ((f.contents array).map fun _ => []) }

end FlatArrays

/-! ## The separation invariant -/

/-- The variable has the blocks `l`: none before it has a value, and as many as its size, in a list
that ends, from then on. -/
def IsArray (s : Pool P S) (value : Option (ArrayT P)) (l : List P) : Prop :=
  match value with
  | none => l = []
  | some value => Segment s.next value.head l none ∧ value.size = l.length

/-- **The separation invariant**: `F` are the free blocks, and `cells` are the blocks of each array,
which hold what the flat array does. -/
structure Represents (Free : Pool P S → Finset P → Prop) (m : Memory A P S) (F : Finset P)
    (cells : A → List P) (f : FlatArrays A) : Prop where
  free : Free m.pool F
  isArray : ∀ a, IsArray m.pool (m.arrays a) (cells a)
  disjoint : ∀ a b, a ≠ b → (cells a).Disjoint (cells b)
  used : ∀ a, ∀ p ∈ cells a, p ∉ F
  available : f.available = F.card
  contents : ∀ a, f.contents a = (m.arrays a).map fun _ => m.pool.bytes (cells a)

/-- Only the blocks of the array matter. -/
theorem IsArray.congr {s s' : Pool P S} {value : Option (ArrayT P)} {l : List P}
    (h : IsArray s value l) (hframe : ∀ p ∈ l, s'.blocks p = s.blocks p) : IsArray s' value l := by
  cases value with
  | none => exact h
  | some value =>
    refine ⟨h.1.congr fun p hp => ?_, h.2⟩
    unfold Pool.next
    rw [hframe p hp]

section Calls

variable {M : Memarray P S} {Free : Pool P S → Finset P → Prop} {m : Memory A P S} {F F' : Finset P}
  {cells : A → List P} {f : FlatArrays A} {array : A}

/-- What a variable with a value has. -/
theorem Represents.value (h : Represents Free m F cells f) {bytes : List UInt8}
    (hbytes : f.contents array = some bytes) : ∃ value, m.arrays array = some value ∧
      Segment m.pool.next value.head (cells array) none ∧ value.size = bytes.length ∧
      bytes = m.pool.bytes (cells array) := by
  have harray := h.isArray array
  rw [h.contents] at hbytes
  obtain ⟨value, hvalue, rfl⟩ := Option.map_eq_some_iff.mp hbytes
  rw [hvalue] at harray
  refine ⟨value, hvalue, harray.1, ?_, rfl⟩
  rw [harray.2, Pool.bytes, List.length_map]

/-- **`read_element`** gives the element, if the index is within the size. -/
theorem Represents.readElement (h : Represents Free m F cells f) {bytes : List UInt8}
    (hbytes : f.contents array = some bytes) (element : UInt8) (i : ℕ) :
    readElement array element i m =
      .ok (bytes.getD i element, if i < bytes.length then 1 else 0) := by
  obtain ⟨value, hvalue, hspells, hsize, hcells⟩ := h.value hbytes
  have hget : m.get array = .ok value := by
    unfold Memory.get
    rw [hvalue]
  unfold WmnIot.readElement
  rw [hget, ok_bind]
  by_cases hi : i < bytes.length
  · have hlen : bytes.length = (cells array).length := by
      rw [hcells, Pool.bytes, List.length_map]
    have hi' : i < (cells array).length := by omega
    rw [if_neg (by omega), elementBlock_spec hspells (hsize.trans hlen) hi', ok_bind, if_pos hi,
      List.getD_eq_getElem bytes element hi]
    subst hcells
    have hbyte : (m.pool.bytes (cells array))[i] = (m.pool.blocks (cells array)[i]).block :=
      List.getElem_map _
    rw [hbyte]
    rfl
  · rw [if_pos (by omega), if_neg hi, List.getD_eq_default bytes element (not_lt.mp hi)]
    rfl

variable [DecidableEq A]

/-- The variable `array` gets the blocks `l`, and what the other arrays have stays as it is. -/
theorem Represents.update (h : Represents Free m F cells f) {s' : Pool P S} {value : ArrayT P}
    {l : List P} (hfree : Free s' F') (hframe : ∀ b, b ≠ array → ∀ p ∈ cells b,
      s'.blocks p = m.pool.blocks p ∧ p ∉ F' ∧ p ∉ l)
    (hvalue : IsArray s' (some value) l) (hused : ∀ p ∈ l, p ∉ F') :
    Represents Free { pool := s', arrays := Function.update m.arrays array (some value) } F'
      (Function.update cells array l)
      { available := F'.card, contents := Function.update f.contents array (some (s'.bytes l)) } where
  free := hfree
  isArray a := by
    show IsArray s' (Function.update m.arrays array (some value) a) (Function.update cells array l a)
    by_cases ha : a = array
    · subst ha
      rwa [Function.update_self, Function.update_self]
    · rw [Function.update_of_ne ha, Function.update_of_ne ha]
      exact (h.isArray a).congr fun p hp => (hframe a ha p hp).1
  disjoint a b hab := by
    by_cases ha : a = array
    · subst ha
      rw [Function.update_self, Function.update_of_ne hab.symm]
      exact fun p hp hpb => (hframe b hab.symm p hpb).2.2 hp
    · rw [Function.update_of_ne ha]
      by_cases hb : b = array
      · subst hb
        rw [Function.update_self]
        exact fun p hpa hp => (hframe a ha p hpa).2.2 hp
      · rw [Function.update_of_ne hb]
        exact h.disjoint a b hab
  used a := by
    by_cases ha : a = array
    · subst ha
      rw [Function.update_self]
      exact hused
    · rw [Function.update_of_ne ha]
      exact fun p hp => (hframe a ha p hp).2.1
  available := rfl
  contents a := by
    by_cases ha : a = array
    · subst ha
      simp
    · simp only [Function.update_of_ne ha, h.contents a]
      refine congrArg (fun bytes => (m.arrays a).map fun _ => bytes) (List.map_congr_left ?_)
      intro p hp
      rw [(hframe a ha p hp).1]

variable [DecidableEq P]

omit [DecidableEq A] in
/-- The first block of an array and those of the loop: they were free, are cleared and linked, and
no other block that was not free has changed. -/
theorem createBlocks_spec {s : Pool P S} (hM : M.Lawful Free) (hfree : Free s F) {size : ℕ}
    (hpos : 1 ≤ size) (hle : size ≤ F.card) :
    ∃ p s₁ s' F' l, M.alloc s = (some p, s₁) ∧
      createLoop M (size - 1) p ((s₁.setBlock p 0).setNext p none) = .ok s' ∧ Free s' F' ∧
      F'.card + size = F.card ∧ IsArray s' (some { head := some p, size := size }) (p :: l) ∧
      s'.bytes (p :: l) = List.replicate size 0 ∧ (∀ q ∈ p :: l, q ∉ F') ∧
      ∀ q ∉ F, s'.blocks q = s.blocks q ∧ q ∉ F' ∧ q ∉ p :: l := by
  obtain ⟨p, hp, s₁, halloc, hfree₁, hframe₁⟩ :=
    hM.alloc hfree (Finset.card_pos.mp (Nat.lt_of_lt_of_le hpos hle))
  have hp₁ : p ∉ F.erase p := Finset.notMem_erase p F
  have hcard : (F.erase p).card + 1 = F.card := Finset.card_erase_add_one hp
  -- the two writes before the loop go to a block that is not free any more
  have hfree₂ : Free ((s₁.setBlock p 0).setNext p none) (F.erase p) :=
    hM.write _ (hM.write _ hfree₁ hp₁) hp₁
  have hnext₂ : ((s₁.setBlock p 0).setNext p none).next p = none := by
    unfold Pool.next
    rw [Pool.setNext_self]
  obtain ⟨s', F', l, hloop, hbuilt⟩ :=
    createLoop_spec (n := size - 1) hM hfree₂ (by omega) hp₁ hnext₂
  have hblock : (s'.blocks p).block = 0 := by
    rw [hbuilt.block, Pool.setNext_self, Pool.setBlock_self]
  have hcard' := hbuilt.card
  refine ⟨p, s₁, s', F', l, halloc, hloop, hbuilt.free, by omega, ⟨⟨rfl, hbuilt.spells⟩, ?_⟩,
    List.eq_replicate_iff.mpr ⟨?_, ?_⟩, ?_, ?_⟩
  · rw [List.length_cons, hbuilt.length]
    show size = _
    omega
  · rw [Pool.bytes, List.length_map, List.length_cons, hbuilt.length]
    omega
  · intro b hb
    obtain ⟨q, hq, rfl⟩ := List.mem_map.mp hb
    rcases List.mem_cons.mp hq with rfl | hq
    · exact hblock
    · exact hbuilt.cleared q hq
  · intro q hq
    rcases List.mem_cons.mp hq with rfl | hq
    · exact fun hmem => hp₁ (hbuilt.subset hmem)
    · exact (hbuilt.taken q hq).2
  · intro q hqF
    have hqp : q ≠ p := fun heq => hqF (heq ▸ hp)
    have hq₁ : q ∉ F.erase p := fun hmem => hqF (Finset.mem_of_mem_erase hmem)
    refine ⟨?_, fun hmem => hq₁ (hbuilt.subset hmem), ?_⟩
    · rw [hbuilt.frame q hq₁ hqp, Pool.setNext_of_ne hqp, Pool.setBlock_of_ne hqp, hframe₁ q hqF]
    · exact fun hmem => (List.mem_cons.mp hmem).elim hqp fun hmem => hq₁ (hbuilt.taken q hmem).1

/-- **`create_array`** takes a block for each byte, or changes nothing. -/
theorem Represents.createArray (hM : M.Lawful Free) (h : Represents Free m F cells f) (size : ℕ) :
    (1 ≤ size ∧ size ≤ f.available → ∃ m' F' cells', createArray M array size m = .ok (m', 1) ∧
      Represents Free m' F' cells' (f.create array size)) ∧
    (¬ (1 ≤ size ∧ size ≤ f.available) → WmnIot.createArray M array size m = .ok (m, 0)) := by
  unfold WmnIot.createArray
  rw [hM.available h.free, h.available]
  constructor
  · rintro ⟨hpos, hle⟩
    rw [if_neg (by omega), if_neg (by omega)]
    obtain ⟨p, s₁, s', F', l, halloc, hloop, hfree', hcard, harray, hbytes, hused, hframe⟩ :=
      createBlocks_spec hM h.free hpos hle
    have hresult : (f.create array size) =
        { available := F'.card
          contents := Function.update f.contents array (some (s'.bytes (p :: l))) } := by
      have hF' : F.card - size = F'.card := by omega
      rw [FlatArrays.create, h.available, if_pos ⟨hpos, hle⟩, hbytes, hF']
    rw [hresult]
    refine ⟨⟨s', Function.update m.arrays array (some { head := some p, size := size })⟩, F',
      Function.update cells array (p :: l), ?_, ?_⟩
    · simp only [halloc, hloop, ok_bind]
      rfl
    · exact h.update hfree' (fun b _ q hq => hframe q (h.used b q hq)) harray hused
  · intro hfail
    by_cases hzero : size = 0
    · rw [if_pos hzero]
      rfl
    · rw [if_neg hzero, if_pos (by omega)]
      rfl

/-- **`free_array`** gives back the blocks of a live array, and changes nothing else. -/
theorem Represents.freeArray [Fintype P] (hM : M.Lawful Free) (h : Represents Free m F cells f)
    {bytes : List UInt8} (hbytes : f.contents array = some bytes) :
    (bytes ≠ [] → ∃ m' F' cells', freeArray M array m = .ok (m', 1) ∧
      Represents Free m' F' cells' (f.free array)) ∧
    (bytes = [] → WmnIot.freeArray M array m = .ok (m, 0)) := by
  obtain ⟨value, hvalue, hspells, hsize, hcells⟩ := h.value hbytes
  have hget : m.get array = .ok value := by
    unfold Memory.get
    rw [hvalue]
  unfold WmnIot.freeArray
  rw [hget, ok_bind]
  constructor
  · intro hne
    have hlen : bytes.length = (cells array).length := by
      rw [hcells, Pool.bytes, List.length_map]
    have hpos : 0 < bytes.length := List.length_pos_of_ne_nil hne
    have hhead : value.head.isNone = false := by
      cases hcells' : cells array with
      | nil =>
        rw [hcells', List.length_nil] at hlen
        omega
      | cons p l =>
        rw [hcells'] at hspells
        rw [hspells.1]
        rfl
    obtain ⟨s', hloop, hfree', hframe'⟩ :=
      freeLoop_spec hM h.free hspells (h.used array) hspells.nodup.length_le_card
    have hcard : (F ∪ (cells array).toFinset).card = F.card + (cells array).length := by
      rw [Finset.card_union_of_disjoint, List.toFinset_card_of_nodup hspells.nodup]
      rw [Finset.disjoint_left]
      exact fun p hp hp' => h.used array p (List.mem_toFinset.mp hp') hp
    -- as many blocks are free again as the array had bytes
    have hresult : f.free array =
        { available := (F ∪ (cells array).toFinset).card
          contents := Function.update f.contents array (some (s'.bytes [])) } := by
      rw [FlatArrays.free, FlatArrays.size, hbytes, h.available, hcard, Option.getD_some, hlen]
      rfl
    rw [hresult]
    refine ⟨⟨s', Function.update m.arrays array (some {})⟩, F ∪ (cells array).toFinset,
      Function.update cells array [], ?_, ?_⟩
    · rw [hhead, if_neg Bool.false_ne_true, if_neg (by omega), hloop]
      rfl
    · refine h.update hfree' ?_ ⟨rfl, rfl⟩ ?_
      · intro b hb p hp
        have hpa : p ∉ cells array := fun hmem => h.disjoint b array hb hp hmem
        refine ⟨hframe' p (h.used b p hp) hpa, ?_, List.not_mem_nil⟩
        intro hmem
        exact (Finset.mem_union.mp hmem).elim (h.used b p hp) fun hmem => hpa (List.mem_toFinset.mp hmem)
      · exact fun p hp => absurd hp List.not_mem_nil
  · intro hnil
    have hcells' : cells array = [] := List.map_eq_nil_iff.mp (hcells.symm.trans hnil)
    rw [hcells'] at hspells
    have hhead : value.head = none := hspells
    rw [hhead, Option.isNone_none, if_pos rfl]
    rfl

/-- **`write_element`** sets the element, if the index is within the size. -/
theorem Represents.writeElement (hM : M.Lawful Free) (h : Represents Free m F cells f)
    {bytes : List UInt8} (hbytes : f.contents array = some bytes) (element : UInt8) (i : ℕ) :
    (i < bytes.length → ∃ m' cells', writeElement array element i m = .ok (m', 1) ∧
      Represents Free m' F cells' (f.write array element i)) ∧
    (bytes.length ≤ i → WmnIot.writeElement array element i m = .ok (m, 0)) := by
  obtain ⟨value, hvalue, hspells, hsize, hcells⟩ := h.value hbytes
  have hget : m.get array = .ok value := by
    unfold Memory.get
    rw [hvalue]
  unfold WmnIot.writeElement
  rw [hget, ok_bind]
  constructor
  · intro hi
    have hlen : bytes.length = (cells array).length := by
      rw [hcells, Pool.bytes, List.length_map]
    have hi' : i < (cells array).length := by omega
    have hmem : (cells array).get ⟨i, hi'⟩ ∈ cells array := List.get_mem _ _
    have hnext : (m.pool.setBlock ((cells array).get ⟨i, hi'⟩) element).next = m.pool.next :=
      Pool.next_setBlock _ element
    -- the write changes one block of the chain and no link
    have hresult : f.write array element i =
        { available := F.card
          contents := Function.update f.contents array
            (some ((m.pool.setBlock ((cells array).get ⟨i, hi'⟩) element).bytes (cells array))) } := by
      rw [FlatArrays.write, hbytes, h.available, Pool.bytes_setBlock hspells.nodup hi', ← hcells]
      rfl
    have hvalue' : IsArray (m.pool.setBlock ((cells array).get ⟨i, hi'⟩) element) (some value)
        (cells array) := by
      refine ⟨?_, hsize.trans hlen⟩
      rwa [hnext]
    rw [hresult]
    refine ⟨_, Function.update cells array (cells array), ?_,
      h.update (hM.write _ h.free (h.used array _ hmem)) ?_ hvalue' (h.used array)⟩
    · have hsame : Function.update m.arrays array (some value) = m.arrays := by
        rw [← hvalue, Function.update_eq_self]
      rw [if_neg (by omega), hsame, elementBlock_spec hspells (hsize.trans hlen) hi', ok_bind]
      rfl
    · intro b hb p hp
      have hpa : p ∉ cells array := fun hmem => h.disjoint b array hb hp hmem
      have hne : p ≠ (cells array).get ⟨i, hi'⟩ := by
        intro heq
        rw [heq] at hpa
        exact hpa hmem
      exact ⟨Pool.setBlock_of_ne hne _, h.used b p hp, hpa⟩
  · intro hi
    rw [if_pos (by omega)]
    rfl

end Calls

end WmnIot
