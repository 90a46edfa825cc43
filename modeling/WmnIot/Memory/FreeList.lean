import WmnIot.Memory.Arrays

/-! # The free list of a memarray

RIOT's `memarray` keeps its free blocks in a list that runs through the blocks themselves: the first
word of a free block is the address of the next one. This is what hands out the blocks in the
examples, and it is all that `memory.c` relies on.

* **`freeList`** — the functions of the module.
* **`OnList`**, **`freeList_lawful`** — the free blocks are those on the list.
* **`initPool`** — the pool after `memory_init`. -/

namespace WmnIot

open Chains

variable {P : Type} [DecidableEq P]

/-- The length of the list from `head` on, up to `fuel`. -/
def countFree (blocks : P → MemoryBlock P) : ℕ → Option P → ℕ
  | 0, _ => 0
  | _, none => 0
  | fuel + 1, some p => countFree blocks fuel (blocks p).next + 1

/-- The free list: `storage` is `free_data`, the first free block. -/
def freeList [Fintype P] : Memarray P (Option P) where
  available s := countFree s.blocks (Fintype.card P) s.storage
  alloc s :=
    match s.storage with
    | none => (none, s)
    | some p => (some p, { s with storage := (s.blocks p).next })
  free p s := { s.setNext p s.storage with storage := some p }

/-- The list ends, and `F` are the blocks on it. -/
def OnList (s : Pool P (Option P)) (F : Finset P) : Prop :=
  ∃ l, Segment s.next s.storage l none ∧ l.toFinset = F

omit [DecidableEq P] in
theorem countFree_of_segment {s : Pool P (Option P)} {head : Option P} {l : List P}
    (h : Segment s.next head l none) {fuel : ℕ} (hfuel : l.length ≤ fuel) :
    countFree s.blocks fuel head = l.length := by
  induction l generalizing head fuel with
  | nil =>
    obtain rfl : head = none := h
    cases fuel <;> rfl
  | cons p l ih =>
    obtain ⟨rfl, h⟩ := h
    cases fuel with
    | zero => exact absurd hfuel (Nat.not_succ_le_zero _)
    | succ fuel => exact congrArg (· + 1) (ih h (Nat.le_of_succ_le_succ hfuel))

/-- A free list is all that `memory.c` relies on. -/
theorem freeList_lawful [Fintype P] : (freeList (P := P)).Lawful OnList where
  available := by
    rintro s F ⟨l, hl, rfl⟩
    rw [List.toFinset_card_of_nodup hl.nodup]
    exact countFree_of_segment hl hl.nodup.length_le_card
  alloc := by
    rintro s F ⟨l, hl, rfl⟩ hne
    -- the head of the list is the block that is given out
    cases l with
    | nil => exact absurd hne Finset.not_nonempty_empty
    | cons p l =>
      have hnodup := List.nodup_cons.mp hl.nodup
      refine ⟨p, by simp, { s with storage := s.next p }, ?_, ⟨l, hl.2, ?_⟩, fun _ _ => rfl⟩
      · simp only [freeList, hl.1]
        rfl
      · rw [List.toFinset_cons, Finset.erase_insert (mt List.mem_toFinset.mp hnodup.1)]
  free := by
    rintro s F p ⟨l, hl, rfl⟩ hp
    -- the block that comes back is linked in before the old head
    have hpl : p ∉ l := mt List.mem_toFinset.mpr hp
    refine ⟨⟨p :: l, ⟨rfl, ?_⟩, List.toFinset_cons⟩, fun q hq => ?_⟩
    · have hnext : (s.setNext p s.storage).next p = s.storage := by
        unfold Pool.next
        rw [Pool.setNext_self]
      show Segment (s.setNext p s.storage).next ((s.setNext p s.storage).next p) l none
      rw [hnext]
      refine hl.congr fun q hq => ?_
      unfold Pool.next
      have hne : q ≠ p := by
        intro heq
        exact hpl (heq ▸ hq)
      rw [Pool.setNext_of_ne hne]
    · have hne : q ≠ p := by
        intro heq
        rw [heq] at hq
        exact hq (Finset.mem_insert_self p _)
      exact Pool.setNext_of_ne hne _
  write := by
    rintro s F p b ⟨l, hl, rfl⟩ hp
    refine ⟨l, hl.congr fun q hq => ?_, rfl⟩
    have hne : q ≠ p := fun heq => hp (List.mem_toFinset.mpr (heq ▸ hq))
    exact congrArg MemoryBlock.next (Function.update_of_ne hne b s.blocks)

/-- The block with index `k`, if there is one. -/
def blockAt (n k : ℕ) : Option (Fin n) :=
  if h : k < n then some ⟨k, h⟩ else none

/-- `memory_init`: every one of the `n` blocks is free, and linked to the one after it. -/
def initPool (n : ℕ) : Pool (Fin n) (Option (Fin n)) where
  storage := blockAt n 0
  blocks p := { next := blockAt n (p + 1), block := 0 }

/-- The list of the blocks from the one with index `k` on. -/
theorem segment_drop {n : ℕ} (k : ℕ) :
    Segment (initPool n).next (blockAt n k) ((List.finRange n).drop k) none := by
  by_cases hk : k < n
  · have hdrop : (List.finRange n).drop k = ⟨k, hk⟩ :: (List.finRange n).drop (k + 1) := by
      rw [List.drop_eq_getElem_cons (by simpa using hk), List.getElem_finRange]
      rfl
    rw [hdrop, blockAt, dif_pos hk]
    exact ⟨rfl, segment_drop (k + 1)⟩
  · have hdrop : (List.finRange n).drop k = [] :=
      List.drop_eq_nil_of_le (by simpa using not_lt.mp hk)
    rw [hdrop, blockAt, dif_neg hk]
    rfl
termination_by n - k

/-- After `memory_init` every block is free. -/
theorem onList_initPool (n : ℕ) : OnList (initPool n) Finset.univ :=
  ⟨List.finRange n, segment_drop 0, List.toFinset_finRange n⟩

end WmnIot
