import Mathlib

/-! # Linked cells

Cells linked by a partial function `next`, such as the blocks of a linked list in a heap. A segment
is the list of the cells that are met on the way from one link to another.

* **`Segment`** — from a link through the cells of a list to another link.
* **`Segment.congr`** — links of other cells do not matter.
* **`Segment.unique`**, **`Segment.nodup`** — a segment that ends is determined by its head and
  meets no cell twice. -/

namespace Chains

variable {α : Type*} {next next' : α → Option α} {head stop : Option α} {l l' : List α}

/-- From the link `head` through the cells of the list, in order, to the link `stop`. -/
def Segment (next : α → Option α) : Option α → List α → Option α → Prop
  | head, [], stop => head = stop
  | head, a :: l, stop => head = some a ∧ Segment next (next a) l stop

@[simp] theorem segment_nil : Segment next head [] stop ↔ head = stop := Iff.rfl

@[simp] theorem segment_cons {a : α} :
    Segment next head (a :: l) stop ↔ head = some a ∧ Segment next (next a) l stop := Iff.rfl

/-- Segments join where one ends and the other begins. -/
theorem segment_append :
    Segment next head (l ++ l') stop ↔ ∃ mid, Segment next head l mid ∧ Segment next mid l' stop := by
  induction l generalizing head with
  | nil => simp
  | cons a l ih => simp [ih, and_assoc]

/-- Links of other cells do not matter. -/
theorem Segment.congr (h : Segment next head l stop) (hnext : ∀ a ∈ l, next' a = next a) :
    Segment next' head l stop := by
  induction l generalizing head with
  | nil => exact h
  | cons a l ih =>
    refine ⟨h.1, ?_⟩
    rw [hnext a List.mem_cons_self]
    exact ih h.2 fun b hb => hnext b (List.mem_cons_of_mem a hb)

/-- A segment that ends is determined by its head. -/
theorem Segment.unique (h : Segment next head l none) (h' : Segment next head l' none) : l = l' := by
  induction l generalizing head l' with
  | nil =>
    cases l' with
    | nil => rfl
    | cons b l' => exact absurd (h.symm.trans h'.1) (by simp)
  | cons a l ih =>
    cases l' with
    | nil => exact absurd (h'.symm.trans h.1) (by simp)
    | cons b l' =>
      obtain rfl : a = b := Option.some.inj (h.1.symm.trans h'.1)
      rw [ih h.2 h'.2]

/-- A segment that ends meets no cell twice: from the second meeting on it would be as long as from
the first one. -/
theorem Segment.nodup (h : Segment next head l none) : l.Nodup := by
  induction l generalizing head with
  | nil => exact List.nodup_nil
  | cons a l ih =>
    refine List.nodup_cons.mpr ⟨fun hmem => ?_, ih h.2⟩
    obtain ⟨l₁, l₂, heq⟩ := List.append_of_mem hmem
    have htail := h.2
    rw [heq] at htail
    obtain ⟨mid, -, hmid⟩ := segment_append.mp htail
    have hlen := congrArg List.length (h.2.unique hmid.2)
    rw [heq, List.length_append, List.length_cons] at hlen
    omega

end Chains
