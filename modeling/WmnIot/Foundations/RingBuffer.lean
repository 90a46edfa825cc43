import Mathlib

/-! # Rings as bounded queues

A ring keeps a queue in an array of `n` slots: the queue occupies `count` consecutive slots from
`first` on, wrapping round at the end. Writers store behind the window, readers take its first
slot. This file states when a ring holds a queue and shows that storing, taking and emptying do on
the ring what they do on the queue.

* **`window`** — the contents of consecutive slots.
* **`Holds`** — the ring holds the given queue.
* **`Holds.push`**, **`Holds.pop`**, **`Holds.nil`** — the queue operations on the ring. -/

namespace RingBuffer

variable {α : Type*} {n : ℕ} [NeZero n]

/-! ## The window -/

/-- The contents of `count` consecutive slots from position `first` on, wrapping round. -/
def window (slots : Fin n → α) (first count : ℕ) : List α :=
  (List.range count).map fun i => slots (Fin.ofNat n (first + i))

@[simp] theorem window_zero (slots : Fin n → α) (first : ℕ) : window slots first 0 = [] := rfl

@[simp] theorem length_window (slots : Fin n → α) (first count : ℕ) :
    (window slots first count).length = count := by
  simp [window]

/-- A position below `n` names its own slot. -/
theorem ofNat_of_lt {i : ℕ} (h : i < n) : Fin.ofNat n i = ⟨i, h⟩ :=
  Fin.ext (Nat.mod_eq_of_lt h)

/-- Positions that agree modulo `n` name the same slot. -/
theorem ofNat_eq_of_mod_eq {i j : ℕ} (h : i % n = j % n) : Fin.ofNat n i = Fin.ofNat n j :=
  Fin.ext (by simpa using h)

/-- Two positions less than `n` apart name different slots. -/
theorem ofNat_ne_of_lt {i j : ℕ} (hij : i < j) (hj : j < i + n) :
    Fin.ofNat n i ≠ Fin.ofNat n j := by
  intro h
  have hmod : i % n = j % n := by simpa using congrArg Fin.val h
  have hdvd : n ∣ j - i := (Nat.modEq_iff_dvd' hij.le).mp hmod
  exact absurd (Nat.le_of_dvd (by omega) hdvd) (by omega)

/-- The window only depends on its start modulo `n`. -/
theorem window_mod (slots : Fin n → α) (first count : ℕ) :
    window slots (first % n) count = window slots first count := by
  unfold window
  refine List.map_congr_left fun i _ => ?_
  rw [ofNat_eq_of_mod_eq (Nat.mod_add_mod first n i)]

/-- A non-empty window is its first slot followed by the window of the rest. -/
theorem window_succ (slots : Fin n → α) (first count : ℕ) :
    window slots first (count + 1) =
      slots (Fin.ofNat n first) :: window slots (first + 1) count := by
  simp only [window, List.range_succ_eq_map, List.map_cons, List.map_map, Nat.add_zero]
  congr 1
  refine List.map_congr_left fun i _ => ?_
  simp only [Function.comp_apply, Nat.succ_eq_add_one, Nat.add_assoc, Nat.add_comm 1 i]

/-- The last slot of a window comes at its end. -/
theorem window_succ_last (slots : Fin n → α) (first count : ℕ) :
    window slots first (count + 1) =
      window slots first count ++ [slots (Fin.ofNat n (first + count))] := by
  simp [window, List.range_succ]

/-- Storing right behind a window that does not fill the ring leaves the window as it is. -/
theorem window_update_behind (slots : Fin n → α) (x : α) (first : ℕ) {count : ℕ}
    (hc : count < n) :
    window (Function.update slots (Fin.ofNat n (first + count)) x) first count =
      window slots first count := by
  unfold window
  refine List.map_congr_left fun i hi => Function.update_of_ne ?_ _ _
  have := List.mem_range.mp hi
  exact ofNat_ne_of_lt (by omega) (by omega)

/-- Storing right before a window that does not fill the ring leaves the window as it is. -/
theorem window_update_before (slots : Fin n → α) (x : α) (first : ℕ) {count : ℕ}
    (hc : count < n) :
    window (Function.update slots (Fin.ofNat n first) x) (first + 1) count =
      window slots (first + 1) count := by
  unfold window
  refine List.map_congr_left fun i hi => Function.update_of_ne (Ne.symm ?_) _ _
  have := List.mem_range.mp hi
  exact ofNat_ne_of_lt (by omega) (by omega)

/-! ## A ring holding a queue -/

/-- The ring with `count` live slots from `first` on **holds** the queue. -/
structure Holds (slots : Fin n → α) (first count : ℕ) (queue : List α) : Prop where
  /-- The queue fits into the ring. -/
  fits : queue.length ≤ n
  /-- The live slots are the queue, oldest first. -/
  entries : window slots first count = queue

namespace Holds

variable {slots : Fin n → α} {first count : ℕ} {queue : List α}

/-- The counter of a ring is the length of the queue it holds. -/
theorem count_eq (h : Holds slots first count queue) : count = queue.length := by
  rw [← h.entries, length_window]

/-- A ring without live slots holds the empty queue. -/
theorem nil (slots : Fin n → α) (first : ℕ) : Holds slots first 0 [] :=
  ⟨Nat.zero_le n, rfl⟩

/-- Only the start modulo `n` matters for what a ring holds. -/
theorem mod_iff : Holds slots (first % n) count queue ↔ Holds slots first count queue := by
  constructor
  · exact fun h => ⟨h.fits, by rw [← window_mod]; exact h.entries⟩
  · exact fun h => ⟨h.fits, by rw [window_mod]; exact h.entries⟩

/-- **Storing** behind the window of a ring that is not full appends to its queue. -/
theorem push (h : Holds slots first count queue) (hlt : queue.length < n) (x : α) :
    Holds (Function.update slots (Fin.ofNat n (first + count)) x) first (count + 1)
      (queue ++ [x]) := by
  have hc : count < n := h.count_eq ▸ hlt
  refine ⟨by simpa using hlt, ?_⟩
  rw [window_succ_last, window_update_behind slots x first hc, h.entries, Function.update_self]

/-- The first slot of a ring is the oldest element of its queue. -/
theorem head {x : α} (h : Holds slots first count (x :: queue)) :
    slots (Fin.ofNat n first) = x := by
  have hc : count = queue.length + 1 := h.count_eq
  have he := h.entries
  rw [hc, window_succ] at he
  exact (List.cons.inj he).1

/-- **Taking** the first slot of a ring, whatever is left in the slot, removes the oldest element
of its queue. -/
theorem pop {x : α} (h : Holds slots first count (x :: queue)) (y : α) :
    Holds (Function.update slots (Fin.ofNat n first) y) (first + 1) (count - 1) queue := by
  have hc : count = queue.length + 1 := h.count_eq
  have hfits : queue.length + 1 ≤ n := h.fits
  have he := h.entries
  rw [hc, window_succ] at he
  refine ⟨by omega, ?_⟩
  rw [hc, Nat.add_sub_cancel, window_update_before slots y first (by omega)]
  exact (List.cons.inj he).2

end Holds

end RingBuffer
