import Mathlib

/-! # First fit

A table is scanned in order, and the first entry that qualifies is taken.

* **`find?_finRange_eq_some_iff`** — the scan finds the least entry that qualifies.
* **`find?_finRange_eq_none_iff`** — or there is none. -/

namespace FirstFit

variable {n : ℕ} {p : Fin n → Bool}

/-- The scan finds an entry exactly if it is the least one that qualifies. -/
theorem find?_finRange_eq_some_iff {i : Fin n} :
    (List.finRange n).find? p = some i ↔ IsLeast {j | p j = true} i := by
  rw [List.find?_eq_some_iff_getElem]
  constructor
  · rintro ⟨hi, k, hk, hget, hbefore⟩
    rw [List.getElem_finRange] at hget
    refine ⟨hi, fun j hj => ?_⟩
    by_contra hlt
    have hjk : (j : ℕ) < k := by
      rw [not_le, ← hget, Fin.lt_def] at hlt
      exact hlt
    have hnot := hbefore j hjk
    rw [List.getElem_finRange] at hnot
    have hj : p j = true := hj
    simp [hj] at hnot
  · rintro ⟨hi, hleast⟩
    refine ⟨hi, i, by simp, by simp, fun j hj => ?_⟩
    rw [List.getElem_finRange]
    by_contra hp
    have hle := hleast (a := ⟨j, by omega⟩) (by simpa using hp)
    exact absurd hj (not_lt.mpr hle)

/-- The scan finds nothing exactly if no entry qualifies. -/
theorem find?_finRange_eq_none_iff : (List.finRange n).find? p = none ↔ ∀ i, p i = false := by
  simp [List.find?_eq_none]

end FirstFit
