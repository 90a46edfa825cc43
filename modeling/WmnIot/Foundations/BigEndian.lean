import Mathlib

/-! # Big-endian bytes of fixed-width words

A word is written most significant byte first by masking and shifting, and read back by or-ing
shifted bytes together. This file computes both directions on `toNat`, where the masks become
quotients and remainders and the disjoint `|||`s become sums, and derives the two round trips.

* **`toBytes16` / `toBytes32` / `toBytes64`** — the bytes of a word, by mask and shift.
* **`ofBytes16` / `ofBytes32` / `ofBytes64`** — the word of its bytes, by shift and or.
* **`ofBytes64_of_toBytes64`**, **`toBytes64_ofBytes64`** and their narrower companions — the round
  trips. -/

namespace BigEndian

/-! ## Masks and shifts on natural numbers -/

/-- Masking out the byte at bit `k` and shifting it down leaves that byte. -/
theorem land_shiftRight_mod (x k : ℕ) : (x &&& 255 <<< k) >>> k % 256 = x / 2 ^ k % 256 := by
  rw [Nat.shiftRight_and_distrib, Nat.shiftLeft_shiftRight, show (255 : ℕ) = 2 ^ 8 - 1 from rfl,
    Nat.and_two_pow_sub_one_eq_mod, Nat.mod_mod, Nat.shiftRight_eq_div_pow]

/-- Or-ing a byte into the free low bits of an accumulator adds it. -/
theorem lor_shiftLeft (a b k : ℕ) (ha : 2 ^ (k + 8) ∣ a) (hb : b < 256) :
    a ||| b <<< k = a + b * 2 ^ k := by
  obtain ⟨c, rfl⟩ := ha
  have h : b <<< k < 2 ^ (k + 8) := by
    rw [Nat.shiftLeft_eq, pow_add, mul_comm]
    gcongr
    exact hb
  rw [mul_comm, ← Nat.shiftLeft_eq, ← Nat.shiftLeft_add_eq_or_of_lt h, Nat.shiftLeft_eq b]

/-- A byte shifted by at most `w - 8` stays below `2 ^ w`. -/
theorem shiftLeft_lt (b : UInt8) {k w : ℕ} (hk : k + 8 ≤ w) : b.toNat <<< k < 2 ^ w := by
  calc b.toNat <<< k = b.toNat * 2 ^ k := Nat.shiftLeft_eq _ _
    _ < 2 ^ 8 * 2 ^ k := by gcongr; exact b.toNat_lt
    _ = 2 ^ (k + 8) := by rw [pow_add, mul_comm]
    _ ≤ 2 ^ w := Nat.pow_le_pow_right (by norm_num) hk

/-! ## Writing a word -/

/-- The eight bytes of a 64-bit word, most significant first. -/
def toBytes64 (x : UInt64) : List UInt8 :=
  [((x &&& 0xff00000000000000) >>> 56).toUInt8, ((x &&& 0x00ff000000000000) >>> 48).toUInt8,
    ((x &&& 0x0000ff0000000000) >>> 40).toUInt8, ((x &&& 0x000000ff00000000) >>> 32).toUInt8,
    ((x &&& 0x00000000ff000000) >>> 24).toUInt8, ((x &&& 0x0000000000ff0000) >>> 16).toUInt8,
    ((x &&& 0x000000000000ff00) >>> 8).toUInt8, (x &&& 0x00000000000000ff).toUInt8]

/-- The four bytes of a 32-bit word, most significant first. -/
def toBytes32 (x : UInt32) : List UInt8 :=
  [((x &&& 0xff000000) >>> 24).toUInt8, ((x &&& 0x00ff0000) >>> 16).toUInt8,
    ((x &&& 0x0000ff00) >>> 8).toUInt8, (x &&& 0x000000ff).toUInt8]

/-- The two bytes of a 16-bit word, most significant first. -/
def toBytes16 (x : UInt16) : List UInt8 :=
  [((x &&& 0xff00) >>> 8).toUInt8, (x &&& 0x00ff).toUInt8]

@[simp] theorem length_toBytes64 (x : UInt64) : (toBytes64 x).length = 8 := rfl

@[simp] theorem length_toBytes32 (x : UInt32) : (toBytes32 x).length = 4 := rfl

@[simp] theorem length_toBytes16 (x : UInt16) : (toBytes16 x).length = 2 := rfl

/-- The bytes of a 64-bit word are its base-256 digits. -/
theorem map_toNat_toBytes64 (x : UInt64) :
    (toBytes64 x).map UInt8.toNat = [x.toNat / 2 ^ 56 % 256, x.toNat / 2 ^ 48 % 256,
      x.toNat / 2 ^ 40 % 256, x.toNat / 2 ^ 32 % 256, x.toNat / 2 ^ 24 % 256,
      x.toNat / 2 ^ 16 % 256, x.toNat / 2 ^ 8 % 256, x.toNat / 2 ^ 0 % 256] := by
  have hb := land_shiftRight_mod x.toNat
  simp only [toBytes64, List.map_cons, List.map_nil, List.cons.injEq, and_true]
  exact ⟨hb 56, hb 48, hb 40, hb 32, hb 24, hb 16, hb 8, hb 0⟩

/-- The bytes of a 32-bit word are its base-256 digits. -/
theorem map_toNat_toBytes32 (x : UInt32) :
    (toBytes32 x).map UInt8.toNat = [x.toNat / 2 ^ 24 % 256, x.toNat / 2 ^ 16 % 256,
      x.toNat / 2 ^ 8 % 256, x.toNat / 2 ^ 0 % 256] := by
  have hb := land_shiftRight_mod x.toNat
  simp only [toBytes32, List.map_cons, List.map_nil, List.cons.injEq, and_true]
  exact ⟨hb 24, hb 16, hb 8, hb 0⟩

/-- The bytes of a 16-bit word are its base-256 digits. -/
theorem map_toNat_toBytes16 (x : UInt16) :
    (toBytes16 x).map UInt8.toNat = [x.toNat / 2 ^ 8 % 256, x.toNat / 2 ^ 0 % 256] := by
  have hb := land_shiftRight_mod x.toNat
  simp only [toBytes16, List.map_cons, List.map_nil, List.cons.injEq, and_true]
  exact ⟨hb 8, hb 0⟩

/-- Two byte lists with the same values are equal. -/
theorem eq_of_map_toNat {l l' : List UInt8} (h : l.map UInt8.toNat = l'.map UInt8.toNat) :
    l = l' :=
  List.map_injective_iff.mpr (fun _ _ hb => UInt8.toNat_inj.mp hb) h

/-! ## Reading a word -/

/-- The 64-bit word of its eight bytes, most significant first. -/
def ofBytes64 (b₀ b₁ b₂ b₃ b₄ b₅ b₆ b₇ : UInt8) : UInt64 :=
  b₀.toUInt64 <<< 56 ||| b₁.toUInt64 <<< 48 ||| b₂.toUInt64 <<< 40 ||| b₃.toUInt64 <<< 32
    ||| b₄.toUInt64 <<< 24 ||| b₅.toUInt64 <<< 16 ||| b₆.toUInt64 <<< 8 ||| b₇.toUInt64

/-- The 32-bit word of its four bytes, most significant first. -/
def ofBytes32 (b₀ b₁ b₂ b₃ : UInt8) : UInt32 :=
  b₀.toUInt32 <<< 24 ||| b₁.toUInt32 <<< 16 ||| b₂.toUInt32 <<< 8 ||| b₃.toUInt32

/-- The 16-bit word of its two bytes, most significant first. -/
def ofBytes16 (b₀ b₁ : UInt8) : UInt16 :=
  b₀.toUInt16 <<< 8 ||| b₁.toUInt16

/-- A byte widened to 64 bits and shifted by at most 56 is not truncated. -/
theorem toNat_toUInt64_shiftLeft (b : UInt8) (k : UInt64) (hk : k.toNat ≤ 56) :
    (b.toUInt64 <<< k).toNat = b.toNat <<< k.toNat := by
  rw [UInt64.toNat_shiftLeft, UInt8.toNat_toUInt64, Nat.mod_eq_of_lt (show k.toNat < 64 by omega),
    Nat.mod_eq_of_lt (shiftLeft_lt b (by omega))]

/-- A byte widened to 32 bits and shifted by at most 24 is not truncated. -/
theorem toNat_toUInt32_shiftLeft (b : UInt8) (k : UInt32) (hk : k.toNat ≤ 24) :
    (b.toUInt32 <<< k).toNat = b.toNat <<< k.toNat := by
  rw [UInt32.toNat_shiftLeft, UInt8.toNat_toUInt32, Nat.mod_eq_of_lt (show k.toNat < 32 by omega),
    Nat.mod_eq_of_lt (shiftLeft_lt b (by omega))]

/-- One reading step on 64 bits: or-ing the next byte adds it. -/
theorem toNat_or_toUInt64 (a : UInt64) (b : UInt8) (k : UInt64) (hk : k.toNat ≤ 56)
    (ha : 2 ^ (k.toNat + 8) ∣ a.toNat) :
    (a ||| b.toUInt64 <<< k).toNat = a.toNat + b.toNat * 2 ^ k.toNat := by
  rw [UInt64.toNat_or, toNat_toUInt64_shiftLeft b k hk, lor_shiftLeft _ _ _ ha b.toNat_lt]

/-- One reading step on 32 bits: or-ing the next byte adds it. -/
theorem toNat_or_toUInt32 (a : UInt32) (b : UInt8) (k : UInt32) (hk : k.toNat ≤ 24)
    (ha : 2 ^ (k.toNat + 8) ∣ a.toNat) :
    (a ||| b.toUInt32 <<< k).toNat = a.toNat + b.toNat * 2 ^ k.toNat := by
  rw [UInt32.toNat_or, toNat_toUInt32_shiftLeft b k hk, lor_shiftLeft _ _ _ ha b.toNat_lt]

/-- The low six bytes of a 64-bit word, or-ed into any accumulator that leaves them free, are
added to it. -/
theorem toNat_or_low48 (a : UInt64) (ha : 2 ^ 48 ∣ a.toNat) (b₂ b₃ b₄ b₅ b₆ b₇ : UInt8) :
    (a ||| b₂.toUInt64 <<< 40 ||| b₃.toUInt64 <<< 32 ||| b₄.toUInt64 <<< 24
      ||| b₅.toUInt64 <<< 16 ||| b₆.toUInt64 <<< 8 ||| b₇.toUInt64).toNat
      = a.toNat + b₂.toNat * 2 ^ 40 + b₃.toNat * 2 ^ 32 + b₄.toNat * 2 ^ 24 + b₅.toNat * 2 ^ 16
        + b₆.toNat * 2 ^ 8 + b₇.toNat := by
  have h2 := toNat_or_toUInt64 a b₂ 40 (by decide) ha
  have h3 := toNat_or_toUInt64 _ b₃ 32 (by decide) (by rw [h2]; simp; omega)
  have h4 := toNat_or_toUInt64 _ b₄ 24 (by decide) (by rw [h3, h2]; simp; omega)
  have h5 := toNat_or_toUInt64 _ b₅ 16 (by decide) (by rw [h4, h3, h2]; simp; omega)
  have h6 := toNat_or_toUInt64 _ b₆ 8 (by decide) (by rw [h5, h4, h3, h2]; simp; omega)
  have h7 := toNat_or_toUInt64 _ b₇ 0 (by decide) (by rw [h6, h5, h4, h3, h2]; simp; omega)
  rw [h6, h5, h4, h3, h2] at h7
  simpa using h7

/-- The value of a 64-bit word read from its bytes. -/
theorem toNat_ofBytes64 (b₀ b₁ b₂ b₃ b₄ b₅ b₆ b₇ : UInt8) :
    (ofBytes64 b₀ b₁ b₂ b₃ b₄ b₅ b₆ b₇).toNat = b₀.toNat * 2 ^ 56 + b₁.toNat * 2 ^ 48
      + b₂.toNat * 2 ^ 40 + b₃.toNat * 2 ^ 32 + b₄.toNat * 2 ^ 24 + b₅.toNat * 2 ^ 16
      + b₆.toNat * 2 ^ 8 + b₇.toNat := by
  have h0 : (b₀.toUInt64 <<< 56).toNat = b₀.toNat * 2 ^ 56 := by
    rw [toNat_toUInt64_shiftLeft _ _ (by decide)]
    exact Nat.shiftLeft_eq _ _
  have h1 := toNat_or_toUInt64 _ b₁ 48 (by decide) (by rw [h0]; exact ⟨_, mul_comm _ _⟩)
  rw [h0] at h1
  have h := toNat_or_low48 (b₀.toUInt64 <<< 56 ||| b₁.toUInt64 <<< 48) (by rw [h1]; simp; omega)
    b₂ b₃ b₄ b₅ b₆ b₇
  rw [h1] at h
  exact h

/-- The value of a 32-bit word read from its bytes. -/
theorem toNat_ofBytes32 (b₀ b₁ b₂ b₃ : UInt8) :
    (ofBytes32 b₀ b₁ b₂ b₃).toNat
      = b₀.toNat * 2 ^ 24 + b₁.toNat * 2 ^ 16 + b₂.toNat * 2 ^ 8 + b₃.toNat := by
  have h0 : (b₀.toUInt32 <<< 24).toNat = b₀.toNat * 2 ^ 24 := by
    rw [toNat_toUInt32_shiftLeft _ _ (by decide)]
    exact Nat.shiftLeft_eq _ _
  have h1 := toNat_or_toUInt32 _ b₁ 16 (by decide) (by rw [h0]; exact ⟨_, mul_comm _ _⟩)
  have h2 := toNat_or_toUInt32 _ b₂ 8 (by decide) (by rw [h1, h0]; simp; omega)
  have h3 := toNat_or_toUInt32 _ b₃ 0 (by decide) (by rw [h2, h1, h0]; simp; omega)
  rw [h2, h1, h0] at h3
  simpa [ofBytes32] using h3

/-- The value of a 16-bit word read from its bytes. -/
theorem toNat_ofBytes16 (b₀ b₁ : UInt8) :
    (ofBytes16 b₀ b₁).toNat = b₀.toNat * 2 ^ 8 + b₁.toNat := by
  have h0 : (b₀.toUInt16 <<< 8).toNat = b₀.toNat <<< 8 := by
    rw [UInt16.toNat_shiftLeft, UInt8.toNat_toUInt16]
    exact Nat.mod_eq_of_lt (shiftLeft_lt b₀ (by decide))
  rw [ofBytes16, UInt16.toNat_or, h0, UInt8.toNat_toUInt16]
  exact (Nat.shiftLeft_add_eq_or_of_lt b₁.toNat_lt _).symm.trans (by rw [Nat.shiftLeft_eq])

/-! ## Round trips -/

/-- The byte at bit `k` splits off what is above it. -/
theorem div_pow_eq (x k : ℕ) : x / 2 ^ k = x / 2 ^ (k + 8) * 256 + x / 2 ^ k % 256 := by
  rw [pow_add, ← Nat.div_div_eq_div_mul]
  exact (Nat.div_add_mod' (x / 2 ^ k) 256).symm

/-- Reading back the bytes of a 64-bit word gives the word. -/
theorem ofBytes64_of_toBytes64 {x : UInt64} {b₀ b₁ b₂ b₃ b₄ b₅ b₆ b₇ : UInt8}
    (h : toBytes64 x = [b₀, b₁, b₂, b₃, b₄, b₅, b₆, b₇]) :
    ofBytes64 b₀ b₁ b₂ b₃ b₄ b₅ b₆ b₇ = x := by
  have hb := map_toNat_toBytes64 x
  rw [h] at hb
  simp only [List.map_cons, List.map_nil, List.cons.injEq, and_true] at hb
  obtain ⟨h₀, h₁, h₂, h₃, h₄, h₅, h₆, h₇⟩ := hb
  -- nothing is above the top byte, and each byte splits off what is above it
  have htop : x.toNat / 2 ^ 56 % 256 = x.toNat / 2 ^ 56 :=
    Nat.mod_eq_of_lt (Nat.div_lt_of_lt_mul x.toNat_lt)
  have hsplit := div_pow_eq x.toNat
  have hwhole : x.toNat / 2 ^ 0 = x.toNat := Nat.div_one x.toNat
  apply UInt64.toNat_inj.mp
  rw [toNat_ofBytes64, h₀, h₁, h₂, h₃, h₄, h₅, h₆, h₇, htop]
  linarith only [hwhole, hsplit 0, hsplit 8, hsplit 16, hsplit 24, hsplit 32, hsplit 40, hsplit 48]

/-- Reading back the bytes of a 32-bit word gives the word. -/
theorem ofBytes32_of_toBytes32 {x : UInt32} {b₀ b₁ b₂ b₃ : UInt8}
    (h : toBytes32 x = [b₀, b₁, b₂, b₃]) : ofBytes32 b₀ b₁ b₂ b₃ = x := by
  have hx := x.toNat_lt
  have hb := map_toNat_toBytes32 x
  rw [h] at hb
  simp only [List.map_cons, List.map_nil, List.cons.injEq, and_true] at hb
  apply UInt32.toNat_inj.mp
  rw [toNat_ofBytes32]
  omega

/-- Reading back the bytes of a 16-bit word gives the word. -/
theorem ofBytes16_of_toBytes16 {x : UInt16} {b₀ b₁ : UInt8} (h : toBytes16 x = [b₀, b₁]) :
    ofBytes16 b₀ b₁ = x := by
  have hx := x.toNat_lt
  have hb := map_toNat_toBytes16 x
  rw [h] at hb
  simp only [List.map_cons, List.map_nil, List.cons.injEq, and_true] at hb
  apply UInt16.toNat_inj.mp
  rw [toNat_ofBytes16]
  omega

/-- Writing a 64-bit word read from eight bytes gives those bytes back. -/
theorem toBytes64_ofBytes64 (b₀ b₁ b₂ b₃ b₄ b₅ b₆ b₇ : UInt8) :
    toBytes64 (ofBytes64 b₀ b₁ b₂ b₃ b₄ b₅ b₆ b₇) = [b₀, b₁, b₂, b₃, b₄, b₅, b₆, b₇] := by
  have h0 := b₀.toNat_lt; have h1 := b₁.toNat_lt; have h2 := b₂.toNat_lt
  have h3 := b₃.toNat_lt; have h4 := b₄.toNat_lt; have h5 := b₅.toNat_lt
  have h6 := b₆.toNat_lt; have h7 := b₇.toNat_lt
  apply eq_of_map_toNat
  rw [map_toNat_toBytes64, toNat_ofBytes64]
  simp only [List.map_cons, List.map_nil, List.cons.injEq, and_true]
  omega

/-- Writing a 32-bit word read from four bytes gives those bytes back. -/
theorem toBytes32_ofBytes32 (b₀ b₁ b₂ b₃ : UInt8) :
    toBytes32 (ofBytes32 b₀ b₁ b₂ b₃) = [b₀, b₁, b₂, b₃] := by
  have h0 := b₀.toNat_lt; have h1 := b₁.toNat_lt; have h2 := b₂.toNat_lt
  have h3 := b₃.toNat_lt
  apply eq_of_map_toNat
  rw [map_toNat_toBytes32, toNat_ofBytes32]
  simp only [List.map_cons, List.map_nil, List.cons.injEq, and_true]
  omega

/-- Writing a 16-bit word read from two bytes gives those bytes back. -/
theorem toBytes16_ofBytes16 (b₀ b₁ : UInt8) : toBytes16 (ofBytes16 b₀ b₁) = [b₀, b₁] := by
  have h0 := b₀.toNat_lt; have h1 := b₁.toNat_lt
  apply eq_of_map_toNat
  rw [map_toNat_toBytes16, toNat_ofBytes16]
  simp only [List.map_cons, List.map_nil, List.cons.injEq, and_true]
  omega

end BigEndian
