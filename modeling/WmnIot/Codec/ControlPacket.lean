import WmnIot.Model.ControlPacket

/-! # The control packet codec

Writing a control packet and reading it back, in both directions. Every field but one survives:
the decoder shifts the top byte of the network time by 52, where the encoder took it from bit 56.

* **`readNetworkTime_top`** — what the decoder makes of the top byte.
* **`construct_get_iff`** — which packets are read back as they were written.
* **`get_construct_iff`** — which strings are written back as they were read.
* **`controlpacketCodec_roundTrip_iff`** — the codec as a whole. -/

namespace WmnIot

open BigEndian

/-! ## The network time -/

/-- The decoder leaves only the upper half of the top byte in place. -/
theorem readNetworkTime_top (b₀ b₁ b₂ b₃ b₄ b₅ b₆ b₇ : UInt8) :
    (readNetworkTime b₀ b₁ b₂ b₃ b₄ b₅ b₆ b₇).toNat / 2 ^ 56 = b₀.toNat / 16 := by
  have hhigh : (b₀.toUInt64 <<< 52 ||| b₁.toUInt64 <<< 48).toNat =
      (b₀.toNat * 16 ||| b₁.toNat) * 2 ^ 48 := by
    rw [UInt64.toNat_or, toNat_toUInt64_shiftLeft _ _ (by decide),
      toNat_toUInt64_shiftLeft _ _ (by decide)]
    change b₀.toNat <<< (4 + 48) ||| b₁.toNat <<< 48 = _
    rw [Nat.shiftLeft_add, ← Nat.shiftLeft_or_distrib, Nat.shiftLeft_eq, Nat.shiftLeft_eq]
  have htop : (b₀.toNat * 16 ||| b₁.toNat) / 256 = b₀.toNat / 16 := by
    have h := Nat.shiftRight_or_distrib (a := b₀.toNat * 16) (b := b₁.toNat) (i := 8)
    have h₁ := b₁.toNat_lt
    simp only [Nat.shiftRight_eq_div_pow] at h
    rw [show (2 : ℕ) ^ 8 = 256 from rfl, Nat.div_eq_of_lt h₁, Nat.or_zero] at h
    omega
  have hsum := toNat_or_low48 (b₀.toUInt64 <<< 52 ||| b₁.toUInt64 <<< 48)
    (by rw [hhigh]; exact Nat.dvd_mul_left _ _) b₂ b₃ b₄ b₅ b₆ b₇
  rw [hhigh] at hsum
  have h₂ := b₂.toNat_lt; have h₃ := b₃.toNat_lt; have h₄ := b₄.toNat_lt
  have h₅ := b₅.toNat_lt; have h₆ := b₆.toNat_lt; have h₇ := b₇.toNat_lt
  unfold readNetworkTime
  omega

/-- With a zero top byte the decoder reads what was written. -/
theorem readNetworkTime_zero (b₁ b₂ b₃ b₄ b₅ b₆ b₇ : UInt8) :
    readNetworkTime 0 b₁ b₂ b₃ b₄ b₅ b₆ b₇ = ofBytes64 0 b₁ b₂ b₃ b₄ b₅ b₆ b₇ := by
  have h : (0 : UInt8).toUInt64 <<< 52 = (0 : UInt8).toUInt64 <<< 56 := by decide
  rw [readNetworkTime, ofBytes64, h]

/-- The network time read from the bytes of `x` is `x` exactly if its top byte is zero. -/
theorem readNetworkTime_eq_iff {x : UInt64} {b₀ b₁ b₂ b₃ b₄ b₅ b₆ b₇ : UInt8}
    (h : toBytes64 x = [b₀, b₁, b₂, b₃, b₄, b₅, b₆, b₇]) :
    readNetworkTime b₀ b₁ b₂ b₃ b₄ b₅ b₆ b₇ = x ↔ x.toNat < 2 ^ 56 := by
  have hb := map_toNat_toBytes64 x
  rw [h] at hb
  obtain ⟨hb₀, -⟩ := List.cons.inj hb
  have hx := x.toNat_lt
  rw [Nat.mod_eq_of_lt (show x.toNat / 2 ^ 56 < 256 by omega)] at hb₀
  constructor
  · intro he
    have htop := readNetworkTime_top b₀ b₁ b₂ b₃ b₄ b₅ b₆ b₇
    rw [he] at htop
    omega
  · intro hlt
    obtain rfl : b₀ = 0 := UInt8.toNat_inj.mp (by rw [hb₀, Nat.div_eq_of_lt hlt]; rfl)
    rw [readNetworkTime_zero]
    exact ofBytes64_of_toBytes64 h

/-- The low half of the network time is read right. -/
theorem readNetworkTime_toUInt32 {x : UInt64} {b₀ b₁ b₂ b₃ b₄ b₅ b₆ b₇ : UInt8}
    (h : toBytes64 x = [b₀, b₁, b₂, b₃, b₄, b₅, b₆, b₇]) :
    (readNetworkTime b₀ b₁ b₂ b₃ b₄ b₅ b₆ b₇).toUInt32 = x.toUInt32 := by
  have hhigh (k : UInt64) (hk : k.toNat ≤ 56) (hk' : 32 ≤ k.toNat) :
      (b₀.toUInt64 <<< k).toUInt32 = 0 := by
    rw [← UInt32.toNat_inj, UInt64.toNat_toUInt32, toNat_toUInt64_shiftLeft b₀ k hk,
      Nat.shiftLeft_eq, UInt32.toNat_zero]
    obtain ⟨j, hj⟩ := Nat.exists_eq_add_of_le hk'
    rw [hj, Nat.pow_add, mul_left_comm]
    exact Nat.mul_mod_right _ _
  rw [← ofBytes64_of_toBytes64 h]
  simp only [readNetworkTime, ofBytes64, UInt64.toUInt32_or]
  rw [hhigh 52 (by decide) (by decide), hhigh 56 (by decide) (by decide)]

/-- Written back, the network time that was read has its top byte right exactly if that is zero. -/
theorem toBytes64_readNetworkTime_top (b₀ b₁ b₂ b₃ b₄ b₅ b₆ b₇ : UInt8) :
    (toBytes64 (readNetworkTime b₀ b₁ b₂ b₃ b₄ b₅ b₆ b₇)).headI = b₀ ↔ b₀ = 0 := by
  constructor
  · intro h
    obtain ⟨hb₀, -⟩ :=
      List.cons.inj (map_toNat_toBytes64 (readNetworkTime b₀ b₁ b₂ b₃ b₄ b₅ b₆ b₇))
    rw [readNetworkTime_top] at hb₀
    have hlt := b₀.toNat_lt
    have htop : b₀.toNat = b₀.toNat / 16 % 256 := (congrArg UInt8.toNat h.symm).trans hb₀
    rw [Nat.mod_eq_of_lt (by omega)] at htop
    exact UInt8.toNat_inj.mp (show b₀.toNat = 0 by omega)
  · rintro rfl
    rw [readNetworkTime_zero, toBytes64_ofBytes64]
    rfl

/-! ## The slot map -/

/-- The slot map is read from where it was written. -/
theorem get_slotMapPosition (pkt : ControlPacket) (n : UInt8) (i : Fin Config.maxNumberFreqs)
    (j : Fin Config.slotBytes) :
    controlpacketGetPacketBytestring pkt n (slotMapPosition i j) = pkt.occupiedSlots i j := by
  fin_cases i <;> fin_cases j <;> rfl

/-- Writing the slot map read from a string gives the string's bytes back. -/
theorem slotMapByte_read (b : ByteString) (k : Fin Config.packetSizeMac)
    (hk : slotMapStart ≤ (k : ℕ))
    (h : (k : ℕ) - slotMapStart < Config.maxNumberFreqs * Config.slotBytes) :
    slotMapByte (fun i j => b (slotMapPosition i j)) (k - slotMapStart) h = b k := by
  refine congrArg b (Fin.ext ?_)
  change ((k : ℕ) - slotMapStart) / 2 * 2 + ((k : ℕ) - slotMapStart) % 2 + slotMapStart = k
  omega

/-! ## Reading what was written -/

/-- Reading a packet back gives the packet, with the network time the decoder makes of its
bytes. -/
theorem construct_get (pkt old : ControlPacket) (n : UInt8) {b₀ b₁ b₂ b₃ b₄ b₅ b₆ b₇ : UInt8}
    (h : toBytes64 pkt.networkTime = [b₀, b₁, b₂, b₃, b₄, b₅, b₆, b₇]) :
    controlpacketConstructPacketFromBytestring old (controlpacketGetPacketBytestring pkt n) =
      { pkt with networkTime := readNetworkTime b₀ b₁ b₂ b₃ b₄ b₅ b₆ b₇ } := by
  have htype : controlpacketGetPacketBytestring pkt n 0 = 1 := rfl
  have hmap : (fun i j => controlpacketGetPacketBytestring pkt n (slotMapPosition i j)) =
      pkt.occupiedSlots := by
    funext i j
    exact get_slotMapPosition pkt n i j
  simp only [toBytes64, List.cons.injEq, and_true] at h
  obtain ⟨rfl, rfl, rfl, rfl, rfl, rfl, rfl, rfl⟩ := h
  rw [controlpacketConstructPacketFromBytestring, if_neg (by rw [htype]; decide), hmap]
  have hid : ofBytes64 _ _ _ _ _ _ _ _ = pkt.nodeId.1 := ofBytes64_of_toBytes64 rfl
  have hid' : ofBytes64 _ _ _ _ _ _ _ _ = pkt.nodeId.2 := ofBytes64_of_toBytes64 rfl
  have hframe : ofBytes32 _ _ _ _ = pkt.currentFrame := ofBytes32_of_toBytes32 rfl
  have hfreq : ofBytes32 _ _ _ _ = pkt.collisionFrequency := ofBytes32_of_toBytes32 rfl
  have hhops : ofBytes16 _ _ = pkt.hopCount := ofBytes16_of_toBytes16 rfl
  have hinit : ofBytes32 _ _ _ _ = pkt.initTime := ofBytes32_of_toBytes32 rfl
  exact ControlPacket.mk.injEq .. |>.mpr
    ⟨rfl, rfl, hhops, hframe, hfreq, hinit, rfl, Prod.ext hid hid', rfl⟩

/-- A packet is read back as it was written exactly if the top byte of its network time is zero. -/
theorem construct_get_iff (pkt old : ControlPacket) (n : UInt8) :
    controlpacketConstructPacketFromBytestring old (controlpacketGetPacketBytestring pkt n) = pkt ↔
      pkt.networkTime.toNat < 2 ^ 56 := by
  rw [construct_get pkt old n rfl, ← readNetworkTime_eq_iff (x := pkt.networkTime) rfl]
  constructor
  · exact fun h => congrArg ControlPacket.networkTime h
  · intro h
    rw [h]

/-! ## Writing what was read -/

/-- The header written from a string that was read is the header of the string, but for the bytes
of the network time. -/
theorem header_construct (old : ControlPacket) {b : ByteString} (h : b 0 = 1) :
    controlpacketHeader (controlpacketConstructPacketFromBytestring old b) =
      [b 0, b 1, b 2, b 3, b 4, b 5, b 6, b 7, b 8, b 9, b 10, b 11, b 12, b 13, b 14, b 15, b 16,
        b 17, b 18, b 19, b 20, b 21, b 22, b 23, b 24, b 25, b 26, b 27, b 28]
      ++ toBytes64 (readNetworkTime (b 29) (b 30) (b 31) (b 32) (b 33) (b 34) (b 35) (b 36))
      ++ [b 37, b 38, b 39, b 40] := by
  rw [controlpacketConstructPacketFromBytestring, if_neg (by simp [h]), controlpacketHeader]
  simp only [toBytes64_ofBytes64, toBytes32_ofBytes32, toBytes16_ofBytes16, h, List.cons_append,
    List.nil_append]

/-- A string is written back as it was read, up to the padding, exactly if its byte 29 is zero. -/
theorem get_construct_iff (old : ControlPacket) (n : UInt8) {b : ByteString} (h : b 0 = 1) :
    (∀ k : Fin Config.packetSizeMac, (k : ℕ) < paddingStart →
      controlpacketGetPacketBytestring (controlpacketConstructPacketFromBytestring old b) n k = b k) ↔
      b 29 = 0 := by
  have hheader := header_construct old h
  constructor
  · intro hall
    have h29 := hall 29 (by decide)
    rw [controlpacketGetPacketBytestring, if_pos (by decide), hheader] at h29
    exact (toBytes64_readNetworkTime_top ..).mp h29
  · intro h29 k hk
    rw [h29, readNetworkTime_zero, toBytes64_ofBytes64, ← h29] at hheader
    unfold controlpacketGetPacketBytestring
    split
    · next hlt =>
      -- the header is the first 41 bytes of the string
      rw [hheader]
      change ((List.finRange 41).map fun i => b (Fin.castLE (by decide) i)).getD k 0 = b k
      rw [List.getD_eq_getElem _ _ (by simpa using hlt), List.getElem_map, List.getElem_finRange]
      rfl
    · next hge =>
      have hslots : (k : ℕ) - slotMapStart < Config.maxNumberFreqs * Config.slotBytes := by
        simp only [paddingStart] at hk
        omega
      rw [dif_pos hslots, controlpacketConstructPacketFromBytestring, if_neg (by simp [h])]
      exact slotMapByte_read b k (by omega) hslots

/-- A string of another type leaves the packet as it was. -/
theorem construct_of_type_ne (old : ControlPacket) {b : ByteString} (h : b 0 ≠ 1) :
    controlpacketConstructPacketFromBytestring old b = old :=
  if_pos h

/-! ## The codec -/

/-- **The control packet codec**: a packet is read back as it was written exactly if the top byte
of its network time is zero; a string of type 1 is written back as it was read, up to the padding,
exactly if its byte 29, which is that top byte, is zero; a string of another type changes
nothing. -/
theorem controlpacketCodec_roundTrip_iff (pkt old : ControlPacket) (b : ByteString) (n : UInt8) :
    (controlpacketConstructPacketFromBytestring old (controlpacketGetPacketBytestring pkt n) = pkt ↔
      pkt.networkTime.toNat < 2 ^ 56) ∧
    (b 0 = 1 →
      ((∀ k : Fin Config.packetSizeMac, (k : ℕ) < paddingStart →
        controlpacketGetPacketBytestring (controlpacketConstructPacketFromBytestring old b) n k
          = b k) ↔ b 29 = 0)) ∧
    (b 0 ≠ 1 → controlpacketConstructPacketFromBytestring old b = old) :=
  ⟨construct_get_iff pkt old n, get_construct_iff old n, construct_of_type_ne old⟩

/-- A network time of `2 ^ 56` is read back as `2 ^ 52`. -/
theorem controlpacketCodec_networkTime_lost :
    (controlpacketConstructPacketFromBytestring controlpacketClear
      (controlpacketGetPacketBytestring { networkTime := 0x0100000000000000 } 0)).networkTime = 0x0010000000000000 ∧
    ¬ ∀ (pkt old : ControlPacket) (n : UInt8),
      controlpacketConstructPacketFromBytestring old (controlpacketGetPacketBytestring pkt n)
        = pkt := by
  have hread : (controlpacketConstructPacketFromBytestring controlpacketClear
      (controlpacketGetPacketBytestring { networkTime := 0x0100000000000000 } 0)).networkTime = 0x0010000000000000 := by
    rw [construct_get _ _ _ rfl]
    decide
  refine ⟨hread, fun hall => ?_⟩
  rw [hall] at hread
  exact absurd hread (by decide)

end WmnIot
