import WmnIot.Foundations.BigEndian
import WmnIot.Model.DataPacket

/-! # The CF packet codec

A CF packet is a type byte and two ids of 128 bits. The string it is written to is longer, and the
rest of it is padding.

* **`cfpacket_construct_get`** — a packet is read back as it was written.
* **`cfpacket_get_construct`** — the ids are written back as they were read.
* **`cfpacketCodec_roundTrip`** — the codec. -/

namespace WmnIot

open BigEndian

/-- A CF packet is written with the type 0. -/
theorem cfpacketGetPacketBytestring_type (pkt : CFPacket) (n : UInt8) :
    cfpacketGetPacketBytestring pkt n 0 = 0 := rfl

/-- Reading a CF packet back gives the packet. -/
theorem cfpacket_construct_get (pkt old : CFPacket) (n : UInt8) :
    cfpacketConstructPacketFromBytestring old (cfpacketGetPacketBytestring pkt n) = pkt := by
  have hid : ofBytes64 _ _ _ _ _ _ _ _ = pkt.nodeId.1 := ofBytes64_of_toBytes64 rfl
  have hid' : ofBytes64 _ _ _ _ _ _ _ _ = pkt.nodeId.2 := ofBytes64_of_toBytes64 rfl
  have hdest : ofBytes64 _ _ _ _ _ _ _ _ = pkt.destinationId.1 := ofBytes64_of_toBytes64 rfl
  have hdest' : ofBytes64 _ _ _ _ _ _ _ _ = pkt.destinationId.2 := ofBytes64_of_toBytes64 rfl
  rw [cfpacketConstructPacketFromBytestring,
    if_neg (by rw [cfpacketGetPacketBytestring_type]; decide)]
  exact CFPacket.mk.injEq .. |>.mpr ⟨Prod.ext hid hid', Prod.ext hdest hdest'⟩

/-- A string of another type is not read. -/
theorem cfpacketConstruct_of_ne {b : ByteString} (htype : b 0 ≠ 0) (old : CFPacket) :
    cfpacketConstructPacketFromBytestring old b = old :=
  if_pos htype

/-- The header that is written from a packet that was read is that of the string. -/
theorem cfpacketHeader_construct {b : ByteString} (htype : b 0 = 0) (old : CFPacket) :
    cfpacketHeader (cfpacketConstructPacketFromBytestring old b) =
      (List.finRange 33).map fun i => b (Fin.castLE (by decide) i) := by
  have hread : ¬ b 0 ≠ 0 := not_not.mpr htype
  rw [cfpacketConstructPacketFromBytestring, if_neg hread]
  simp only [cfpacketHeader, toBytes64_ofBytes64, List.cons_append, List.nil_append]
  conv_lhs => rw [← htype]
  rfl

/-- Positions 0 to 32 are written back as they were read. -/
theorem cfpacket_get_construct {b : ByteString} (htype : b 0 = 0) (old : CFPacket) (n : UInt8)
    {k : Fin Config.packetSizeMac} (hk : (k : ℕ) ≤ 32) :
    cfpacketGetPacketBytestring (cfpacketConstructPacketFromBytestring old b) n k = b k := by
  have hlt : (k : ℕ) < 33 := Nat.lt_succ_of_le hk
  rw [cfpacketGetPacketBytestring, cfpacketHeader_construct htype,
    List.getD_eq_getElem _ _ (by simpa using hlt), List.getElem_map, List.getElem_finRange]
  rfl

/-- **The CF packet codec**: a packet is read back as it was written, whatever the padding and the
packet it is read into; positions 0 to 32 of a string with the type byte 0 are written back as they
were read; and a string with another type byte leaves the packet as it was. -/
theorem cfpacketCodec_roundTrip (pkt old : CFPacket) (n : UInt8) (b : ByteString) :
    cfpacketConstructPacketFromBytestring old (cfpacketGetPacketBytestring pkt n) = pkt ∧
    (b 0 = 0 → ∀ k : Fin Config.packetSizeMac, (k : ℕ) ≤ 32 →
      cfpacketGetPacketBytestring (cfpacketConstructPacketFromBytestring old b) n k = b k) ∧
    (b 0 ≠ 0 → cfpacketConstructPacketFromBytestring old b = old) :=
  ⟨cfpacket_construct_get pkt old n,
    fun htype _ hk => cfpacket_get_construct htype old n hk,
    fun htype => cfpacketConstruct_of_ne htype old⟩

end WmnIot
