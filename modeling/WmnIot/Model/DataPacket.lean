import WmnIot.Foundations.BigEndian
import WmnIot.Model.Config

/-! # Data and CF packets

`DataPacket.c` and `CFPacket.c`: the packets that carry the data of the upper layers and the
announcements of the common-frequency phase.

* **`DataPacket`**, **`datapacketGetPacketBytestring`**, **`datapacketConstructFromBytestring`** —
  data packets and their codec.
* **`encodable_datapacketOfBytes`** — what was decoded can be encoded.
* **`CFPacket`**, **`cfpacketGetPacketBytestring`**, **`cfpacketConstructPacketFromBytestring`** —
  announcements and their codec. -/

namespace WmnIot

open BigEndian

/-! ## Data packets -/

/-- `DataPacket_t`. -/
structure DataPacket where
  type : Int8 := 0
  size : UInt8 := 0
  destinationId : NodeId := (0, 0)
  data : List UInt8 := []
  deriving DecidableEq

/-- `datapacket_clear`. -/
def datapacketClear : DataPacket := { type := -1 }

/-- `datapacket_create`: the packet with the first `size` elements of the data. Fewer than `size`
elements are out of bounds. -/
def datapacketCreate (type : Int8) (destinationId : NodeId) (data : List UInt8) (size : UInt8) :
    Except Halt DataPacket := do
  assert (0 ≤ type && type < 10)
  assert (size > 0)
  if size.toNat ≤ data.length then
    return {
      type := type
      size := size
      destinationId := destinationId
      data := data.take size.toNat }
  else throw .outOfBounds

/-- The first position of the data in the byte string. -/
abbrev dataStart : ℕ := 18

/-- Positions 0 to 17 of the byte string: the type, the destination and the size. -/
def datapacketHeader (pkt : DataPacket) : List UInt8 :=
  pkt.type.toUInt8 :: toBytes64 pkt.destinationId.1 ++ toBytes64 pkt.destinationId.2 ++ [pkt.size]

/-- What `READ_ARRAY` gives for the data of a packet. An element that is not there is that of
`junk`: on RIOT, the value of an uninitialised variable. -/
def datapacketData (junk : ℕ → UInt8) (pkt : DataPacket) : List UInt8 :=
  (List.range pkt.size.toNat).map fun i => pkt.data.getD i (junk i)

theorem length_datapacketData (junk : ℕ → UInt8) (pkt : DataPacket) :
    (datapacketData junk pkt).length = pkt.size.toNat := by
  simp [datapacketData]

/-- The bytes of a data packet: the header, `size` elements of the data up to the end of the string,
and zeros. -/
def datapacketBytes (junk : ℕ → UInt8) (pkt : DataPacket) : ByteString := fun k =>
  (datapacketHeader pkt ++ datapacketData junk pkt).getD k 0

/-- On Linux the data of the packet have to be there and to fit into a byte string. On RIOT
`write_element` refuses the positions behind the string, and `read_element` those behind the
data. -/
def DataPacket.Encodable (os : OS) (pkt : DataPacket) : Prop :=
  os = .linux →
    pkt.size.toNat + dataStart ≤ Config.packetSizeMac ∧ pkt.size.toNat ≤ pkt.data.length

instance (os : OS) (pkt : DataPacket) : Decidable (pkt.Encodable os) :=
  inferInstanceAs (Decidable (_ → _))

/-- `datapacket_get_packet_bytestring`, with `junk` for what uninitialised variables hold. On Linux,
data that do not fit into the string, or fewer than `size` elements, are out of bounds. -/
def datapacketGetPacketBytestring (os : OS) (junk : ℕ → UInt8) (pkt : DataPacket) :
    Except Halt ByteString :=
  if pkt.Encodable os then .ok (datapacketBytes junk pkt) else .error .outOfBounds

/-- The packet in a byte string: the fields of the header and the `size` elements behind it. The data
end with the string: `READ_ARRAY` gives the elements that would lie behind it no value. -/
def datapacketOfBytes (b : ByteString) : DataPacket where
  type := (b 0).toInt8
  destinationId := (ofBytes64 (b 1) (b 2) (b 3) (b 4) (b 5) (b 6) (b 7) (b 8),
    ofBytes64 (b 9) (b 10) (b 11) (b 12) (b 13) (b 14) (b 15) (b 16))
  size := b 17
  data := (List.range (min (b 17).toNat (Config.packetSizeMac - dataStart))).map fun i =>
    b (Fin.ofNat _ (i + dataStart))

/-- On Linux the size byte of the string must not reach past its end; on RIOT `read_element` refuses
the positions there. -/
def SizeFits (os : OS) (b : ByteString) : Prop :=
  os = .linux → (b 17).toNat + dataStart ≤ Config.packetSizeMac

instance (os : OS) (b : ByteString) : Decidable (SizeFits os b) :=
  inferInstanceAs (Decidable (_ → _))

/-- `datapacket_construct_from_bytestring`. On Linux a size that reaches past the end of the string
is out of bounds. -/
def datapacketConstructFromBytestring (os : OS) (b : ByteString) : Except Halt DataPacket :=
  if SizeFits os b then .ok (datapacketOfBytes b) else .error .outOfBounds

/-- On RIOT every string is decoded, and every packet encoded. -/
theorem sizeFits_riot (b : ByteString) : SizeFits .riot b := fun h => OS.noConfusion h

theorem DataPacket.encodable_riot (pkt : DataPacket) : pkt.Encodable .riot := fun h => OS.noConfusion h

theorem length_datapacketOfBytes (b : ByteString) : (datapacketOfBytes b).data.length =
    min (b 17).toNat (Config.packetSizeMac - dataStart) := by
  simp [datapacketOfBytes]

/-- A decoded packet can be encoded. -/
theorem encodable_datapacketOfBytes {os : OS} {b : ByteString} (h : SizeFits os b) :
    (datapacketOfBytes b).Encodable os := by
  intro hos
  have hfits := h hos
  refine ⟨hfits, ?_⟩
  rw [length_datapacketOfBytes]
  exact le_min le_rfl (Nat.le_sub_of_add_le hfits)

/-! ## CF packets -/

/-- `CFPacket_t`. -/
structure CFPacket where
  nodeId : NodeId := (0, 0)
  destinationId : NodeId := (0, 0)
  deriving DecidableEq

/-- `cfpacket_clear`. -/
def cfpacketClear : CFPacket := {}

/-- `cfpacket_create`. -/
def cfpacketCreate (nodeId destinationId : NodeId) : CFPacket := ⟨nodeId, destinationId⟩

/-- Positions 0 to 32 of the byte string: the type and the two node ids. -/
def cfpacketHeader (pkt : CFPacket) : List UInt8 :=
  0 :: toBytes64 pkt.nodeId.1 ++ toBytes64 pkt.nodeId.2
    ++ toBytes64 pkt.destinationId.1 ++ toBytes64 pkt.destinationId.2

/-- `cfpacket_get_packet_bytestring`: the header, and the random byte `n` for the rest of the
string. -/
def cfpacketGetPacketBytestring (pkt : CFPacket) (n : UInt8) : ByteString := fun k =>
  (cfpacketHeader pkt).getD k n

/-- `cfpacket_construct_packet_from_bytestring`: read the ids back, unless the type is not that of
a CF packet. -/
def cfpacketConstructPacketFromBytestring (pkt : CFPacket) (b : ByteString) : CFPacket :=
  if b 0 ≠ 0 then pkt
  else
    { nodeId := (ofBytes64 (b 1) (b 2) (b 3) (b 4) (b 5) (b 6) (b 7) (b 8),
        ofBytes64 (b 9) (b 10) (b 11) (b 12) (b 13) (b 14) (b 15) (b 16))
      destinationId := (ofBytes64 (b 17) (b 18) (b 19) (b 20) (b 21) (b 22) (b 23) (b 24),
        ofBytes64 (b 25) (b 26) (b 27) (b 28) (b 29) (b 30) (b 31) (b 32)) }

end WmnIot
