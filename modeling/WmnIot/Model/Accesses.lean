import WmnIot.Foundations.BigEndian
import WmnIot.Foundations.Traces
import WmnIot.Model.DataPacket

/-! # The accesses of the packet codecs

The decoders of data and CF packets with the positions of the byte string that they read, and the
encoder of data packets with the positions it writes. The string is part of a memory that goes on
behind it, and nothing says where it ends.

* **`Accesses.datapacketConstructFromBytestring`**,
  **`Accesses.datapacketGetPacketBytestring`** — data packets.
* **`Accesses.cfpacketConstructPacketFromBytestring`** — CF packets. -/

namespace WmnIot

namespace Accesses

open BigEndian Traces

/-- The 64-bit word of eight bytes. -/
def word (bytes : List UInt8) : UInt64 :=
  ofBytes64 (bytes.getD 0 0) (bytes.getD 1 0) (bytes.getD 2 0) (bytes.getD 3 0)
    (bytes.getD 4 0) (bytes.getD 5 0) (bytes.getD 6 0) (bytes.getD 7 0)

/-- `datapacket_construct_from_bytestring`: the header, and as many bytes behind it as the header
says. -/
def datapacketConstructFromBytestring (byteString : ℕ → UInt8) : Traced ℕ DataPacket := do
  let type ← read byteString 0
  let id ← readEach byteString (List.range' 1 8)
  let id' ← readEach byteString (List.range' 9 8)
  let size ← read byteString 17
  let data ← readEach byteString ((List.range size.toNat).map (· + 18))
  return { type := type.toInt8, destinationId := (word id, word id'), size := size, data := data }

/-- `datapacket_get_packet_bytestring`: what is written to the byte string, in order. An element
past the end of the data is the one of `junk`. -/
def datapacketGetPacketBytestring (junk : ℕ → UInt8) (pkt : DataPacket) : List (ℕ × UInt8) :=
  run 0 (datapacketHeader pkt) ++
    run 18 ((List.range pkt.size.toNat).map fun i => pkt.data.getD i (junk i)) ++
    if pkt.size.toNat < Config.packetSizeMac - 18 then
      run (18 + pkt.size.toNat) (List.replicate (Config.packetSizeMac - 18 - pkt.size.toNat) 0)
    else []

/-- `cfpacket_construct_packet_from_bytestring`: the type, and the ids if it is that of a CF
packet. -/
def cfpacketConstructPacketFromBytestring (pkt : CFPacket) (byteString : ℕ → UInt8) :
    Traced ℕ CFPacket := do
  let type ← read byteString 0
  if type ≠ 0 then return pkt
  let id ← readEach byteString (List.range' 1 8)
  let id' ← readEach byteString (List.range' 9 8)
  let destination ← readEach byteString (List.range' 17 8)
  let destination' ← readEach byteString (List.range' 25 8)
  return {
    nodeId := (word id, word id')
    destinationId := (word destination, word destination') }

end Accesses

end WmnIot
