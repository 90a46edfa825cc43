import WmnIot.Foundations.BigEndian
import WmnIot.Model.Config

/-! # Control packets

`ControlPacket.c`: the packet a node broadcasts about itself and the network, written to and read
from the byte string that goes on the air.

* **`ControlPacket`** — the fields of a control packet.
* **`controlpacketGetPacketBytestring`**, **`controlpacketConstructPacketFromBytestring`** — the
  two directions of the codec. -/

namespace WmnIot

open BigEndian

/-- `ControlPacket_t`. -/
structure ControlPacket where
  currentSlot : UInt8 := 0
  collisionSlot : UInt8 := 0
  hopCount : UInt16 := 0
  currentFrame : UInt32 := 0
  collisionFrequency : UInt32 := 0
  initTime : UInt32 := 0
  networkTime : UInt64 := 0
  nodeId : NodeId := (0, 0)
  occupiedSlots : SlotMap := fun _ _ => 0

/-- `controlpacket_init` and `controlpacket_clear`: every field is zero. -/
def controlpacketClear : ControlPacket := {}

/-- `controlpacket_create`. -/
def controlpacketCreate (nodeId : NodeId) (frame : UInt32) (slot collisionSlots : UInt8)
    (collisionFrequency : UInt32) (hopCount : UInt16) (netTime : UInt64) (initTime : UInt32)
    (occupiedSlots : SlotMap) : ControlPacket where
  nodeId := nodeId
  currentFrame := frame
  currentSlot := slot
  collisionSlot := collisionSlots
  collisionFrequency := collisionFrequency
  hopCount := hopCount
  networkTime := netTime
  initTime := initTime
  occupiedSlots := occupiedSlots

/-- Positions 0 to 40 of the byte string: the type and the fields before the slot map. -/
def controlpacketHeader (pkt : ControlPacket) : List UInt8 :=
  1 :: toBytes64 pkt.nodeId.1 ++ toBytes64 pkt.nodeId.2 ++ toBytes32 pkt.currentFrame
    ++ [pkt.currentSlot, pkt.collisionSlot] ++ toBytes32 pkt.collisionFrequency
    ++ toBytes16 pkt.hopCount ++ toBytes64 pkt.networkTime ++ toBytes32 pkt.initTime

/-- The first position of the slot map in the byte string. -/
abbrev slotMapStart : ℕ := 41

/-- The first position of the byte string behind the slot map. -/
abbrev paddingStart : ℕ := slotMapStart + Config.maxNumberFreqs * Config.slotBytes

/-- The bytes of a slot map, row by row: `(i * slots) + j` is the place of byte `j` of row `i`. -/
def slotMapByte (occupied : SlotMap) (k : ℕ) (h : k < Config.maxNumberFreqs * Config.slotBytes) :
    UInt8 :=
  occupied ⟨k / Config.slotBytes, Nat.div_lt_of_lt_mul (by rwa [mul_comm])⟩
    ⟨k % Config.slotBytes, Nat.mod_lt _ (by decide)⟩

/-- `controlpacket_get_packet_bytestring`: the header, the slot map, and the random byte `n` for
the rest of the string. -/
def controlpacketGetPacketBytestring (pkt : ControlPacket) (n : UInt8) : ByteString := fun k =>
  if (k : ℕ) < slotMapStart then (controlpacketHeader pkt).getD k 0
  else if h : (k : ℕ) - slotMapStart < Config.maxNumberFreqs * Config.slotBytes then
    slotMapByte pkt.occupiedSlots (k - slotMapStart) h
  else n

/-- The place in the byte string of byte `j` of row `i` of the slot map. -/
def slotMapPosition (i : Fin Config.maxNumberFreqs) (j : Fin Config.slotBytes) :
    Fin Config.packetSizeMac :=
  ⟨i * Config.slotBytes + j + slotMapStart, by
    have hi := i.isLt
    have hj := j.isLt
    simp only [Config.maxNumberFreqs, Config.slotBytes, Config.packetSizeMac, slotMapStart] at *
    omega⟩

/-- The network time as the decoder or-s it together: the top byte is shifted by 52. -/
def readNetworkTime (b₀ b₁ b₂ b₃ b₄ b₅ b₆ b₇ : UInt8) : UInt64 :=
  b₀.toUInt64 <<< 52 ||| b₁.toUInt64 <<< 48 ||| b₂.toUInt64 <<< 40 ||| b₃.toUInt64 <<< 32
    ||| b₄.toUInt64 <<< 24 ||| b₅.toUInt64 <<< 16 ||| b₆.toUInt64 <<< 8 ||| b₇.toUInt64

/-- `controlpacket_construct_packet_from_bytestring`: read the fields back, unless the type is not
that of a control packet. -/
def controlpacketConstructPacketFromBytestring (pkt : ControlPacket) (b : ByteString) :
    ControlPacket :=
  if b 0 ≠ 1 then pkt
  else
    { nodeId := (ofBytes64 (b 1) (b 2) (b 3) (b 4) (b 5) (b 6) (b 7) (b 8),
        ofBytes64 (b 9) (b 10) (b 11) (b 12) (b 13) (b 14) (b 15) (b 16))
      currentFrame := ofBytes32 (b 17) (b 18) (b 19) (b 20)
      currentSlot := b 21
      collisionSlot := b 22
      collisionFrequency := ofBytes32 (b 23) (b 24) (b 25) (b 26)
      hopCount := ofBytes16 (b 27) (b 28)
      networkTime := readNetworkTime (b 29) (b 30) (b 31) (b 32) (b 33) (b 34) (b 35) (b 36)
      initTime := ofBytes32 (b 37) (b 38) (b 39) (b 40)
      occupiedSlots := fun i j => b (slotMapPosition i j) }

end WmnIot
