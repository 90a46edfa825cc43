import WmnIot.Codec.CfPacket
import WmnIot.Codec.ControlPacket
import WmnIot.Foundations.Runs
import WmnIot.Model.PacketsHandlers

/-! # The packet formats on the air

CF packets have the type 0, control packets the type 1, and the data of the upper layers the types
from 2 on. The decoders of the first two look at the type before they read on; the receiver of data
packets does not.

* **`Receiver`**, **`Changes`** — the three receivers and what they do to their packets.
* **`FormatsApart`** — no string is taken by a receiver it is not meant for.
* **`packetFormats_apart_iff`** — which strings are. -/

namespace WmnIot

open BigEndian Runs

/-- The receivers of what is on the air. -/
inductive Receiver
  | cf
  | control
  | data
  deriving DecidableEq, Repr

/-- The type byte is one the receiver is meant for. -/
def Receiver.IsMeantFor (type : UInt8) : Receiver → Prop
  | .cf => type = 0
  | .control => type = 1
  | .data => type ≠ 0 ∧ type ≠ 1

/-- The receiver, given the string, changes the CF packet, the control packet or the received
packets of the node. -/
def Changes (build : Build) (b : ByteString) (cf : CFPacket) (ctrlpkt : ControlPacket) (n : Node) :
    Receiver → Prop
  | .cf => cfpacketConstructPacketFromBytestring cf b ≠ cf
  | .control => controlpacketConstructPacketFromBytestring ctrlpkt b ≠ ctrlpkt
  | .data => ∃ n', mclmacReceiveDataPacket build b n = .ok n' ∧ n'.mac.received ≠ n.mac.received

/-- The formats do not overlap on the string: at most one receiver changes its packet, it is one
that is meant for the type, and the received packets stay as they are when a CF or a control packet
is given to the receiver of data packets. -/
structure FormatsApart (build : Build) (b : ByteString) (cf : CFPacket) (ctrlpkt : ControlPacket)
    (n : Node) : Prop where
  atMostOne : ∀ r r', Changes build b cf ctrlpkt n r → Changes build b cf ctrlpkt n r' → r = r'
  meant : ∀ r, Changes build b cf ctrlpkt n r → r.IsMeantFor (b 0)
  ignored : b 0 = 0 ∨ b 0 = 1 →
    ∃ n', mclmacReceiveDataPacket build b n = .ok n' ∧ n'.mac.received = n.mac.received

/-! ## The receivers -/

/-- A control packet is written with the type 1. -/
theorem controlpacketGetPacketBytestring_type (pkt : ControlPacket) (n : UInt8) :
    controlpacketGetPacketBytestring pkt n 0 = 1 := rfl

/-- **The receiver of data packets** stores and counts whatever it is given. -/
theorem mclmacReceiveDataPacket_number {build : Build} {b : ByteString} {n n' : Node}
    (h : mclmacReceiveDataPacket build b n = .ok n') :
    n'.mac.received.numberPacketsReceived = n.mac.received.numberPacketsReceived + 1 := by
  obtain ⟨q, hstore, h⟩ := bind_eq_ok.mp h
  cases h
  unfold ReceivedQueue.store at hstore
  split at hstore
  · obtain ⟨pkt, -, hstore⟩ := bind_eq_ok.mp hstore
    cases hstore
    rfl
  · cases hstore

theorem mclmacReceiveDataPacket_received_ne {build : Build} {b : ByteString} {n n' : Node}
    (h : mclmacReceiveDataPacket build b n = .ok n') : n'.mac.received ≠ n.mac.received := by
  intro heq
  have hnumber := mclmacReceiveDataPacket_number h
  rw [heq] at hnumber
  have hself : ∀ k : UInt16, k ≠ k + 1 := by
    intro k hk
    have hnat := congrArg UInt16.toNat hk
    rw [UInt16.toNat_add, UInt16.toNat_one] at hnat
    have hlt := k.toNat_lt
    omega
  exact hself _ hnumber

/-- The decoders read nothing that is not of their type. -/
theorem Changes.meant {build : Build} {b : ByteString} {cf : CFPacket} {ctrlpkt : ControlPacket}
    {n : Node} {r : Receiver} (h : Changes build b cf ctrlpkt n r) (hdata : b 0 ≠ 0 ∧ b 0 ≠ 1) :
    r = .data := by
  cases r with
  | cf => exact absurd (if_pos hdata.1) h
  | control => exact absurd (if_pos hdata.2) h
  | data => rfl

/-! ## The formats -/

/-- **The packet formats**: they do not overlap on a string exactly if its type is neither that of
a CF packet nor that of a control packet. -/
theorem packetFormats_apart_iff (build : Build) (b : ByteString) (cf : CFPacket)
    (ctrlpkt : ControlPacket) (n : Node) : FormatsApart build b cf ctrlpkt n ↔ b 0 ≠ 0 ∧ b 0 ≠ 1 := by
  constructor
  · intro h
    rw [← not_or]
    intro htype
    obtain ⟨n', hreceive, heq⟩ := h.ignored htype
    exact mclmacReceiveDataPacket_received_ne hreceive heq
  · intro htype
    refine ⟨?_, ?_, ?_⟩
    · intro r r' hr hr'
      rw [hr.meant htype, hr'.meant htype]
    · intro r hr
      rw [hr.meant htype]
      exact htype
    · rintro (h | h)
      · exact absurd h htype.1
      · exact absurd h htype.2

/-- The first CF packet a node sends ends up among the received packets of one that listens for
data. -/
theorem packetFormats_cfpacket_stored :
    cfpacketGetPacketBytestring (cfpacketCreate Config.uuid (0, 0)) 0 0 = 0 ∧
    (∃ n', mclmacReceiveDataPacket ⟨.linux, true⟩
        (cfpacketGetPacketBytestring (cfpacketCreate Config.uuid (0, 0)) 0)
        (mclmacInit (fun _ => {}) 0 initQueues) = .ok n' ∧
      n'.mac.received.numberPacketsReceived = 1) ∧
    ¬ FormatsApart ⟨.linux, true⟩
      (cfpacketGetPacketBytestring (cfpacketCreate Config.uuid (0, 0)) 0) {} {}
      (mclmacInit (fun _ => {}) 0 initQueues) := by
  refine ⟨rfl, ⟨_, rfl, rfl⟩, fun h => ?_⟩
  obtain ⟨n', hreceive, heq⟩ := h.ignored (.inl rfl)
  exact mclmacReceiveDataPacket_received_ne hreceive heq

end WmnIot
