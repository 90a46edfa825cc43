import WmnIot.Model.Mclmac

/-! # Packet handlers

`Packets_Handlers.c`: what the node sends and receives. The radio is an input: each reception is
given what is on the air, and what it does with its timers and packets is modelled. The stubs that
`NATIVE` puts in place of the radio are covered by letting that input be arbitrary.

* **`mclmacReceiveCtrlpktSync`**, **`mclmacReceiveControlPacket`** — control packets.
* **`mclmacCreateControlPacket`**, **`mclmacSendControlPacket`** — the node's own one.
* **`mclmacSendDataPacket`**, **`mclmacReceiveDataPacket`** — data packets. -/

namespace WmnIot

/-! ## Control packets -/

/-- What the radio makes of one attempt to hear a control packet. -/
inductive CtrlRadio
  /-- Nothing complete is heard; the attempt ends with its timer or, leaving that set, earlier. -/
  | lost (timedOut : Bool)
  /-- The bytes of a packet are heard. -/
  | heard (bytes : ByteString)

/-- The reception on RIOT: a timer limits the wait to 5 % of the slot and is released only when it
ends the attempt. -/
def receiveWithin (build : Build) (radio : CtrlRadio) (n : Node) : Node × Option ByteString :=
  let set := n.setTimeout build (n.mac.frame.slotDuration / 20)
  if set.2 = Config.timeoutSetError then (set.1, none)
  else
    match radio with
    | .lost true => (set.1.unsetTimeout set.2, none)
    | .lost false => (set.1, none)
    | .heard bytes => (set.1, some bytes)

/-- `mclmac_receive_ctrlpkt_sync`: the bytes of a control packet, if one is heard. On Linux nothing
fills the buffer, which keeps its type byte zero. -/
def mclmacReceiveCtrlpktSync (build : Build) (radio : CtrlRadio) (n : Node) :
    Node × Option ByteString :=
  let (n, bytes) :=
    if build.native then
      match radio with
      | .lost _ => (n, none)
      | .heard bytes => (n, some bytes)
    else
      match build.os with
      | .linux => ((n.setTimeout build (n.mac.frame.slotDuration / 20)).1, some fun _ => 0)
      | .riot => receiveWithin build radio n
  (n, bytes.filter fun b => b 0 == 1)

/-- `mclmac_receive_control_packet`: hear a control packet into `ctrlpkt_recv`. -/
def mclmacReceiveControlPacket (build : Build) (radio : CtrlRadio) (n : Node) : Node × Bool :=
  let (n, bytes) :=
    if !build.native && build.os == .riot then receiveWithin build radio n
    else
      match radio with
      | .lost _ => (n, none)
      | .heard bytes => (n, some bytes)
  match bytes with
  | none => (n, false)
  | some b =>
    ({ n with
        mac.ctrlpktRecv := controlpacketConstructPacketFromBytestring n.mac.ctrlpktRecv b }, true)

/-- `mclmac_create_control_packet`. -/
def mclmacCreateControlPacket (n : Node) : Node :=
  { n with
      mac.ctrlpkt := controlpacketCreate n.nodeId n.mac.frame.currentFrame n.mac.frame.currentSlot
        n.mac.collisionSlot n.mac.collisionFrequency n.hopCount n.networkTime n.initTime
        n.occupiedFrequenciesSlots }

/-- `mclmac_send_control_packet`. -/
def mclmacSendControlPacket (n : Node) : Node :=
  { n with sent := n.sent ++ [.control n.mac.ctrlpkt], mac.ctrlpkt := controlpacketClear }

/-! ## CF messages -/

/-- Send a CF message with the node's id: create `_cf_messages[0]`, send it and clear it. -/
def mclmacSendCfMessage (n : Node) (destinationId : NodeId) : Node :=
  { n with
      sent := n.sent ++ [.cf (cfpacketCreate n.nodeId destinationId)]
      mac.cfMessages := Function.update n.mac.cfMessages 0 cfpacketClear }

/-- `mclmac_receive_cf_message`: a CF message on the air goes to `_cf_messages[1]`. -/
def mclmacReceiveCfMessage (cf : Option CFPacket) (n : Node) : Node × Bool :=
  match cf with
  | none => ({ n with mac.cfMessageReceived := false }, false)
  | some pkt =>
    ({ n with
        mac.cfMessageReceived := true
        mac.cfMessages := Function.update n.mac.cfMessages 1 pkt }, true)

/-! ## Data packets -/

/-- `mclmac_send_data_packet`: send the oldest control packet, or else the oldest message. -/
def mclmacSendDataPacket (build : Build) (n : Node) : Except Halt Node := do
  let message := n.mac.message
  let control := n.mac.control
  if message.packetsToSend = 0 ∧ control.packetsToSend = 0 then return n
  if message.firstSend > UInt8.ofNat Config.maxNumberDataPackets then return n
  if control.firstSend > UInt8.ofNat Config.maxNumberDataPackets then return n
  if control.packetsToSend > 0 then
    let (q, byteString) ← control.take build.os n.junk
    return { n with mac.control := q, sent := n.sent ++ [.data byteString] }
  else if message.packetsToSend > 0 then
    let (q, byteString) ← message.take build.os n.junk
    return { n with mac.message := q, sent := n.sent ++ [.data byteString] }
  else return n

/-- Decode a byte string into the entry `_last_received` of the queue and count it. -/
def ReceivedQueue.store (os : OS) (q : ReceivedQueue) (byteString : ByteString) :
    Except Halt ReceivedQueue := do
  if h : q.lastReceived.toNat < 2 * Config.maxNumberDataPackets then
    let pkt ← datapacketConstructFromBytestring os byteString
    return { q with
      packetsReceived := Function.update q.packetsReceived ⟨q.lastReceived.toNat, h⟩ pkt
      lastReceived := (q.lastReceived + 1) % UInt8.ofNat (2 * Config.maxNumberDataPackets)
      numberPacketsReceived := q.numberPacketsReceived + 1 }
  else throw .outOfBounds

/-- `mclmac_receive_data_packet`: store what is on the air; it always returns true. -/
def mclmacReceiveDataPacket (build : Build) (byteString : ByteString) (n : Node) :
    Except Halt Node := do
  let q ← n.mac.received.store build.os byteString
  return { n with mac.received := q }

end WmnIot
