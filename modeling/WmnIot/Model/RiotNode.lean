import WmnIot.Model.Memory
import WmnIot.Model.PowerMode

/-! # The node on RIOT

On RIOT the data of a packet and every byte string are arrays of blocks. The functions that handle
packets are given here with their arrays: those of the forty entries of the packet queues, and the
local variable `byteString` of the function that runs. The rest of the node is a `Node`, in which
the packets have no data.

* **`RiotNode`** — the node and its memory.
* **`RiotNode.datapacketConstructFromBytestring`**, **`RiotNode.datapacketGetPacketBytestring`** —
  the codec of data packets.
* **`RiotNode.mclmacReadQueueElement`**, **`RiotNode.mclmacWriteQueueElement`**,
  **`RiotNode.mclmacSendDataPacket`**, **`RiotNode.mclmacReceiveDataPacket`** — data packets.
* **`RiotNode.mclmacSendControlPacket`**, **`RiotNode.mclmacReceiveCtrlpktSync`**,
  **`RiotNode.mclmacReceiveControlPacket`** — control packets.
* **`RiotNode.executeFinishp`**, **`RiotNode.macInternalsClear`**,
  **`RiotNode.macInternalsDestroy`** — the queues are emptied. -/

namespace WmnIot

/-- The variables of type `array_t`: the `data` of the entries of the packet queues, and the local
variable `byteString`. -/
inductive ArrayName
  | message (i : Fin Config.maxNumberDataPackets)
  | control (i : Fin Config.maxNumberDataPackets)
  | received (i : Fin (2 * Config.maxNumberDataPackets))
  | byteString
  deriving DecidableEq, Fintype

/-- The node on RIOT. -/
structure RiotNode (P S : Type) where
  node : Node
  memory : Memory ArrayName P S
  /-- What the calls of `create_array` have returned, in order; no caller looks at it. -/
  created : List ℕ := []

/-- A call of a function without arrays. -/
def halting {α : Type} (x : Except Halt α) : Except Fault α :=
  match x with
  | .ok a => .ok a
  | .error h => .error (.halt h)

/-! ## Loops over arrays -/

section Loops

variable {A P S : Type} [DecidableEq A] [DecidableEq P]

/-- `WRITE_ARRAY` for the bytes of a list, from index `i` on. -/
def writeArray (array : A) : List UInt8 → ℕ → Memory A P S → Except Fault (Memory A P S)
  | [], _, m => .ok m
  | b :: bytes, i, m => do
    let r ← writeElement array b i m
    writeArray array bytes (i + 1) r.1

/-- `READ_ARRAY` for `n` indices, from index `i` on. What is read past the end is the value of an
uninitialised variable, here that of `junk`. -/
def readArray (junk : ℕ → UInt8) (array : A) : ℕ → ℕ → Memory A P S → Except Fault (List UInt8)
  | _, 0, _ => .ok []
  | i, n + 1, m => do
    let r ← readElement array (junk i) i m
    let bytes ← readArray junk array (i + 1) n m
    return r.1 :: bytes

/-- Copy `n` elements from index `i` of one array to index `j` of another one. -/
def copyArray (junk : ℕ → UInt8) (source target : A) :
    ℕ → ℕ → ℕ → Memory A P S → Except Fault (Memory A P S)
  | _, _, 0, m => .ok m
  | i, j, n + 1, m => do
    let r ← readElement source (junk i) i m
    let w ← writeElement target r.1 j m
    copyArray junk source target (i + 1) (j + 1) n w.1

end Loops

namespace RiotNode

variable {P S : Type} [DecidableEq P] [Fintype P]

/-- A local variable is declared, without a value. -/
def declare (array : ArrayName) (n : RiotNode P S) : RiotNode P S :=
  { n with memory.arrays := Function.update n.memory.arrays array none }

/-- `create_array`, with its result on record. -/
def createArray (M : Memarray P S) (array : ArrayName) (size : ℕ) (n : RiotNode P S) :
    Except Fault (RiotNode P S) := do
  let r ← WmnIot.createArray M array size n.memory
  return { n with memory := r.1, created := n.created ++ [r.2] }

/-- `free_array`. -/
def freeArray (M : Memarray P S) (array : ArrayName) (n : RiotNode P S) :
    Except Fault (RiotNode P S) := do
  let r ← WmnIot.freeArray M array n.memory
  return { n with memory := r.1 }

/-- Write the bytes of a list to `byteString`. -/
def writeString (bytes : List UInt8) (i : ℕ) (n : RiotNode P S) : Except Fault (RiotNode P S) := do
  let memory ← writeArray .byteString bytes i n.memory
  return { n with memory := memory }

/-- Read `byteString` into a buffer of the stack. -/
def readString (junk : ℕ → UInt8) (n : RiotNode P S) : Except Fault ByteString := do
  let bytes ← readArray junk .byteString 0 Config.packetSizeMac n.memory
  return fun k => bytes.getD k 0

/-! ## The codec of data packets -/

/-- The `data` of a packet is freed, if it has any. -/
def clearData (M : Memarray P S) (pkt : ArrayName) (n : RiotNode P S) :
    Except Fault (RiotNode P S) := do
  let value ← n.memory.get pkt
  if value.size > 0 then n.freeArray M pkt else return n

/-- The packet with the first 18 bytes of a byte string as its header. -/
def headerPacket (header : List UInt8) : DataPacket :=
  { datapacketOfBytes (fun k => header.getD k 0) with data := [] }

/-- `datapacket_construct_from_bytestring`: `byteString` into the packet with the data `pkt`. -/
def datapacketConstructFromBytestring (M : Memarray P S) (junk : ℕ → UInt8) (pkt : ArrayName)
    (n : RiotNode P S) : Except Fault (RiotNode P S × DataPacket) := do
  let header ← readArray junk .byteString 0 dataStart n.memory
  let packet := headerPacket header
  let n ← n.clearData M pkt
  let n ← n.createArray M pkt packet.size.toNat
  let memory ← copyArray junk .byteString pkt dataStart 0 packet.size.toNat n.memory
  return ({ n with memory := memory }, packet)

/-- `datapacket_get_packet_bytestring`: the packet with the data `pkt` into `byteString`, where the
local array that is built is copied to. -/
def datapacketGetPacketBytestring (M : Memarray P S) (junk : ℕ → UInt8) (pkt : ArrayName)
    (packet : DataPacket) (n : RiotNode P S) : Except Fault (RiotNode P S) := do
  let n ← (n.declare .byteString).createArray M .byteString Config.packetSizeMac
  let n ← n.writeString (datapacketHeader packet) 0
  let memory ← copyArray junk pkt .byteString 0 dataStart packet.size.toNat n.memory
  { n with memory := memory }.writeString
    (List.replicate (Config.packetSizeMac - dataStart - packet.size.toNat) 0)
    (dataStart + packet.size.toNat)

/-! ## The queue of the upper layers -/

/-- The packet becomes the last one of a send queue. -/
def pushPacket (q : SendQueue) (i : Fin Config.maxNumberDataPackets) (packet : DataPacket) :
    SendQueue :=
  { q with
      packets := Function.update q.packets i packet
      lastSend := q.lastSend + 1
      packetsToSend := q.packetsToSend + 1 }

/-- The first half of `mclmac_read_queue_element`: what `recv_message` takes from the queue of the
upper layers, if the function gets that far. The message buffer starts out with the contents
`buf`. -/
def takeMessage (buf : ByteString) (n : Node) : Except Halt (Option Received) := do
  assert (n.mac.message.packetsToSend ≤ UInt8.ofNat Config.maxNumberDataPackets)
  assert (n.mac.control.packetsToSend ≤ UInt8.ofNat Config.maxNumberDataPackets)
  if mclmacAvailableDataPackets n.toMCLMAC = 2 * Config.maxNumberDataPackets then return none
  let elements ← elementsOnQueue .riot n.selfPid n.macQueueId n.queues
  if elements = 0 then return none
  let r ← recvMessage .riot n.selfPid n.macQueueId buf Config.maxMessageSize n.queues
  return some r

/-- The second half of `mclmac_read_queue_element`: decode the message into the send queue of its
class. -/
def storeMessage (M : Memarray P S) (junk : ℕ → UInt8) (msg : ByteString) (n : RiotNode P S) :
    Except Fault (RiotNode P S × ℕ) := do
  let n ← (n.declare .byteString).createArray M .byteString Config.maxMessageSize
  let n ← n.writeString (List.ofFn msg) 0
  if 7 ≤ msg 0 ∧ msg 0 < 10 then
    if h : n.node.mac.message.lastSend.toNat < Config.maxNumberDataPackets then
      let i : Fin Config.maxNumberDataPackets := ⟨n.node.mac.message.lastSend.toNat, h⟩
      let (n, packet) ← n.datapacketConstructFromBytestring M junk (.message i)
      let n := { n with node.mac.message := pushPacket n.node.mac.message i packet }
      let n ← n.freeArray M .byteString
      return (n, 1)
    else throw (.halt .outOfBounds)
  else if 2 ≤ msg 0 ∧ msg 0 < 7 then
    if h : n.node.mac.control.lastSend.toNat < Config.maxNumberDataPackets then
      let i : Fin Config.maxNumberDataPackets := ⟨n.node.mac.control.lastSend.toNat, h⟩
      let (n, packet) ← n.datapacketConstructFromBytestring M junk (.control i)
      let n := { n with node.mac.control := pushPacket n.node.mac.control i packet }
      let n ← n.freeArray M .byteString
      return (n, 1)
    else throw (.halt .outOfBounds)
  else
    -- invalid type
    let n ← n.freeArray M .byteString
    return (n, 0)

/-- `mclmac_read_queue_element`. -/
def mclmacReadQueueElement (M : Memarray P S) (junk : ℕ → UInt8) (buf : ByteString)
    (n : RiotNode P S) : Except Fault (RiotNode P S × ℕ) := do
  match ← halting (takeMessage buf n.node) with
  | none => return (n, 0)
  | some r => storeMessage M junk r.msg { n with node.queues := r.queues }

/-! ## The queue of the routing layer -/

/-- The first of the received packets is cleared and counted out. -/
def popReceived (q : ReceivedQueue) (i : Fin (2 * Config.maxNumberDataPackets)) : ReceivedQueue :=
  { q with
      packetsReceived := Function.update q.packetsReceived i datapacketClear
      firstReceived := (q.firstReceived + 1) % UInt8.ofNat Config.maxNumberDataPackets
      numberPacketsReceived := q.numberPacketsReceived - 1 }

/-- The first half of `mclmac_write_queue_element`: the entry of the packet to hand up, if there is
one and the queue of the routing layer takes it. -/
def firstReceived (n : Node) : Except Halt (Option (Fin (2 * Config.maxNumberDataPackets))) := do
  let received := n.mac.received
  if received.numberPacketsReceived = 0 then return none
  if received.firstReceived = received.lastReceived ∧ received.numberPacketsReceived = 0 then
    return none
  let elements ← elementsOnQueue .riot n.selfPid n.routingQueueId n.queues
  if elements = Config.maxElementsOnQueue then return none
  if n.routingQueueId = 0 then return none
  if h : received.firstReceived.toNat < 2 * Config.maxNumberDataPackets then
    return some ⟨received.firstReceived.toNat, h⟩
  else throw .outOfBounds

/-- The second half of `mclmac_write_queue_element`: hand the packet to `send_message`. When that
returns 0, so does the function, and `byteString` is not freed. -/
def handUp (M : Memarray P S) (junk : ℕ → UInt8) (first : Fin (2 * Config.maxNumberDataPackets))
    (n : RiotNode P S) : Except Fault (RiotNode P S × ℕ) := do
  let n ← n.datapacketGetPacketBytestring M junk (.received first)
    (n.node.mac.received.packetsReceived first)
  let byteString ← n.readString junk
  let (queues, ret) ← halting (sendMessage .riot n.node.selfPid n.node.routingQueueId byteString
    Config.packetSizeMac n.node.selfPid n.node.queues)
  let n := { n with node.queues := queues }
  if ret = 0 then return (n, 0)
  else
    let n ← n.clearData M (.received first)
    let n := { n with
      node.handedUp := n.node.handedUp ++ [byteString]
      node.mac.received := popReceived n.node.mac.received first }
    let n ← n.freeArray M .byteString
    return (n, 1)

/-- `mclmac_write_queue_element`. -/
def mclmacWriteQueueElement (M : Memarray P S) (junk : ℕ → UInt8) (n : RiotNode P S) :
    Except Fault (RiotNode P S × ℕ) := do
  match ← halting (firstReceived n.node) with
  | none => return (n, 0)
  | some first => n.handUp M junk first

/-! ## Data packets on the air -/

/-- The first packet of a send queue is cleared and counted out. -/
def popPacket (q : SendQueue) (i : Fin Config.maxNumberDataPackets) : SendQueue :=
  { q with
      packets := Function.update q.packets i datapacketClear
      firstSend := (q.firstSend + 1) % UInt8.ofNat Config.maxNumberDataPackets
      packetsToSend := q.packetsToSend - 1 }

/-- Send the control packet with index `i`. -/
def sendControl (M : Memarray P S) (junk : ℕ → UInt8) (i : Fin Config.maxNumberDataPackets)
    (n : RiotNode P S) : Except Fault (RiotNode P S) := do
  let n ← n.datapacketGetPacketBytestring M junk (.control i) (n.node.mac.control.packets i)
  let byteString ← n.readString junk
  let n ← n.clearData M (.control i)
  let n := { n with
    node.mac.control := popPacket n.node.mac.control i
    node.sent := n.node.sent ++ [Transmission.data byteString] }
  n.freeArray M .byteString

/-- Send the message with index `i`. -/
def sendMessagePacket (M : Memarray P S) (junk : ℕ → UInt8) (i : Fin Config.maxNumberDataPackets)
    (n : RiotNode P S) : Except Fault (RiotNode P S) := do
  let n ← n.datapacketGetPacketBytestring M junk (.message i) (n.node.mac.message.packets i)
  let byteString ← n.readString junk
  let n ← n.clearData M (.message i)
  let n := { n with
    node.mac.message := popPacket n.node.mac.message i
    node.sent := n.node.sent ++ [Transmission.data byteString] }
  n.freeArray M .byteString

/-- `mclmac_send_data_packet`. -/
def mclmacSendDataPacket (M : Memarray P S) (junk : ℕ → UInt8) (n : RiotNode P S) :
    Except Fault (RiotNode P S) :=
  let message := n.node.mac.message
  let control := n.node.mac.control
  if message.packetsToSend = 0 ∧ control.packetsToSend = 0 then .ok n
  else if message.firstSend > UInt8.ofNat Config.maxNumberDataPackets then .ok n
  else if control.firstSend > UInt8.ofNat Config.maxNumberDataPackets then .ok n
  else if control.packetsToSend > 0 then
    if h : control.firstSend.toNat < Config.maxNumberDataPackets then
      n.sendControl M junk ⟨control.firstSend.toNat, h⟩
    else .error (.halt .outOfBounds)
  else if message.packetsToSend > 0 then
    if h : message.firstSend.toNat < Config.maxNumberDataPackets then
      n.sendMessagePacket M junk ⟨message.firstSend.toNat, h⟩
    else .error (.halt .outOfBounds)
  else .ok n

/-- The packet becomes the last one of the received packets. -/
def pushReceived (q : ReceivedQueue) (i : Fin (2 * Config.maxNumberDataPackets))
    (packet : DataPacket) : ReceivedQueue :=
  { q with
      packetsReceived := Function.update q.packetsReceived i packet
      lastReceived := (q.lastReceived + 1) % UInt8.ofNat (2 * Config.maxNumberDataPackets)
      numberPacketsReceived := q.numberPacketsReceived + 1 }

/-- `mclmac_receive_data_packet`, where the radio or its stub writes `bytes` to `byteString`. -/
def mclmacReceiveDataPacket (M : Memarray P S) (junk : ℕ → UInt8) (bytes : ByteString)
    (n : RiotNode P S) : Except Fault (RiotNode P S) := do
  let n ← (n.declare .byteString).createArray M .byteString Config.packetSizeMac
  let n ← n.writeString (List.ofFn bytes) 0
  if h : n.node.mac.received.lastReceived.toNat < 2 * Config.maxNumberDataPackets then
    let i : Fin (2 * Config.maxNumberDataPackets) := ⟨n.node.mac.received.lastReceived.toNat, h⟩
    let (n, packet) ← n.datapacketConstructFromBytestring M junk (.received i)
    let n := { n with node.mac.received := pushReceived n.node.mac.received i packet }
    n.freeArray M .byteString
  else throw (.halt .outOfBounds)

/-! ## Control packets -/

/-- `mclmac_send_control_packet`, where `rand` is the byte that fills the string. -/
def mclmacSendControlPacket (M : Memarray P S) (rand : UInt8) (n : RiotNode P S) :
    Except Fault (RiotNode P S) := do
  let n ← (n.declare .byteString).createArray M .byteString (Config.packetSizeMac + 1)
  let n ← n.writeString (List.ofFn (controlpacketGetPacketBytestring n.node.mac.ctrlpkt rand)) 0
  let n := { n with node := WmnIot.mclmacSendControlPacket n.node }
  n.freeArray M .byteString

/-- `mclmac_receive_ctrlpkt_sync`: the bytes of a control packet, if one is heard. Without `NATIVE`,
`byteString` is freed only then. -/
def mclmacReceiveCtrlpktSync (M : Memarray P S) (native : Bool) (junk : ℕ → UInt8)
    (radio : CtrlRadio) (n : RiotNode P S) : Except Fault (RiotNode P S × Option ByteString) := do
  let (node, heard) := WmnIot.mclmacReceiveCtrlpktSync ⟨.riot, native⟩ radio n.node
  if native then return ({ n with node := node }, heard)
  else
    let n ← ({ n with node := node }.declare .byteString).createArray M .byteString
      Config.packetSizeMac
    match heard with
    | none => return (n, none)
    | some bytes =>
      let n ← n.writeString (List.ofFn bytes) 0
      let bytes ← n.readString junk
      let n ← n.freeArray M .byteString
      return (n, some bytes)

/-- `mclmac_receive_control_packet`. Without `NATIVE`, `byteString` is freed if a packet is heard,
and `_receive_control_packet_native` does not free it. -/
def mclmacReceiveControlPacket (M : Memarray P S) (native : Bool) (junk : ℕ → UInt8)
    (radio : CtrlRadio) (n : RiotNode P S) : Except Fault (RiotNode P S × Bool) := do
  if native then
    match radio with
    | .lost _ => return (n, false)
    | .heard bytes =>
      let n ← (n.declare .byteString).createArray M .byteString Config.maxMessageSize
      let n ← n.writeString (List.ofFn bytes) 0
      let bytes ← n.readString junk
      return ({ n with node.mac.ctrlpktRecv :=
        controlpacketConstructPacketFromBytestring n.node.mac.ctrlpktRecv bytes }, true)
  else
    let n ← (n.declare .byteString).createArray M .byteString Config.maxMessageSize
    let (node, heard) := receiveWithin ⟨.riot, native⟩ radio n.node
    let n := { n with node := node }
    match heard with
    | none => return (n, false)
    | some bytes =>
      let n ← n.writeString (List.ofFn bytes) 0
      let bytes ← n.readString junk
      let n := { n with node.mac.ctrlpktRecv :=
        controlpacketConstructPacketFromBytestring n.node.mac.ctrlpktRecv bytes }
      let n ← n.freeArray M .byteString
      return (n, true)

/-! ## Emptying the queues -/

/-- The `data` of some packets are freed, in order. -/
def clearAll (M : Memarray P S) (pkts : List ArrayName) (n : RiotNode P S) :
    Except Fault (RiotNode P S) :=
  pkts.foldlM (fun n pkt => n.clearData M pkt) n

/-- The packets that `FINISHP` clears, in its order. -/
def finishpPackets : List ArrayName :=
  (List.finRange Config.maxNumberDataPackets).flatMap fun i =>
    [.message i, .control i, .received (i.castLE (by decide)), .received (i.natAdd _)]

/-- The packets that `MAC_internals_clear` and `MAC_internals_destroy` clear, in their order. -/
def macInternalsPackets : List ArrayName :=
  (List.finRange Config.maxNumberDataPackets).flatMap fun i =>
    [.message i, .control i, .received (i.castLE (by decide))]

/-- The state `FINISHP`. -/
def executeFinishp (M : Memarray P S) (n : RiotNode P S) : Except Fault (RiotNode P S) :=
  { n with node := WmnIot.executeFinishp n.node }.clearAll M finishpPackets

/-- The queues of packets after `MAC_internals_clear` and `MAC_internals_destroy`: of the received
packets the first half is cleared. -/
def clearPackets (m : MACInternals) : MACInternals :=
  { m with
      message.packets := fun _ => datapacketClear
      control.packets := fun _ => datapacketClear
      received.packetsReceived := fun i =>
        if i < Config.maxNumberDataPackets then datapacketClear else m.received.packetsReceived i
      cfMessages := fun _ => cfpacketClear }

/-- `MAC_internals_clear`. -/
def macInternalsClear (M : Memarray P S) (n : RiotNode P S) : Except Fault (RiotNode P S) :=
  let mac := n.node.mac
  let mac :=
    { mac with
        frame.currentSlot := 0
        frame.currentFrame := 0
        frame.currentCfSlot := 0
        frame.cfSlotsNumber := 0
        frame.slotsNumber := 0
        selectedSlot := 0
        transmitChannel := 0
        receiveChannel := 0
        collisionDetected := false
        collisionSlot := 0
        collisionFrequency := 0
        cfMessageReceived := false }
  { n with node.mac := clearPackets mac }.clearAll M macInternalsPackets

/-- `MAC_internals_destroy`. -/
def macInternalsDestroy (M : Memarray P S) (n : RiotNode P S) : Except Fault (RiotNode P S) :=
  let mac := { clearPackets n.node.mac with ctrlpkt := {}, ctrlpktRecv := {} }
  { n with node.mac := mac }.clearAll M macInternalsPackets

end RiotNode

end WmnIot
