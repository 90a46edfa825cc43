import WmnIot.Model.ControlPacket
import WmnIot.Model.DataPacket
import WmnIot.Model.IpcQueues
import WmnIot.Model.Timeouts

/-! # The node

The data structures of `Frame.h`, `MAC_Internals.h` and `MCLMAC.h`, and the functions of `MCLMAC.c`
that set them up, read the queue of the upper layers and write to that of the routing layer. A
`Node` is the structure `MCLMAC_t` together with what its thread shares with the rest of the
device: the timeout table, the clock and the queues. What the node gives to the radio and to the
routing layer is kept in order.

* **`MCLMAC`**, **`Node`** — the state.
* **`mclmacInit`** — `MCLMAC_init`.
* **`SendQueue.store`**, **`SendQueue.take`** — the two ends of a send queue.
* **`mclmacReadQueueElement`**, **`mclmacWriteQueueElement`** — the traffic with the other
  layers. -/

namespace WmnIot

/-! ## State -/

/-- `state_t`. -/
inductive MacState
  | start
  | initialization
  | synchronization
  | timeslotAndChannelSelection
  | mediumAccess
  | finish
  | none
  deriving DecidableEq, Repr

/-- `PowerMode_t`. -/
inductive PowerMode
  | startp
  | passive
  | active
  | transmit
  | receive
  | nonep
  | finishp
  | idlep
  deriving DecidableEq, Repr

/-- `MACState_t`. -/
structure MACState where
  currentState : MacState := .start
  nextState : MacState := .start

/-- `RadioPowerMode_t`. -/
structure RadioPowerMode where
  currentState : PowerMode := .startp
  nextState : PowerMode := .startp

/-- `Frame_t`. Durations are in microseconds. -/
structure Frame where
  currentFrame : UInt32 := 0
  currentSlot : UInt8 := 0
  slotsNumber : UInt8 := 0
  currentCfSlot : UInt8 := 0
  cfSlotsNumber : UInt8 := 0
  slotTimer : ℕ := 0
  cfTimer : ℕ := 0
  frameDuration : ℕ := 0
  slotDuration : ℕ := 0
  cfDuration : ℕ := 0

/-- A queue of packets to send: `_packets_to_send_*`, `_first_send_*`, `_last_send_*` and
`_*_packets_to_send`. -/
structure SendQueue where
  packetsToSend : UInt8 := 0
  firstSend : UInt8 := 0
  lastSend : UInt8 := 0
  packets : Fin Config.maxNumberDataPackets → DataPacket := fun _ => {}

/-- The queue of received packets: `_number_packets_received`, `_first_received`, `_last_received`
and `_packets_received`. -/
structure ReceivedQueue where
  numberPacketsReceived : UInt16 := 0
  firstReceived : UInt8 := 0
  lastReceived : UInt8 := 0
  packetsReceived : Fin (2 * Config.maxNumberDataPackets) → DataPacket := fun _ => {}

/-- `MAC_Internals_t`. -/
structure MACInternals where
  ctrlpkt : ControlPacket := {}
  ctrlpktRecv : ControlPacket := {}
  frame : Frame := {}
  selectedSlot : UInt8 := 0
  transmitChannel : UInt32 := 0
  receiveChannel : UInt32 := 0
  transmitterId : NodeId := (0, 0)
  collisionDetected : Bool := false
  isInternalCollision : Bool := false
  collisionSlot : UInt8 := 0
  collisionFrequency : UInt32 := 0
  cfMessageReceived : Bool := false
  cfMessages : Fin 2 → CFPacket := fun _ => {}
  destinationId : NodeId := (0, 0)
  message : SendQueue := {}
  control : SendQueue := {}
  received : ReceivedQueue := {}

/-- `MCLMAC_t`. -/
structure MCLMAC where
  mac : MACInternals := {}
  macState : MACState := {}
  powerMode : RadioPowerMode := {}
  isFirstNode : Bool := false
  nodeId : NodeId := (0, 0)
  networkTime : UInt64 := 0
  nSlots : UInt8 := 0
  nChannels : UInt8 := 0
  hopCount : UInt16 := 0
  frequencies : Fin Config.maxNumberFreqs → UInt32 := fun _ => 0
  occupiedFrequenciesSlots : SlotMap := fun _ _ => 0
  selectedSlotsNeighbors : Fin Config.slotBytes → UInt8 := fun _ => 0
  wakeupFrame : UInt32 := 0
  initTime : UInt32 := 0
  macQueueId : ℕ := 0
  routingQueueId : ℕ := 0
  selfPid : Pid := 0

/-- What the radio is given to send. -/
inductive Transmission
  | cf (pkt : CFPacket)
  | control (pkt : ControlPacket)
  | data (bytes : ByteString)

/-- A node: the MAC layer, the device it runs on, and what it has given away so far. -/
structure Node extends MCLMAC where
  timeouts : Timeouts := fun _ => {}
  clock : ℕ := 0
  queues : IpcQueues := {}
  /-- What the radio was given to send, in order. -/
  sent : List Transmission := []
  /-- The byte strings of received packets that `send_message` accepted, in order. -/
  handedUp : List ByteString := []
  /-- What uninitialised variables hold: a read that an array of RIOT refuses gives such a value. -/
  junk : ℕ → UInt8 := fun _ => 0

/-- A moment at which a timeout is polled: the clock then, and whether the handler of the hardware
timer has just run. -/
structure Tick where
  now : ℕ
  handler : Bool

/-- The node at a moment of polling. -/
def Node.tick (n : Node) (t : Tick) : Node :=
  { n with
      clock := t.now
      timeouts := if t.handler then timeoutSignalHandler t.now n.timeouts else n.timeouts }

/-- `timeout_set` on the node's table; the id is for the caller to keep. -/
def Node.setTimeout (build : Build) (n : Node) (seconds : ℕ) : Node × ℕ :=
  let set := timeoutSet build.os n.clock n.timeouts seconds
  ({ n with timeouts := set.1 }, set.2)

/-- `timeout_unset` on the node's table. -/
def Node.unsetTimeout (n : Node) (timeout : ℕ) : Node :=
  { n with timeouts := timeoutUnset n.timeouts timeout }

/-- The other threads make their calls. -/
def Node.runThreads (build : Build) (n : Node) (calls : List ThreadCall) : Node :=
  { n with queues := calls.foldl (ThreadCall.run build.os) n.queues }

/-! ## Setting up -/

/-- `mclmac_init_mac_state_machine`. -/
def mclmacInitMacStateMachine (m : MCLMAC) : MCLMAC :=
  { m with macState := { currentState := .start, nextState := .none } }

/-- `mclmac_init_powermode_state_machine`. -/
def mclmacInitPowermodeStateMachine (m : MCLMAC) : MCLMAC :=
  { m with powerMode := { currentState := .startp, nextState := .nonep } }

/-- `MCLMAC_init`: every other field is zero. -/
def mclmacInit (timeouts : Timeouts) (clock : ℕ) (queues : IpcQueues) : Node :=
  let created :=
    createQueue Config.queueSize Config.maxMessageSize Config.maxElementsOnQueue queues
  let m : MCLMAC :=
    { nodeId := Config.uuid
      nChannels := UInt8.ofNat Config.maxNumberFreqs
      nSlots := UInt8.ofNat Config.maxNumberSlots
      frequencies := Config.frequencies
      macQueueId := created.2 }
  { toMCLMAC := mclmacInitPowermodeStateMachine (mclmacInitMacStateMachine m)
    timeouts := timeouts
    clock := clock
    queues := created.1 }

/-- `mclmac_get_frequency`. -/
def mclmacGetFrequency (m : MCLMAC) (index : UInt8) : Except Halt UInt32 :=
  if h : index.toNat < Config.maxNumberFreqs then .ok (m.frequencies ⟨index.toNat, h⟩)
  else .error .assertFailed

/-! ## The send queues -/

/-- Decode a message into the entry `_last_send_*` of the queue and count it. -/
def SendQueue.store (os : OS) (q : SendQueue) (byteString : ByteString) :
    Except Halt SendQueue := do
  if h : q.lastSend.toNat < Config.maxNumberDataPackets then
    let pkt ← datapacketConstructFromBytestring os byteString
    return { q with
      packets := Function.update q.packets ⟨q.lastSend.toNat, h⟩ pkt
      lastSend := q.lastSend + 1
      packetsToSend := q.packetsToSend + 1 }
  else throw .outOfBounds

/-- Encode the entry `_first_send_*` of the queue, clear it and count it out. -/
def SendQueue.take (os : OS) (junk : ℕ → UInt8) (q : SendQueue) :
    Except Halt (SendQueue × ByteString) := do
  if h : q.firstSend.toNat < Config.maxNumberDataPackets then
    let byteString ← datapacketGetPacketBytestring os junk (q.packets ⟨q.firstSend.toNat, h⟩)
    return ({ q with
      packets := Function.update q.packets ⟨q.firstSend.toNat, h⟩ datapacketClear
      firstSend := (q.firstSend + 1) % UInt8.ofNat Config.maxNumberDataPackets
      packetsToSend := q.packetsToSend - 1 }, byteString)
  else throw .outOfBounds

/-- The counter and the indices of a send queue are set to zero. -/
def SendQueue.reset (q : SendQueue) : SendQueue :=
  { q with packetsToSend := 0, firstSend := 0, lastSend := 0 }

/-- `mclmac_available_data_packets`. -/
def mclmacAvailableDataPackets (m : MCLMAC) : ℕ :=
  m.mac.message.packetsToSend.toNat + m.mac.control.packetsToSend.toNat

/-- `mclmac_read_queue_element`: take one message of the upper layers and decode it into the send
queue of its class. The message buffer starts out with the contents `buf`. -/
def mclmacReadQueueElement (build : Build) (buf : ByteString) (n : Node) :
    Except Halt (Node × ℕ) := do
  assert (n.mac.message.packetsToSend ≤ UInt8.ofNat Config.maxNumberDataPackets)
  assert (n.mac.control.packetsToSend ≤ UInt8.ofNat Config.maxNumberDataPackets)
  if mclmacAvailableDataPackets n.toMCLMAC = 2 * Config.maxNumberDataPackets then return (n, 0)
  let elements ← elementsOnQueue build.os n.selfPid n.macQueueId n.queues
  if elements = 0 then return (n, 0)
  let r ← recvMessage build.os n.selfPid n.macQueueId buf Config.maxMessageSize n.queues
  let n := { n with queues := r.queues }
  if 7 ≤ r.msg 0 ∧ r.msg 0 < 10 then
    let q ← n.mac.message.store build.os r.msg
    return ({ n with mac.message := q }, 1)
  if 2 ≤ r.msg 0 ∧ r.msg 0 < 7 then
    let q ← n.mac.control.store build.os r.msg
    return ({ n with mac.control := q }, 1)
  -- invalid type
  return (n, 0)

/-! ## The received packets -/

/-- The counter and the indices of the received packets are set to zero. -/
def ReceivedQueue.reset (q : ReceivedQueue) : ReceivedQueue :=
  { q with numberPacketsReceived := 0, firstReceived := 0, lastReceived := 0 }

/-- `mclmac_write_queue_element`: hand the packet `_first_received` to `send_message`. -/
def mclmacWriteQueueElement (build : Build) (n : Node) : Except Halt (Node × ℕ) := do
  let received := n.mac.received
  if received.numberPacketsReceived = 0 then return (n, 0)
  if received.firstReceived = received.lastReceived ∧ received.numberPacketsReceived = 0 then
    return (n, 0)
  let elements ← elementsOnQueue build.os n.selfPid n.routingQueueId n.queues
  if elements = Config.maxElementsOnQueue then return (n, 0)
  if n.routingQueueId = 0 then return (n, 0)
  if h : received.firstReceived.toNat < 2 * Config.maxNumberDataPackets then
    let first : Fin (2 * Config.maxNumberDataPackets) := ⟨received.firstReceived.toNat, h⟩
    let byteString ←
      datapacketGetPacketBytestring build.os n.junk (received.packetsReceived first)
    let (queues, ret) ← sendMessage build.os n.selfPid n.routingQueueId byteString
      Config.packetSizeMac n.selfPid n.queues
    let n := { n with queues := queues }
    if ret = 0 then return (n, 0)
    return ({ n with
      handedUp := n.handedUp ++ [byteString]
      mac.received.packetsReceived :=
        Function.update received.packetsReceived first datapacketClear
      mac.received.firstReceived :=
        (received.firstReceived + 1) % UInt8.ofNat Config.maxNumberDataPackets
      mac.received.numberPacketsReceived := received.numberPacketsReceived - 1 }, 1)
  else throw .outOfBounds

end WmnIot
