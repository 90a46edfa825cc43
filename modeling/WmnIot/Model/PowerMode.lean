import WmnIot.Foundations.Runs
import WmnIot.Model.PacketsHandlers

/-! # The power-mode machine

`MAC_PowerMode_StateMachine.c`: what the node does in each slot. Every state that waits reads one
input per turn of its loop: the moment, and what the radio or the other threads do then.

* **`mclmacUpdatePowermodeStateMachine`** — the transitions.
* **`executeStartp`**, **`executePassive`**, **`executeActive`**, **`executeTransmit`**,
  **`executeReceive`**, **`executeFinishp`** — the states.
* **`mclmacExecutePowermodeState`** — one execution of the current state. -/

namespace WmnIot

open Runs

/-! ## Transitions -/

/-- `POWERMODE_ERRORS`. -/
inductive PmTransition
  | success
  | error
  | noTransition
  | invalidState
  deriving DecidableEq, Repr

/-- `PM_EXECUTION_ERRORS`. -/
inductive PmExecution
  | success
  | failed
  | collisionDetected
  | collisionError
  | synchronizationError
  deriving DecidableEq, Repr

/-- `mclmac_set_next_powermode_state`; no caller passes `STARTP`. -/
def mclmacSetNextPowermodeState (n : Node) (next : PowerMode) : Node :=
  { n with powerMode.nextState := next }

/-- `mclmac_set_powermode_state`. -/
def mclmacSetPowermodeState (n : Node) (mode : PowerMode) : Node :=
  { n with powerMode.currentState := mode }

/-- `mclmac_update_powermode_state_machine`. -/
def mclmacUpdatePowermodeStateMachine (n : Node) : Node × PmTransition :=
  let current := n.powerMode.currentState
  if current = n.powerMode.nextState then (n, .noTransition)
  else
    match n.powerMode.nextState with
    | .nonep => (mclmacSetPowermodeState n .nonep, .noTransition)
    | .passive =>
      if current = .finishp then (n, .error) else (mclmacSetPowermodeState n .passive, .success)
    | .active =>
      if current = .passive then (mclmacSetPowermodeState n .active, .success) else (n, .error)
    | .transmit =>
      if current = .active then (mclmacSetPowermodeState n .transmit, .success) else (n, .error)
    | .receive =>
      if current = .active then (mclmacSetPowermodeState n .receive, .success) else (n, .error)
    | .finishp =>
      if current = .startp then (n, .error)
      else if current = .passive then (n, .error)
      else (mclmacSetPowermodeState n .finishp, .success)
    | .startp => (n, .invalidState)
    | .idlep => (n, .invalidState)

/-! ## `STARTP` -/

/-- `timeout_set` for the slot timer. -/
def setSlotTimer (build : Build) (n : Node) : Node :=
  let set := n.setTimeout build n.mac.frame.slotDuration
  { set.1 with mac.frame.slotTimer := set.2 }

/-- `timeout_set` for the timer of a CF slot. -/
def setCfTimer (build : Build) (n : Node) : Node :=
  let set := n.setTimeout build n.mac.frame.cfDuration
  { set.1 with mac.frame.cfTimer := set.2 }

/-- What `STARTP` sets before it arms the slot timer: the frame, empty queues and the next state. -/
def startSession (n : Node) : Node :=
  { n with
    mac.frame :=
      { n.mac.frame with
        slotsNumber := n.nSlots
        cfSlotsNumber := n.nChannels
        frameDuration := Config.frameDuration.toNat
        slotDuration := Config.slotDuration.toNat
        cfDuration := Config.cfSlotDuration
        currentFrame := n.wakeupFrame + 1
        currentSlot := 0
        currentCfSlot := 0 }
    mac.message := n.mac.message.reset
    mac.control := n.mac.control.reset
    mac.received := n.mac.received.reset
    powerMode.nextState := .passive }

/-- The state `STARTP`. -/
def executeStartp (build : Build) (n : Node) : Except Halt Node := do
  assert (n.nChannels > 0)
  return setSlotTimer build (startSession n)

theorem executeStartp_eq (build : Build) {n : Node} (h : 0 < n.nChannels) :
    executeStartp build n = .ok (setSlotTimer build (startSession n)) := by
  rw [executeStartp, decide_eq_true h, assert_true, ok_bind, pure_eq_ok]

/-! ## `PASSIVE` -/

/-- What happens in one turn of the loop of `PASSIVE`: the moment, the calls of the other threads
before the queue is read, the contents of the message buffer, and the calls of the other threads
before the received packets are written. -/
structure PassivePoll where
  tick : Tick
  before : List ThreadCall := []
  buf : ByteString := fun _ => 0
  between : List ThreadCall := []

/-- Poll the slot timer; if it passed, release it. The flag is `sleep`. -/
def pollSlotTimer (tick : Tick) (n : Node) : Node × Bool :=
  let n := n.tick tick
  if timeoutPassed n.timeouts n.mac.frame.slotTimer = 1 then
    (n.unsetTimeout n.mac.frame.slotTimer, false)
  else (n, true)

/-- One turn of the loop of `PASSIVE`. -/
def passivePoll (build : Build) (p : PassivePoll) (n : Node) : Except Halt (Node × Bool) := do
  let (n, sleep) := pollSlotTimer p.tick n
  let n := n.runThreads build p.before
  let packetsOnQueue ← elementsOnQueue build.os n.selfPid n.macQueueId n.queues
  if packetsOnQueue = 0 ∧ n.mac.received.numberPacketsReceived = 0 then return (n, sleep)
  let (n, _) ← mclmacReadQueueElement build p.buf n
  let n := n.runThreads build p.between
  let (n, _) ← mclmacWriteQueueElement build n
  return (n, sleep)

/-- The next slot, and at the end of the frame the next frame. -/
def advanceSlot (f : Frame) : Frame :=
  let f := { f with currentSlot := f.currentSlot + 1 }
  if f.currentSlot = f.slotsNumber then
    { f with currentFrame := f.currentFrame + 1, currentSlot := 0 }
  else f

/-- The state `PASSIVE`: serve the other layers until the slot ends, count the slot and arm the
slot timer for the next one. -/
def executePassive (build : Build) (polls : List PassivePoll) (n : Node) : Except Halt Node := do
  let n ← pollLoop .polling (passivePoll build) polls { n with mac.frame.currentCfSlot := 0 }
  let n := { n with mac.frame := advanceSlot n.mac.frame, networkTime := n.networkTime + 1 }
  return mclmacSetNextPowermodeState (setSlotTimer build n) .active

/-! ## `ACTIVE` -/

/-- What happens in one turn of the loop of `ACTIVE`: the moment, and a CF message on the air. -/
structure ActivePoll where
  tick : Tick
  cf : Option CFPacket := none

/-- The local variables of `ACTIVE`. -/
structure ActiveLocals where
  isCurrent : Bool
  send : Bool := false
  receive : Bool := false
  packets : UInt8 := 0

/-- `is_current`, `send` after the announcement is sent. -/
def ActiveLocals.announced (l : ActiveLocals) : ActiveLocals :=
  { l with send := true, isCurrent := false }

/-- The turn is for announcing: a message if something waits to be sent, and one of the first node
of the network. -/
def announce (n : Node) (l : ActiveLocals) : Node × ActiveLocals :=
  let (n, l) :=
    if n.mac.message.packetsToSend > 0 ∨ n.mac.control.packetsToSend > 0 ∨
        n.mac.collisionDetected = true then
      (mclmacSendCfMessage n n.mac.destinationId, l.announced)
    else (n, l)
  if n.isFirstNode then (mclmacSendCfMessage n (0, 0), l.announced) else (n, l)

/-- The turn is for listening: a message to this node or to all is counted, and its sender and
channel are kept. -/
def listenCf (channel : UInt32) (cf : Option CFPacket) (n : Node) (l : ActiveLocals) :
    Node × ActiveLocals :=
  let (n, heard) := mclmacReceiveCfMessage cf n
  if !heard then (n, l)
  else
    let pkt := n.mac.cfMessages 1
    let (n, l) :=
      if pkt.destinationId = n.nodeId ∨ pkt.destinationId = (0, 0) then
        ({ n with mac.transmitterId := pkt.nodeId, mac.receiveChannel := channel },
          { l with packets := l.packets + 1, receive := true })
      else (n, l)
    ({ n with isFirstNode := false }, l)

/-- One turn of the loop of `ACTIVE`. The frequency of the turn is that of the CF slot it starts
in, also when that slot ends in it. -/
def activePoll (build : Build) (selectedFreq : UInt32) (p : ActivePoll)
    (s : Node × ActiveLocals) : Except Halt ((Node × ActiveLocals) × Bool) := do
  let (n, l) := s
  let channel ← mclmacGetFrequency n.toMCLMAC n.mac.frame.currentCfSlot
  let currentFrequency := selectedFreq == channel
  let n := n.tick p.tick
  let expired := timeoutPassed n.timeouts n.mac.frame.cfTimer == 1
  let n :=
    if expired then
      let n := n.unsetTimeout n.mac.frame.cfTimer
      { n with mac.frame.currentCfSlot := n.mac.frame.currentCfSlot + 1 }
    else n
  if expired ∧ n.mac.frame.currentCfSlot = UInt8.ofNat Config.maxNumberFreqs then
    return ((n, l), false)
  let n := if expired then setCfTimer build n else n
  let s := if l.isCurrent && currentFrequency then announce n l else listenCf channel p.cf n l
  return (s, true)

/-- The outcome of the common-frequency phase. -/
def activeOutcome (n : Node) (l : ActiveLocals) : Node × PmExecution :=
  if (l.send ∧ l.receive) ∨ l.packets > 1 then
    let n := mclmacSetNextPowermodeState n .passive
    let n := if l.send ∧ l.receive then { n with mac.isInternalCollision := true } else n
    (n, .collisionDetected)
  else
    let n := if l.send then mclmacSetNextPowermodeState n .transmit else n
    let n := if l.receive then mclmacSetNextPowermodeState n .receive else n
    let n := if !l.send ∧ !l.receive then mclmacSetNextPowermodeState n .passive else n
    (n, .success)

/-- The state `ACTIVE`: go through the CF slots, announcing in one's own and listening in the
others. -/
def executeActive (build : Build) (polls : List ActivePoll) (n : Node) :
    Except Halt (Node × PmExecution) := do
  let n := { n with mac.frame.currentCfSlot := 0 }
  let isCurrent := n.mac.frame.currentSlot == n.mac.selectedSlot
  let (n, l) ← pollLoop .polling (activePoll build n.mac.transmitChannel) polls
    (setCfTimer build n, { isCurrent := isCurrent })
  return activeOutcome n l

/-! ## `TRANSMIT` -/

/-- One turn of the loop that sends the data packets: stop when the slot ends, releasing its
timer, or when nothing is left to send. -/
def transmitPoll (build : Build) (tick : Tick) (n : Node) : Except Halt (Node × Bool) := do
  let (n, sleep) := pollSlotTimer tick n
  if !sleep then return (n, false)
  let n ← mclmacSendDataPacket build n
  return (n, decide (mclmacAvailableDataPackets n.toMCLMAC ≠ 0))

/-- The state `TRANSMIT`: send the control packet and, unless that reports a collision, the data
packets. -/
def executeTransmit (build : Build) (ticks : List Tick) (n : Node) :
    Except Halt (Node × PmExecution) := do
  let n := mclmacSendControlPacket (mclmacCreateControlPacket n)
  if n.mac.collisionDetected then
    let n :=
      { n with
        mac.collisionDetected := false
        mac.collisionSlot := 0
        mac.collisionFrequency := 0 }
    if n.mac.isInternalCollision then
      let n := { n with mac.isInternalCollision := false }
      return (mclmacSetNextPowermodeState n .finishp, .collisionError)
    return (mclmacSetNextPowermodeState n .passive, .success)
  let n ← pollLoop .polling (transmitPoll build) ticks n
  return (mclmacSetNextPowermodeState n .passive, .success)

/-! ## `RECEIVE` -/

/-- What happens in one turn of the loop of `RECEIVE`: the moment and the packet on the air. -/
structure ReceivePoll where
  tick : Tick
  byteString : ByteString

/-- One turn of the loop that receives the data packets. It stops when the slot ends, leaving its
timer to `PASSIVE`, or when the queue is full. -/
def receivePoll (build : Build) (p : ReceivePoll) (n : Node) : Except Halt (Node × Bool) := do
  let n := n.tick p.tick
  if timeoutPassed n.timeouts n.mac.frame.slotTimer = 1 then return (n, false)
  let n ← mclmacReceiveDataPacket build p.byteString n
  return (n, decide
    (n.mac.received.numberPacketsReceived.toNat < 2 * Config.maxNumberDataPackets))

/-- Whether a network time lies outside the window around one's own. The lower end goes through a
signed 32-bit `difference`. -/
def notOnTime (own time : UInt64) : Bool :=
  let difference : Int32 := (own - Config.networkTimeEpsilon).toUInt32.toInt32
  let lowerValueTime : UInt64 := if difference < 0 then 0 else difference.toInt64.toUInt64
  let upperValueTime := own + Config.networkTimeEpsilon
  time < lowerValueTime || time > upperValueTime

/-- The state `RECEIVE`: hear a control packet in one of two attempts, check it, and receive the
data packets. A first attempt that fails ends the state even if the second one does not. -/
def executeReceive (build : Build) (attempt₁ attempt₂ : CtrlRadio) (polls : List ReceivePoll)
    (n : Node) : Except Halt (Node × PmExecution) := do
  let (n, first) := mclmacReceiveControlPacket build attempt₁ n
  if !first then
    -- `count` is 2 or 3 now, whatever the second attempt gives
    let (n, _) := mclmacReceiveControlPacket build attempt₂ n
    return (mclmacSetNextPowermodeState n .passive, .success)
  let pkt := n.mac.ctrlpktRecv
  if pkt.collisionFrequency = n.mac.transmitChannel ∧ pkt.collisionSlot = n.mac.selectedSlot then
    return (mclmacSetNextPowermodeState n .finishp, .collisionError)
  if pkt.currentSlot ≠ n.mac.frame.currentSlot ∨ pkt.currentFrame ≠ n.mac.frame.currentFrame ∨
      notOnTime n.networkTime pkt.networkTime then
    return (mclmacSetNextPowermodeState n .finishp, .synchronizationError)
  let n ←
    if n.mac.received.numberPacketsReceived.toNat < 2 * Config.maxNumberDataPackets then
      pollLoop .polling (receivePoll build) polls n
    else pure n
  return (mclmacSetNextPowermodeState n .passive, .success)

/-! ## `FINISHP` -/

/-- The state `FINISHP`: empty the queues. -/
def executeFinishp (n : Node) : Node :=
  { n with
    mac.destinationId := (0, 0)
    mac.message := { n.mac.message.reset with packets := fun _ => datapacketClear }
    mac.control := { n.mac.control.reset with packets := fun _ => datapacketClear }
    mac.received := { n.mac.received.reset with packetsReceived := fun _ => datapacketClear } }

/-! ## Executing the current state -/

/-- The inputs of one execution; each state reads its own. -/
structure PmInput where
  passive : List PassivePoll := []
  active : List ActivePoll := []
  transmit : List Tick := []
  attempt₁ : CtrlRadio := .lost false
  attempt₂ : CtrlRadio := .lost false
  receive : List ReceivePoll := []

/-- `mclmac_execute_powermode_state`. -/
def mclmacExecutePowermodeState (build : Build) (inp : PmInput) (n : Node) :
    Except Halt (Node × PmExecution) := do
  assert (n.nSlots > 0)
  match n.powerMode.currentState with
  | .nonep => return (n, .failed)
  | .startp => return (← executeStartp build n, .success)
  | .passive => return (← executePassive build inp.passive n, .success)
  | .active => executeActive build inp.active n
  | .transmit => executeTransmit build inp.transmit n
  | .receive => executeReceive build inp.attempt₁ inp.attempt₂ inp.receive n
  | .finishp => return (executeFinishp n, .success)
  | .idlep => return (n, .success)

end WmnIot
