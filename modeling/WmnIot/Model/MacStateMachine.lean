import WmnIot.Model.PowerMode

/-! # The MAC state machine

`MAC_StateMachine.c`: joining the network, and the loop that drives the power-mode machine once the
node is part of it.

* **`mclmacUpdateMacStateMachine`** — the transitions.
* **`executeStart`**, **`executeInitialization`**, **`executeSynchronization`**,
  **`executeTimeslotAndChannelSelection`**, **`executeMediumAccess`** — the states.
* **`mclmacExecuteMacStateMachine`** — one execution of the current state. -/

namespace WmnIot

open Runs

/-! ## Transitions -/

/-- `MAC_STATEMACHINE_ERRORS`. -/
inductive MacTransition
  | success
  | error
  | noTransition
  | invalidState
  deriving DecidableEq, Repr

/-- `MAC_EXECUTION_ERRORS`. -/
inductive MacExecution
  | success
  | failed
  deriving DecidableEq, Repr

/-- `mclmac_set_MAC_state`; no caller passes `NONE`. -/
def mclmacSetMACState (n : Node) (state : MacState) : Node :=
  { n with macState.currentState := state }

/-- `mclmac_set_next_MAC_state`; no caller passes `NONE` or `START`. -/
def mclmacSetNextMACState (n : Node) (next : MacState) : Node :=
  { n with macState.nextState := next }

/-- `mclmac_update_mac_state_machine`. -/
def mclmacUpdateMacStateMachine (n : Node) : Node × MacTransition :=
  let current := n.macState.currentState
  if current = n.macState.nextState then (n, .noTransition)
  else
    match n.macState.nextState with
    | .none => (n, .noTransition)
    | .initialization =>
      if current = .start ∨ current = .mediumAccess then
        (mclmacSetMACState n .initialization, .success)
      else (n, .error)
    | .synchronization =>
      if current = .start then (n, .error) else (mclmacSetMACState n .synchronization, .success)
    | .timeslotAndChannelSelection =>
      if current = .synchronization then
        (mclmacSetMACState n .timeslotAndChannelSelection, .success)
      else (n, .error)
    | .mediumAccess =>
      if current = .timeslotAndChannelSelection then
        (mclmacSetMACState n .mediumAccess, .success)
      else (n, .error)
    | .finish =>
      if current = .mediumAccess then (mclmacSetMACState n .finish, .success) else (n, .error)
    | .start => (n, .invalidState)

/-! ## `START` -/

/-- The state `START`: draw the frames to listen for and open the queue of the upper layers. -/
def executeStart (build : Build) (rand : ℕ) (pid : Pid) (n : Node) :
    Except Halt (Node × MacExecution) := do
  let wakeupFrame := UInt32.ofNat (rand % Config.maxNumberSlots)
  let n := { n with wakeupFrame := if wakeupFrame = 0 then 1 else wakeupFrame, selfPid := pid }
  let (queues, _) ← openQueue build.os pid n.macQueueId n.selfPid n.queues
  let n := mclmacSetNextMACState { n with queues := queues } .initialization
  return ({ n with isFirstNode := false }, .success)

/-! ## `INITIALIZATION` -/

/-- One turn of the loop of `INITIALIZATION`: whether a CF packet is detected, and the moment at
which the timer is polled. -/
structure InitPoll where
  detected : Bool
  tick : Tick

/-- One turn of the loop; the answer of the timer is converted to a `bool`. The flag next to the
node is `found`. -/
def initPoll (timer : ℕ) (p : InitPoll) (s : Node × Bool) : Except Halt ((Node × Bool) × Bool) :=
  let n := s.1.tick p.tick
  if timeoutPassed n.timeouts timer ≠ 0 then .ok ((n, false), false)
  else if p.detected then .ok ((n, true), false)
  else .ok ((n, s.2), true)

/-- The state `INITIALIZATION`: listen for other nodes; without any, this is the first node. -/
def executeInitialization (build : Build) (polls : List InitPoll) (n : Node) :
    Except Halt (Node × MacExecution) := do
  let (n, timer) := n.setTimeout build Config.detectionTime
  let (n, found) ← pollLoop .polling (initPoll timer) polls (n, false)
  let n := if !found then { n with isFirstNode := true } else n
  let n := n.unsetTimeout timer
  return (mclmacSetNextMACState n .synchronization, .success)

/-! ## `SYNCHRONIZATION` -/

/-- The control packet in the bytes that were heard; it is read into a packet that is zero. -/
def decodeCtrlpkt (b : ByteString) : ControlPacket :=
  controlpacketConstructPacketFromBytestring controlpacketClear b

/-- Listen for a control packet in at most `count` attempts. -/
def listenCtrlpkt (build : Build) : ℕ → List CtrlRadio → Node → Except Halt (Node × Option ByteString)
  | 0, _, n => .ok (n, none)
  | _ + 1, [], _ => .error .polling
  | count + 1, radio :: attempts, n =>
    match mclmacReceiveCtrlpktSync build radio n with
    | (n, some bytes) => .ok (n, some bytes)
    | (n, none) => listenCtrlpkt build count attempts n

/-- The local variables of the listening loop. -/
structure SyncLocals where
  currentFrame : UInt32
  currentSlot : UInt8
  slotTimer : ℕ
  frameTimer : ℕ

/-- Set the bit of the slot in `_selected_slots_neighbors`. -/
def markSelectedSlot (n : Node) (currentSlot : UInt8) : Except Halt Node :=
  let pos := (currentSlot / 8).toNat
  if h : pos < Config.slotBytes then
    .ok { n with
      selectedSlotsNeighbors := Function.update n.selectedSlotsNeighbors ⟨pos, h⟩
        (n.selectedSlotsNeighbors ⟨pos, h⟩ ||| 1 <<< (currentSlot % 8)) }
  else .error .outOfBounds

/-- `time_remaining`: what SYNCHRONIZATION takes to be left of the slot, in wrapping 32-bit
arithmetic. -/
def timeRemaining (currentFrame : UInt32) (currentSlot : UInt8) (networkTime : UInt64) : UInt32 :=
  let timePassedFrames := currentFrame * Config.frameDuration
  let timePassedSlots : UInt32 :=
    if currentSlot = 0 then 0 else (currentSlot.toUInt32 - 1) * Config.slotDuration
  let totalTimePassed := timePassedFrames + timePassedSlots
  let currentSlotTimePassed := (networkTime - totalTimePassed.toUInt64).toUInt32
  Config.slotDuration - currentSlotTimePassed

/-- One turn of the listening loop: a control packet that may be heard, and the moments at which
the slot and the frame timer are polled. -/
structure SyncPoll where
  radio : CtrlRadio
  slotTick : Tick
  frameTick : Tick

/-- Merge what a control packet says into what the node knows; the hops are read into a byte. -/
def mergeCtrlpkt (n : Node) (ctrlpkt : ControlPacket) : Node :=
  let hops := ctrlpkt.hopCount.toUInt8.toUInt16
  { n with
    hopCount := if hops < n.hopCount then hops else n.hopCount
    occupiedFrequenciesSlots := fun i j =>
      n.occupiedFrequenciesSlots i j ||| ctrlpkt.occupiedSlots i j }

/-- Whether the listening loop goes on. -/
def stillListening (n : Node) (l : SyncLocals) : Bool :=
  l.currentFrame < n.wakeupFrame - 1

/-- Poll the slot timer of the listening loop and count the slots. -/
def pollSyncSlot (build : Build) (tick : Tick) (n : Node) (l : SyncLocals) : Node × SyncLocals :=
  let n := n.tick tick
  if timeoutPassed n.timeouts l.slotTimer = 1 then
    let (n, timer) := (n.unsetTimeout l.slotTimer).setTimeout build Config.slotDuration.toNat
    (n, { l with currentSlot := l.currentSlot + 1, slotTimer := timer })
  else (n, l)

/-- Poll the frame timer of the listening loop and count the frames. -/
def pollSyncFrame (build : Build) (tick : Tick) (n : Node) (l : SyncLocals) : Node × SyncLocals :=
  let n := n.tick tick
  if timeoutPassed n.timeouts l.frameTimer = 1 then
    let (n, timer) := (n.unsetTimeout l.frameTimer).setTimeout build Config.frameDuration.toNat
    (n, { l with currentFrame := l.currentFrame + 1, currentSlot := 0, frameTimer := timer })
  else (n, l)

/-- One turn of the listening loop. -/
def syncPoll (build : Build) (p : SyncPoll) (s : Node × SyncLocals) :
    Except Halt ((Node × SyncLocals) × Bool) := do
  let (n, l) := s
  let (n, bytes) := mclmacReceiveCtrlpktSync build p.radio n
  let n ←
    match bytes with
    | none => pure n
    | some b =>
      markSelectedSlot (mergeCtrlpkt n (decodeCtrlpkt b)) l.currentSlot
  let (n, l) := pollSyncSlot build p.slotTick n l
  let (n, l) := pollSyncFrame build p.frameTick n l
  return ((n, l), stillListening n l)

/-- What the first control packet sets: the network and starting times, the slot map, the bit of
its slot, and the frame at which listening ends. -/
def adoptCtrlpkt (n : Node) (ctrlpkt : ControlPacket) : Except Halt Node := do
  let n :=
    { n with
      networkTime := ctrlpkt.networkTime
      initTime := ctrlpkt.initTime
      occupiedFrequenciesSlots := ctrlpkt.occupiedSlots }
  let n ← markSelectedSlot n ctrlpkt.currentSlot
  return { n with wakeupFrame := n.wakeupFrame + ctrlpkt.currentFrame }

/-- Arm the slot and the frame timer of the listening loop with the time that is left of the
slot. -/
def armSyncTimers (build : Build) (ctrlpkt : ControlPacket) (n : Node) : Node × SyncLocals :=
  let remaining := timeRemaining ctrlpkt.currentFrame ctrlpkt.currentSlot n.networkTime
  let (n, slotTimer) := n.setTimeout build remaining.toNat
  let (n, frameTimer) := n.setTimeout build remaining.toNat
  (n,
    { currentFrame := ctrlpkt.currentFrame
      currentSlot := ctrlpkt.currentSlot
      slotTimer := slotTimer
      frameTimer := frameTimer })

/-- The listening loop. -/
def listenOn (build : Build) (polls : List SyncPoll) (s : Node × SyncLocals) :
    Except Halt (Node × SyncLocals) :=
  if stillListening s.1 s.2 then pollLoop .polling (syncPoll build) polls s else .ok s

/-- `SYNCHRONIZATION` from the first control packet on. -/
def joinFrom (build : Build) (polls : List SyncPoll) (ctrlpkt : ControlPacket) (n : Node) :
    Except Halt (Node × MacExecution) := do
  let n ← adoptCtrlpkt n ctrlpkt
  let (n, l) := armSyncTimers build ctrlpkt n
  if l.slotTimer = Config.timeoutSetError ∨ l.frameTimer = Config.timeoutSetError then
    return (n, .failed)
  let (n, l) ← listenOn build polls (n, l)
  let n := (n.unsetTimeout l.frameTimer).unsetTimeout l.slotTimer
  return (mclmacSetNextMACState n .timeslotAndChannelSelection, .success)

/-- The state `SYNCHRONIZATION`: the first node starts the network; any other hears a control
packet, arms its timers from it and listens on until the frame it drew. -/
def executeSynchronization (build : Build) (time : UInt32) (attempts : List CtrlRadio)
    (polls : List SyncPoll) (n : Node) : Except Halt (Node × MacExecution) := do
  if n.isFirstNode then
    let n := { n with initTime := time, hopCount := 0 }
    return (mclmacSetNextMACState n .timeslotAndChannelSelection, .success)
  let n := { n with hopCount := 0xffff, networkTime := 0 }
  let (n, bytes) ← listenCtrlpkt build 11 attempts n
  match bytes with
  | none => return (n, .failed)
  | some b => joinFrom build polls (decodeCtrlpkt b) n

/-! ## `TIMESLOT_AND_CHANNEL_SELECTION` -/

/-- Whether bit `j` of byte `i`, counted from the top and from one, is clear for every channel. -/
def slotAvailable (occupied : SlotMap) (i : Fin Config.slotBytes) (j : ℕ) : Bool :=
  (List.finRange Config.maxNumberFreqs).all fun k =>
    occupied k i &&& 1 <<< UInt8.ofNat (8 - j) == 0

/-- The scan for a slot that is free on every channel: byte by byte, from the top bit down. -/
def findSlot (occupied : SlotMap) : Option (Fin Config.slotBytes × ℕ) :=
  (List.product (List.finRange Config.slotBytes) (List.range' 1 8)).find? fun p =>
    slotAvailable occupied p.1 p.2

/-- Wait until the frame ends. -/
def framePoll (timer : ℕ) (tick : Tick) (n : Node) : Except Halt (Node × Bool) :=
  let n := n.tick tick
  .ok (n, decide (timeoutPassed n.timeouts timer ≠ 1))

/-- The state `TIMESLOT_AND_CHANNEL_SELECTION`: the first node takes slot 0; any other takes the
first free slot it finds, numbered `m * i + (j - 1)`, and a random channel. -/
def executeTimeslotAndChannelSelection (build : Build) (rand : ℕ) (ticks : List Tick) (n : Node) :
    Except Halt (Node × MacExecution) := do
  if n.isFirstNode then
    let n :=
      { n with
        mac.transmitChannel := n.frequencies 0
        mac.selectedSlot := 0
        occupiedFrequenciesSlots := Function.update n.occupiedFrequenciesSlots 0
          (Function.update (n.occupiedFrequenciesSlots 0) 0 0x80) }
    return (mclmacSetNextMACState n .mediumAccess, .success)
  let (n, frameTimer) := n.setTimeout build Config.frameDuration.toNat
  if frameTimer = Config.timeoutSetError then return (n, .failed)
  let n :=
    match findSlot n.occupiedFrequenciesSlots with
    | none => mclmacSetNextMACState n .synchronization
    | some (i, j) =>
      mclmacSetNextMACState
        { n with
          mac.transmitChannel := n.frequencies (Fin.ofNat _ (rand % Config.maxNumberFreqs))
          mac.selectedSlot := UInt8.ofNat (Config.slotBytes * i + (j - 1)) }
        .mediumAccess
  let n ← pollLoop .polling (framePoll frameTimer) ticks n
  return (n.unsetTimeout frameTimer, .success)

/-! ## `MEDIUM_ACCESS` -/

/-- Entering `MEDIUM_ACCESS`: execute `STARTP`, which does not fail, and leave it. -/
def enterMediumAccess (build : Build) (n : Node) : Except Halt Node := do
  let n := { n with toMCLMAC := mclmacInitPowermodeStateMachine n.toMCLMAC }
  let (n, _) ← mclmacExecutePowermodeState build {} n
  return (mclmacUpdatePowermodeStateMachine n).1

/-- One turn of the loop of `MEDIUM_ACCESS`: execute the power-mode state and act on what it
returns. The machine is updated after a success, and not after a detected collision. -/
def mediumAccessPoll (build : Build) (inp : PmInput) (n : Node) : Except Halt (Node × Bool) := do
  let (n, ret) ← mclmacExecutePowermodeState build inp n
  match ret with
  | .success => return ((mclmacUpdatePowermodeStateMachine n).1, true)
  | .collisionError =>
    return (mclmacSetNextMACState (mclmacSetNextPowermodeState n .finishp) .synchronization, false)
  | .synchronizationError =>
    return (mclmacSetNextMACState (mclmacSetNextPowermodeState n .finishp) .initialization, false)
  | .collisionDetected =>
    return ({ n with
      mac.collisionDetected := true
      mac.collisionSlot := n.mac.frame.currentSlot
      mac.collisionFrequency := n.mac.receiveChannel
      mac.destinationId := (0, 0) }, true)
  | .failed => return (n, true)

/-- The state `MEDIUM_ACCESS`: drive the power-mode machine until an error, then execute the state
it is left in, which is `FINISHP`. -/
def executeMediumAccess (build : Build) (inputs : List PmInput) (last : PmInput) (n : Node) :
    Except Halt (Node × MacExecution) := do
  let n ← enterMediumAccess build n
  let n ← pollLoop .polling (mediumAccessPoll build) inputs n
  let (n, _) ← mclmacExecutePowermodeState build last (mclmacUpdatePowermodeStateMachine n).1
  return (n, .success)

/-! ## Executing the current state -/

/-- The inputs of one execution; each state reads its own. -/
structure MacInput where
  rand : ℕ := 0
  pid : Pid := 0
  initPolls : List InitPoll := []
  time : UInt32 := 0
  attempts : List CtrlRadio := []
  syncPolls : List SyncPoll := []
  frameTicks : List Tick := []
  powerMode : List PmInput := []
  last : PmInput := {}

/-- `mclmac_execute_mac_state_machine`. -/
def mclmacExecuteMacStateMachine (build : Build) (inp : MacInput) (n : Node) :
    Except Halt (Node × MacExecution) :=
  match n.macState.currentState with
  | .start => executeStart build inp.rand inp.pid n
  | .initialization => executeInitialization build inp.initPolls n
  | .synchronization => executeSynchronization build inp.time inp.attempts inp.syncPolls n
  | .timeslotAndChannelSelection =>
    executeTimeslotAndChannelSelection build inp.rand inp.frameTicks n
  | .mediumAccess => executeMediumAccess build inp.powerMode inp.last n
  | .finish => .ok (n, .success)
  | .none => .ok (n, .success)

/-- One turn of the driver: execute the current state and update the machine. -/
def driverStep (build : Build) (inp : MacInput) (n : Node) : Except Halt Node := do
  let (n, _) ← mclmacExecuteMacStateMachine build inp n
  return (mclmacUpdateMacStateMachine n).1

end WmnIot
