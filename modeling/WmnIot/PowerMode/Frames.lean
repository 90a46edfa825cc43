import WmnIot.Model.MacStateMachine

/-! # What the power-mode states leave alone

Most of what a power-mode state does concerns its packets. Only `PASSIVE` moves the node on to the
next slot, and only the loop of `MEDIUM_ACCESS` changes the state it is in.

* **`Schedule`** — what tells a node where it is in the network frame.
* **`executePassive_schedule`**, **`executeActive_schedule`**, **`executeTransmit_schedule`**,
  **`executeReceive_schedule`** — what the states do to it.
* **`Session`**, **`sessionStep_cases`** — the steps of the loop of `MEDIUM_ACCESS`. -/

namespace WmnIot

open Runs

/-! ## The schedule of a node -/

/-- The power-mode state a node is in, and its slot, frame and network time. -/
structure Schedule where
  mode : PowerMode
  slotTimer : ℕ
  slotDuration : ℕ
  slotsNumber : UInt8
  currentFrame : UInt32
  currentSlot : UInt8
  networkTime : UInt64

/-- The schedule of a node. -/
def Node.schedule (n : Node) : Schedule where
  mode := n.powerMode.currentState
  slotTimer := n.mac.frame.slotTimer
  slotDuration := n.mac.frame.slotDuration
  slotsNumber := n.mac.frame.slotsNumber
  currentFrame := n.mac.frame.currentFrame
  currentSlot := n.mac.frame.currentSlot
  networkTime := n.networkTime

/-- The next slot, with its timer. -/
def Schedule.advance (s : Schedule) (slotTimer : ℕ) : Schedule :=
  if s.currentSlot + 1 = s.slotsNumber then
    { s with
      slotTimer := slotTimer
      currentFrame := s.currentFrame + 1
      currentSlot := 0
      networkTime := s.networkTime + 1 }
  else
    { s with
      slotTimer := slotTimer
      currentSlot := s.currentSlot + 1
      networkTime := s.networkTime + 1 }

@[simp]
theorem Schedule.mode_advance (s : Schedule) (slotTimer : ℕ) : (s.advance slotTimer).mode = s.mode := by
  unfold Schedule.advance
  split <;> rfl

@[simp]
theorem Schedule.slotDuration_advance (s : Schedule) (slotTimer : ℕ) :
    (s.advance slotTimer).slotDuration = s.slotDuration := by
  unfold Schedule.advance
  split <;> rfl

theorem currentState_of_schedule {n n' : Node} (h : n'.schedule = n.schedule) :
    n'.powerMode.currentState = n.powerMode.currentState :=
  congrArg Schedule.mode h

@[simp]
theorem schedule_tick (n : Node) (t : Tick) : (n.tick t).schedule = n.schedule :=
  rfl

@[simp]
theorem schedule_setTimeout (build : Build) (n : Node) (seconds : ℕ) :
    (n.setTimeout build seconds).1.schedule = n.schedule :=
  rfl

@[simp]
theorem schedule_unsetTimeout (n : Node) (timeout : ℕ) :
    (n.unsetTimeout timeout).schedule = n.schedule :=
  rfl

@[simp]
theorem schedule_runThreads (build : Build) (n : Node) (calls : List ThreadCall) :
    (n.runThreads build calls).schedule = n.schedule :=
  rfl

@[simp]
theorem schedule_setCfTimer (build : Build) (n : Node) :
    (setCfTimer build n).schedule = n.schedule :=
  rfl

@[simp]
theorem schedule_setNextPowermodeState (n : Node) (next : PowerMode) :
    (mclmacSetNextPowermodeState n next).schedule = n.schedule :=
  rfl

/-! ## The queues -/

theorem SendQueue.store_firstSend {os : OS} {q q' : SendQueue} {b : ByteString}
    (h : q.store os b = .ok q') : q'.firstSend = q.firstSend := by
  unfold SendQueue.store at h
  split at h
  · obtain ⟨pkt, -, h⟩ := bind_eq_ok.mp h
    cases h
    rfl
  · cases h

/-- Reading a message changes the queues between the layers and the ends of the send queues. -/
theorem mclmacReadQueueElement_frame {build : Build} {buf : ByteString} {n n' : Node} {ret : ℕ}
    (h : mclmacReadQueueElement build buf n = .ok (n', ret)) :
    ∃ queues message control,
      n' = { n with queues := queues, mac.message := message, mac.control := control } ∧
      message.firstSend = n.mac.message.firstSend ∧
      control.firstSend = n.mac.control.firstSend := by
  unfold mclmacReadQueueElement at h
  obtain ⟨-, -, h⟩ := bind_eq_ok.mp h
  obtain ⟨-, -, h⟩ := bind_eq_ok.mp h
  split at h
  · cases h
    exact ⟨_, _, _, rfl, rfl, rfl⟩
  obtain ⟨elements, -, h⟩ := bind_eq_ok.mp h
  split at h
  · cases h
    exact ⟨_, _, _, rfl, rfl, rfl⟩
  obtain ⟨r, -, h⟩ := bind_eq_ok.mp h
  dsimp only at h
  split at h
  · obtain ⟨q, hq, h⟩ := bind_eq_ok.mp h
    cases h
    exact ⟨_, q, _, rfl, SendQueue.store_firstSend hq, rfl⟩
  split at h
  · obtain ⟨q, hq, h⟩ := bind_eq_ok.mp h
    cases h
    exact ⟨_, _, q, rfl, rfl, SendQueue.store_firstSend hq⟩
  · cases h
    exact ⟨_, _, _, rfl, rfl, rfl⟩

/-- Handing a packet up changes the queues between the layers and the received packets. -/
theorem mclmacWriteQueueElement_frame {build : Build} {n n' : Node} {ret : ℕ}
    (h : mclmacWriteQueueElement build n = .ok (n', ret)) :
    ∃ queues received handedUp,
      n' = { n with queues := queues, mac.received := received, handedUp := handedUp } := by
  unfold mclmacWriteQueueElement at h
  dsimp only at h
  split at h
  · cases h
    exact ⟨_, _, _, rfl⟩
  split at h
  · cases h
    exact ⟨_, _, _, rfl⟩
  obtain ⟨elements, -, h⟩ := bind_eq_ok.mp h
  split at h
  · cases h
    exact ⟨_, _, _, rfl⟩
  split at h
  · cases h
    exact ⟨_, _, _, rfl⟩
  split at h
  · obtain ⟨byteString, -, h⟩ := bind_eq_ok.mp h
    obtain ⟨⟨queues, accepted⟩, -, h⟩ := bind_eq_ok.mp h
    dsimp only at h
    split at h
    · cases h
      exact ⟨_, _, _, rfl⟩
    · cases h
      exact ⟨_, _, _, rfl⟩
  · cases h

/-- Sending a packet changes the send queues. -/
theorem mclmacSendDataPacket_frame {build : Build} {n n' : Node}
    (h : mclmacSendDataPacket build n = .ok n') :
    ∃ message control sent,
      n' = { n with mac.message := message, mac.control := control, sent := sent } := by
  unfold mclmacSendDataPacket at h
  dsimp only at h
  split at h
  · cases h
    exact ⟨_, _, _, rfl⟩
  split at h
  · cases h
    exact ⟨_, _, _, rfl⟩
  split at h
  · cases h
    exact ⟨_, _, _, rfl⟩
  split at h
  · obtain ⟨q, -, h⟩ := bind_eq_ok.mp h
    cases h
    exact ⟨_, _, _, rfl⟩
  split at h
  · obtain ⟨q, -, h⟩ := bind_eq_ok.mp h
    cases h
    exact ⟨_, _, _, rfl⟩
  · cases h
    exact ⟨_, _, _, rfl⟩

/-- Receiving a data packet changes the received packets. -/
theorem mclmacReceiveDataPacket_frame {build : Build} {b : ByteString} {n n' : Node}
    (h : mclmacReceiveDataPacket build b n = .ok n') : ∃ q, n' = { n with mac.received := q } := by
  obtain ⟨q, -, h⟩ := bind_eq_ok.mp h
  cases h
  exact ⟨q, rfl⟩

/-! ## Polling the slot timer -/

@[simp]
theorem pollSlotTimer_schedule (tick : Tick) (n : Node) :
    (pollSlotTimer tick n).1.schedule = n.schedule := by
  unfold pollSlotTimer
  dsimp only
  split <;> rfl

/-! ## `PASSIVE` -/

/-- What a turn of the loop of `PASSIVE` changes besides polling the slot timer. -/
theorem passivePoll_frame {build : Build} {p : PassivePoll} {n n' : Node} {sleep : Bool}
    (h : passivePoll build p n = .ok (n', sleep)) :
    sleep = (pollSlotTimer p.tick n).2 ∧ ∃ queues message control received handedUp,
      n' = { (pollSlotTimer p.tick n).1 with
        queues := queues
        mac.message := message
        mac.control := control
        mac.received := received
        handedUp := handedUp } ∧
      message.firstSend = (pollSlotTimer p.tick n).1.mac.message.firstSend ∧
      control.firstSend = (pollSlotTimer p.tick n).1.mac.control.firstSend := by
  unfold passivePoll at h
  generalize pollSlotTimer p.tick n = polled at h ⊢
  obtain ⟨m, s⟩ := polled
  obtain ⟨elements, -, h⟩ := bind_eq_ok.mp h
  split at h
  · cases h
    exact ⟨rfl, _, _, _, _, _, rfl, rfl, rfl⟩
  · obtain ⟨⟨m', ret⟩, hread, h⟩ := bind_eq_ok.mp h
    obtain ⟨⟨m'', ret'⟩, hwrite, h⟩ := bind_eq_ok.mp h
    cases h
    obtain ⟨_, _, _, rfl, hmessage, hcontrol⟩ := mclmacReadQueueElement_frame hread
    obtain ⟨_, _, _, rfl⟩ := mclmacWriteQueueElement_frame hwrite
    exact ⟨rfl, _, _, _, _, _, rfl, hmessage, hcontrol⟩

theorem passivePoll_schedule {build : Build} {p : PassivePoll} {n n' : Node} {sleep : Bool}
    (h : passivePoll build p n = .ok (n', sleep)) : n'.schedule = n.schedule := by
  obtain ⟨-, _, _, _, _, _, rfl, -, -⟩ := passivePoll_frame h
  exact pollSlotTimer_schedule p.tick n

/-- The node after the loop of `PASSIVE`, at the beginning of the next slot. -/
def slotEnded (n : Node) : Node :=
  { n with mac.frame := advanceSlot n.mac.frame, networkTime := n.networkTime + 1 }

/-- **An execution of `PASSIVE`**: the loop, and the slot timer for the next slot. -/
theorem executePassive_cases {build : Build} {polls : List PassivePoll} {n n' : Node}
    (h : executePassive build polls n = .ok n') :
    ∃ m, pollLoop .polling (passivePoll build) polls { n with mac.frame.currentCfSlot := 0 } =
        .ok m ∧ m.schedule = n.schedule ∧
      n' = mclmacSetNextPowermodeState (setSlotTimer build (slotEnded m)) .active := by
  obtain ⟨m, hloop, h⟩ := bind_eq_ok.mp h
  cases h
  have hm : m.schedule = n.schedule :=
    (pollLoop_frame (f := Node.schedule) (fun _ _ _ _ => passivePoll_schedule) polls hloop).trans rfl
  exact ⟨m, hloop, hm, rfl⟩

theorem slotEnded_schedule (n : Node) :
    (slotEnded n).schedule = n.schedule.advance n.mac.frame.slotTimer := by
  by_cases hlast : n.mac.frame.currentSlot + 1 = n.mac.frame.slotsNumber <;>
    simp [Schedule.advance, Node.schedule, slotEnded, advanceSlot, hlast]

/-- **`PASSIVE`** moves on to the next slot. -/
theorem executePassive_schedule {build : Build} {polls : List PassivePoll} {n n' : Node}
    (h : executePassive build polls n = .ok n') :
    n'.schedule = n.schedule.advance n'.mac.frame.slotTimer := by
  obtain ⟨m, -, hm, rfl⟩ := executePassive_cases h
  rw [← hm]
  by_cases hlast : m.mac.frame.currentSlot + 1 = m.mac.frame.slotsNumber <;>
    simp [Schedule.advance, Node.schedule, slotEnded, advanceSlot, hlast, setSlotTimer,
      Node.setTimeout, mclmacSetNextPowermodeState]

/-! ## `ACTIVE` -/

/-- The message is for this node or for all. -/
def Addressed (n : Node) (pkt : CFPacket) : Prop :=
  pkt.destinationId = n.nodeId ∨ pkt.destinationId = (0, 0)

instance (n : Node) (pkt : CFPacket) : Decidable (Addressed n pkt) :=
  inferInstanceAs (Decidable (_ ∨ _))

/-- The node after a CF message is heard: it no longer takes itself for the only one. -/
def Node.afterCf (n : Node) (pkt : CFPacket) : Node :=
  { n with
    isFirstNode := false
    mac.cfMessageReceived := true
    mac.cfMessages := Function.update n.mac.cfMessages 1 pkt }

theorem listenCf_of_addressed (channel : UInt32) {pkt : CFPacket} {n : Node} (l : ActiveLocals)
    (h : Addressed n pkt) :
    listenCf channel (some pkt) n l =
      ({ n.afterCf pkt with mac.transmitterId := pkt.nodeId, mac.receiveChannel := channel },
        { l with packets := l.packets + 1, receive := true }) := by
  have hdest : pkt.destinationId = n.nodeId ∨ pkt.destinationId = (0, 0) := h
  simp only [listenCf, mclmacReceiveCfMessage, Function.update_self, Bool.not_true,
    Bool.false_eq_true, if_false, if_pos hdest, Node.afterCf]

theorem listenCf_of_not_addressed (channel : UInt32) {pkt : CFPacket} {n : Node} (l : ActiveLocals)
    (h : ¬ Addressed n pkt) : listenCf channel (some pkt) n l = (n.afterCf pkt, l) := by
  have hdest : ¬ (pkt.destinationId = n.nodeId ∨ pkt.destinationId = (0, 0)) := h
  simp only [listenCf, mclmacReceiveCfMessage, Function.update_self, Bool.not_true,
    Bool.false_eq_true, if_false, if_neg hdest, Node.afterCf]

theorem activeOutcome_schedule (n : Node) (l : ActiveLocals) :
    (activeOutcome n l).1.schedule = n.schedule := by
  simp only [activeOutcome]
  split_ifs <;> rfl

/-- The CF slot ends: its timer is released and the slot counted. -/
def nextCfSlot (n : Node) : Node :=
  let n := n.unsetTimeout n.mac.frame.cfTimer
  { n with mac.frame.currentCfSlot := n.mac.frame.currentCfSlot + 1 }

/-- What a turn of `ACTIVE` does on its channel: announce or listen. -/
def cfTurn (selectedFreq channel : UInt32) (cf : Option CFPacket) (n : Node) (l : ActiveLocals) :
    Node × ActiveLocals :=
  if l.isCurrent && selectedFreq == channel then announce n l else listenCf channel cf n l

/-- A turn in which the CF slot goes on. -/
theorem activePoll_of_pending {build : Build} {freq channel : UInt32} {p : ActivePoll} {n : Node}
    {l : ActiveLocals} (hchannel : mclmacGetFrequency n.toMCLMAC n.mac.frame.currentCfSlot = .ok channel)
    (hpending : timeoutPassed (n.tick p.tick).timeouts n.mac.frame.cfTimer ≠ 1) :
    activePoll build freq p (n, l) = .ok (cfTurn freq channel p.cf (n.tick p.tick) l, true) := by
  have hexpired : (timeoutPassed (n.tick p.tick).timeouts (n.tick p.tick).mac.frame.cfTimer == 1) =
      false := beq_eq_false_iff_ne.mpr hpending
  simp only [activePoll, hchannel, ok_bind, hexpired, Bool.false_eq_true, if_false, false_and,
    pure_eq_ok, cfTurn]

/-- A turn in which the CF slot ends. -/
theorem activePoll_of_passed {build : Build} {freq channel : UInt32} {p : ActivePoll} {n : Node}
    {l : ActiveLocals} (hchannel : mclmacGetFrequency n.toMCLMAC n.mac.frame.currentCfSlot = .ok channel)
    (hpassed : timeoutPassed (n.tick p.tick).timeouts n.mac.frame.cfTimer = 1) :
    activePoll build freq p (n, l) =
      if n.mac.frame.currentCfSlot + 1 = UInt8.ofNat Config.maxNumberFreqs then
        .ok ((nextCfSlot (n.tick p.tick), l), false)
      else
        .ok (cfTurn freq channel p.cf (setCfTimer build (nextCfSlot (n.tick p.tick))) l, true) := by
  have hexpired : (timeoutPassed (n.tick p.tick).timeouts (n.tick p.tick).mac.frame.cfTimer == 1) =
      true := beq_iff_eq.mpr hpassed
  by_cases hlast : n.mac.frame.currentCfSlot + 1 = UInt8.ofNat Config.maxNumberFreqs
  · rw [if_pos hlast]
    simp only [activePoll, hchannel, ok_bind, hexpired, if_true, true_and, pure_eq_ok]
    exact if_pos hlast
  · rw [if_neg hlast]
    simp only [activePoll, hchannel, ok_bind, hexpired, if_true, true_and, pure_eq_ok]
    exact if_neg hlast

/-- **A turn of `ACTIVE`**: the CF slot goes on, the next one begins, or the last one has ended. -/
theorem activePoll_cases {build : Build} {freq : UInt32} {p : ActivePoll} {n : Node}
    {l : ActiveLocals} {s' : Node × ActiveLocals} {go : Bool}
    (h : activePoll build freq p (n, l) = .ok (s', go)) :
    ∃ channel, mclmacGetFrequency n.toMCLMAC n.mac.frame.currentCfSlot = .ok channel ∧
      ((timeoutPassed (n.tick p.tick).timeouts n.mac.frame.cfTimer ≠ 1 ∧
          s' = cfTurn freq channel p.cf (n.tick p.tick) l ∧ go = true) ∨
        (timeoutPassed (n.tick p.tick).timeouts n.mac.frame.cfTimer = 1 ∧
          n.mac.frame.currentCfSlot + 1 ≠ UInt8.ofNat Config.maxNumberFreqs ∧
          s' = cfTurn freq channel p.cf (setCfTimer build (nextCfSlot (n.tick p.tick))) l ∧
          go = true) ∨
        (timeoutPassed (n.tick p.tick).timeouts n.mac.frame.cfTimer = 1 ∧
          n.mac.frame.currentCfSlot + 1 = UInt8.ofNat Config.maxNumberFreqs ∧
          s' = (nextCfSlot (n.tick p.tick), l) ∧ go = false)) := by
  obtain ⟨channel, hchannel, -⟩ := bind_eq_ok.mp h
  refine ⟨channel, hchannel, ?_⟩
  by_cases hpassed : timeoutPassed (n.tick p.tick).timeouts n.mac.frame.cfTimer = 1
  · rw [activePoll_of_passed hchannel hpassed] at h
    split at h
    · next hlast =>
      cases h
      exact .inr (.inr ⟨hpassed, hlast, rfl, rfl⟩)
    · next hlast =>
      cases h
      exact .inr (.inl ⟨hpassed, hlast, rfl, rfl⟩)
  · rw [activePoll_of_pending hchannel hpassed] at h
    cases h
    exact .inl ⟨hpassed, rfl, rfl⟩

/-- A turn of `ACTIVE` changes what concerns the CF messages. -/
theorem cfTurn_frame (selectedFreq channel : UInt32) (cf : Option CFPacket) (n : Node)
    (l : ActiveLocals) :
    ∃ isFirstNode sent received messages transmitterId receiveChannel,
      (cfTurn selectedFreq channel cf n l).1 = { n with
        isFirstNode := isFirstNode
        sent := sent
        mac.cfMessageReceived := received
        mac.cfMessages := messages
        mac.transmitterId := transmitterId
        mac.receiveChannel := receiveChannel } := by
  unfold cfTurn
  split
  · simp only [announce]
    split_ifs <;> exact ⟨_, _, _, _, _, _, rfl⟩
  · cases cf with
    | none => exact ⟨_, _, _, _, _, _, rfl⟩
    | some pkt =>
      by_cases h : Addressed n pkt
      · rw [listenCf_of_addressed channel l h]
        exact ⟨_, _, _, _, _, _, rfl⟩
      · rw [listenCf_of_not_addressed channel l h]
        exact ⟨_, _, _, _, _, _, rfl⟩

theorem cfTurn_schedule (selectedFreq channel : UInt32) (cf : Option CFPacket) (n : Node)
    (l : ActiveLocals) : (cfTurn selectedFreq channel cf n l).1.schedule = n.schedule := by
  obtain ⟨_, _, _, _, _, _, h⟩ := cfTurn_frame selectedFreq channel cf n l
  rw [h]
  rfl

theorem activePoll_schedule {build : Build} {freq : UInt32} {p : ActivePoll}
    {s s' : Node × ActiveLocals} {go : Bool} (h : activePoll build freq p s = .ok (s', go)) :
    s'.1.schedule = s.1.schedule := by
  obtain ⟨channel, -, ⟨-, rfl, -⟩ | ⟨-, -, rfl, -⟩ | ⟨-, -, rfl, -⟩⟩ := activePoll_cases h
  · rw [cfTurn_schedule, schedule_tick]
  · rw [cfTurn_schedule]
    rfl
  · rfl

/-- **An execution of `ACTIVE`**: the loop, and its outcome. -/
theorem executeActive_cases {build : Build} {polls : List ActivePoll} {n n' : Node}
    {ret : PmExecution} (h : executeActive build polls n = .ok (n', ret)) :
    ∃ m l, pollLoop .polling (activePoll build n.mac.transmitChannel) polls
        (setCfTimer build { n with mac.frame.currentCfSlot := 0 },
          { isCurrent := n.mac.frame.currentSlot == n.mac.selectedSlot }) = .ok (m, l) ∧
      activeOutcome m l = (n', ret) := by
  obtain ⟨⟨m, l⟩, hloop, h⟩ := bind_eq_ok.mp h
  exact ⟨m, l, hloop, Except.ok.inj h⟩

/-- **`ACTIVE`** stays in the slot. -/
theorem executeActive_schedule {build : Build} {polls : List ActivePoll} {n n' : Node}
    {ret : PmExecution} (h : executeActive build polls n = .ok (n', ret)) :
    n'.schedule = n.schedule := by
  obtain ⟨m, l, hloop, hout⟩ := executeActive_cases h
  have hm : m.schedule = n.schedule :=
    (pollLoop_frame (f := fun s : Node × ActiveLocals => s.1.schedule)
      (fun _ _ _ _ => activePoll_schedule) polls hloop).trans rfl
  have hn' := activeOutcome_schedule m l
  rwa [hout, hm] at hn'

/-! ## `TRANSMIT` -/

/-- The node after `TRANSMIT` has sent its control packet. -/
def afterControlPacket (n : Node) : Node :=
  mclmacSendControlPacket (mclmacCreateControlPacket n)

/-- The node after `TRANSMIT` has reported a collision. -/
def afterReport (n : Node) : Node :=
  { afterControlPacket n with
    mac.collisionDetected := false
    mac.collisionSlot := 0
    mac.collisionFrequency := 0
    mac.isInternalCollision := false }

/-- **An execution of `TRANSMIT`**: a detected collision is reported, and otherwise the data packets
are sent. -/
theorem executeTransmit_cases {ticks : List Tick} {n n' : Node} {ret : PmExecution}
    (h : executeTransmit build ticks n = .ok (n', ret)) :
    (n.mac.collisionDetected = true ∧ n.mac.isInternalCollision = true ∧ ret = .collisionError ∧
        n' = mclmacSetNextPowermodeState (afterReport n) .finishp) ∨
      (n.mac.collisionDetected = true ∧ n.mac.isInternalCollision = false ∧ ret = .success ∧
        n' = mclmacSetNextPowermodeState (afterReport n) .passive) ∨
      (n.mac.collisionDetected = false ∧ ret = .success ∧
        ∃ m, pollLoop .polling (transmitPoll build) ticks (afterControlPacket n) = .ok m ∧
          n' = mclmacSetNextPowermodeState m .passive) := by
  have hcollision : (mclmacSendControlPacket (mclmacCreateControlPacket n)).mac.collisionDetected =
      n.mac.collisionDetected := rfl
  have hinternal : (mclmacSendControlPacket (mclmacCreateControlPacket n)).mac.isInternalCollision =
      n.mac.isInternalCollision := rfl
  unfold executeTransmit at h
  dsimp only at h
  rw [hcollision] at h
  cases hc : n.mac.collisionDetected with
  | false =>
    rw [hc, if_neg Bool.false_ne_true] at h
    obtain ⟨m, hloop, h⟩ := bind_eq_ok.mp h
    cases h
    exact .inr (.inr ⟨rfl, rfl, m, hloop, rfl⟩)
  | true =>
    rw [hc, if_pos rfl, hinternal] at h
    cases hi : n.mac.isInternalCollision with
    | false =>
      rw [hi, if_neg Bool.false_ne_true] at h
      cases h
      exact .inr (.inl ⟨rfl, rfl, rfl, rfl⟩)
    | true =>
      rw [hi, if_pos rfl] at h
      cases h
      exact .inl ⟨rfl, rfl, rfl, rfl⟩

/-- `TRANSMIT` goes on to `PASSIVE`, or fails with a collision error. -/
theorem executeTransmit_ret {ticks : List Tick} {n n' : Node} {ret : PmExecution}
    (h : executeTransmit build ticks n = .ok (n', ret)) :
    (ret = .success ∧ n'.powerMode.nextState = .passive) ∨ ret = .collisionError := by
  obtain ⟨-, -, hret, -⟩ | ⟨-, -, hret, rfl⟩ | ⟨-, hret, m, -, rfl⟩ := executeTransmit_cases h
  · exact .inr hret
  · exact .inl ⟨hret, rfl⟩
  · exact .inl ⟨hret, rfl⟩

theorem transmitPoll_schedule {tick : Tick} {n n' : Node} {go : Bool}
    (h : transmitPoll build tick n = .ok (n', go)) : n'.schedule = n.schedule := by
  unfold transmitPoll at h
  dsimp only at h
  split at h
  · cases h
    exact pollSlotTimer_schedule tick n
  · obtain ⟨m, hsend, h⟩ := bind_eq_ok.mp h
    cases h
    obtain ⟨_, _, _, rfl⟩ := mclmacSendDataPacket_frame hsend
    exact pollSlotTimer_schedule tick n

/-- **`TRANSMIT`** stays in the slot. -/
theorem executeTransmit_schedule {ticks : List Tick} {n n' : Node} {ret : PmExecution}
    (h : executeTransmit build ticks n = .ok (n', ret)) : n'.schedule = n.schedule := by
  obtain ⟨-, -, -, rfl⟩ | ⟨-, -, -, rfl⟩ | ⟨-, -, m, hloop, rfl⟩ := executeTransmit_cases h
  · rfl
  · rfl
  · exact (pollLoop_frame (f := Node.schedule) (fun _ _ _ _ => transmitPoll_schedule)
      ticks hloop).trans rfl

/-! ## `RECEIVE` -/

/-- **An execution of `RECEIVE`**: nothing is heard in the first attempt, the control packet tells
of a collision or of another time, or data packets are received while there is room for them. -/
theorem executeReceive_cases {build : Build} {attempt₁ attempt₂ : CtrlRadio}
    {polls : List ReceivePoll} {n n' : Node} {ret : PmExecution}
    (h : executeReceive build attempt₁ attempt₂ polls n = .ok (n', ret)) :
    (ret = .success ∧ n' = mclmacSetNextPowermodeState
        (mclmacReceiveControlPacket build attempt₂
          (mclmacReceiveControlPacket build attempt₁ n).1).1 .passive) ∨
      ((ret = .collisionError ∨ ret = .synchronizationError) ∧ n' = mclmacSetNextPowermodeState
        (mclmacReceiveControlPacket build attempt₁ n).1 .finishp) ∨
      (ret = .success ∧ ∃ m, n' = mclmacSetNextPowermodeState m .passive ∧
        (m = (mclmacReceiveControlPacket build attempt₁ n).1 ∨
          pollLoop .polling (receivePoll build) polls (mclmacReceiveControlPacket build attempt₁ n).1 =
            .ok m)) := by
  unfold executeReceive at h
  dsimp only at h
  split at h
  · cases h
    -- the first attempt failed: the second one is made, but not looked at
    exact .inl ⟨rfl, rfl⟩
  split at h
  · cases h
    exact .inr (.inl ⟨.inl rfl, rfl⟩)
  split at h
  · cases h
    exact .inr (.inl ⟨.inr rfl, rfl⟩)
  split at h
  · obtain ⟨m, hloop, h⟩ := bind_eq_ok.mp h
    cases h
    exact .inr (.inr ⟨rfl, m, rfl, .inr hloop⟩)
  · cases h
    exact .inr (.inr ⟨rfl, _, rfl, .inl rfl⟩)

/-- `RECEIVE` goes on to `PASSIVE`, or fails with one of two errors. -/
theorem executeReceive_ret {build : Build} {attempt₁ attempt₂ : CtrlRadio}
    {polls : List ReceivePoll} {n n' : Node} {ret : PmExecution}
    (h : executeReceive build attempt₁ attempt₂ polls n = .ok (n', ret)) :
    (ret = .success ∧ n'.powerMode.nextState = .passive) ∨ ret = .collisionError ∨
      ret = .synchronizationError := by
  obtain ⟨hret, rfl⟩ | ⟨hret, -⟩ | ⟨hret, m, rfl, -⟩ := executeReceive_cases h
  · exact .inl ⟨hret, rfl⟩
  · exact .inr hret
  · exact .inl ⟨hret, rfl⟩

theorem receiveWithin_frame (build : Build) (radio : CtrlRadio) (n : Node) :
    ∃ timeouts, (receiveWithin build radio n).1 = { n with timeouts := timeouts } := by
  unfold receiveWithin
  dsimp only
  split
  · exact ⟨_, rfl⟩
  · split <;> exact ⟨_, rfl⟩

/-- Hearing a control packet changes the timers and that packet. -/
theorem mclmacReceiveControlPacket_frame (build : Build) (radio : CtrlRadio) (n : Node) :
    ∃ timeouts ctrlpktRecv, (mclmacReceiveControlPacket build radio n).1 =
      { n with timeouts := timeouts, mac.ctrlpktRecv := ctrlpktRecv } := by
  unfold mclmacReceiveControlPacket
  by_cases hradio : (!build.native && build.os == .riot) = true
  · rw [if_pos hradio]
    obtain ⟨timeouts, h⟩ := receiveWithin_frame build radio n
    generalize receiveWithin build radio n = heard at h ⊢
    obtain ⟨m, _ | b⟩ := heard <;> obtain rfl : m = _ := h <;> exact ⟨_, _, rfl⟩
  · rw [if_neg hradio]
    cases radio <;> exact ⟨_, _, rfl⟩

@[simp]
theorem mclmacReceiveControlPacket_schedule (build : Build) (radio : CtrlRadio) (n : Node) :
    (mclmacReceiveControlPacket build radio n).1.schedule = n.schedule := by
  obtain ⟨_, _, h⟩ := mclmacReceiveControlPacket_frame build radio n
  rw [h]
  rfl

/-- A turn of the loop of `RECEIVE` changes the received packets. -/
theorem receivePoll_frame {p : ReceivePoll} {n n' : Node} {go : Bool}
    (h : receivePoll build p n = .ok (n', go)) :
    ∃ received, n' = { n.tick p.tick with mac.received := received } := by
  unfold receivePoll at h
  dsimp only at h
  split at h
  · cases h
    exact ⟨_, rfl⟩
  · obtain ⟨m, hreceive, h⟩ := bind_eq_ok.mp h
    cases h
    obtain ⟨_, rfl⟩ := mclmacReceiveDataPacket_frame hreceive
    exact ⟨_, rfl⟩

theorem receivePoll_schedule {p : ReceivePoll} {n n' : Node} {go : Bool}
    (h : receivePoll build p n = .ok (n', go)) : n'.schedule = n.schedule := by
  obtain ⟨_, rfl⟩ := receivePoll_frame h
  rfl

/-- **`RECEIVE`** stays in the slot. -/
theorem executeReceive_schedule {build : Build} {attempt₁ attempt₂ : CtrlRadio}
    {polls : List ReceivePoll} {n n' : Node} {ret : PmExecution}
    (h : executeReceive build attempt₁ attempt₂ polls n = .ok (n', ret)) :
    n'.schedule = n.schedule := by
  obtain ⟨-, rfl⟩ | ⟨-, rfl⟩ | ⟨-, m, rfl, rfl | hloop⟩ := executeReceive_cases h
  · simp
  · simp
  · simp
  · have hm := pollLoop_frame (f := Node.schedule) (fun _ _ _ _ => receivePoll_schedule) polls hloop
    rw [schedule_setNextPowermodeState, hm, mclmacReceiveControlPacket_schedule]

/-! ## The loop of `MEDIUM_ACCESS` -/

/-- A turn of the loop after which it goes on. -/
def sessionStep (build : Build) (inp : PmInput) (n : Node) : Option Node :=
  match mediumAccessPoll build inp n with
  | .ok (n', true) => some n'
  | _ => none

/-- The node is in one of the states the loop executes. -/
def InSession (mode : PowerMode) : Prop :=
  mode = .passive ∨ mode = .active ∨ mode = .transmit ∨ mode = .receive

/-- The loop keeps where and when a collision was detected. -/
def noteCollision (n : Node) : Node :=
  { n with
    mac.collisionDetected := true
    mac.collisionSlot := n.mac.frame.currentSlot
    mac.collisionFrequency := n.mac.receiveChannel
    mac.destinationId := (0, 0) }

/-- **The turns of the loop**: the state is executed and left, or executed once more after a
collision. -/
inductive Session (build : Build) (inp : PmInput) (n : Node) : Node → Prop
  | passive {m : Node} (hmode : n.powerMode.currentState = .passive)
      (h : executePassive build inp.passive n = .ok m) :
      Session build inp n (mclmacSetPowermodeState m .active)
  | active {m : Node} (hmode : n.powerMode.currentState = .active)
      (h : executeActive build inp.active n = .ok (m, .success))
      (hnext : m.powerMode.nextState = .passive ∨ m.powerMode.nextState = .transmit ∨
        m.powerMode.nextState = .receive) :
      Session build inp n (mclmacSetPowermodeState m m.powerMode.nextState)
  | collision {m : Node} (hmode : n.powerMode.currentState = .active)
      (h : executeActive build inp.active n = .ok (m, .collisionDetected)) :
      Session build inp n (noteCollision m)
  | transmit {m : Node} (hmode : n.powerMode.currentState = .transmit)
      (h : executeTransmit build inp.transmit n = .ok (m, .success)) :
      Session build inp n (mclmacSetPowermodeState m .passive)
  | receive {m : Node} (hmode : n.powerMode.currentState = .receive)
      (h : executeReceive build inp.attempt₁ inp.attempt₂ inp.receive n = .ok (m, .success)) :
      Session build inp n (mclmacSetPowermodeState m .passive)

/-- What `ACTIVE` returns, and the state it chooses. -/
theorem activeOutcome_cases (n : Node) (l : ActiveLocals) :
    (((l.send ∧ l.receive) ∨ l.packets > 1) ∧ (activeOutcome n l).2 = .collisionDetected ∧
        (activeOutcome n l).1.powerMode.nextState = .passive) ∨
      (¬ ((l.send ∧ l.receive) ∨ l.packets > 1) ∧ (activeOutcome n l).2 = .success ∧
        ((activeOutcome n l).1.powerMode.nextState = .passive ∨
          (activeOutcome n l).1.powerMode.nextState = .transmit ∨
          (activeOutcome n l).1.powerMode.nextState = .receive)) := by
  by_cases h : (l.send = true ∧ l.receive = true) ∨ l.packets > 1
  · refine .inl ⟨h, ?_, ?_⟩
    · simp only [activeOutcome, if_pos h]
    · simp only [activeOutcome, if_pos h]
      split <;> rfl
  · refine .inr ⟨h, ?_, ?_⟩
    · simp only [activeOutcome, if_neg h]
    · simp only [activeOutcome, if_neg h]
      cases hs : l.send <;> cases hr : l.receive <;> simp [mclmacSetNextPowermodeState]

/-- Leaving a state for `PASSIVE`. -/
theorem updatePowermode_passive {n : Node} (hnext : n.powerMode.nextState = .passive)
    (hmode : n.powerMode.currentState = .active ∨ n.powerMode.currentState = .transmit ∨
      n.powerMode.currentState = .receive) :
    (mclmacUpdatePowermodeStateMachine n).1 = mclmacSetPowermodeState n .passive := by
  obtain hmode | hmode | hmode := hmode <;>
    simp [mclmacUpdatePowermodeStateMachine, hmode, hnext]

/-- Leaving `ACTIVE`. -/
theorem updatePowermode_active {n : Node} (hmode : n.powerMode.currentState = .active)
    (hnext : n.powerMode.nextState = .passive ∨ n.powerMode.nextState = .transmit ∨
      n.powerMode.nextState = .receive) :
    (mclmacUpdatePowermodeStateMachine n).1 =
      mclmacSetPowermodeState n n.powerMode.nextState := by
  obtain hnext | hnext | hnext := hnext <;>
    simp [mclmacUpdatePowermodeStateMachine, hmode, hnext]

/-- Leaving `PASSIVE`. -/
theorem updatePowermode_of_passive {n : Node} (hmode : n.powerMode.currentState = .passive)
    (hnext : n.powerMode.nextState = .active) :
    (mclmacUpdatePowermodeStateMachine n).1 = mclmacSetPowermodeState n .active := by
  simp [mclmacUpdatePowermodeStateMachine, hmode, hnext]

theorem executePassive_next {build : Build} {polls : List PassivePoll} {n n' : Node}
    (h : executePassive build polls n = .ok n') : n'.powerMode.nextState = .active := by
  obtain ⟨m, -, -, rfl⟩ := executePassive_cases h
  rfl

/-- `PASSIVE` does not leave itself. -/
theorem executePassive_mode {build : Build} {polls : List PassivePoll} {n n' : Node}
    (h : executePassive build polls n = .ok n') :
    n'.powerMode.currentState = n.powerMode.currentState :=
  (congrArg Schedule.mode (executePassive_schedule h)).trans (Schedule.mode_advance _ _)

/-- **What a turn of the loop can do.** -/
theorem sessionStep_cases {build : Build} {inp : PmInput} {n n' : Node}
    (hsession : InSession n.powerMode.currentState) (h : sessionStep build inp n = some n') :
    Session build inp n n' := by
  unfold sessionStep at h
  split at h
  swap
  · cases h
  next n'' hpoll =>
    cases h
    obtain ⟨⟨m, ret⟩, hexec, hret⟩ := bind_eq_ok.mp hpoll
    obtain ⟨-, -, hexec⟩ := bind_eq_ok.mp hexec
    -- the state is executed, and the update that follows leads where it has chosen to go
    obtain hmode | hmode | hmode | hmode := hsession
    · simp only [hmode] at hexec
      obtain ⟨m', hpassive, hexec⟩ := bind_eq_ok.mp hexec
      cases hexec
      cases hret
      have hcurrent := executePassive_mode hpassive
      rw [hmode] at hcurrent
      rw [updatePowermode_of_passive hcurrent (executePassive_next hpassive)]
      exact .passive hmode hpassive
    · simp only [hmode] at hexec
      have hcurrent := currentState_of_schedule (executeActive_schedule hexec)
      rw [hmode] at hcurrent
      obtain ⟨m', l, hloop, hout⟩ := executeActive_cases hexec
      have hcases := activeOutcome_cases m' l
      rw [hout] at hcases
      obtain ⟨-, hcode, -⟩ | ⟨-, hcode, hnext⟩ := hcases
      · -- after a collision `ACTIVE` is executed once more
        obtain rfl : ret = .collisionDetected := hcode
        cases hret
        exact .collision hmode hexec
      · obtain rfl : ret = .success := hcode
        cases hret
        rw [updatePowermode_active hcurrent hnext]
        exact .active hmode hexec hnext
    · simp only [hmode] at hexec
      have hcurrent := currentState_of_schedule (executeTransmit_schedule hexec)
      rw [hmode] at hcurrent
      obtain ⟨rfl, hnext⟩ | rfl := executeTransmit_ret hexec
      · cases hret
        rw [updatePowermode_passive hnext (.inr (.inl hcurrent))]
        exact .transmit hmode hexec
      · cases hret
    · simp only [hmode] at hexec
      have hcurrent := currentState_of_schedule (executeReceive_schedule hexec)
      rw [hmode] at hcurrent
      obtain ⟨rfl, hnext⟩ | rfl | rfl := executeReceive_ret hexec
      · cases hret
        rw [updatePowermode_passive hnext (.inr (.inr hcurrent))]
        exact .receive hmode hexec
      · cases hret
      · cases hret

/-- The loop stays among its states. -/
theorem Session.inSession {build : Build} {inp : PmInput} {n n' : Node}
    (h : Session build inp n n') : InSession n'.powerMode.currentState := by
  cases h with
  | passive hmode h => exact .inr (.inl rfl)
  | active hmode h hnext =>
    obtain hnext | hnext | hnext := hnext
    · exact .inl hnext
    · exact .inr (.inr (.inl hnext))
    · exact .inr (.inr (.inr hnext))
  | collision hmode h =>
    exact .inr (.inl ((currentState_of_schedule (executeActive_schedule h)).trans hmode))
  | transmit hmode h => exact .inl rfl
  | receive hmode h => exact .inl rfl

/-- **Entering `MEDIUM_ACCESS`** executes `STARTP` and leaves it for `PASSIVE`. -/
theorem enterMediumAccess_cases {build : Build} {n n' : Node}
    (h : enterMediumAccess build n = .ok n') :
    n' = mclmacSetPowermodeState (setSlotTimer build (startSession
      { n with toMCLMAC := mclmacInitPowermodeStateMachine n.toMCLMAC })) .passive := by
  obtain ⟨⟨m, ret⟩, hexec, h⟩ := bind_eq_ok.mp h
  obtain ⟨-, -, hexec⟩ := bind_eq_ok.mp hexec
  obtain ⟨m', hstart, hexec⟩ := bind_eq_ok.mp hexec
  cases hexec
  obtain ⟨-, -, hstart⟩ := bind_eq_ok.mp hstart
  cases hstart
  cases h
  rfl

/-- The first node of a network, with slot 0 and the first channel. -/
def firstNode : Node :=
  { mclmacInit (fun _ => {}) 0 initQueues with
    isFirstNode := true
    wakeupFrame := 1
    mac.transmitChannel := Config.frequencies 0 }

/-- The first node, when it begins to execute `PASSIVE`. -/
def firstNodeEntered : Node :=
  mclmacSetPowermodeState (setSlotTimer ⟨.linux, true⟩ (startSession firstNode)) .passive

/-- The inputs of slot `k` of a node that hears nothing: the slot timer passes in `PASSIVE`, and
the timer of the CF slots eight times in `ACTIVE`. -/
def quietSlot (k : ℕ) : List PmInput :=
  [{ passive := [{ tick := ⟨(k + 1) * 80000, true⟩ }] },
    { active := (List.range' 1 8).map fun j => { tick := ⟨(k + 1) * 80000 + j * 500, true⟩ } }]

/-- The first frame of a node that hears nothing. -/
def quietFrame : List PmInput :=
  (List.range 16).flatMap quietSlot

end WmnIot
