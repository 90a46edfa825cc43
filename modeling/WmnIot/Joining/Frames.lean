import WmnIot.Joining.Synchronization

/-! # What the joining states leave alone

The states of the MAC machine before `MEDIUM_ACCESS` concern the timers and what the node learns of
the network. Only `TIMESLOT_AND_CHANNEL_SELECTION` changes what the power-mode machine works with.

* **`Setup`** — what the joining states leave alone.
* **`executeStart_cases`**, **`executeInitialization_cases`**, **`executeSynchronization_setup`**,
  **`executeTimeslotAndChannelSelection_cases`** — what the states change. -/

namespace WmnIot

open Runs

variable {build : Build} {n n' : Node}

/-! ## `START` and `INITIALIZATION` -/

/-- What the states before `MEDIUM_ACCESS` leave alone, but for the slot and the channel. -/
structure Setup where
  mac : MACInternals
  currentState : MacState
  nodeId : NodeId
  nSlots : UInt8
  nChannels : UInt8
  frequencies : Fin Config.maxNumberFreqs → UInt32

/-- The setup of the node. -/
def Node.setup (n : Node) : Setup where
  mac := n.mac
  currentState := n.macState.currentState
  nodeId := n.nodeId
  nSlots := n.nSlots
  nChannels := n.nChannels
  frequencies := n.frequencies

/-- **`START`** -/
theorem executeStart_cases {rand : ℕ} {pid : Pid} {ret : MacExecution}
    (h : executeStart build rand pid n = .ok (n', ret)) :
    ret = .success ∧ ∃ queues, n' = mclmacSetNextMACState { n with
      wakeupFrame := if UInt32.ofNat (rand % Config.maxNumberSlots) = 0 then 1
        else UInt32.ofNat (rand % Config.maxNumberSlots)
      selfPid := pid
      queues := queues
      isFirstNode := false } .initialization := by
  obtain ⟨⟨queues, opened⟩, -, h⟩ := bind_eq_ok.mp h
  cases h
  exact ⟨rfl, queues, rfl⟩

theorem initPoll_frame {timer : ℕ} {p : InitPoll} {s s' : Node × Bool} {go : Bool}
    (h : initPoll timer p s = .ok (s', go)) : s'.1 = s.1.tick p.tick := by
  unfold initPoll at h
  dsimp only at h
  split at h
  · cases h
    rfl
  split at h <;> cases h <;> rfl

/-- **`INITIALIZATION`** -/
theorem executeInitialization_cases {polls : List InitPoll} {ret : MacExecution}
    (h : executeInitialization build polls n = .ok (n', ret)) :
    ret = .success ∧ ∃ timeouts clock isFirstNode, n' = mclmacSetNextMACState
      { n with timeouts := timeouts, clock := clock, isFirstNode := isFirstNode }
        .synchronization := by
  obtain ⟨⟨m, found⟩, hloop, h⟩ := bind_eq_ok.mp h
  cases h
  refine ⟨rfl, ?_⟩
  have hm : ∃ timeouts clock, m = { n with timeouts := timeouts, clock := clock } := by
    refine pollLoop_inv (fun s => ∃ timeouts clock, s.1 = { n with timeouts := timeouts, clock := clock })
      (fun s => ∃ timeouts clock, s.1 = { n with timeouts := timeouts, clock := clock })
      ?_ ?_ polls ⟨_, _, rfl⟩ hloop
    · rintro p s s' ⟨_, _, hs⟩ hpoll
      exact ⟨_, _, by rw [initPoll_frame hpoll, hs]; rfl⟩
    · rintro p s s' ⟨_, _, hs⟩ hpoll
      exact ⟨_, _, by rw [initPoll_frame hpoll, hs]; rfl⟩
  obtain ⟨timeouts, clock, rfl⟩ := hm
  cases found <;> exact ⟨_, _, _, rfl⟩

/-! ## `SYNCHRONIZATION` -/

/-- Hearing a control packet changes the timers. -/
theorem mclmacReceiveCtrlpktSync_frame (build : Build) (radio : CtrlRadio) (n : Node) :
    ∃ timeouts, (mclmacReceiveCtrlpktSync build radio n).1 = { n with timeouts := timeouts } := by
  unfold mclmacReceiveCtrlpktSync
  by_cases hnative : build.native = true
  · rw [if_pos hnative]
    cases radio <;> exact ⟨_, rfl⟩
  · rw [if_neg hnative]
    cases build.os with
    | linux => exact ⟨_, rfl⟩
    | riot => exact receiveWithin_frame build radio n

theorem listenCtrlpkt_frame {count : ℕ} {attempts : List CtrlRadio} {heard : Option ByteString}
    (h : listenCtrlpkt build count attempts n = .ok (n', heard)) :
    ∃ timeouts, n' = { n with timeouts := timeouts } := by
  induction count generalizing attempts n with
  | zero =>
    cases h
    exact ⟨_, rfl⟩
  | succ count ih =>
    cases attempts with
    | nil => exact nomatch h
    | cons radio attempts =>
      rw [listenCtrlpkt] at h
      obtain ⟨timeouts, hframe⟩ := mclmacReceiveCtrlpktSync_frame build radio n
      generalize mclmacReceiveCtrlpktSync build radio n = received at h hframe
      obtain ⟨m, _ | bytes⟩ := received
      · obtain rfl : m = _ := hframe
        obtain ⟨timeouts', rfl⟩ := ih h
        exact ⟨_, rfl⟩
      · obtain rfl : m = _ := hframe
        cases h
        exact ⟨_, rfl⟩

theorem markSelectedSlot_frame {slot : UInt8} (h : markSelectedSlot n slot = .ok n') :
    ∃ neighbors, n' = { n with selectedSlotsNeighbors := neighbors } := by
  unfold markSelectedSlot at h
  dsimp only at h
  split at h
  · cases h
    exact ⟨_, rfl⟩
  · cases h

/-- What the listening loop of `SYNCHRONIZATION` keeps besides the setup. -/
def Node.listener (n : Node) : Setup × MACState × UInt32 × Bool :=
  (n.setup, n.macState, n.wakeupFrame, n.isFirstNode)

theorem pollSyncSlot_listener (build : Build) (tick : Tick) (n : Node) (l : SyncLocals) :
    (pollSyncSlot build tick n l).1.listener = n.listener := by
  unfold pollSyncSlot
  dsimp only
  split <;> rfl

theorem pollSyncFrame_listener (build : Build) (tick : Tick) (n : Node) (l : SyncLocals) :
    (pollSyncFrame build tick n l).1.listener = n.listener := by
  unfold pollSyncFrame
  dsimp only
  split <;> rfl

theorem syncPoll_listener {p : SyncPoll} {s s' : Node × SyncLocals} {go : Bool}
    (h : syncPoll build p s = .ok (s', go)) : s'.1.listener = s.1.listener := by
  obtain ⟨n, l⟩ := s
  obtain ⟨m, hm, rfl, -⟩ := syncPoll_cases h
  obtain ⟨timeouts, hframe⟩ := mclmacReceiveCtrlpktSync_frame build p.radio n
  rw [pollSyncFrame_listener, pollSyncSlot_listener]
  rcases hm with hm | ⟨n₁, b, hm, hmark⟩
  · rw [hm] at hframe
    rw [show m = _ from hframe]
    rfl
  · rw [hm] at hframe
    obtain ⟨_, rfl⟩ := markSelectedSlot_frame hmark
    rw [show n₁ = _ from hframe]
    rfl

theorem listenOn_listener {polls : List SyncPoll} {s s' : Node × SyncLocals}
    (h : listenOn build polls s = .ok s') : s'.1.listener = s.1.listener := by
  unfold listenOn at h
  split at h
  · exact pollLoop_frame (f := fun s : Node × SyncLocals => s.1.listener)
      (fun _ _ _ _ => syncPoll_listener) polls h
  · cases h
    rfl

/-- The first control packet moves the frame at which listening ends. -/
theorem adoptCtrlpkt_listener {pkt : ControlPacket} (h : adoptCtrlpkt n pkt = .ok n') :
    n'.listener = (n.setup, n.macState, n.wakeupFrame + pkt.currentFrame, n.isFirstNode) := by
  obtain ⟨m, hmark, h⟩ := bind_eq_ok.mp h
  cases h
  obtain ⟨_, rfl⟩ := markSelectedSlot_frame hmark
  rfl

theorem setTimeout_frame (build : Build) (n : Node) (seconds : ℕ) :
    ∃ timeouts, (n.setTimeout build seconds).1 = { n with timeouts := timeouts } := ⟨_, rfl⟩

theorem armSyncTimers_frame (build : Build) (pkt : ControlPacket) (n : Node) :
    ∃ timeouts, (armSyncTimers build pkt n).1 = { n with timeouts := timeouts } := by
  unfold armSyncTimers
  generalize timeRemaining pkt.currentFrame pkt.currentSlot n.networkTime = remaining
  dsimp only
  obtain ⟨timeouts, h⟩ := setTimeout_frame build n remaining.toNat
  rw [h]
  exact setTimeout_frame build _ remaining.toNat

/-- **Joining** keeps the setup, moves the frame at which listening ends, and goes on exactly if the
timers can be armed. -/
theorem joinFrom_listener {polls : List SyncPoll} {pkt : ControlPacket} {ret : MacExecution}
    (h : joinFrom build polls pkt n = .ok (n', ret)) :
    n'.setup = n.setup ∧ n'.wakeupFrame = n.wakeupFrame + pkt.currentFrame ∧
      n'.isFirstNode = n.isFirstNode ∧
      ((ret = .success ∧ n'.macState.nextState = .timeslotAndChannelSelection) ∨
        (ret = .failed ∧ n'.macState = n.macState)) := by
  obtain ⟨m, s, hadopt, harm, hcases⟩ := joinFrom_cases h
  have hs : s.1.listener =
      (n.setup, n.macState, n.wakeupFrame + pkt.currentFrame, n.isFirstNode) := by
    obtain ⟨timeouts, hframe⟩ := armSyncTimers_frame build pkt m
    rw [← harm, hframe]
    show m.listener = _
    exact adoptCtrlpkt_listener hadopt
  rcases hcases with ⟨-, rfl, rfl⟩ | ⟨-, -, rfl, s', hlisten, rfl⟩
  · simp only [Node.listener, Prod.mk.injEq] at hs
    exact ⟨hs.1, hs.2.2.1, hs.2.2.2, .inr ⟨rfl, hs.2.1⟩⟩
  · have hs' := (listenOn_listener hlisten).trans hs
    simp only [Node.listener, Prod.mk.injEq] at hs'
    exact ⟨hs'.1, hs'.2.2.1, hs'.2.2.2, .inl ⟨rfl, rfl⟩⟩

/-- **`SYNCHRONIZATION`** keeps the setup, and goes on exactly if it succeeds. -/
theorem executeSynchronization_setup {time : UInt32} {attempts : List CtrlRadio}
    {polls : List SyncPoll} {ret : MacExecution}
    (h : executeSynchronization build time attempts polls n = .ok (n', ret)) :
    n'.setup = n.setup ∧ n'.isFirstNode = n.isFirstNode ∧
      ((ret = .success ∧ n'.macState.nextState = .timeslotAndChannelSelection) ∨
        (ret = .failed ∧ n'.macState = n.macState)) := by
  cases hfirst : n.isFirstNode with
  | true =>
    unfold executeSynchronization at h
    rw [if_pos hfirst] at h
    cases h
    exact ⟨rfl, hfirst, .inl ⟨rfl, rfl⟩⟩
  | false =>
    rcases executeSynchronization_cases hfirst h with ⟨hlisten, rfl⟩ | ⟨n₁, b, hlisten, hjoin⟩
    · obtain ⟨timeouts, rfl⟩ := listenCtrlpkt_frame hlisten
      exact ⟨rfl, hfirst, .inr ⟨rfl, rfl⟩⟩
    · obtain ⟨timeouts, rfl⟩ := listenCtrlpkt_frame hlisten
      obtain ⟨hsetup, -, hfirst', hret⟩ := joinFrom_listener hjoin
      exact ⟨hsetup, hfirst'.trans hfirst, hret⟩

/-! ## The update of the machine -/

/-- An update changes the states of the machine and nothing else. -/
theorem mclmacUpdateMacStateMachine_frame (n : Node) :
    ∃ macState, (mclmacUpdateMacStateMachine n).1 = { n with macState := macState } := by
  unfold mclmacUpdateMacStateMachine
  dsimp only
  split
  · exact ⟨_, rfl⟩
  · cases n.macState.nextState with
    | none | start => exact ⟨_, rfl⟩
    | initialization | synchronization | timeslotAndChannelSelection | mediumAccess | finish =>
      dsimp only
      split <;> exact ⟨_, rfl⟩

/-! ## `TIMESLOT_AND_CHANNEL_SELECTION` -/

theorem framePoll_frame {timer : ℕ} {tick : Tick} {go : Bool}
    (h : framePoll timer tick n = .ok (n', go)) : n' = n.tick tick := by
  cases h
  rfl

/-- The node takes the slot `slot` and the channel `k`. -/
def takeSlot (n : Node) (slot : UInt8) (k : Fin Config.maxNumberFreqs) : Node :=
  mclmacSetNextMACState { n with mac.transmitChannel := n.frequencies k, mac.selectedSlot := slot }
    .mediumAccess

/-- The slot at bit `j` of byte `i`, as `TIMESLOT_AND_CHANNEL_SELECTION` numbers it. -/
def slotNumber (i : Fin Config.slotBytes) (j : ℕ) : UInt8 :=
  UInt8.ofNat (Config.slotBytes * i + (j - 1))

/-- The first node marks its slot. -/
def markFirstSlot (n : Node) : Node :=
  { n with
    occupiedFrequenciesSlots := Function.update n.occupiedFrequenciesSlots 0
      (Function.update (n.occupiedFrequenciesSlots 0) 0 0x80) }

theorem framePoll_loop {timer : ℕ} {ticks : List Tick}
    (h : pollLoop .polling (framePoll timer) ticks n = .ok n') :
    ∃ timeouts clock, n' = { n with timeouts := timeouts, clock := clock } := by
  have hstep : ∀ tick m m' go, (∃ timeouts clock, m = { n with timeouts := timeouts, clock := clock }) →
      framePoll timer tick m = .ok (m', go) →
        ∃ timeouts clock, m' = { n with timeouts := timeouts, clock := clock } := by
    rintro tick m m' go ⟨_, _, rfl⟩ hpoll
    exact ⟨_, _, (framePoll_frame hpoll).trans rfl⟩
  exact pollLoop_inv _ _ (fun tick m m' => hstep tick m m' true)
    (fun tick m m' => hstep tick m m' false) ticks ⟨_, _, rfl⟩ h

/-- **`TIMESLOT_AND_CHANNEL_SELECTION`**: the first node takes slot 0; any other, without a timer,
changes nothing, and otherwise takes the slot it finds and a channel, or goes back to listen. -/
theorem executeTimeslotAndChannelSelection_cases {rand : ℕ} {ticks : List Tick}
    {ret : MacExecution} (h : executeTimeslotAndChannelSelection build rand ticks n = .ok (n', ret)) :
    (n.isFirstNode = true ∧ ret = .success ∧ n' = takeSlot (markFirstSlot n) 0 0) ∨
      (n.isFirstNode = false ∧ ret = .failed ∧ ∃ timeouts, n' = { n with timeouts := timeouts }) ∨
      (n.isFirstNode = false ∧ ret = .success ∧ ∃ timeouts clock i j k,
        findSlot n.occupiedFrequenciesSlots = some (i, j) ∧
        n' = takeSlot { n with timeouts := timeouts, clock := clock } (slotNumber i j) k) ∨
      (n.isFirstNode = false ∧ ret = .success ∧ findSlot n.occupiedFrequenciesSlots = none ∧
        ∃ timeouts clock, n' = mclmacSetNextMACState
          { n with timeouts := timeouts, clock := clock } .synchronization) := by
  unfold executeTimeslotAndChannelSelection at h
  split at h
  · next hfirst =>
    cases h
    exact .inl ⟨hfirst, rfl, rfl⟩
  next hfirst =>
    have hfirst : n.isFirstNode = false := by simpa using hfirst
    obtain ⟨timeouts, hset⟩ := setTimeout_frame build n Config.frameDuration.toNat
    generalize n.setTimeout build Config.frameDuration.toNat = set at h hset
    obtain ⟨m, timer⟩ := set
    obtain rfl : m = _ := hset
    dsimp only at h
    -- the frame timer cannot be set
    split at h
    · cases h
      exact .inr (.inl ⟨hfirst, rfl, _, rfl⟩)
    -- all slots are taken, or one is free
    cases hfind : findSlot n.occupiedFrequenciesSlots with
    | none =>
      rw [hfind] at h
      dsimp only at h
      obtain ⟨m, hloop, h⟩ := bind_eq_ok.mp h
      cases h
      obtain ⟨timeouts', clock, rfl⟩ := framePoll_loop hloop
      exact .inr (.inr (.inr ⟨hfirst, rfl, rfl, timeoutUnset timeouts' timer, clock, rfl⟩))
    | some p =>
      obtain ⟨i, j⟩ := p
      rw [hfind] at h
      dsimp only at h
      obtain ⟨m, hloop, h⟩ := bind_eq_ok.mp h
      cases h
      obtain ⟨timeouts', clock, rfl⟩ := framePoll_loop hloop
      exact .inr (.inr (.inl ⟨hfirst, rfl, timeoutUnset timeouts' timer, clock, i, j,
        Fin.ofNat _ (rand % Config.maxNumberFreqs), rfl, rfl⟩))

end WmnIot
