import WmnIot.Joining.Frames
import WmnIot.PowerMode.MediumAccess

/-! # Runs of the driver

The driver executes the MAC machine and updates it, again and again. Between two turns time passes,
and the other threads use the queues; nothing is assumed of what they do to them. What each state
of the machine changes is stated once, and every invariant of a run follows from that.

* **`driverTurn`**, **`Reachable`**, **`SessionReachable`** — the runs from `MCLMAC_init`.
* **`MacTurn`**, **`driverTurn_cases`** — the turns of the driver.
* **`Reachable.wellFormed`** — what holds of every node that is reached. -/

namespace WmnIot

open Runs

/-! ## Runs -/

/-- What a turn of the driver finds: the moment, the queues, the queue of the routing layer, and the
inputs of the state that is executed. -/
structure DriverInput where
  tick : Tick
  queues : IpcQueues := {}
  routingQueueId : ℕ := 0
  mac : MacInput := {}

/-- The node at the beginning of a turn. -/
def Node.resume (n : Node) (inp : DriverInput) : Node :=
  { n.tick inp.tick with queues := inp.queues, routingQueueId := inp.routingQueueId }

/-- One turn of the driver; there is none if the execution does not return. -/
def driverTurn (build : Build) (inp : DriverInput) (n : Node) : Option Node :=
  (driverStep build inp.mac (n.resume inp)).toOption

/-- The node is reached between two turns of the driver, in a run from `MCLMAC_init`. -/
def Reachable (build : Build) (n : Node) : Prop :=
  ∃ timeouts clock queues inputs,
    List.foldlM (fun m inp => driverTurn build inp m) (mclmacInit timeouts clock queues) inputs = some n

/-- The node is reached between two turns of the loop of `MEDIUM_ACCESS`. -/
def SessionReachable (build : Build) (n : Node) : Prop :=
  ∃ n₀ inp n₁ inputs, Reachable build n₀ ∧ n₀.macState.currentState = .mediumAccess ∧
    enterMediumAccess build (n₀.resume inp) = .ok n₁ ∧
    List.foldlM (fun m i => sessionStep build i m) n₁ inputs = some n

variable {build : Build} {n n' : Node}

theorem Reachable.init (timeouts : Timeouts) (clock : ℕ) (queues : IpcQueues) :
    Reachable build (mclmacInit timeouts clock queues) :=
  ⟨timeouts, clock, queues, [], rfl⟩

/-- **Invariant rule**: what holds after `MCLMAC_init` and is kept by every turn holds of every node
that is reached. -/
theorem Reachable.inv (inv : Node → Prop)
    (hinit : ∀ timeouts clock queues, inv (mclmacInit timeouts clock queues))
    (hturn : ∀ inp m m', inv m → driverTurn build inp m = some m' → inv m')
    (h : Reachable build n) : inv n := by
  obtain ⟨timeouts, clock, queues, inputs, hrun⟩ := h
  exact run_inv inv hturn inputs (hinit timeouts clock queues) hrun

/-! ## The turns of the driver -/

/-- The next state of the MAC machine is the current one, as an update leaves it; after `MCLMAC_init`
there is none. -/
def MacInStep (m : MACState) : Prop :=
  (m.currentState = .start ∧ m.nextState = .none) ∨
    (m.nextState = m.currentState ∧ (m.currentState = .initialization ∨
      m.currentState = .synchronization ∨ m.currentState = .timeslotAndChannelSelection ∨
      m.currentState = .mediumAccess))

/-- The node moves to its next state. -/
def enterNextState (m : Node) : Node :=
  mclmacSetMACState m m.macState.nextState

/-- **The turns of the driver**: a state is executed and left for its next one, or it fails and is
executed once more. -/
inductive MacTurn (build : Build) (inp : MacInput) (n : Node) : Node → Prop
  | start {m : Node} (hstate : n.macState.currentState = .start)
      (h : executeStart build inp.rand inp.pid n = .ok (m, .success)) :
      MacTurn build inp n (enterNextState m)
  | initialization {m : Node} (hstate : n.macState.currentState = .initialization)
      (h : executeInitialization build inp.initPolls n = .ok (m, .success)) :
      MacTurn build inp n (enterNextState m)
  | synchronization {m : Node} (hstate : n.macState.currentState = .synchronization)
      (h : executeSynchronization build inp.time inp.attempts inp.syncPolls n = .ok (m, .success)) :
      MacTurn build inp n (enterNextState m)
  | unsynchronized {m : Node} (hstate : n.macState.currentState = .synchronization)
      (h : executeSynchronization build inp.time inp.attempts inp.syncPolls n = .ok (m, .failed)) :
      MacTurn build inp n m
  | selection {m : Node} (hstate : n.macState.currentState = .timeslotAndChannelSelection)
      (h : executeTimeslotAndChannelSelection build inp.rand inp.frameTicks n = .ok (m, .success)) :
      MacTurn build inp n (enterNextState m)
  | noFrameTimer {m : Node} (hstate : n.macState.currentState = .timeslotAndChannelSelection)
      (h : executeTimeslotAndChannelSelection build inp.rand inp.frameTicks n = .ok (m, .failed)) :
      MacTurn build inp n m
  | mediumAccess {m : Node} (hstate : n.macState.currentState = .mediumAccess)
      (h : executeMediumAccess build inp.powerMode inp.last n = .ok (m, .success)) :
      MacTurn build inp n (enterNextState m)

/-- The states that can follow one another. -/
inductive MacEdge : MacState → MacState → Prop
  | start : MacEdge .start .initialization
  | initialization : MacEdge .initialization .synchronization
  | synchronization : MacEdge .synchronization .timeslotAndChannelSelection
  | selected : MacEdge .timeslotAndChannelSelection .mediumAccess
  | noSlot : MacEdge .timeslotAndChannelSelection .synchronization
  | collision : MacEdge .mediumAccess .synchronization
  | synchronizationError : MacEdge .mediumAccess .initialization

/-- An update along an edge succeeds. -/
theorem updateMac_of_edge (h : MacEdge n.macState.currentState n.macState.nextState) :
    mclmacUpdateMacStateMachine n = (enterNextState n, .success) := by
  generalize hcurrent : n.macState.currentState = current at h
  generalize hnext : n.macState.nextState = next at h
  cases h <;> simp [mclmacUpdateMacStateMachine, enterNextState, hcurrent, hnext]

/-- An update to the same state changes nothing. -/
theorem updateMac_of_eq (h : n.macState.nextState = n.macState.currentState) :
    mclmacUpdateMacStateMachine n = (n, .noTransition) := by
  simp [mclmacUpdateMacStateMachine, h]

/-- The error that ends the loop of `MEDIUM_ACCESS` chooses the next state. -/
theorem SessionEnd.nextMacState {inp : PmInput} {err : PmExecution} {m : Node}
    (h : SessionEnd build inp n err m) :
    (err = .collisionError ∧ m.macState.nextState = .synchronization) ∨
      (err = .synchronizationError ∧ m.macState.nextState = .initialization) := by
  cases h with
  | transmit => exact .inl ⟨rfl, rfl⟩
  | collision => exact .inl ⟨rfl, rfl⟩
  | synchronization => exact .inr ⟨rfl, rfl⟩

/-- A session keeps the place of the node. -/
theorem lastVisited_standing {inputs : List PmInput} (h : InSession n.powerMode.currentState) :
    (lastVisited (sessionStep build) inputs n).standing = n.standing := by
  have hinv : InSession (lastVisited (sessionStep build) inputs n).powerMode.currentState ∧
      (lastVisited (sessionStep build) inputs n).standing = n.standing := lastVisited_inv
    (fun m => InSession m.powerMode.currentState ∧ m.standing = n.standing)
    (fun _ _ _ hm hstep =>
      ⟨(sessionStep_cases hm.1 hstep).inSession, (sessionStep_cases hm.1 hstep).standing.trans hm.2⟩)
    inputs ⟨h, rfl⟩
  exact hinv.2

theorem enterMediumAccess_inSession (h : enterMediumAccess build n = .ok n') :
    InSession n'.powerMode.currentState := by
  rw [enterMediumAccess_cases h]
  exact .inl rfl

theorem enterMediumAccess_standing (h : enterMediumAccess build n = .ok n') :
    n'.standing = n.standing := by
  rw [enterMediumAccess_cases h]
  rfl

theorem enterMediumAccess_collisionRecord (h : enterMediumAccess build n = .ok n') :
    n'.collisionRecord = n.collisionRecord := by
  rw [enterMediumAccess_cases h]
  rfl

/-- The last turn of the loop keeps the place of the node, but for the next state. -/
theorem SessionEnd.standing {inp : PmInput} {err : PmExecution} {m : Node}
    (h : SessionEnd build inp n err m) : m.standing =
      { n.standing with macState := { n.macState with nextState := m.macState.nextState } } := by
  cases h with
  | @transmit m hmode h =>
    have hm : m.standing = n.standing := (executeTransmit_kept h).1
    show { m.standing with macState := { m.standing.macState with nextState := .synchronization } } = _
    rw [hm]
    rfl
  | @collision m hmode h =>
    have hm : m.standing = n.standing := congrArg Prod.fst (executeReceive_kept h)
    show { m.standing with macState := { m.standing.macState with nextState := .synchronization } } = _
    rw [hm]
    rfl
  | @synchronization m hmode h =>
    have hm : m.standing = n.standing := congrArg Prod.fst (executeReceive_kept h)
    show { m.standing with macState := { m.standing.macState with nextState := .initialization } } = _
    rw [hm]
    rfl

/-- **`MEDIUM_ACCESS`** keeps the place of the node, and leaves for the state its last error
chooses. -/
theorem executeMediumAccess_standing {inputs : List PmInput} {last : PmInput} {ret : MacExecution}
    (h : executeMediumAccess build inputs last n = .ok (n', ret)) :
    n'.standing =
        { n.standing with macState := { n.macState with nextState := n'.macState.nextState } } ∧
      (n'.macState.nextState = .synchronization ∨ n'.macState.nextState = .initialization) := by
  obtain ⟨-, n₁, inp, err, m, henter, hend, rfl⟩ := executeMediumAccess_cases h
  have hsession := enterMediumAccess_inSession henter
  have hlast : (lastVisited (sessionStep build) inputs n₁).standing = n.standing :=
    (lastVisited_standing hsession).trans (enterMediumAccess_standing henter)
  constructor
  · show m.standing = { n.standing with macState := { n.standing.macState with
      nextState := m.macState.nextState } }
    rw [hend.standing, ← hlast]
    rfl
  · rcases hend.nextMacState with ⟨-, hnext⟩ | ⟨-, hnext⟩
    · exact .inl hnext
    · exact .inr hnext

/-- **What an execution of the MAC machine can do**: the state stays, and the next one either
follows it or is the same. -/
theorem mclmacExecuteMacStateMachine_cases {inp : MacInput} {m : Node} {ret : MacExecution}
    (hstep : MacInStep n.macState) (h : mclmacExecuteMacStateMachine build inp n = .ok (m, ret)) :
    m.macState.currentState = n.macState.currentState ∧
      ((MacEdge m.macState.currentState m.macState.nextState ∧
          MacTurn build inp n (enterNextState m)) ∨
        (m.macState.nextState = m.macState.currentState ∧ MacTurn build inp n m)) := by
  unfold mclmacExecuteMacStateMachine at h
  -- a state of the machine at a time, in its order
  rcases hstep with ⟨hstate, -⟩ | ⟨hnext, hstate | hstate | hstate | hstate⟩ <;>
    rw [hstate] at h <;> dsimp only at h
  · obtain ⟨rfl, queues, rfl⟩ := executeStart_cases h
    refine ⟨rfl, .inl ⟨?_, .start hstate h⟩⟩
    show MacEdge n.macState.currentState .initialization
    rw [hstate]
    exact .start
  · obtain ⟨rfl, timeouts, clock, first, rfl⟩ := executeInitialization_cases h
    refine ⟨rfl, .inl ⟨?_, .initialization hstate h⟩⟩
    show MacEdge n.macState.currentState .synchronization
    rw [hstate]
    exact .initialization
  · obtain ⟨hsetup, -, ⟨rfl, hm⟩ | ⟨rfl, hm⟩⟩ := executeSynchronization_setup h
    · have hcurrent : m.macState.currentState = n.macState.currentState :=
        congrArg Setup.currentState hsetup
      refine ⟨hcurrent, .inl ⟨?_, .synchronization hstate h⟩⟩
      rw [hcurrent, hm, hstate]
      exact .synchronization
    · refine ⟨by rw [hm], .inr ⟨?_, .unsynchronized hstate h⟩⟩
      rw [hm, hnext]
  · rcases executeTimeslotAndChannelSelection_cases h with ⟨-, rfl, rfl⟩ | ⟨-, rfl, timeouts, rfl⟩ |
      ⟨-, rfl, timeouts, clock, i, j, k, -, rfl⟩ | ⟨-, rfl, -, timeouts, clock, rfl⟩
    · refine ⟨rfl, .inl ⟨?_, .selection hstate h⟩⟩
      show MacEdge n.macState.currentState .mediumAccess
      rw [hstate]
      exact .selected
    · exact ⟨rfl, .inr ⟨hnext, .noFrameTimer hstate h⟩⟩
    · refine ⟨rfl, .inl ⟨?_, .selection hstate h⟩⟩
      show MacEdge n.macState.currentState .mediumAccess
      rw [hstate]
      exact .selected
    · refine ⟨rfl, .inl ⟨?_, .selection hstate h⟩⟩
      show MacEdge n.macState.currentState .synchronization
      rw [hstate]
      exact .noSlot
  · obtain ⟨rfl, -⟩ := executeMediumAccess_cases h
    obtain ⟨hstanding, hm⟩ := executeMediumAccess_standing h
    have hcurrent : m.macState.currentState = n.macState.currentState :=
      congrArg (fun s => s.macState.currentState) hstanding
    refine ⟨hcurrent, .inl ⟨?_, .mediumAccess hstate h⟩⟩
    rw [hcurrent, hstate]
    rcases hm with hm | hm <;> rw [hm]
    · exact .collision
    · exact .synchronizationError

theorem MacEdge.target {s t : MacState} (h : MacEdge s t) :
    t = .initialization ∨ t = .synchronization ∨ t = .timeslotAndChannelSelection ∨
      t = .mediumAccess := by
  cases h <;> simp

/-- **A turn of the driver** is one of the turns above, and leaves the machine in step. -/
theorem driverTurn_cases {inp : DriverInput} (hstep : MacInStep n.macState)
    (h : driverTurn build inp n = some n') :
    MacTurn build inp.mac (n.resume inp) n' ∧ MacInStep n'.macState := by
  obtain ⟨⟨m, ret⟩, hexec, h⟩ := bind_eq_ok.mp (toOption_eq_some.mp h)
  cases h
  obtain ⟨hcurrent, ⟨hedge, hturn⟩ | ⟨hsame, hturn⟩⟩ :=
    mclmacExecuteMacStateMachine_cases (n := n.resume inp) hstep hexec
  · rw [updateMac_of_edge hedge]
    exact ⟨hturn, .inr ⟨rfl, hedge.target⟩⟩
  · rw [updateMac_of_eq hsame]
    refine ⟨hturn, ?_⟩
    rcases hstep with ⟨hstate, -⟩ | ⟨-, hstate⟩
    · obtain ⟨-, queues, rfl⟩ := executeStart_cases (by rwa [mclmacExecuteMacStateMachine, show
        (n.resume inp).macState.currentState = .start from hstate] at hexec)
      rw [show (n.resume inp).macState.currentState = .start from hstate] at hcurrent
      exact nomatch hsame.trans hcurrent
    · refine .inr ⟨hsame, ?_⟩
      rw [hcurrent]
      exact hstate

/-- A turn of the driver follows an edge or stays. -/
theorem driverTurn_edge {inp : DriverInput} (hstep : MacInStep n.macState)
    (h : driverTurn build inp n = some n') :
    MacEdge n.macState.currentState n'.macState.currentState ∨
      n'.macState.currentState = n.macState.currentState := by
  obtain ⟨⟨m, ret⟩, hexec, h⟩ := bind_eq_ok.mp (toOption_eq_some.mp h)
  cases h
  obtain ⟨hcurrent, ⟨hedge, -⟩ | ⟨hsame, -⟩⟩ :=
    mclmacExecuteMacStateMachine_cases (n := n.resume inp) hstep hexec
  · rw [updateMac_of_edge hedge]
    rw [hcurrent] at hedge
    exact .inl hedge
  · rw [updateMac_of_eq hsame]
    exact .inr hcurrent

/-! ## What holds of every node that is reached -/

/-- What holds between two turns of the driver: the machine is in step, the network is that of the
configuration, what is known of a collision is consistent, and a node that is in the network has
one of its channels. -/
structure WellFormed (n : Node) : Prop where
  inStep : MacInStep n.macState
  nSlots : n.nSlots = UInt8.ofNat Config.maxNumberSlots
  nChannels : n.nChannels = UInt8.ofNat Config.maxNumberFreqs
  frequencies : n.frequencies = Config.frequencies
  collisionRecord : n.collisionRecord.Consistent
  channel : n.macState.currentState = .mediumAccess → ∃ k, n.mac.transmitChannel = Config.frequencies k

theorem wellFormed_init (timeouts : Timeouts) (clock : ℕ) (queues : IpcQueues) :
    WellFormed (mclmacInit timeouts clock queues) where
  inStep := .inl ⟨rfl, rfl⟩
  nSlots := rfl
  nChannels := rfl
  frequencies := rfl
  collisionRecord := ⟨rfl, fun _ => rfl⟩
  channel := fun h => nomatch h

/-- A turn that keeps the setup and does not lead into the network keeps the node well-formed. -/
theorem WellFormed.of_setup (h : WellFormed n) (hstep : MacInStep n'.macState)
    (hsetup : n'.setup = { n.setup with currentState := n'.macState.currentState })
    (hstate : n'.macState.currentState ≠ .mediumAccess) : WellFormed n' where
  inStep := hstep
  nSlots := (congrArg Setup.nSlots hsetup).trans h.nSlots
  nChannels := (congrArg Setup.nChannels hsetup).trans h.nChannels
  frequencies := (congrArg Setup.frequencies hsetup).trans h.frequencies
  collisionRecord := by
    have hmac : n'.mac = n.mac := congrArg Setup.mac hsetup
    have hrecord : n'.collisionRecord = n.collisionRecord := by
      unfold Node.collisionRecord
      rw [hmac]
    rw [hrecord]
    exact h.collisionRecord
  channel := fun hmedium => absurd hmedium hstate

theorem SessionEnd.collisionRecord {inp : PmInput} {err : PmExecution} {m : Node}
    (h : SessionEnd build inp n err m) (hn : n.collisionRecord.Consistent) :
    m.collisionRecord.Consistent := by
  cases h with
  | @transmit m hmode h =>
    show m.collisionRecord.Consistent
    rw [(executeTransmit_kept h).2]
    split
    · have hdest : n.mac.destinationId = (0, 0) := hn.1
      rw [hdest]
      exact ⟨rfl, fun _ => rfl⟩
    · exact hn
  | @collision m hmode h =>
    have hm : m.collisionRecord = n.collisionRecord := congrArg Prod.snd (executeReceive_kept h)
    show m.collisionRecord.Consistent
    rwa [hm]
  | @synchronization m hmode h =>
    have hm : m.collisionRecord = n.collisionRecord := congrArg Prod.snd (executeReceive_kept h)
    show m.collisionRecord.Consistent
    rwa [hm]

/-- The collision record stays consistent throughout a session. -/
theorem lastVisited_collisionRecord {inputs : List PmInput}
    (hsession : InSession n.powerMode.currentState) (h : n.collisionRecord.Consistent) :
    (lastVisited (sessionStep build) inputs n).collisionRecord.Consistent := by
  have hinv : InSession (lastVisited (sessionStep build) inputs n).powerMode.currentState ∧
      (lastVisited (sessionStep build) inputs n).collisionRecord.Consistent := lastVisited_inv
    (fun m => InSession m.powerMode.currentState ∧ m.collisionRecord.Consistent)
    (fun _ _ _ hm hstep => ⟨(sessionStep_cases hm.1 hstep).inSession,
      (sessionStep_cases hm.1 hstep).collisionRecord hm.2⟩)
    inputs ⟨hsession, h⟩
  exact hinv.2

theorem executeMediumAccess_collisionRecord {inputs : List PmInput} {last : PmInput}
    {ret : MacExecution} (h : executeMediumAccess build inputs last n = .ok (n', ret))
    (hn : n.collisionRecord.Consistent) : n'.collisionRecord.Consistent := by
  obtain ⟨-, n₁, inp, err, m, henter, hend, rfl⟩ := executeMediumAccess_cases h
  have hrecord : n₁.collisionRecord.Consistent := by
    rw [enterMediumAccess_collisionRecord henter]
    exact hn
  have hm := hend.collisionRecord
    (lastVisited_collisionRecord (enterMediumAccess_inSession henter) hrecord)
  refine ⟨rfl, fun hdetected => ?_⟩
  have hclear : m.collisionRecord = {} := hm.2 hdetected
  show { m.collisionRecord with destinationId := (0, 0) } = _
  rw [hclear]

/-- **Every turn of the driver keeps the node well-formed.** -/
theorem WellFormed.turn {inp : DriverInput} (hn : WellFormed n)
    (h : driverTurn build inp n = some n') : WellFormed n' := by
  obtain ⟨hturn, hstep⟩ := driverTurn_cases hn.inStep h
  have hresume : WellFormed (n.resume inp) :=
    ⟨hn.inStep, hn.nSlots, hn.nChannels, hn.frequencies, hn.collisionRecord, hn.channel⟩
  clear h
  cases hturn with
  | start hstate h =>
    obtain ⟨-, queues, rfl⟩ := executeStart_cases h
    exact hresume.of_setup hstep rfl (by simp [enterNextState, mclmacSetMACState, mclmacSetNextMACState])
  | initialization hstate h =>
    obtain ⟨-, timeouts, clock, first, rfl⟩ := executeInitialization_cases h
    exact hresume.of_setup hstep rfl (by simp [enterNextState, mclmacSetMACState, mclmacSetNextMACState])
  | @synchronization m hstate h =>
    obtain ⟨hsetup, -, ⟨-, hm⟩ | ⟨hret, -⟩⟩ := executeSynchronization_setup h
    · refine hresume.of_setup hstep ?_ ?_
      · rw [← hsetup]
        rfl
      · show m.macState.nextState ≠ .mediumAccess
        rw [hm]
        decide
    · cases hret
  | unsynchronized hstate h =>
    obtain ⟨hsetup, -, ⟨hret, -⟩ | ⟨-, hm⟩⟩ := executeSynchronization_setup h
    · cases hret
    · refine hresume.of_setup hstep ?_ ?_
      · rw [hsetup, hm]
        rfl
      · rw [hm, hstate]
        decide
  | selection hstate h =>
    rcases executeTimeslotAndChannelSelection_cases h with ⟨-, -, rfl⟩ | ⟨-, hret, -⟩ |
      ⟨-, -, timeouts, clock, i, j, k, -, rfl⟩ | ⟨-, -, -, timeouts, clock, rfl⟩
    · -- the first node takes the first channel
      exact ⟨hstep, hresume.nSlots, hresume.nChannels, hresume.frequencies,
        hresume.collisionRecord, fun _ => ⟨0, congrFun hresume.frequencies 0⟩⟩
    · cases hret
    · exact ⟨hstep, hresume.nSlots, hresume.nChannels, hresume.frequencies,
        hresume.collisionRecord, fun _ => ⟨k, congrFun hresume.frequencies k⟩⟩
    · -- no slot is free: back to `SYNCHRONIZATION`
      exact hresume.of_setup hstep rfl
        (by simp [enterNextState, mclmacSetMACState, mclmacSetNextMACState])
  | noFrameTimer hstate h =>
    rcases executeTimeslotAndChannelSelection_cases h with ⟨-, hret, -⟩ | ⟨-, -, timeouts, rfl⟩ |
      ⟨-, hret, -⟩ | ⟨-, hret, -⟩
    · cases hret
    · exact hresume.of_setup hstep rfl (by
        show (n.resume inp).macState.currentState ≠ _
        rw [hstate]
        decide)
    · cases hret
    · cases hret
  | @mediumAccess m hstate h =>
    obtain ⟨hstanding, hnext⟩ := executeMediumAccess_standing h
    have hrecord : m.collisionRecord.Consistent :=
      executeMediumAccess_collisionRecord h hresume.collisionRecord
    -- a session ends outside `MEDIUM_ACCESS`, so nothing is asked of its channel
    refine ⟨hstep, ?_, ?_, ?_, hrecord, ?_⟩
    · exact (congrArg Standing.nSlots hstanding).trans hresume.nSlots
    · exact (congrArg Standing.nChannels hstanding).trans hresume.nChannels
    · exact (congrArg Standing.frequencies hstanding).trans hresume.frequencies
    · intro hmedium
      have hmedium : m.macState.nextState = .mediumAccess := hmedium
      rcases hnext with hnext | hnext <;> rw [hnext] at hmedium <;> cases hmedium

/-- A turn of the driver outside `MEDIUM_ACCESS` changes no more of what the power-mode machine works
with than the channel and the slot of the node. -/
theorem driverTurn_mac {inp : DriverInput} (hn : WellFormed n)
    (hstate : n.macState.currentState ≠ .mediumAccess) (h : driverTurn build inp n = some n') :
    ∃ transmitChannel selectedSlot, n'.mac =
      { n.mac with transmitChannel := transmitChannel, selectedSlot := selectedSlot } := by
  have hturn := (driverTurn_cases hn.inStep h).1
  clear h
  cases hturn with
  | start _ h =>
    obtain ⟨-, queues, rfl⟩ := executeStart_cases h
    exact ⟨_, _, rfl⟩
  | initialization _ h =>
    obtain ⟨-, timeouts, clock, first, rfl⟩ := executeInitialization_cases h
    exact ⟨_, _, rfl⟩
  | synchronization _ h | unsynchronized _ h =>
    have hmac := congrArg Setup.mac (executeSynchronization_setup h).1
    exact ⟨_, _, hmac⟩
  | selection _ h | noFrameTimer _ h =>
    rcases executeTimeslotAndChannelSelection_cases h with ⟨-, -, rfl⟩ | ⟨-, -, timeouts, rfl⟩ |
      ⟨-, -, timeouts, clock, i, j, k, -, rfl⟩ | ⟨-, -, -, timeouts, clock, rfl⟩ <;>
      exact ⟨_, _, rfl⟩
  | mediumAccess hmedium _ => exact absurd hmedium hstate

/-- A turn of the driver in `MEDIUM_ACCESS` executes that state and leaves it. -/
theorem driverTurn_mediumAccess {inp : DriverInput} (hn : WellFormed n)
    (hstate : n.macState.currentState = .mediumAccess) (h : driverTurn build inp n = some n') :
    ∃ m, executeMediumAccess build inp.mac.powerMode inp.mac.last (n.resume inp) =
      .ok (m, .success) ∧ n' = enterNextState m := by
  have hturn := (driverTurn_cases hn.inStep h).1
  have hresume : (n.resume inp).macState.currentState = .mediumAccess := hstate
  clear h
  cases hturn with
  | mediumAccess _ h => exact ⟨_, h, rfl⟩
  | start hother _ | initialization hother _ | synchronization hother _
  | unsynchronized hother _ | selection hother _ | noFrameTimer hother _ =>
    exact nomatch hresume.symm.trans hother

/-- **Every node that is reached is well-formed.** -/
theorem Reachable.wellFormed (h : Reachable build n) : WellFormed n :=
  h.inv WellFormed wellFormed_init fun _ _ _ hm hturn => hm.turn hturn

/-- A node in a session, its place in the network and its collision record. -/
structure InNetwork (n : Node) : Prop where
  session : InSession n.powerMode.currentState
  nSlots : n.nSlots = UInt8.ofNat Config.maxNumberSlots
  frequencies : n.frequencies = Config.frequencies
  collisionRecord : n.collisionRecord.Consistent
  channel : ∃ k, n.mac.transmitChannel = Config.frequencies k

/-- **Every node that is reached in a session is in the network.** -/
theorem SessionReachable.inNetwork (h : SessionReachable build n) : InNetwork n := by
  obtain ⟨n₀, inp, n₁, inputs, hreach, hstate, henter, hrun⟩ := h
  have hn₀ := hreach.wellFormed
  have hstanding := enterMediumAccess_standing henter
  refine run_inv InNetwork ?_ inputs ?_ hrun
  · intro i m m' hm hstep
    have hturn := sessionStep_cases hm.session hstep
    have hm' := hturn.standing
    exact ⟨hturn.inSession, (congrArg Standing.nSlots hm').trans hm.nSlots,
      (congrArg Standing.frequencies hm').trans hm.frequencies,
      hturn.collisionRecord hm.collisionRecord,
      by rw [show m'.mac.transmitChannel = m.mac.transmitChannel from
        congrArg Standing.transmitChannel hm']; exact hm.channel⟩
  · refine ⟨enterMediumAccess_inSession henter, (congrArg Standing.nSlots hstanding).trans hn₀.nSlots,
      (congrArg Standing.frequencies hstanding).trans hn₀.frequencies, ?_, ?_⟩
    · rw [enterMediumAccess_collisionRecord henter]
      exact hn₀.collisionRecord
    · rw [show n₁.mac.transmitChannel = n₀.mac.transmitChannel from
        congrArg Standing.transmitChannel hstanding]
      exact hn₀.channel hstate

/-! ### A node that hears of no network -/

/-- A node after `MCLMAC_init`. -/
def newNode : Node :=
  mclmacInit (fun _ => {}) 0 initQueues

/-- It hears nothing while it waits, and becomes the first node of a network. -/
def joinAlone : List DriverInput :=
  [{ tick := ⟨0, false⟩, queues := newNode.queues, mac := { rand := 1, pid := 1 } },
    { tick := ⟨0, false⟩
      mac := { initPolls := [{ detected := false, tick := ⟨Config.detectionTime, true⟩ }] } },
    { tick := ⟨Config.detectionTime, false⟩ },
    { tick := ⟨Config.detectionTime, false⟩ }]

/-- In its second slot it hears the announcement of another node, and then a control packet of
another slot. -/
def strangerHeard : DriverInput where
  tick := ⟨Config.detectionTime, false⟩
  mac :=
    { powerMode :=
        [{ passive := [{ tick := ⟨1080000, true⟩ }] },
          { active := { tick := ⟨1080001, false⟩, cf := some { nodeId := (1, 1) } } ::
              (List.range' 1 8).map fun j => { tick := ⟨1080000 + j * 500, true⟩ } },
          { attempt₁ := .heard (controlpacketGetPacketBytestring {} 0) }] }

/-- A node that has left its network hears nothing more, and starts a network again. -/
def joinAgain : List DriverInput :=
  [{ tick := ⟨2000000, false⟩
     mac := { initPolls := [{ detected := false, tick := ⟨3000000, true⟩ }] } },
    { tick := ⟨3000000, false⟩ },
    { tick := ⟨3000000, false⟩ }]

/-- A new node starts and detects another one. -/
def othersDetected : List DriverInput :=
  [{ tick := ⟨0, false⟩, queues := newNode.queues, mac := { rand := 1, pid := 1 } },
    { tick := ⟨0, false⟩, mac := { initPolls := [{ detected := true, tick := ⟨1, false⟩ }] } }]

/-- Then it hears this string, and takes its place in a network. -/
def joinHearing (b : ByteString) : List DriverInput :=
  othersDetected ++
    [{ tick := ⟨2, false⟩, mac := { attempts := [.heard b] } },
      { tick := ⟨2, false⟩, mac := { frameTicks := [⟨1280002, true⟩] } }]

/-- The node that has joined alone, after the turns of its first session in the input. -/
def sessionAlone (inp : DriverInput) : Option Node :=
  (joinAlone.foldlM (fun m inp => driverTurn ⟨.linux, true⟩ inp m) newNode).bind fun n =>
    (enterMediumAccess ⟨.linux, true⟩ (n.resume inp)).toOption.bind fun n₁ =>
      inp.mac.powerMode.foldlM (fun m i => sessionStep ⟨.linux, true⟩ i m) n₁

theorem sessionAlone_reachable {inp : DriverInput} (h : sessionAlone inp = some n) :
    SessionReachable ⟨.linux, true⟩ n := by
  have hstate : (joinAlone.foldlM (fun m inp => driverTurn ⟨.linux, true⟩ inp m) newNode).map
      (fun n => n.macState.currentState) = some .mediumAccess := by
    decide +kernel
  obtain ⟨n₀, hrun, h⟩ := Option.bind_eq_some_iff.mp h
  obtain ⟨n₁, henter, h⟩ := Option.bind_eq_some_iff.mp h
  rw [hrun] at hstate
  rw [toOption_eq_some] at henter
  exact ⟨n₀, inp, n₁, _, ⟨_, _, _, joinAlone, hrun⟩, Option.some.inj hstate, henter, h⟩

end WmnIot
