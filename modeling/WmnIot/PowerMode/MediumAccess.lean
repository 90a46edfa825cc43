import WmnIot.PowerMode.Frames

/-! # An execution of `MEDIUM_ACCESS`

A node that executes `MEDIUM_ACCESS` keeps its place in the network: the slot, the channel and what
it learnt when it joined. What it knows of a collision changes in three places only, and the loop
ends in `TRANSMIT` or in `RECEIVE`.

* **`Standing`** — the place of a node in the network, and **`Session.standing`**.
* **`CollisionRecord`** — what a node knows of a collision, and **`Session.collisionRecord`**.
* **`SessionEnd`**, **`executeMediumAccess_cases`** — how the loop ends, and the state with it. -/

namespace WmnIot

open Runs

/-! ## What a session keeps -/

/-- The place of a node in the network. -/
structure Standing where
  macState : MACState
  transmitChannel : UInt32
  selectedSlot : UInt8
  nodeId : NodeId
  nSlots : UInt8
  nChannels : UInt8
  hopCount : UInt16
  frequencies : Fin Config.maxNumberFreqs → UInt32
  occupiedFrequenciesSlots : SlotMap
  wakeupFrame : UInt32
  initTime : UInt32

/-- The place of the node. -/
def Node.standing (n : Node) : Standing where
  macState := n.macState
  transmitChannel := n.mac.transmitChannel
  selectedSlot := n.mac.selectedSlot
  nodeId := n.nodeId
  nSlots := n.nSlots
  nChannels := n.nChannels
  hopCount := n.hopCount
  frequencies := n.frequencies
  occupiedFrequenciesSlots := n.occupiedFrequenciesSlots
  wakeupFrame := n.wakeupFrame
  initTime := n.initTime

/-- What a node knows of a collision, and the destination it announces. -/
structure CollisionRecord where
  detected : Bool := false
  internal : Bool := false
  slot : UInt8 := 0
  frequency : UInt32 := 0
  destinationId : NodeId := (0, 0)
  deriving DecidableEq

/-- What the node knows of a collision. -/
def Node.collisionRecord (n : Node) : CollisionRecord where
  detected := n.mac.collisionDetected
  internal := n.mac.isInternalCollision
  slot := n.mac.collisionSlot
  frequency := n.mac.collisionFrequency
  destinationId := n.mac.destinationId

/-- Both together. -/
def Node.kept (n : Node) : Standing × CollisionRecord := (n.standing, n.collisionRecord)

variable {build : Build} {n n' : Node} {ret : PmExecution}

theorem pollSlotTimer_kept (tick : Tick) (n : Node) : (pollSlotTimer tick n).1.kept = n.kept := by
  unfold pollSlotTimer
  dsimp only
  split <;> rfl

theorem passivePoll_kept {p : PassivePoll} {sleep : Bool}
    (h : passivePoll build p n = .ok (n', sleep)) : n'.kept = n.kept := by
  obtain ⟨-, _, _, _, _, _, rfl, -, -⟩ := passivePoll_frame h
  exact pollSlotTimer_kept p.tick n

/-- `PASSIVE` keeps both. -/
theorem executePassive_kept {polls : List PassivePoll} (h : executePassive build polls n = .ok n') :
    n'.kept = n.kept := by
  obtain ⟨m, hloop, -, rfl⟩ := executePassive_cases h
  show m.kept = n.kept
  exact (pollLoop_frame (f := Node.kept) (fun _ _ _ _ => passivePoll_kept) polls hloop).trans rfl

theorem cfTurn_kept (selectedFreq channel : UInt32) (cf : Option CFPacket) (n : Node)
    (l : ActiveLocals) : (cfTurn selectedFreq channel cf n l).1.kept = n.kept := by
  obtain ⟨_, _, _, _, _, _, h⟩ := cfTurn_frame selectedFreq channel cf n l
  rw [h]
  rfl

theorem activePoll_kept {freq : UInt32} {p : ActivePoll} {s s' : Node × ActiveLocals} {go : Bool}
    (h : activePoll build freq p s = .ok (s', go)) : s'.1.kept = s.1.kept := by
  obtain ⟨channel, -, ⟨-, rfl, -⟩ | ⟨-, -, rfl, -⟩ | ⟨-, -, rfl, -⟩⟩ := activePoll_cases h
  · exact cfTurn_kept ..
  · exact cfTurn_kept ..
  · rfl

/-- `ACTIVE` keeps both, but for the note that a collision was the node's own. -/
theorem executeActive_kept {polls : List ActivePoll}
    (h : executeActive build polls n = .ok (n', ret)) :
    n'.standing = n.standing ∧ (ret ≠ .collisionDetected → n'.collisionRecord = n.collisionRecord) ∧
      ∃ internal, n'.collisionRecord = { n.collisionRecord with internal := internal } := by
  obtain ⟨m, l, hloop, hout⟩ := executeActive_cases h
  have hm : m.kept = n.kept :=
    pollLoop_frame (f := fun s : Node × ActiveLocals => s.1.kept) (fun _ _ _ _ => activePoll_kept)
      polls hloop
  have hstanding : m.standing = n.standing := congrArg Prod.fst hm
  have hrecord : m.collisionRecord = n.collisionRecord := congrArg Prod.snd hm
  rw [← hstanding, ← hrecord]
  unfold activeOutcome at hout
  split at hout
  · cases hout
    refine ⟨?_, fun hret => absurd rfl hret, ?_⟩
    · split <;> rfl
    · split <;> exact ⟨_, rfl⟩
  · cases hout
    refine ⟨?_, fun _ => ?_, m.mac.isInternalCollision, ?_⟩ <;> split_ifs <;> rfl

theorem transmitPoll_kept {tick : Tick} {go : Bool} (h : transmitPoll build tick n = .ok (n', go)) :
    n'.kept = n.kept := by
  unfold transmitPoll at h
  dsimp only at h
  split at h
  · cases h
    exact pollSlotTimer_kept tick n
  · obtain ⟨m, hsend, h⟩ := bind_eq_ok.mp h
    cases h
    obtain ⟨_, _, _, rfl⟩ := mclmacSendDataPacket_frame hsend
    exact pollSlotTimer_kept tick n

/-- `TRANSMIT` clears what the node knows of a collision that it reports. -/
theorem executeTransmit_kept {ticks : List Tick} (h : executeTransmit build ticks n = .ok (n', ret)) :
    n'.standing = n.standing ∧ n'.collisionRecord =
      if n.mac.collisionDetected then { destinationId := n.mac.destinationId }
      else n.collisionRecord := by
  rcases executeTransmit_cases h with ⟨hc, -, -, rfl⟩ | ⟨hc, -, -, rfl⟩ | ⟨hc, -, m, hloop, rfl⟩
  · rw [hc]
    exact ⟨rfl, rfl⟩
  · rw [hc]
    exact ⟨rfl, rfl⟩
  · have hm : m.kept = (afterControlPacket n).kept :=
      pollLoop_frame (f := Node.kept) (fun _ _ _ _ => transmitPoll_kept) ticks hloop
    rw [hc]
    exact ⟨congrArg Prod.fst hm, congrArg Prod.snd hm⟩

theorem mclmacReceiveControlPacket_kept (build : Build) (radio : CtrlRadio) (n : Node) :
    (mclmacReceiveControlPacket build radio n).1.kept = n.kept := by
  obtain ⟨_, _, h⟩ := mclmacReceiveControlPacket_frame build radio n
  rw [h]
  rfl

theorem receivePoll_kept {p : ReceivePoll} {go : Bool} (h : receivePoll build p n = .ok (n', go)) :
    n'.kept = n.kept := by
  obtain ⟨_, rfl⟩ := receivePoll_frame h
  rfl

/-- `RECEIVE` keeps both. -/
theorem executeReceive_kept {attempt₁ attempt₂ : CtrlRadio} {polls : List ReceivePoll}
    (h : executeReceive build attempt₁ attempt₂ polls n = .ok (n', ret)) : n'.kept = n.kept := by
  have hfirst := mclmacReceiveControlPacket_kept build attempt₁ n
  rcases executeReceive_cases h with ⟨-, rfl⟩ | ⟨-, rfl⟩ | ⟨-, m, rfl, rfl | hloop⟩
  · exact (mclmacReceiveControlPacket_kept build attempt₂ _).trans hfirst
  · exact hfirst
  · exact hfirst
  · exact (pollLoop_frame (f := Node.kept) (fun _ _ _ _ => receivePoll_kept) polls hloop).trans hfirst

/-! ### The turns of the loop -/

/-- **A turn of the loop keeps the place of the node.** -/
theorem Session.standing {inp : PmInput} (h : Session build inp n n') :
    n'.standing = n.standing := by
  cases h with
  | passive hmode h => exact congrArg Prod.fst (executePassive_kept h)
  | active hmode h hnext => exact (executeActive_kept h).1
  | collision hmode h => exact (executeActive_kept h).1
  | transmit hmode h => exact (executeTransmit_kept h).1
  | receive hmode h => exact congrArg Prod.fst (executeReceive_kept h)

/-- What is known of a collision is whether there is one, and nothing else without. -/
def CollisionRecord.Consistent (r : CollisionRecord) : Prop :=
  r.destinationId = (0, 0) ∧ (r.detected = false → r = {})

/-- **A turn of the loop keeps the collision record consistent**: the loop writes it down after
`ACTIVE`, and `TRANSMIT` clears it. -/
theorem Session.collisionRecord {inp : PmInput} (h : Session build inp n n')
    (hn : n.collisionRecord.Consistent) : n'.collisionRecord.Consistent := by
  cases h with
  | @passive m hmode h =>
    have hm : m.collisionRecord = n.collisionRecord := congrArg Prod.snd (executePassive_kept h)
    show m.collisionRecord.Consistent
    rwa [hm]
  | @active m hmode h hnext =>
    have hm : m.collisionRecord = n.collisionRecord := (executeActive_kept h).2.1 (by decide)
    show m.collisionRecord.Consistent
    rwa [hm]
  | collision hmode h => exact ⟨rfl, fun hdetected => nomatch hdetected⟩
  | @transmit m hmode h =>
    show m.collisionRecord.Consistent
    rw [(executeTransmit_kept h).2]
    split
    · have hdest : n.mac.destinationId = (0, 0) := hn.1
      rw [hdest]
      exact ⟨rfl, fun _ => rfl⟩
    · exact hn
  | @receive m hmode h =>
    have hm : m.collisionRecord = n.collisionRecord := congrArg Prod.snd (executeReceive_kept h)
    show m.collisionRecord.Consistent
    rwa [hm]

/-! ## How the loop ends -/

/-- The node leaves the loop for the next state of the MAC machine. -/
def leaveLoop (m : Node) (next : MacState) : Node :=
  mclmacSetNextMACState (mclmacSetNextPowermodeState m .finishp) next

/-- **The last turn of the loop**: `TRANSMIT` has reported a collision of the node's own, or the
control packet that `RECEIVE` heard tells of a collision or of another time. -/
inductive SessionEnd (build : Build) (inp : PmInput) (n : Node) : PmExecution → Node → Prop
  | transmit {m : Node} (hmode : n.powerMode.currentState = .transmit)
      (h : executeTransmit build inp.transmit n = .ok (m, .collisionError)) :
      SessionEnd build inp n .collisionError (leaveLoop m .synchronization)
  | collision {m : Node} (hmode : n.powerMode.currentState = .receive)
      (h : executeReceive build inp.attempt₁ inp.attempt₂ inp.receive n = .ok (m, .collisionError)) :
      SessionEnd build inp n .collisionError (leaveLoop m .synchronization)
  | synchronization {m : Node} (hmode : n.powerMode.currentState = .receive)
      (h : executeReceive build inp.attempt₁ inp.attempt₂ inp.receive n =
        .ok (m, .synchronizationError)) :
      SessionEnd build inp n .synchronizationError (leaveLoop m .initialization)

theorem sessionStep_eq_some {inp : PmInput} :
    sessionStep build inp n = some n' ↔ mediumAccessPoll build inp n = .ok (n', true) := by
  unfold sessionStep
  split
  · next m h =>
    rw [h]
    exact ⟨fun hm => by rw [Option.some.inj hm], fun hm => by cases hm; rfl⟩
  · next hne => exact ⟨fun hm => (nomatch hm), fun hm => absurd hm (hne n')⟩

/-- A session takes the turns with which the loop goes on. -/
theorem loopStep_mediumAccessPoll (build : Build) :
    loopStep (mediumAccessPoll build) = sessionStep build := by
  funext inp n
  ext n'
  exact loopStep_eq_some.trans sessionStep_eq_some.symm

/-- `PASSIVE` and `ACTIVE` do not end the loop. -/
theorem sessionEnd_of_mediumAccessPoll {inp : PmInput}
    (hsession : InSession n.powerMode.currentState)
    (h : mediumAccessPoll build inp n = .ok (n', false)) :
    ∃ ret, SessionEnd build inp n ret n' := by
  obtain ⟨⟨m, ret⟩, hexec, h⟩ := bind_eq_ok.mp h
  obtain ⟨-, -, hexec⟩ := bind_eq_ok.mp hexec
  rcases hsession with hmode | hmode | hmode | hmode <;> simp only [hmode] at hexec
  · obtain ⟨m', -, hexec⟩ := bind_eq_ok.mp hexec
    cases hexec
    cases h
  · obtain ⟨m', l, -, hout⟩ := executeActive_cases hexec
    have hcases := activeOutcome_cases m' l
    rw [hout] at hcases
    rcases hcases with ⟨-, hret, -⟩ | ⟨-, hret, -⟩ <;> obtain rfl : ret = _ := hret <;> cases h
  · rcases executeTransmit_ret hexec with ⟨rfl, -⟩ | rfl
    · cases h
    · cases h
      exact ⟨_, .transmit hmode hexec⟩
  · rcases executeReceive_ret hexec with ⟨rfl, -⟩ | rfl | rfl
    · cases h
    · cases h
      exact ⟨_, .collision hmode hexec⟩
    · cases h
      exact ⟨_, .synchronization hmode hexec⟩

/-- The loop stays among its states. -/
theorem lastVisited_inSession {inputs : List PmInput} (h : InSession n.powerMode.currentState) :
    InSession (lastVisited (sessionStep build) inputs n).powerMode.currentState :=
  lastVisited_inv (fun m => InSession m.powerMode.currentState)
    (fun _ _ _ hm hstep => (sessionStep_cases hm hstep).inSession) inputs h

theorem SessionEnd.currentState {inp : PmInput} (h : SessionEnd build inp n ret n') :
    n'.powerMode.currentState = .transmit ∨ n'.powerMode.currentState = .receive := by
  cases h with
  | transmit hmode h =>
    exact .inl ((currentState_of_schedule (executeTransmit_schedule h)).trans hmode)
  | collision hmode h =>
    exact .inr ((currentState_of_schedule (executeReceive_schedule h)).trans hmode)
  | synchronization hmode h =>
    exact .inr ((currentState_of_schedule (executeReceive_schedule h)).trans hmode)

theorem SessionEnd.nextState {inp : PmInput} (h : SessionEnd build inp n ret n') :
    n'.powerMode.nextState = .finishp := by
  cases h <;> rfl

/-- Leaving the loop for `FINISHP`. -/
theorem SessionEnd.update {inp : PmInput} (h : SessionEnd build inp n ret n') :
    mclmacUpdatePowermodeStateMachine n' = (mclmacSetPowermodeState n' .finishp, .success) := by
  have hnext := h.nextState
  rcases h.currentState with hmode | hmode <;>
    simp [mclmacUpdatePowermodeStateMachine, hmode, hnext]

/-- **An execution of `MEDIUM_ACCESS`**: `STARTP`, the turns of the loop, the turn that ends it, and
`FINISHP`. -/
theorem executeMediumAccess_cases {inputs : List PmInput} {last : PmInput} {ret : MacExecution}
    (h : executeMediumAccess build inputs last n = .ok (n', ret)) :
    ret = .success ∧ ∃ n₁ inp err m, enterMediumAccess build n = .ok n₁ ∧
      SessionEnd build inp (lastVisited (sessionStep build) inputs n₁) err m ∧
      n' = executeFinishp (mclmacSetPowermodeState m .finishp) := by
  obtain ⟨n₁, henter, h⟩ := bind_eq_ok.mp h
  obtain ⟨m, hloop, h⟩ := bind_eq_ok.mp h
  obtain ⟨⟨n₂, ret'⟩, hfinish, h⟩ := bind_eq_ok.mp h
  cases h
  have hsession : InSession n₁.powerMode.currentState := by
    rw [enterMediumAccess_cases henter]
    exact .inl rfl
  obtain ⟨inp, -, hlast⟩ := pollLoop_last (fun _ _ _ => sessionStep_eq_some) inputs hloop
  obtain ⟨err, hend⟩ := sessionEnd_of_mediumAccessPoll (lastVisited_inSession hsession) hlast
  refine ⟨rfl, n₁, inp, err, m, henter, hend, ?_⟩
  rw [hend.update] at hfinish
  obtain ⟨-, -, hfinish⟩ := bind_eq_ok.mp hfinish
  cases hfinish
  rfl

end WmnIot
