import WmnIot.Driver.Runs
import WmnIot.Foundations.Networks

/-! # Stations of a network

Several nodes, each driven by its own driver, on one medium. A turn of the driver in
`MEDIUM_ACCESS` is a whole session, in which other nodes act; it is cut here into the moves a node
makes between two things it puts on the air. The other states send nothing, so one move is enough
for each of them.

* **`Station`**, **`Move`**, **`Station.move`** — a node between two moves, and its moves.
* **`driverTurn_iff_moves`** — a turn of the driver in `MEDIUM_ACCESS` is the sequence of its moves.
* **`StationMove`**, **`Station.move_cases`** — what a move can do.
* **`Move.heard`**, **`station`** — what is heard in a move, and what a node has sent. -/

namespace WmnIot

open Runs

variable {build : Build} {n n' : Node}

/-! ## Moves -/

/-- A node, and whether it executes the loop of `MEDIUM_ACCESS`. -/
structure Station where
  node : Node
  inLoop : Bool := false

/-- What a node does between two things it puts on the air. -/
inductive Move
  /-- A turn of the driver in a state other than `MEDIUM_ACCESS`. -/
  | turn (inp : DriverInput)
  /-- The node begins to execute `MEDIUM_ACCESS`. -/
  | enter (inp : DriverInput)
  /-- A turn of the loop of `MEDIUM_ACCESS`. -/
  | loop (inp : PmInput)
  /-- The last turn of the loop, what follows it, and the update of the MAC machine. -/
  | leave (inp last : PmInput)

/-- The last turn of the loop of `MEDIUM_ACCESS`, and the rest of the turn of the driver. -/
def leaveMediumAccess (build : Build) (inp last : PmInput) (n : Node) : Option Node :=
  match mediumAccessPoll build inp n with
  | .ok (m, false) =>
    (mclmacExecutePowermodeState build last (mclmacUpdatePowermodeStateMachine m).1).toOption.map
      fun r => (mclmacUpdateMacStateMachine r.1).1
  | _ => none

/-- A move of a station. -/
def Station.move (build : Build) : Move → Station → Option Station
  | .turn inp, ⟨n, false⟩ =>
    if n.macState.currentState = .mediumAccess then none
    else (driverTurn build inp n).map fun m => ⟨m, false⟩
  | .enter inp, ⟨n, false⟩ =>
    if n.macState.currentState = .mediumAccess then
      (enterMediumAccess build (n.resume inp)).toOption.map fun m => ⟨m, true⟩
    else none
  | .loop inp, ⟨n, true⟩ => (sessionStep build inp n).map fun m => ⟨m, true⟩
  | .leave inp last, ⟨n, true⟩ => (leaveMediumAccess build inp last n).map fun m => ⟨m, false⟩
  | _, _ => none

/-- The moves of a turn of the driver in `MEDIUM_ACCESS`. -/
def sessionMoves (inp : DriverInput) (turns : List PmInput) (ending : PmInput) : List Move :=
  .enter inp :: (turns.map Move.loop ++ [.leave ending inp.mac.last])

/-! ### A session as a sequence of moves -/

theorem leaveMediumAccess_eq_some {inp last : PmInput} :
    leaveMediumAccess build inp last n = some n' ↔
      ∃ m r, mediumAccessPoll build inp n = .ok (m, false) ∧
        mclmacExecutePowermodeState build last (mclmacUpdatePowermodeStateMachine m).1 = .ok r ∧
        n' = (mclmacUpdateMacStateMachine r.1).1 := by
  unfold leaveMediumAccess
  split
  · next m hpoll =>
    rw [Option.map_eq_some_iff]
    constructor
    · rintro ⟨r, hlast, rfl⟩
      exact ⟨m, r, hpoll, toOption_eq_some.mp hlast, rfl⟩
    · rintro ⟨m', r, hpoll', hlast, rfl⟩
      obtain rfl : m = m' := (Prod.mk.inj (Except.ok.inj (hpoll.symm.trans hpoll'))).1
      exact ⟨r, toOption_eq_some.mpr hlast, rfl⟩
  · next hpoll =>
    constructor
    · intro h
      cases h
    · rintro ⟨m, r, h, -⟩
      exact absurd h (hpoll m)

theorem move_enter {inp : DriverInput} {s : Station}
    (hstate : n.macState.currentState = .mediumAccess) :
    Station.move build (.enter inp) ⟨n, false⟩ = some s ↔
      ∃ m, enterMediumAccess build (n.resume inp) = .ok m ∧ s = ⟨m, true⟩ := by
  rw [Station.move, if_pos hstate, Option.map_eq_some_iff]
  simp only [toOption_eq_some, eq_comm (b := s)]

theorem move_leave {inp last : PmInput} {s : Station} :
    Station.move build (.leave inp last) ⟨n, true⟩ = some s ↔
      ∃ m, leaveMediumAccess build inp last n = some m ∧ s = ⟨m, false⟩ := by
  rw [Station.move, Option.map_eq_some_iff]
  simp only [eq_comm (b := s)]

theorem move_loops {turns : List PmInput} {s : Station} :
    (turns.map Move.loop).foldlM (fun s mv => Station.move build mv s) ⟨n, true⟩ = some s ↔
      ∃ m, turns.foldlM (fun n inp => sessionStep build inp n) n = some m ∧ s = ⟨m, true⟩ := by
  induction turns generalizing n with
  | nil => simp [eq_comm]
  | cons inp turns ih =>
    rw [List.map_cons, List.foldlM_cons, List.foldlM_cons, Station.move]
    cases sessionStep build inp n with
    | none => simp
    | some m => exact ih

theorem sessionMoves_run {inp : DriverInput} {turns : List PmInput} {ending : PmInput} {s : Station}
    (hstate : n.macState.currentState = .mediumAccess) :
    (sessionMoves inp turns ending).foldlM (fun s mv => Station.move build mv s) ⟨n, false⟩ =
        some s ↔
      ∃ n₁ m n₂, enterMediumAccess build (n.resume inp) = .ok n₁ ∧
        turns.foldlM (fun n inp => sessionStep build inp n) n₁ = some m ∧
        leaveMediumAccess build ending inp.mac.last m = some n₂ ∧ s = ⟨n₂, false⟩ := by
  rw [sessionMoves, List.foldlM_cons, Option.bind_eq_bind, Option.bind_eq_some_iff]
  constructor
  · rintro ⟨t, ht, hrest⟩
    obtain ⟨n₁, henter, rfl⟩ := (move_enter hstate).mp ht
    rw [List.foldlM_append] at hrest
    obtain ⟨t, ht, hrest⟩ := Option.bind_eq_some_iff.mp hrest
    obtain ⟨m, hloops, rfl⟩ := move_loops.mp ht
    rw [List.foldlM_cons] at hrest
    obtain ⟨t, ht, hs⟩ := Option.bind_eq_some_iff.mp hrest
    obtain ⟨n₂, hleave, rfl⟩ := move_leave.mp ht
    exact ⟨n₁, m, n₂, henter, hloops, hleave, (Option.some.inj hs).symm⟩
  · rintro ⟨n₁, m, n₂, henter, hloops, hleave, rfl⟩
    refine ⟨⟨n₁, true⟩, (move_enter hstate).mpr ⟨n₁, henter, rfl⟩, ?_⟩
    rw [List.foldlM_append, move_loops.mpr ⟨m, hloops, rfl⟩]
    change (Station.move build _ _ >>= fun s => pure s) = _
    rw [move_leave.mpr ⟨n₂, hleave, rfl⟩]
    rfl

/-- **The turns of the driver in `MEDIUM_ACCESS`** are the sequences of moves that lead out of it
again. -/
theorem driverTurn_iff_moves {inp : DriverInput} (hstate : n.macState.currentState = .mediumAccess) :
    driverTurn build inp n = some n' ↔
      ∃ turns ending rest, inp.mac.powerMode = turns ++ ending :: rest ∧
        (sessionMoves inp turns ending).foldlM (fun s mv => Station.move build mv s) ⟨n, false⟩ =
          some ⟨n', false⟩ := by
  have hresume : (n.resume inp).macState.currentState = .mediumAccess := hstate
  rw [driverTurn, toOption_eq_some, driverStep, mclmacExecuteMacStateMachine, hresume]
  simp only [sessionMoves_run hstate]
  constructor
  · intro h
    obtain ⟨⟨m, ret⟩, hexec, h⟩ := bind_eq_ok.mp h
    obtain rfl := Except.ok.inj h
    obtain ⟨n₁, henter, hexec⟩ := bind_eq_ok.mp hexec
    obtain ⟨m₁, hloop, hexec⟩ := bind_eq_ok.mp hexec
    obtain ⟨r, hlast, hexec⟩ := bind_eq_ok.mp hexec
    cases hexec
    -- the loop is the turns that go on, and the one that ends it
    obtain ⟨turns, ending, rest, t, hinputs, hturns, hending⟩ :=
      (pollLoop_eq_ok_iff _).mp hloop
    rw [loopStep_mediumAccessPoll] at hturns
    exact ⟨turns, ending, rest, hinputs, n₁, t, _, henter, hturns,
      leaveMediumAccess_eq_some.mpr ⟨m₁, r, hending, hlast, rfl⟩, rfl⟩
  · rintro ⟨turns, ending, rest, hinputs, n₁, t, n₂, henter, hturns, hleave, hn'⟩
    obtain ⟨m₁, r, hending, hlast, rfl⟩ := leaveMediumAccess_eq_some.mp hleave
    obtain rfl : n' = _ := congrArg Station.node hn'
    have hloop : pollLoop .polling (mediumAccessPoll build) inp.mac.powerMode n₁ = .ok m₁ := by
      refine (pollLoop_eq_ok_iff _).mpr ⟨turns, ending, rest, t, hinputs, ?_, hending⟩
      rwa [loopStep_mediumAccessPoll]
    refine bind_eq_ok.mpr ⟨(r.1, .success), ?_, rfl⟩
    rw [executeMediumAccess, henter, ok_bind, hloop, ok_bind, hlast]
    rfl

/-! ### What a move can do -/

/-- Between two moves, the MAC machine is in step; in the loop of `MEDIUM_ACCESS`, the power-mode
machine is in one of its states. -/
structure Station.InStep (s : Station) : Prop where
  outside : s.inLoop = false → MacInStep s.node.macState
  inside : s.inLoop = true → InSession s.node.powerMode.currentState ∧
    s.node.macState.currentState = .mediumAccess

/-- **The moves of a station.** -/
inductive StationMove (build : Build) : Move → Station → Station → Prop
  | turn {inp : DriverInput} {n n' : Node} (hstate : n.macState.currentState ≠ .mediumAccess)
      (h : MacTurn build inp.mac (n.resume inp) n') :
      StationMove build (.turn inp) ⟨n, false⟩ ⟨n', false⟩
  | enter {inp : DriverInput} {n n' : Node} (hstate : n.macState.currentState = .mediumAccess)
      (h : enterMediumAccess build (n.resume inp) = .ok n') :
      StationMove build (.enter inp) ⟨n, false⟩ ⟨n', true⟩
  | loop {inp : PmInput} {n n' : Node} (hstate : n.macState.currentState = .mediumAccess)
      (h : Session build inp n n') : StationMove build (.loop inp) ⟨n, true⟩ ⟨n', true⟩
  | leave {inp last : PmInput} {n m : Node} {err : PmExecution}
      (hstate : n.macState.currentState = .mediumAccess) (h : SessionEnd build inp n err m) :
      StationMove build (.leave inp last) ⟨n, true⟩
        ⟨enterNextState (executeFinishp (mclmacSetPowermodeState m .finishp)), false⟩

/-- The last turn of the loop leads out of `MEDIUM_ACCESS`. -/
theorem leaveMediumAccess_cases {inp last : PmInput}
    (hsession : InSession n.powerMode.currentState)
    (hstate : n.macState.currentState = .mediumAccess)
    (h : leaveMediumAccess build inp last n = some n') :
    ∃ err m, SessionEnd build inp n err m ∧
      n' = enterNextState (executeFinishp (mclmacSetPowermodeState m .finishp)) ∧
      MacInStep n'.macState := by
  obtain ⟨m, r, hpoll, hlast, rfl⟩ := leaveMediumAccess_eq_some.mp h
  obtain ⟨err, hend⟩ := sessionEnd_of_mediumAccessPoll hsession hpoll
  rw [hend.update] at hlast
  obtain ⟨-, -, hlast⟩ := bind_eq_ok.mp hlast
  cases hlast
  have hcurrent : m.macState.currentState = .mediumAccess :=
    (congrArg (fun s => s.macState.currentState) hend.standing).trans hstate
  have hedge : MacEdge m.macState.currentState m.macState.nextState := by
    rw [hcurrent]
    rcases hend.nextMacState with ⟨-, hnext⟩ | ⟨-, hnext⟩ <;> rw [hnext]
    · exact .collision
    · exact .synchronizationError
  have hupdate := updateMac_of_edge
    (n := executeFinishp (mclmacSetPowermodeState m .finishp)) hedge
  refine ⟨err, m, hend, congrArg Prod.fst hupdate, ?_⟩
  rw [hupdate]
  exact .inr ⟨rfl, hedge.target⟩

/-- **What a move can do**, and that the station stays in step. -/
theorem Station.move_cases {mv : Move} {s s' : Station} (hs : s.InStep)
    (h : Station.move build mv s = some s') : StationMove build mv s s' ∧ s'.InStep := by
  obtain ⟨n, inLoop⟩ := s
  cases inLoop with
  | false =>
    -- outside the loop only whole turns and entries move the station
    have hstep := hs.outside rfl
    cases mv with
    | turn inp =>
      rw [Station.move] at h
      split at h
      · cases h
      next hstate =>
        obtain ⟨n', hturn, rfl⟩ := Option.map_eq_some_iff.mp h
        obtain ⟨hturn, hstep'⟩ := driverTurn_cases hstep hturn
        exact ⟨.turn hstate hturn, fun _ => hstep', fun hloop => (nomatch hloop)⟩
    | enter inp =>
      by_cases hstate : n.macState.currentState = .mediumAccess
      · obtain ⟨m, henter, rfl⟩ := (move_enter hstate).mp h
        have hmedium : m.macState.currentState = .mediumAccess :=
          (congrArg (fun s => s.macState.currentState) (enterMediumAccess_standing henter)).trans hstate
        exact ⟨.enter hstate henter, fun hloop => (nomatch hloop),
          fun _ => ⟨enterMediumAccess_inSession henter, hmedium⟩⟩
      · rw [Station.move, if_neg hstate] at h
        cases h
    | loop inp | leave inp last => cases h
  | true =>
    obtain ⟨hsession, hstate⟩ := hs.inside rfl
    cases mv with
    | turn inp | enter inp => cases h
    | loop inp =>
      obtain ⟨m, hstep, rfl⟩ := Option.map_eq_some_iff.mp h
      have hturn := sessionStep_cases hsession hstep
      have hmedium : m.macState.currentState = .mediumAccess :=
        (congrArg (fun s => s.macState.currentState) hturn.standing).trans hstate
      exact ⟨.loop hstate hturn, fun hloop => (nomatch hloop), fun _ => ⟨hturn.inSession, hmedium⟩⟩
    | leave inp last =>
      obtain ⟨n', hleave, rfl⟩ := move_leave.mp h
      obtain ⟨err, m, hend, rfl, hstep⟩ := leaveMediumAccess_cases hsession hstate hleave
      exact ⟨.leave hstate hend, fun _ => hstep, fun hloop => (nomatch hloop)⟩

/-! ## What is heard and sent -/

/-- What the radio makes of the attempts to hear a control packet in a move. -/
def Move.radio : Move → List CtrlRadio
  | .turn inp => inp.mac.attempts ++ inp.mac.syncPolls.map SyncPoll.radio
  | .enter _ => []
  | .loop inp => [inp.attempt₁, inp.attempt₂]
  | .leave inp _ => [inp.attempt₁, inp.attempt₂]

/-- The control packets heard in a move: strings of another type are none. -/
def Move.heard (mv : Move) : Set ByteString :=
  {b | b 0 = 1 ∧ CtrlRadio.heard b ∈ mv.radio}

/-- The attempt hears nothing. -/
def CtrlRadio.isLost : CtrlRadio → Bool
  | .lost _ => true
  | .heard _ => false

/-- A move in which every attempt is lost hears nothing. -/
theorem heard_of_lost {mv : Move} (h : mv.radio.all CtrlRadio.isLost) : mv.heard = ∅ := by
  refine Set.eq_empty_iff_forall_notMem.mpr fun b hb => ?_
  cases List.all_eq_true.mp h _ hb.2

/-- The control packets that a node has given to the radio, as they go on the air: with a padding
byte. -/
def Node.onAir (n : Node) : Set ByteString :=
  {b | ∃ pkt pad, .control pkt ∈ n.sent ∧ b = controlpacketGetPacketBytestring pkt pad}

/-- The stations of a network. They tell each other what they know in control packets; what else they
hear is left open. A control packet is heard as it was sent, or not at all. The receiver of a build for
RIOT without `NATIVE` never puts one together (`reassembles_iff`), so the runs that such a node can
really make are those in which it hears nothing. -/
def station (build : Build) : Party Station Move ByteString where
  step := Station.move build
  heard := Move.heard
  sent s := s.node.onAir

end WmnIot
