import WmnIot.Driver.Runs

/-! # The two machines

The driver ignores what an update of the MAC machine returns, and `MEDIUM_ACCESS` what an update of
the power-mode machine returns. None of them is ever refused: every state chooses a next one that
may follow it.

* **`UpdatedInMediumAccess`** — where `MEDIUM_ACCESS` updates the power-mode machine.
* **`EndingTurn`**, **`LeftInOrder`** — the turn that ends its loop, and how it returns.
* **`machines_inStep`** — the two machines over whole runs. -/

namespace WmnIot

open Runs

variable {build : Build} {n m : Node}

/-- The nodes on which `MEDIUM_ACCESS`, executed in `n`, updates the power-mode machine: after
`STARTP`, after a state of the loop that returns success, and after the loop. -/
inductive UpdatedInMediumAccess (build : Build) (inputs : List PmInput) (n : Node) : Node → Prop
  | startp {m : Node} {ret : PmExecution} (h : mclmacExecutePowermodeState build {}
      { n with toMCLMAC := mclmacInitPowermodeStateMachine n.toMCLMAC } = .ok (m, ret)) :
      UpdatedInMediumAccess build inputs n m
  | turn {n₁ x m : Node} {inp : PmInput} (henter : enterMediumAccess build n = .ok n₁)
      (hx : x ∈ visited (sessionStep build) inputs n₁)
      (h : mclmacExecutePowermodeState build inp x = .ok (m, .success)) :
      UpdatedInMediumAccess build inputs n m
  | last {n₁ m : Node} (henter : enterMediumAccess build n = .ok n₁)
      (h : pollLoop .polling (mediumAccessPoll build) inputs n₁ = .ok m) :
      UpdatedInMediumAccess build inputs n m

/-- The turn that ends the loop of `MEDIUM_ACCESS`, executed in `n`: the turns of the inputs before
its own lead to the node in which it begins, and there it executes the power-mode state, which
returns the error. -/
structure EndingTurn (build : Build) (inputs : List PmInput) (n : Node) where
  before : List PmInput
  input : PmInput
  rest : List PmInput
  entered : Node
  begins : Node
  executed : Node
  error : PmExecution
  leaves : Node
  inputs_eq : inputs = before ++ input :: rest
  enters : enterMediumAccess build n = .ok entered
  goesOn : before.foldlM (fun m inp => sessionStep build inp m) entered = some begins
  executes : mclmacExecutePowermodeState build input begins = .ok (executed, error)
  ends : mediumAccessPoll build input begins = .ok (leaves, false)

/-- `MEDIUM_ACCESS`, executed in `n`, returns `m` in order: a turn has ended the loop, then `FINISHP`
has been executed, the three queues are empty, and the next state of the MAC machine is the one for
the error of that turn. -/
structure LeftInOrder (build : Build) (inputs : List PmInput) (last : PmInput) (n m : Node) :
    Prop where
  ended : Nonempty (EndingTurn build inputs n)
  finishp : ∀ t : EndingTurn build inputs n,
    (mclmacUpdatePowermodeStateMachine t.leaves).1.powerMode.currentState = .finishp ∧
      mclmacExecutePowermodeState build last (mclmacUpdatePowermodeStateMachine t.leaves).1 =
        .ok (m, .success)
  empty : m.mac.message.packetsToSend = 0 ∧ m.mac.control.packetsToSend = 0 ∧
    m.mac.received.numberPacketsReceived = 0
  lastError : ∀ t : EndingTurn build inputs n,
    (t.error = .collisionError ∧ m.macState.nextState = .synchronization) ∨
      (t.error = .synchronizationError ∧ m.macState.nextState = .initialization)

/-! ## The power-mode machine -/

/-- After `STARTP` the node enters `PASSIVE`. -/
theorem update_of_startp {ret : PmExecution} (h : mclmacExecutePowermodeState build {}
    { n with toMCLMAC := mclmacInitPowermodeStateMachine n.toMCLMAC } = .ok (m, ret)) :
    (mclmacUpdatePowermodeStateMachine m).2 = .success := by
  obtain ⟨-, -, h⟩ := bind_eq_ok.mp h
  obtain ⟨m', hstart, h⟩ := bind_eq_ok.mp h
  cases h
  obtain ⟨-, -, hstart⟩ := bind_eq_ok.mp hstart
  cases hstart
  rfl

/-- After a state of the loop that returns success the node enters the one it has chosen. -/
theorem update_of_success {inp : PmInput} (hsession : InSession n.powerMode.currentState)
    (h : mclmacExecutePowermodeState build inp n = .ok (m, .success)) :
    (mclmacUpdatePowermodeStateMachine m).2 = .success := by
  obtain ⟨-, -, hexec⟩ := bind_eq_ok.mp h
  -- one bullet for each of `PASSIVE`, `ACTIVE`, `TRANSMIT` and `RECEIVE`
  rcases hsession with hmode | hmode | hmode | hmode <;> simp only [hmode] at hexec
  · obtain ⟨m', hpassive, hexec⟩ := bind_eq_ok.mp hexec
    cases hexec
    have hcurrent := executePassive_mode hpassive
    rw [hmode] at hcurrent
    simp [mclmacUpdatePowermodeStateMachine, hcurrent, executePassive_next hpassive]
  · have hcurrent := currentState_of_schedule (executeActive_schedule hexec)
    rw [hmode] at hcurrent
    obtain ⟨m', l, -, hout⟩ := executeActive_cases hexec
    have hcases := activeOutcome_cases m' l
    rw [hout] at hcases
    dsimp only at hcases
    rcases hcases with ⟨-, hret, -⟩ | ⟨-, -, hnext⟩
    · cases hret
    · rcases hnext with hnext | hnext | hnext <;>
        simp [mclmacUpdatePowermodeStateMachine, hcurrent, hnext]
  · have hcurrent := currentState_of_schedule (executeTransmit_schedule hexec)
    rw [hmode] at hcurrent
    rcases executeTransmit_ret hexec with ⟨-, hnext⟩ | hret
    · simp [mclmacUpdatePowermodeStateMachine, hcurrent, hnext]
    · cases hret
  · have hcurrent := currentState_of_schedule (executeReceive_schedule hexec)
    rw [hmode] at hcurrent
    rcases executeReceive_ret hexec with ⟨-, hnext⟩ | hret | hret
    · simp [mclmacUpdatePowermodeStateMachine, hcurrent, hnext]
    · cases hret
    · cases hret

/-- The states a run of the loop stands in are those the loop executes. -/
theorem inSession_of_mem_visited {inputs : List PmInput} (h : InSession n.powerMode.currentState) :
    ∀ x ∈ visited (sessionStep build) inputs n, InSession x.powerMode.currentState :=
  visited_inv (fun m => InSession m.powerMode.currentState)
    (fun _ _ _ hm hstep => (sessionStep_cases hm hstep).inSession) inputs h

/-- **No update of the power-mode machine is refused.** -/
theorem UpdatedInMediumAccess.success {inputs : List PmInput}
    (h : UpdatedInMediumAccess build inputs n m) :
    (mclmacUpdatePowermodeStateMachine m).2 = .success := by
  cases h with
  | startp h => exact update_of_startp h
  | turn henter hx h =>
    exact update_of_success (inSession_of_mem_visited (enterMediumAccess_inSession henter) _ hx) h
  | last henter h =>
    obtain ⟨inp, -, hlast⟩ := pollLoop_last (fun _ _ _ => sessionStep_eq_some) inputs h
    obtain ⟨err, hend⟩ := sessionEnd_of_mediumAccessPoll
      (lastVisited_inSession (enterMediumAccess_inSession henter)) hlast
    rw [hend.update]

/-! ## Returning from `MEDIUM_ACCESS` -/

/-- The last turn of the loop is the one whose power-mode state returns its error. -/
theorem SessionEnd.error_eq {inp : PmInput} {err ret : PmExecution} {m₁ : Node}
    (h : SessionEnd build inp n err m)
    (hexec : mclmacExecutePowermodeState build inp n = .ok (m₁, ret)) : ret = err := by
  obtain ⟨-, -, hexec⟩ := bind_eq_ok.mp hexec
  cases h with
  | transmit hmode h =>
    simp only [hmode] at hexec
    rw [h] at hexec
    cases hexec
    rfl
  | collision hmode h =>
    simp only [hmode] at hexec
    rw [h] at hexec
    cases hexec
    rfl
  | synchronization hmode h =>
    simp only [hmode] at hexec
    rw [h] at hexec
    cases hexec
    rfl

namespace EndingTurn

variable {inputs : List PmInput} (t : EndingTurn build inputs n)

theorem pollLoop_eq : pollLoop .polling (mediumAccessPoll build) inputs t.entered = .ok t.leaves := by
  have hgoesOn := t.goesOn
  rw [← loopStep_mediumAccessPoll] at hgoesOn
  exact (pollLoop_eq_ok_iff inputs).mpr
    ⟨t.before, t.input, t.rest, t.begins, t.inputs_eq, hgoesOn, t.ends⟩

theorem sessionEnd : SessionEnd build t.input t.begins t.error t.leaves := by
  have hsession : InSession t.begins.powerMode.currentState :=
    run_inv (fun m => InSession m.powerMode.currentState)
      (fun _ _ _ hm hstep => (sessionStep_cases hm hstep).inSession) t.before
      (enterMediumAccess_inSession t.enters) t.goesOn
  obtain ⟨err, hend⟩ := sessionEnd_of_mediumAccessPoll hsession t.ends
  rwa [hend.error_eq t.executes]

end EndingTurn

/-- A loop that returns has been ended by a turn. -/
theorem exists_endingTurn {inputs : List PmInput} {n₁ : Node}
    (henter : enterMediumAccess build n = .ok n₁)
    (hloop : pollLoop .polling (mediumAccessPoll build) inputs n₁ = .ok m) :
    Nonempty (EndingTurn build inputs n) := by
  obtain ⟨before, inp, rest, x, hinputs, hgoesOn, hends⟩ := (pollLoop_eq_ok_iff inputs).mp hloop
  rw [loopStep_mediumAccessPoll] at hgoesOn
  obtain ⟨⟨m₁, err⟩, hexec, -⟩ := bind_eq_ok.mp hends
  exact ⟨⟨before, inp, rest, n₁, x, m₁, err, m, hinputs, henter, hgoesOn, hexec, hends⟩⟩

/-- **`MEDIUM_ACCESS` returns in order.** -/
theorem leftInOrder {inputs : List PmInput} {last : PmInput} {ret : MacExecution}
    (h : executeMediumAccess build inputs last n = .ok (m, ret)) :
    LeftInOrder build inputs last n m := by
  obtain ⟨n₁, henter, h⟩ := bind_eq_ok.mp h
  obtain ⟨m', hloop, h⟩ := bind_eq_ok.mp h
  obtain ⟨⟨n₂, ret'⟩, hfinish, h⟩ := bind_eq_ok.mp h
  cases h
  -- the loop is a function of its inputs, so every ending turn leaves the same node
  have hleaves (t : EndingTurn build inputs n) : t.leaves = m' := by
    have hentered : t.entered = n₁ := Except.ok.inj (t.enters.symm.trans henter)
    have hloop' := t.pollLoop_eq
    rw [hentered] at hloop'
    exact Except.ok.inj (hloop'.symm.trans hloop)
  obtain ⟨t₀⟩ := exists_endingTurn henter hloop
  have hm' : mclmacUpdatePowermodeStateMachine m' =
      (mclmacSetPowermodeState m' .finishp, .success) := by
    rw [← hleaves t₀]
    exact t₀.sessionEnd.update
  have hlast := hfinish
  rw [hm'] at hlast
  -- what follows the loop is `FINISHP`, which clears the three queues
  obtain ⟨-, -, hlast⟩ := bind_eq_ok.mp hlast
  cases hlast
  refine ⟨⟨t₀⟩, fun t => ?_, ⟨rfl, rfl, rfl⟩, fun t => ?_⟩
  · rw [hleaves t]
    exact ⟨by rw [hm']; rfl, hfinish⟩
  · have hnext := t.sessionEnd.nextMacState
    rw [hleaves t] at hnext
    exact hnext

/-! ## Whole runs -/

/-- **The two machines stay in step**: wherever a run of the driver from `MCLMAC_init` has got to, the
execution that follows leads to an update of the MAC machine that succeeds or stays, along an edge;
every update of the power-mode machine in `MEDIUM_ACCESS` succeeds; and `MEDIUM_ACCESS` returns in
order. -/
theorem machines_inStep (build : Build) (n : Node) (inp : DriverInput) (h : Reachable build n) :
    (∀ m ret, mclmacExecuteMacStateMachine build inp.mac (n.resume inp) = .ok (m, ret) →
      ((mclmacUpdateMacStateMachine m).2 = .success ∨
        (mclmacUpdateMacStateMachine m).2 = .noTransition) ∧
      ((mclmacUpdateMacStateMachine m).1.macState.currentState = n.macState.currentState ∨
        MacEdge n.macState.currentState (mclmacUpdateMacStateMachine m).1.macState.currentState) ∧
      (n.macState.currentState = .mediumAccess →
        LeftInOrder build inp.mac.powerMode inp.mac.last (n.resume inp) m)) ∧
    (n.macState.currentState = .mediumAccess →
      ∀ m, UpdatedInMediumAccess build inp.mac.powerMode (n.resume inp) m →
        (mclmacUpdatePowermodeStateMachine m).2 = .success) := by
  have hn := h.wellFormed
  refine ⟨?_, fun _ m hm => hm.success⟩
  intro m ret hexec
  have hcurrent : m.macState.currentState = n.macState.currentState :=
    (mclmacExecuteMacStateMachine_cases (n := n.resume inp) hn.inStep hexec).1
  refine and_assoc.mp ⟨?_, ?_⟩
  · -- the state has chosen one that may follow it, or none
    rcases (mclmacExecuteMacStateMachine_cases (n := n.resume inp) hn.inStep hexec).2 with
      ⟨hedge, -⟩ | ⟨hsame, -⟩
    · rw [updateMac_of_edge hedge]
      rw [hcurrent] at hedge
      exact ⟨.inl rfl, .inr hedge⟩
    · rw [updateMac_of_eq hsame]
      exact ⟨.inr rfl, .inl hcurrent⟩
  · intro hstate
    have hstate' : (n.resume inp).macState.currentState = .mediumAccess := hstate
    unfold mclmacExecuteMacStateMachine at hexec
    rw [hstate'] at hexec
    exact leftInOrder (n := n.resume inp) hexec

/-- The first node of a network meets another one and leaves `MEDIUM_ACCESS` in order. -/
theorem machines_inStep_strangerHeard :
    ∃ n m ret, Reachable ⟨.linux, true⟩ n ∧
      mclmacExecuteMacStateMachine ⟨.linux, true⟩ strangerHeard.mac (n.resume strangerHeard) =
        .ok (m, ret) ∧
      (mclmacUpdateMacStateMachine m).1.macState.currentState = .initialization ∧
      ((mclmacUpdateMacStateMachine m).2 = .success ∨
        (mclmacUpdateMacStateMachine m).2 = .noTransition) ∧
      LeftInOrder ⟨.linux, true⟩ strangerHeard.mac.powerMode strangerHeard.mac.last
        (n.resume strangerHeard) m := by
  have heval : ((joinAlone.foldlM (fun m inp => driverTurn ⟨.linux, true⟩ inp m) newNode).bind
      fun n => (mclmacExecuteMacStateMachine ⟨.linux, true⟩ strangerHeard.mac
        (n.resume strangerHeard)).toOption.map fun r => (n.macState.currentState,
          (mclmacUpdateMacStateMachine r.1).1.macState.currentState)) =
      some (.mediumAccess, .initialization) := by
    decide +kernel
  obtain ⟨n, hrun, heval⟩ := Option.bind_eq_some_iff.mp heval
  obtain ⟨⟨m, ret⟩, hexec, heval⟩ := Option.map_eq_some_iff.mp heval
  rw [Prod.mk.injEq] at heval
  rw [toOption_eq_some] at hexec
  have hreach : Reachable ⟨.linux, true⟩ n := ⟨_, _, _, joinAlone, hrun⟩
  obtain ⟨hupdate, -, hleft⟩ :=
    (machines_inStep ⟨.linux, true⟩ n strangerHeard hreach).1 m ret hexec
  exact ⟨n, m, ret, hreach, hexec, heval.2, hupdate, hleft heval.1⟩

end WmnIot
