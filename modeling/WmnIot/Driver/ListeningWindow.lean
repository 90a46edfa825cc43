import WmnIot.Driver.TimeoutTable
import WmnIot.Model.RadioFrames

/-! # The listening window

A reception on RIOT waits 5 % of `slot_duration`. Only `STARTP` sets that duration, so it is zero
until the node has been in `MEDIUM_ACCESS` once: a node that joins its first network tries to listen
for no time at all, and `timeout_set` refuses.

* **`Listens`** — the states in which an execution of the MAC machine calls a receiving function.
* **`PollsRadio`**, **`pollsRadio_iff`** — the call polls the radio.
* **`driverRun_slotDuration`** — the slot duration after a run.
* **`listeningWindow_positive_iff`** — when the window is positive. -/

namespace WmnIot

open Runs

variable {build : Build} {n n' m : Node}

/-! ## Calls of the receiving functions -/

/-- The states in which `SYNCHRONIZATION` begins its attempts; the last one may lack its input. -/
def attemptStates (build : Build) : ℕ → List CtrlRadio → Node → List Node
  | 0, _, _ => []
  | _ + 1, [], n => [n]
  | count + 1, radio :: attempts, n =>
    n :: match mclmacReceiveCtrlpktSync build radio n with
      | (_, some _) => []
      | (m, none) => attemptStates build count attempts m

/-- **Listening**: an execution of the MAC machine that begins in `n` calls a receiving function in
`m`. -/
inductive Listens (build : Build) (inp : MacInput) (n : Node) : Node → Prop
  /-- An attempt of `SYNCHRONIZATION` to hear a first control packet. -/
  | attempt {m : Node} (hstate : n.macState.currentState = .synchronization)
      (hfirst : n.isFirstNode = false)
      (hm : m ∈ attemptStates build 11 inp.attempts (beginListening n)) : Listens build inp n m
  /-- A turn of its listening loop. -/
  | turn {n₁ n₂ : Node} {b : ByteString} {s s' : Node × SyncLocals}
      (hstate : n.macState.currentState = .synchronization) (hfirst : n.isFirstNode = false)
      (hheard : listenCtrlpkt build 11 inp.attempts (beginListening n) = .ok (n₁, some b))
      (hadopt : adoptCtrlpkt n₁ (decodeCtrlpkt b) = .ok n₂)
      (harm : armSyncTimers build (decodeCtrlpkt b) n₂ = s)
      (htimers : s.2.slotTimer ≠ Config.timeoutSetError ∧ s.2.frameTimer ≠ Config.timeoutSetError)
      (hlisten : stillListening s.1 s.2 = true)
      (hs : s' ∈ iterations (syncPoll build) inp.syncPolls s) : Listens build inp n s'.1
  /-- The first attempt of `RECEIVE` to hear a control packet. -/
  | first {n₁ m : Node} (hstate : n.macState.currentState = .mediumAccess)
      (henter : enterMediumAccess build n = .ok n₁)
      (hm : m ∈ visited (sessionStep build) inp.powerMode n₁)
      (hmode : m.powerMode.currentState = .receive) : Listens build inp n m
  /-- The second attempt of `RECEIVE`, after a first one that has failed. -/
  | second {n₁ m : Node} {radio : CtrlRadio} (hstate : n.macState.currentState = .mediumAccess)
      (henter : enterMediumAccess build n = .ok n₁)
      (hm : m ∈ visited (sessionStep build) inp.powerMode n₁)
      (hmode : m.powerMode.currentState = .receive)
      (hlost : (mclmacReceiveControlPacket build radio m).2 = false) :
      Listens build inp n (mclmacReceiveControlPacket build radio m).1

/-! ## Polling the radio -/

/-- How often a receiver has asked the radio for its bytes, when the driver answers with the polls: for
all of them and once more while it is still polling, and for those that are not left when it has
returned. -/
def RecvResult.timesPolled (polls : List RadioPoll) : RecvResult → ℕ
  | .polling _ => polls.length + 1
  | .returned _ _ rest => polls.length - rest.length

/-- The loop takes the first answer of the driver before it returns. -/
theorem recvFirstLoop_timesPolled (type : UInt8) (polls : List RadioPoll) (s : RecvState) :
    0 < (recvFirstLoop type polls s).timesPolled polls := by
  induction polls generalizing s with
  | nil => exact Nat.one_pos
  | cons p ps ih =>
    have hreturned (ret : Bool) (s' : RecvState) :
        0 < (RecvResult.returned ret s' ps).timesPolled (p :: ps) := by
      simp [RecvResult.timesPolled]
    -- the rest of the loop only makes what is left shorter
    have hgoesOn : 0 < (recvFirstLoop type ps s).timesPolled (p :: ps) := by
      have hlater := ih s
      generalize recvFirstLoop type ps s = result at hlater
      cases result with
      | polling s' => exact Nat.succ_pos _
      | returned ret s' rest =>
        simp only [RecvResult.timesPolled, List.length_cons] at hlater ⊢
        omega
    rw [recvFirstLoop]
    split
    · split
      · exact hreturned _ _
      · exact hgoesOn
    · split
      · exact hreturned _ _
      · split
        · split
          · exact hreturned _ _
          · exact hgoesOn
        · exact hreturned _ _

/-- **`_recv_first_32_bytes`** polls the radio exactly if its timer could be set. -/
theorem recvFirst32Bytes_timesPolled_iff (type : UInt8) (timerSet : Bool) (polls : List RadioPoll)
    (s : RecvState) :
    0 < (recvFirst32Bytes type timerSet polls s).timesPolled polls ↔ timerSet = true := by
  cases timerSet with
  | false =>
    have hreturned : recvFirst32Bytes type false polls s = .returned false s polls := rfl
    simp [hreturned, RecvResult.timesPolled]
  | true => exact iff_of_true (recvFirstLoop_timesPolled type polls s) rfl

/-- **The call polls the radio**: the window is positive, its timeout can be set, and with that timer
`_recv_first_32_bytes` polls the radio at least once, whatever the driver answers. -/
structure PollsRadio (build : Build) (m : Node) : Prop where
  window : 0 < m.listeningWindow
  timer : (m.setTimeout build m.listeningWindow).2 ≠ Config.timeoutSetError
  polls : ∀ polls s, 0 < (recvFirst32Bytes 1
    (decide ((m.setTimeout build m.listeningWindow).2 ≠ Config.timeoutSetError)) polls s).timesPolled
      polls

/-- With a free entry, the radio is polled exactly if the window is positive. -/
theorem pollsRadio_iff (hfree : 0 < freeEntries m.timeouts) :
    PollsRadio build m ↔ 0 < m.listeningWindow := by
  constructor
  · intro h
    exact h.window
  · intro hwindow
    have htimer : (m.setTimeout build m.listeningWindow).2 ≠ Config.timeoutSetError := by
      rcases setTimeout_used build m m.listeningWindow with ⟨-, -, hcan⟩ | ⟨hid, -⟩
      · exact absurd ⟨hwindow.ne', hfree⟩ hcan
      · exact hid
    exact ⟨hwindow, htimer, fun polls s =>
      (recvFirst32Bytes_timesPolled_iff 1 _ polls s).mpr (decide_eq_true htimer)⟩

/-! ## The slot duration -/

/-- A session keeps the slot duration that `STARTP` sets. -/
theorem session_slotDuration (henter : enterMediumAccess build n = .ok n') (inputs : List PmInput) :
    (∀ m ∈ visited (sessionStep build) inputs n',
        m.mac.frame.slotDuration = Config.slotDuration.toNat) ∧
      (lastVisited (sessionStep build) inputs n').mac.frame.slotDuration =
        Config.slotDuration.toNat := by
  -- no state of a session writes the slot duration
  have hinv (i : PmInput) (s s' : Node) (hs : InSession s.powerMode.currentState ∧
      s.mac.frame.slotDuration = Config.slotDuration.toNat) (hstep : sessionStep build i s = some s') :
      InSession s'.powerMode.currentState ∧
        s'.mac.frame.slotDuration = Config.slotDuration.toNat := by
    have hturn := sessionStep_cases hs.1 hstep
    refine ⟨hturn.inSession, ?_⟩
    rw [← hs.2]
    cases hturn with
    | passive hmode h =>
      have hduration := congrArg Schedule.slotDuration (executePassive_schedule h)
      rw [Schedule.slotDuration_advance] at hduration
      exact hduration
    | active hmode h hnext => exact congrArg Schedule.slotDuration (executeActive_schedule h)
    | collision hmode h => exact congrArg Schedule.slotDuration (executeActive_schedule h)
    | transmit hmode h => exact congrArg Schedule.slotDuration (executeTransmit_schedule h)
    | receive hmode h => exact congrArg Schedule.slotDuration (executeReceive_schedule h)
  -- STARTP has set it
  have hbegin : InSession n'.powerMode.currentState ∧
      n'.mac.frame.slotDuration = Config.slotDuration.toNat := by
    refine ⟨enterMediumAccess_inSession henter, ?_⟩
    rw [enterMediumAccess_cases henter]
    rfl
  constructor
  · intro m hm
    exact (visited_inv _ hinv inputs hbegin m hm).2
  · exact (lastVisited_inv _ hinv inputs hbegin).2

/-- **`MEDIUM_ACCESS`** leaves the slot duration set. -/
theorem executeMediumAccess_slotDuration {inputs : List PmInput} {last : PmInput}
    {ret : MacExecution} (h : executeMediumAccess build inputs last n = .ok (n', ret)) :
    n'.mac.frame.slotDuration = Config.slotDuration.toNat := by
  obtain ⟨-, n₁, inp, err, m, henter, hend, rfl⟩ := executeMediumAccess_cases h
  have hlast := (session_slotDuration henter inputs).2
  generalize lastVisited (sessionStep build) inputs n₁ = x at hend hlast
  show m.mac.frame.slotDuration = _
  rw [← hlast]
  clear h
  cases hend with
  | transmit hmode h => exact congrArg Schedule.slotDuration (executeTransmit_schedule h)
  | collision hmode h => exact congrArg Schedule.slotDuration (executeReceive_schedule h)
  | synchronization hmode h => exact congrArg Schedule.slotDuration (executeReceive_schedule h)

/-- The node has been in a network: a turn has executed `MEDIUM_ACCESS`. -/
def HasBeenInNetwork (turns : List (DriverInput × Node)) : Prop :=
  ∃ t ∈ turns, t.2.macState.currentState = .mediumAccess

/-- **The slot duration after a run** is what it was, unless `MEDIUM_ACCESS` has set it. -/
theorem driverRun_slotDuration {inputs : List DriverInput} (hn : WellFormed n)
    (hrun : inputs.foldlM (fun m inp => driverTurn build inp m) n = some n') :
    (HasBeenInNetwork (taken (driverTurn build) inputs n) →
        n'.mac.frame.slotDuration = Config.slotDuration.toNat) ∧
      (¬ HasBeenInNetwork (taken (driverTurn build) inputs n) →
        n'.mac.frame.slotDuration = n.mac.frame.slotDuration) := by
  induction inputs generalizing n with
  | nil =>
    obtain rfl : n = n' := Option.some.inj hrun
    refine ⟨?_, fun _ => rfl⟩
    rintro ⟨t, ht, -⟩
    cases ht
  | cons inp inputs ih =>
    rw [List.foldlM_cons] at hrun
    obtain ⟨m, hturn, hrun⟩ := Option.bind_eq_some_iff.mp hrun
    obtain ⟨hset, hkept⟩ := ih (hn.turn hturn) hrun
    have htaken : HasBeenInNetwork (taken (driverTurn build) (inp :: inputs) n) ↔
        n.macState.currentState = .mediumAccess ∨
          HasBeenInNetwork (taken (driverTurn build) inputs m) := by
      simp [HasBeenInNetwork, taken, hturn]
    rw [htaken]
    by_cases hstate : n.macState.currentState = .mediumAccess
    · -- `STARTP` sets the duration, and a later session sets it again
      obtain ⟨x, hexec, rfl⟩ := driverTurn_mediumAccess hn hstate hturn
      have hduration := executeMediumAccess_slotDuration hexec
      have hx : (enterNextState x).mac.frame.slotDuration = Config.slotDuration.toNat := hduration
      refine ⟨fun _ => ?_, fun hnot => absurd (.inl hstate) hnot⟩
      by_cases hlater : HasBeenInNetwork (taken (driverTurn build) inputs (enterNextState x))
      · exact hset hlater
      · exact (hkept hlater).trans hx
    · -- the other states leave it alone
      have hm : m.mac.frame.slotDuration = n.mac.frame.slotDuration := by
        obtain ⟨_, _, hmac⟩ := driverTurn_mac hn hstate hturn
        rw [hmac]
      constructor
      · rintro (hmedium | hlater)
        · exact absurd hmedium hstate
        · exact hset hlater
      · intro hnot
        exact (hkept fun hlater => hnot (.inr hlater)).trans hm

/-! ## The window over a run -/

/-- An attempt finds the window and at least the used entries with which listening begins. -/
theorem attemptStates_inv {count : ℕ} {attempts : List CtrlRadio} :
    ∀ m ∈ attemptStates build count attempts n,
      m.listeningWindow = n.listeningWindow ∧ n.usedTimeouts ≤ m.usedTimeouts := by
  induction count generalizing attempts n with
  | zero => simp [attemptStates]
  | succ count ih =>
    cases attempts with
    | nil => simp [attemptStates]
    | cons radio attempts =>
      intro m hm
      rw [attemptStates] at hm
      have hle := usedTimeouts_le_mclmacReceiveCtrlpktSync build radio n
      obtain ⟨timeouts, hframe⟩ := mclmacReceiveCtrlpktSync_frame build radio n
      generalize mclmacReceiveCtrlpktSync build radio n = received at hm hle hframe
      obtain ⟨x, _ | bytes⟩ := received
      · rcases List.mem_cons.mp hm with rfl | hm
        · exact ⟨rfl, le_refl _⟩
        · obtain ⟨hwindow, hused⟩ := ih m hm
          have hx : x.listeningWindow = n.listeningWindow := by
            rw [show x = _ from hframe]
            rfl
          exact ⟨hwindow.trans hx, hle.trans hused⟩
      · obtain rfl := List.mem_singleton.mp hm
        exact ⟨rfl, le_refl _⟩

/-- The listening loop keeps the window. -/
theorem listeningWindow_of_listener (h : m.listener = n.listener) :
    m.listeningWindow = n.listeningWindow := by
  have hmac : m.mac = n.mac := congrArg (fun l => l.1.mac) h
  unfold Node.listeningWindow
  rw [hmac]

/-- Without a window, no control packet is heard. -/
theorem listenCtrlpkt_of_window_zero {count : ℕ} {attempts : List CtrlRadio}
    {heard : Option ByteString} (hnative : build.native = false) (hwindow : n.listeningWindow = 0)
    (h : listenCtrlpkt build count attempts n = .ok (n', heard)) : heard = none := by
  obtain ⟨hiff, hnone⟩ := listenCtrlpkt_used hnative h
  apply hnone
  rw [hiff]
  intro radio hradio hkeeps
  exact hkeeps.1.1 hwindow

/-- A state in which an execution listens has the window with which the execution began, or, in
`MEDIUM_ACCESS`, that of a slot. -/
theorem Listens.listeningWindow {inp : MacInput} (h : Listens build inp n m) :
    (n.macState.currentState = .synchronization ∧ m.listeningWindow = n.listeningWindow) ∨
      (n.macState.currentState = .mediumAccess ∧
        m.listeningWindow = Config.slotDuration.toNat / 20) := by
  cases h with
  | attempt hstate hfirst hm => exact .inl ⟨hstate, (attemptStates_inv m hm).1⟩
  | @turn n₁ n₂ b s s' hstate hfirst hheard hadopt harm htimers hlisten hs =>
    refine .inl ⟨hstate, ?_⟩
    have hloop : s'.1.listener = s.1.listener :=
      iterations_inv (fun t : Node × SyncLocals => t.1.listener = s.1.listener)
        (fun _ _ _ ht hpoll => (syncPoll_listener hpoll).trans ht) inp.syncPolls rfl s' hs
    obtain ⟨timeouts, harmed⟩ := armSyncTimers_frame build (decodeCtrlpkt b) n₂
    obtain ⟨timeouts', rfl⟩ := listenCtrlpkt_frame hheard
    have hadopted : n₂.mac = n.mac := congrArg (fun l => l.1.mac) (adoptCtrlpkt_listener hadopt)
    have hs₁ : s.1.mac = n₂.mac := by
      rw [← harm, harmed]
    rw [listeningWindow_of_listener hloop]
    unfold Node.listeningWindow
    rw [hs₁, hadopted]
  | first hstate henter hm hmode =>
    refine .inr ⟨hstate, ?_⟩
    unfold Node.listeningWindow
    rw [(session_slotDuration henter _).1 m hm]
  | @second n₁ x radio hstate henter hm hmode hlost =>
    refine .inr ⟨hstate, ?_⟩
    obtain ⟨_, _, hframe⟩ := mclmacReceiveControlPacket_frame build radio x
    unfold Node.listeningWindow
    rw [hframe]
    show x.mac.frame.slotDuration / 20 = _
    rw [(session_slotDuration henter _).1 x hm]

/-- **The listening window**: in a run from `MCLMAC_init` on RIOT with the radio, every call of a
receiving function that finds a free entry of the timeout table has a positive window, and polls the
radio, exactly if the call is not made by `SYNCHRONIZATION` before the node has ever been in
`MEDIUM_ACCESS`. -/
theorem listeningWindow_positive_iff (timeouts : Timeouts) (clock : ℕ) (queues : IpcQueues)
    (inputs : List DriverInput) (inp : DriverInput) (n : Node)
    (hrun : inputs.foldlM (fun m inp => driverTurn ⟨.riot, false⟩ inp m)
      (mclmacInit timeouts clock queues) = some n) :
    (∀ m, Listens ⟨.riot, false⟩ inp.mac (n.resume inp) m → 0 < freeEntries m.timeouts →
        PollsRadio ⟨.riot, false⟩ m) ↔
      (n.macState.currentState = .synchronization → n.isFirstNode = false →
        0 < freeEntries n.timeouts →
        HasBeenInNetwork (taken (driverTurn ⟨.riot, false⟩) inputs
          (mclmacInit timeouts clock queues))) := by
  obtain ⟨hset, hkept⟩ := driverRun_slotDuration (wellFormed_init timeouts clock queues) hrun
  have hinit : (mclmacInit timeouts clock queues).mac.frame.slotDuration = 0 := rfl
  rw [hinit] at hkept
  generalize HasBeenInNetwork (taken (driverTurn ⟨.riot, false⟩) inputs
    (mclmacInit timeouts clock queues)) = beenInNetwork at hset hkept ⊢
  have hresume : (n.resume inp).listeningWindow = n.mac.frame.slotDuration / 20 := rfl
  have hused : (n.resume inp).usedTimeouts = n.usedTimeouts := usedTimeouts_tick n inp.tick
  constructor
  · intro hall hstate hfirst hfree
    by_contra hnever
    -- the first attempt of the execution has no window, since no session has set a slot duration
    have hlistens : Listens ⟨.riot, false⟩ inp.mac (n.resume inp) (beginListening (n.resume inp)) := by
      refine .attempt hstate hfirst ?_
      cases inp.mac.attempts with
      | nil => exact List.mem_singleton_self _
      | cons radio attempts => exact List.mem_cons_self
    have hfree' : 0 < freeEntries (beginListening (n.resume inp)).timeouts := by
      have hn := usedEntries_add_freeEntries n.timeouts
      have hr := usedEntries_add_freeEntries (n.resume inp).timeouts
      have hused : usedEntries (n.resume inp).timeouts = usedEntries n.timeouts := hused
      show 0 < freeEntries (n.resume inp).timeouts
      omega
    have hwindow := (hall _ hlistens hfree').window
    have hzero : (n.resume inp).listeningWindow = 0 := by
      rw [hresume, hkept hnever]
    have hwindow : 0 < (n.resume inp).listeningWindow := hwindow
    omega
  · intro hcond m hlistens hfree
    rw [pollsRadio_iff hfree]
    -- only `SYNCHRONIZATION` can listen without the window of a slot
    rcases hlistens.listeningWindow with ⟨hstate, hwindow⟩ | ⟨-, hwindow⟩
    · by_cases hbeen : beenInNetwork
      · rw [hwindow, hresume, hset hbeen]
        decide
      · -- then the table is full, or nothing is heard and the loop is not reached
        have hzero : (n.resume inp).listeningWindow = 0 := by
          rw [hresume, hkept hbeen]
        cases hlistens with
        | attempt _ hfirst hm =>
          have hmore := (attemptStates_inv m hm).2
          have hmore : (n.resume inp).usedTimeouts ≤ m.usedTimeouts := hmore
          rw [hused] at hmore
          have hn := usedEntries_add_freeEntries n.timeouts
          have hm' := usedEntries_add_freeEntries m.timeouts
          have hmore : usedEntries n.timeouts ≤ usedEntries m.timeouts := hmore
          exact absurd (hcond hstate hfirst (by omega)) hbeen
        | turn _ hfirst hheard =>
          have hbegin : (beginListening (n.resume inp)).listeningWindow = 0 := hzero
          have hnone := listenCtrlpkt_of_window_zero rfl hbegin hheard
          cases hnone
        | first hmedium => exact nomatch hstate.symm.trans hmedium
        | second hmedium => exact nomatch hstate.symm.trans hmedium
    · rw [hwindow]
      decide

/-! ### Nodes on RIOT -/

/-- The first node of a network on RIOT listens in its second slot, in which it has heard an
announcement, and polls the radio. -/
theorem listeningWindow_positive_strangerHeard :
    ∃ n n₁ m, joinAlone.foldlM (fun m inp => driverTurn ⟨.riot, false⟩ inp m) newNode = some n ∧
      enterMediumAccess ⟨.riot, false⟩ (n.resume strangerHeard) = .ok n₁ ∧
      lastVisited (sessionStep ⟨.riot, false⟩) strangerHeard.mac.powerMode n₁ = m ∧
      m.powerMode.currentState = .receive ∧
      Listens ⟨.riot, false⟩ strangerHeard.mac (n.resume strangerHeard) m ∧
      PollsRadio ⟨.riot, false⟩ m := by
  have heval : ((joinAlone.foldlM (fun m inp => driverTurn ⟨.riot, false⟩ inp m) newNode).bind
      fun n => (enterMediumAccess ⟨.riot, false⟩ (n.resume strangerHeard)).toOption.map fun n₁ =>
        decide (n.macState.currentState = .mediumAccess ∧
          (lastVisited (sessionStep ⟨.riot, false⟩) strangerHeard.mac.powerMode
            n₁).powerMode.currentState = .receive ∧
          0 < freeEntries (lastVisited (sessionStep ⟨.riot, false⟩) strangerHeard.mac.powerMode
            n₁).timeouts)) = some true := by
    decide +kernel
  obtain ⟨n, hrun, heval⟩ := Option.bind_eq_some_iff.mp heval
  obtain ⟨n₁, henter, heval⟩ := Option.map_eq_some_iff.mp heval
  obtain ⟨hstate, hmode, hfree⟩ := of_decide_eq_true heval
  rw [toOption_eq_some] at henter
  have hlistens : Listens ⟨.riot, false⟩ strangerHeard.mac (n.resume strangerHeard)
      (lastVisited (sessionStep ⟨.riot, false⟩) strangerHeard.mac.powerMode n₁) :=
    .first hstate henter (lastVisited_mem_visited _ _) hmode
  refine ⟨n, n₁, _, hrun, henter, rfl, hmode, hlistens, (listeningWindow_positive_iff (fun _ => {}) 0
    initQueues joinAlone strangerHeard n hrun).mpr ?_ _ hlistens hfree⟩
  intro hsync
  rw [hstate] at hsync
  cases hsync

/-- A node that joins its first network has no window in which to listen, although the table is
empty. -/
theorem listeningWindow_zero_othersDetected :
    ∃ n m, othersDetected.foldlM (fun m inp => driverTurn ⟨.riot, false⟩ inp m) newNode = some n ∧
      Listens ⟨.riot, false⟩ {} (n.resume { tick := ⟨Config.detectionTime, false⟩ }) m ∧
      freeEntries m.timeouts = Config.timeouts ∧ m.listeningWindow = 0 ∧
      ¬ PollsRadio ⟨.riot, false⟩ m := by
  have heval : (othersDetected.foldlM (fun m inp => driverTurn ⟨.riot, false⟩ inp m)
      newNode).map (fun n => decide (n.macState.currentState = .synchronization ∧
        n.isFirstNode = false ∧ n.listeningWindow = 0 ∧
        freeEntries n.timeouts = Config.timeouts)) = some true := by
    decide +kernel
  obtain ⟨n, hrun, heval⟩ := Option.map_eq_some_iff.mp heval
  obtain ⟨hstate, hfirst, hwindow, hfree⟩ := of_decide_eq_true heval
  refine ⟨n, beginListening (n.resume { tick := ⟨Config.detectionTime, false⟩ }), hrun,
    .attempt hstate hfirst (List.mem_singleton_self _), hfree, hwindow, fun hpolls => ?_⟩
  have hzero : (beginListening (n.resume { tick := ⟨Config.detectionTime, false⟩ })).listeningWindow =
      0 := hwindow
  exact absurd hpolls.window (by rw [hzero]; exact lt_irrefl 0)

end WmnIot
