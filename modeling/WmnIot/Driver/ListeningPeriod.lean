import WmnIot.Driver.Runs

/-! # The listening period

`START` draws the number of frames for which a joining node listens, and `SYNCHRONIZATION` turns it
into the frame at which listening ends by adding the frame of the first control packet to
`_wakeup_frame`. The sum stays there: when the node synchronises again, the next frame is added to
it, and the period is no longer the one that was drawn.

* **`drawnFrames`**, **`framesHeard`** — what `_wakeup_frame` is made of.
* **`driverRun_wakeupFrame`** — `_wakeup_frame` after a run.
* **`listeningPeriod_bounded_iff`** — the periods of a run. -/

namespace WmnIot

open Runs

variable {build : Build} {n n' m : Node}

/-! ## One execution of `SYNCHRONIZATION` -/

/-- The frames that `START` draws. -/
def drawnFrames (rand : ℕ) : UInt32 :=
  if UInt32.ofNat (rand % Config.maxNumberSlots) = 0 then 1
  else UInt32.ofNat (rand % Config.maxNumberSlots)

/-- The first control packet that an execution of `SYNCHRONIZATION` receives. -/
def firstCtrlpkt (build : Build) (attempts : List CtrlRadio) (n : Node) : Option ControlPacket :=
  match listenCtrlpkt build 11 attempts (beginListening n) with
  | .ok (_, some b) => some (decodeCtrlpkt b)
  | _ => none

/-- The frame of that packet. -/
def firstFrame (build : Build) (attempts : List CtrlRadio) (n : Node) : UInt32 :=
  (firstCtrlpkt build attempts n).elim 0 fun pkt => pkt.currentFrame

/-- **`SYNCHRONIZATION`** adds the frame of the first packet, whether it succeeds or not. -/
theorem executeSynchronization_wakeupFrame {time : UInt32} {attempts : List CtrlRadio}
    {polls : List SyncPoll} {ret : MacExecution} (hfirst : n.isFirstNode = false)
    (h : executeSynchronization build time attempts polls n = .ok (n', ret)) :
    n'.wakeupFrame = n.wakeupFrame + firstFrame build attempts n := by
  unfold firstFrame firstCtrlpkt
  rcases executeSynchronization_cases hfirst h with ⟨hlisten, -⟩ | ⟨n₁, b, hlisten, hjoin⟩
  · obtain ⟨timeouts, hframe⟩ := listenCtrlpkt_frame hlisten
    rw [hlisten]
    subst hframe
    exact (UInt32.add_zero _).symm
  · obtain ⟨timeouts, hframe⟩ := listenCtrlpkt_frame hlisten
    rw [hlisten]
    subst hframe
    exact (joinFrom_listener hjoin).2.1

/-! ## Runs -/

/-- The frame that a turn of the driver adds to `_wakeup_frame`. -/
def frameHeard (build : Build) (t : DriverInput × Node) : UInt32 :=
  if t.2.macState.currentState = .synchronization ∧ t.2.isFirstNode = false then
    firstFrame build t.1.mac.attempts (t.2.resume t.1)
  else 0

/-- The frames that the turns of a run add. -/
def framesHeard (build : Build) (turns : List (DriverInput × Node)) : UInt32 :=
  (turns.map (frameHeard build)).sum

/-- The first turn of a run draws the frames. -/
theorem driverTurn_start {inp : DriverInput} (hn : WellFormed n)
    (hstate : n.macState.currentState = .start) (h : driverTurn build inp n = some n') :
    n'.macState.currentState = .initialization ∧ n'.wakeupFrame = drawnFrames inp.mac.rand := by
  have hturn := (driverTurn_cases hn.inStep h).1
  have hresume : (n.resume inp).macState.currentState = .start := hstate
  clear h
  cases hturn with
  | start _ h =>
    obtain ⟨-, queues, rfl⟩ := executeStart_cases h
    exact ⟨rfl, rfl⟩
  | initialization hother _ | synchronization hother _ | unsynchronized hother _
  | selection hother _ | noFrameTimer hother _ | mediumAccess hother _ =>
    exact nomatch hresume.symm.trans hother

/-- `SYNCHRONIZATION` adds the frame it hears. -/
theorem executeSynchronization_frameHeard {inp : DriverInput} {ret : MacExecution}
    (hstate : (n.resume inp).macState.currentState = .synchronization)
    (h : executeSynchronization build inp.mac.time inp.mac.attempts inp.mac.syncPolls
      (n.resume inp) = .ok (n', ret)) :
    n'.wakeupFrame = n.wakeupFrame + frameHeard build (inp, n) := by
  cases hfirst : n.isFirstNode with
  | true =>
    -- the first node of a network hears nothing
    have hnone : frameHeard build (inp, n) = 0 := by
      refine if_neg fun hjoins => ?_
      have hjoins : n.isFirstNode = false := hjoins.2
      exact nomatch hfirst.symm.trans hjoins
    have hresume : (n.resume inp).isFirstNode = true := hfirst
    unfold executeSynchronization at h
    dsimp only at h
    rw [if_pos hresume] at h
    cases h
    rw [hnone]
    exact (UInt32.add_zero _).symm
  | false =>
    have hsome : frameHeard build (inp, n) =
        firstFrame build inp.mac.attempts (n.resume inp) := if_pos ⟨hstate, hfirst⟩
    rw [hsome]
    exact executeSynchronization_wakeupFrame (n := n.resume inp) hfirst h

/-- No turn leads back to `START`. -/
theorem driverTurn_ne_start {inp : DriverInput} (hn : WellFormed n)
    (hstate : n.macState.currentState ≠ .start) (h : driverTurn build inp n = some n') :
    n'.macState.currentState ≠ .start := by
  rcases driverTurn_edge hn.inStep h with hedge | hsame
  · rcases hedge.target with htarget | htarget | htarget | htarget <;> rw [htarget] <;> decide
  · rwa [hsame]

/-- **A later turn** adds the frame it hears. -/
theorem driverTurn_wakeupFrame {inp : DriverInput} (hn : WellFormed n)
    (hstate : n.macState.currentState ≠ .start) (h : driverTurn build inp n = some n') :
    n'.wakeupFrame = n.wakeupFrame + frameHeard build (inp, n) := by
  have hturn := (driverTurn_cases hn.inStep h).1
  -- all states but `SYNCHRONIZATION` leave it alone
  have hother (hs : (n.resume inp).macState.currentState ≠ .synchronization) :
      n.wakeupFrame + frameHeard build (inp, n) = n.wakeupFrame := by
    have hnone : frameHeard build (inp, n) = 0 := if_neg fun hsync => hs hsync.1
    rw [hnone, UInt32.add_zero]
  clear h
  cases hturn with
  | start hstart _ => exact absurd hstart hstate
  | initialization hs h =>
    obtain ⟨-, timeouts, clock, first, rfl⟩ := executeInitialization_cases h
    exact (hother (by rw [hs]; decide)).symm
  | synchronization hs h | unsynchronized hs h =>
    have hframe := executeSynchronization_frameHeard hs h
    exact hframe
  | selection hs h | noFrameTimer hs h =>
    rw [hother (by rw [hs]; decide)]
    rcases executeTimeslotAndChannelSelection_cases h with ⟨-, -, rfl⟩ | ⟨-, -, timeouts, rfl⟩ |
      ⟨-, -, timeouts, clock, i, j, k, -, rfl⟩ | ⟨-, -, -, timeouts, clock, rfl⟩ <;> rfl
  | mediumAccess hs h =>
    rw [hother (by rw [hs]; decide)]
    exact congrArg Standing.wakeupFrame (executeMediumAccess_standing h).1

/-- **`_wakeup_frame` after a run** is what it was and the frames of the first packets that every
execution of `SYNCHRONIZATION` has heard. -/
theorem driverRun_wakeupFrame {inputs : List DriverInput} (hn : WellFormed n)
    (hstate : n.macState.currentState ≠ .start)
    (hrun : inputs.foldlM (fun m inp => driverTurn build inp m) n = some n') :
    n'.wakeupFrame = n.wakeupFrame + framesHeard build (taken (driverTurn build) inputs n) := by
  induction inputs generalizing n with
  | nil =>
    obtain rfl : n = n' := Option.some.inj hrun
    exact (UInt32.add_zero _).symm
  | cons inp inputs ih =>
    rw [List.foldlM_cons] at hrun
    obtain ⟨m, hturn, hrun⟩ := Option.bind_eq_some_iff.mp hrun
    have hm := driverTurn_ne_start hn hstate hturn
    have hframe := driverTurn_wakeupFrame hn hstate hturn
    have htaken : taken (driverTurn build) (inp :: inputs) n =
        (inp, n) :: taken (driverTurn build) inputs m := by
      simp [taken, hturn]
    rw [ih (hn.turn hturn) hm hrun, hframe, htaken, framesHeard, framesHeard, List.map_cons,
      List.sum_cons, UInt32.add_assoc]

/-- The period is between one frame and a frame's number of slots less one. -/
def PeriodBounded (frames : UInt32) : Prop :=
  1 ≤ frames ∧ frames ≤ UInt32.ofNat (Config.maxNumberSlots - 1)

instance (frames : UInt32) : Decidable (PeriodBounded frames) :=
  inferInstanceAs (Decidable (_ ∧ _))

/-- `START` draws a bounded period. -/
theorem periodBounded_drawnFrames (rand : ℕ) : PeriodBounded (drawnFrames rand) := by
  have hlt : rand % Config.maxNumberSlots < 16 := Nat.mod_lt _ (by decide)
  unfold drawnFrames
  generalize rand % Config.maxNumberSlots = k at hlt ⊢
  revert k
  decide

/-- **The listening periods of a run**: a successful `SYNCHRONIZATION` of a node that is not the first
one ends its period within the bounds after the frame of the first packet exactly if the frames
drawn, with the frames of the first packets that earlier executions have heard, are within them. -/
theorem listeningPeriod_bounded_iff (build : Build) (timeouts : Timeouts) (clock : ℕ)
    (queues : IpcQueues) (start : DriverInput) (inputs : List DriverInput) (inp : DriverInput)
    (n n' : Node) (pkt : ControlPacket)
    (hrun : (start :: inputs).foldlM (fun m inp => driverTurn build inp m)
      (mclmacInit timeouts clock queues) = some n)
    (hstate : n.macState.currentState = .synchronization) (hjoins : n.isFirstNode = false)
    (hexec : mclmacExecuteMacStateMachine build inp.mac (n.resume inp) = .ok (n', .success))
    (hheard : firstCtrlpkt build inp.mac.attempts (n.resume inp) = some pkt) :
    PeriodBounded (n'.wakeupFrame - pkt.currentFrame) ↔
      PeriodBounded (drawnFrames start.mac.rand +
        framesHeard build (taken (driverTurn build) (start :: inputs)
          (mclmacInit timeouts clock queues))) := by
  -- the frames of the run
  have hinit := wellFormed_init timeouts clock queues
  rw [List.foldlM_cons] at hrun
  obtain ⟨m, hturn, hrun⟩ := Option.bind_eq_some_iff.mp hrun
  obtain ⟨hm, hdrawn⟩ := driverTurn_start hinit rfl hturn
  have hframes := driverRun_wakeupFrame (hinit.turn hturn) (by rw [hm]; decide) hrun
  have htaken : taken (driverTurn build) (start :: inputs) (mclmacInit timeouts clock queues) =
      (start, mclmacInit timeouts clock queues) :: taken (driverTurn build) inputs m := by
    simp [taken, hturn]
  have hfirst : frameHeard build (start, mclmacInit timeouts clock queues) = 0 := by
    refine if_neg fun hsync => ?_
    have hstart : MacState.start = .synchronization := hsync.1
    cases hstart
  rw [htaken, framesHeard, List.map_cons, List.sum_cons, hfirst, UInt32.zero_add]
  -- the frame of this execution
  have hresume : (n.resume inp).macState.currentState = .synchronization := hstate
  unfold mclmacExecuteMacStateMachine at hexec
  rw [hresume] at hexec
  have hwakeup := executeSynchronization_wakeupFrame (n := n.resume inp) hjoins hexec
  have hperiod : n'.wakeupFrame - pkt.currentFrame = n.wakeupFrame := by
    rw [hwakeup, firstFrame, hheard]
    exact UInt32.add_sub_cancel _ _
  rw [hperiod, hframes, hdrawn]
  rfl

/-! ### A node that synchronises twice -/

/-- A control packet of the frame, which says that its slots are free or all of them occupied. -/
def heardInFrame (frame : UInt32) (occupied : UInt8) : CtrlRadio :=
  .heard (controlpacketGetPacketBytestring
    { currentFrame := frame
      networkTime := frame.toUInt64 * Config.frameDuration.toUInt64
      occupiedSlots := fun _ _ => occupied } 0)

/-- The node draws one frame and hears of a network. -/
def hearsNetwork : List DriverInput :=
  [{ tick := ⟨0, false⟩, queues := newNode.queues, mac := { rand := 1, pid := 1 } },
    { tick := ⟨0, false⟩, mac := { initPolls := [{ detected := true, tick := ⟨0, false⟩ }] } }]

/-- It synchronises in frame 15, and finds no slot. -/
def findsNoSlot : List DriverInput :=
  [{ tick := ⟨0, false⟩, mac := { attempts := [heardInFrame 15 0xff] } },
    { tick := ⟨0, false⟩, mac := { frameTicks := [⟨1280000, true⟩] } }]

/-- It hears a control packet of frame 17, and waits for fifteen frames. -/
def hearsFrame17 : DriverInput where
  tick := ⟨1280000, false⟩
  mac :=
    { attempts := [heardInFrame 17 0]
      syncPolls := (List.range 15).map fun j =>
        { radio := .lost false
          slotTick := ⟨1360000 + j * 1280000, true⟩
          frameTick := ⟨1360000 + j * 1280000, false⟩ } }

/-- The execution of `SYNCHRONIZATION` that follows a run, and the packet it hears. -/
def synchronizedAfter (inputs : List DriverInput) (inp : DriverInput) :
    Option (Node × (Node × MacExecution) × ControlPacket) :=
  (inputs.foldlM (fun m inp => driverTurn ⟨.linux, true⟩ inp m) newNode).bind fun n =>
    (mclmacExecuteMacStateMachine ⟨.linux, true⟩ inp.mac (n.resume inp)).toOption.bind fun r =>
      (firstCtrlpkt ⟨.linux, true⟩ inp.mac.attempts (n.resume inp)).map fun pkt => (n, r, pkt)

theorem synchronizedAfter_cases {inputs : List DriverInput} {inp : DriverInput} {pkt : ControlPacket}
    {r : Node × MacExecution} (h : synchronizedAfter inputs inp = some (n, r, pkt)) :
    inputs.foldlM (fun m inp => driverTurn ⟨.linux, true⟩ inp m) newNode = some n ∧
      mclmacExecuteMacStateMachine ⟨.linux, true⟩ inp.mac (n.resume inp) = .ok r ∧
      firstCtrlpkt ⟨.linux, true⟩ inp.mac.attempts (n.resume inp) = some pkt := by
  obtain ⟨n₁, hrun, h⟩ := Option.bind_eq_some_iff.mp h
  obtain ⟨r₁, hexec, h⟩ := Option.bind_eq_some_iff.mp h
  obtain ⟨pkt₁, hpkt, h⟩ := Option.map_eq_some_iff.mp h
  obtain ⟨rfl, rfl, rfl⟩ : n₁ = n ∧ r₁ = r ∧ pkt₁ = pkt := by simpa using h
  exact ⟨hrun, toOption_eq_some.mp hexec, hpkt⟩

/-- The first period is the one that was drawn. -/
theorem listeningPeriod_bounded_first :
    ∃ (n n' : Node) (pkt : ControlPacket),
      hearsNetwork.foldlM (fun m inp => driverTurn ⟨.linux, true⟩ inp m) newNode = some n ∧
      mclmacExecuteMacStateMachine ⟨.linux, true⟩ { attempts := [heardInFrame 15 0] }
        (n.resume { tick := ⟨0, false⟩, mac := { attempts := [heardInFrame 15 0] } }) =
          .ok (n', .success) ∧
      firstCtrlpkt ⟨.linux, true⟩ [heardInFrame 15 0]
        (n.resume { tick := ⟨0, false⟩, mac := { attempts := [heardInFrame 15 0] } }) = some pkt ∧
      PeriodBounded (n'.wakeupFrame - pkt.currentFrame) := by
  have heval : (synchronizedAfter hearsNetwork
      { tick := ⟨0, false⟩, mac := { attempts := [heardInFrame 15 0] } }).map (fun t => decide
        (t.1.macState.currentState = .synchronization ∧ t.1.isFirstNode = false ∧
          t.2.1.2 = .success)) = some true := by
    decide +kernel
  obtain ⟨⟨n, ⟨n', ret⟩, pkt⟩, hsync, heval⟩ := Option.map_eq_some_iff.mp heval
  obtain ⟨hstate, hjoins, hret⟩ := of_decide_eq_true heval
  obtain ⟨hrun, hexec, hheard⟩ := synchronizedAfter_cases hsync
  obtain rfl : ret = .success := hret
  refine ⟨n, n', pkt, hrun, hexec, hheard, (listeningPeriod_bounded_iff ⟨.linux, true⟩ (fun _ => {}) 0
    initQueues _ _ _ n n' pkt hrun hstate hjoins hexec hheard).mpr ?_⟩
  decide +kernel

/-- The second one is sixteen frames long. -/
theorem listeningPeriod_sixteenFrames :
    ∃ (n n' : Node) (pkt : ControlPacket), (hearsNetwork ++ findsNoSlot).foldlM
        (fun m inp => driverTurn ⟨.linux, true⟩ inp m) newNode = some n ∧
      n.macState.currentState = .synchronization ∧ n.isFirstNode = false ∧
      mclmacExecuteMacStateMachine ⟨.linux, true⟩ hearsFrame17.mac (n.resume hearsFrame17) =
        .ok (n', .success) ∧
      firstCtrlpkt ⟨.linux, true⟩ hearsFrame17.mac.attempts (n.resume hearsFrame17) = some pkt ∧
      n'.wakeupFrame - pkt.currentFrame = 16 ∧ ¬ PeriodBounded (n'.wakeupFrame - pkt.currentFrame) := by
  have heval : (synchronizedAfter (hearsNetwork ++ findsNoSlot) hearsFrame17).map (fun t => decide
      (t.1.macState.currentState = .synchronization ∧ t.1.isFirstNode = false ∧
        t.2.1.2 = .success ∧ t.2.1.1.wakeupFrame - t.2.2.currentFrame = 16)) = some true := by
    decide +kernel
  obtain ⟨⟨n, ⟨n', ret⟩, pkt⟩, hsync, heval⟩ := Option.map_eq_some_iff.mp heval
  obtain ⟨hstate, hjoins, hret, hperiod⟩ := of_decide_eq_true heval
  obtain ⟨hrun, hexec, hheard⟩ := synchronizedAfter_cases hsync
  obtain rfl : ret = .success := hret
  refine ⟨n, n', pkt, hrun, hstate, hjoins, hexec, hheard, hperiod, ?_⟩
  rw [hperiod]
  decide

end WmnIot
