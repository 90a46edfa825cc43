import WmnIot.Codec.ControlPacket
import WmnIot.Driver.Runs
import WmnIot.Joining.SlotIndices
import WmnIot.PowerMode.Accounting

/-! # Network time

A node in a session counts the network time in slots: every execution of `PASSIVE` adds one. A node
that synchronises takes the network time of the packet it hears for a time in microseconds, and
subtracts from it the durations of the frames and slots that have passed.

* **`session_clock`** — frame, slot and network time after a number of executions of `PASSIVE`.
* **`SynchronisesFrom`** — a joining node computes a time from the packet it hears, and sets its
  timers with it.
* **`joiner_timeRemaining_iff`** — when sender and joiner agree. -/

namespace WmnIot

open Runs BigEndian

/-! ## The clock of a session -/

/-- The number of completed executions of `PASSIVE` in a session. -/
def passiveExecutions (build : Build) (inputs : List PmInput) (n : Node) : ℕ :=
  (taken (sessionStep build) inputs n).countP fun t => t.2.powerMode.currentState = .passive

/-- The schedule of a node that entered its session in `n₀` and has executed `PASSIVE` `k` times. -/
structure ClockAt (n₀ : Node) (k : ℕ) (n : Node) : Prop where
  session : InSession n.powerMode.currentState
  slotsNumber : n.mac.frame.slotsNumber = UInt8.ofNat Config.maxNumberSlots
  currentFrame : n.mac.frame.currentFrame =
    n₀.wakeupFrame + 1 + UInt32.ofNat (k / Config.maxNumberSlots)
  currentSlot : n.mac.frame.currentSlot = UInt8.ofNat (k % Config.maxNumberSlots)
  networkTime : n.networkTime = n₀.networkTime + UInt64.ofNat k

variable {build : Build} {n₀ n m : Node} {k : ℕ}

/-- The clock counts like any node with the slots of the configuration. -/
theorem clockAt_iff : ClockAt n₀ k n ↔ InSession n.powerMode.currentState ∧
    Accounting { n₀ with nSlots := UInt8.ofNat Config.maxNumberSlots } k n := by
  have hslots : (UInt8.ofNat Config.maxNumberSlots).toNat = Config.maxNumberSlots := rfl
  have hslot : (UInt8.ofNat (k % Config.maxNumberSlots)).toNat = k % Config.maxNumberSlots := by
    rw [UInt8.toNat_ofNat']
    simp only [Config.maxNumberSlots]
    omega
  -- the words of the node against the numbers of `Accounting`
  have hframe : (n₀.wakeupFrame + 1 + UInt32.ofNat (k / Config.maxNumberSlots)).toNat =
      (n₀.wakeupFrame.toNat + 1 + k / Config.maxNumberSlots) % 2 ^ 32 := by
    rw [UInt32.toNat_add, UInt32.toNat_add, UInt32.toNat_ofNat', UInt32.toNat_one]
    omega
  have htime : (n₀.networkTime + UInt64.ofNat k).toNat = (n₀.networkTime.toNat + k) % 2 ^ 64 := by
    rw [UInt64.toNat_add, UInt64.toNat_ofNat']
    omega
  constructor
  · intro h
    refine ⟨h.session, h.slotsNumber, ?_, ?_, ?_⟩
    · rw [h.currentSlot, hslot]
      rfl
    · rw [h.currentFrame, hframe]
      rfl
    · rw [h.networkTime, htime]
  · rintro ⟨hsession, hnumber, hcurrentSlot, hcurrentFrame, hnetworkTime⟩
    exact ⟨hsession, hnumber, UInt32.toNat_inj.mp (hcurrentFrame.trans hframe.symm),
      UInt8.toNat_inj.mp (hcurrentSlot.trans hslot.symm),
      UInt64.toNat_inj.mp (hnetworkTime.trans htime.symm)⟩

/-- A turn of the session advances the clock exactly if it executes `PASSIVE`. -/
theorem ClockAt.step (h : ClockAt n₀ k n) {inp : PmInput} (hstep : sessionStep build inp n = some m) :
    ClockAt n₀ (if n.powerMode.currentState = .passive then k + 1 else k) m := by
  have hslots : 0 < UInt8.ofNat Config.maxNumberSlots := by decide
  have hturn := sessionStep_cases h.session hstep
  exact clockAt_iff.mpr ⟨hturn.inSession, (clockAt_iff.mp h).2.session hslots hturn⟩

/-- **The clock of a session** goes with the number of executions of `PASSIVE`. -/
theorem ClockAt.run (h : ClockAt n₀ k n) {inputs : List PmInput}
    (hrun : inputs.foldlM (fun s i => sessionStep build i s) n = some m) :
    ClockAt n₀ (k + passiveExecutions build inputs n) m := by
  induction inputs generalizing n k with
  | nil =>
    obtain rfl : n = m := Option.some.inj hrun
    exact h
  | cons inp inputs ih =>
    rw [List.foldlM_cons] at hrun
    obtain ⟨s, hstep, hrun⟩ := Option.bind_eq_some_iff.mp hrun
    -- a turn adds one to the count exactly if it executes `PASSIVE`
    have hcount : k + passiveExecutions build (inp :: inputs) n =
        (if n.powerMode.currentState = .passive then k + 1 else k) +
          passiveExecutions build inputs s := by
      simp only [passiveExecutions, taken, hstep, Option.elim_some, List.countP_cons,
        decide_eq_true_eq]
      split <;> omega
    rw [hcount]
    exact ih (h.step hstep) hrun

theorem clockAt_enter (hslots : n₀.nSlots = UInt8.ofNat Config.maxNumberSlots)
    (henter : enterMediumAccess build n₀ = .ok n) : ClockAt n₀ 0 n := by
  rw [enterMediumAccess_cases henter]
  exact ⟨.inl rfl, hslots, by simp [mclmacSetPowermodeState, setSlotTimer, startSession,
    Node.setTimeout, mclmacInitPowermodeStateMachine], rfl, by simp [mclmacSetPowermodeState,
    setSlotTimer, startSession, Node.setTimeout, mclmacInitPowermodeStateMachine]⟩

/-! ## What is left of the slot -/

/-- The duration of the frames and slots that have passed, as `SYNCHRONIZATION` computes it: the
slot of the packet and the one before it are not counted. -/
def timePassed (currentFrame : UInt32) (currentSlot : UInt8) : UInt32 :=
  currentFrame * Config.frameDuration +
    if currentSlot = 0 then 0 else (currentSlot.toUInt32 - 1) * Config.slotDuration

theorem timeRemaining_eq (currentFrame : UInt32) (currentSlot : UInt8) (networkTime : UInt64) :
    timeRemaining currentFrame currentSlot networkTime =
      Config.slotDuration - (networkTime.toUInt32 - timePassed currentFrame currentSlot) := by
  simp only [timeRemaining, timePassed, UInt64.toUInt32_sub, UInt32.toUInt32_toUInt64]

/-- What is left of the slot is positive and at most a slot exactly if less than a slot has
passed. -/
theorem slotDuration_sub_iff (passed : UInt32) :
    (0 < Config.slotDuration - passed ∧ Config.slotDuration - passed ≤ Config.slotDuration) ↔
      passed.toNat < 80000 := by
  have hslot : Config.slotDuration.toNat = 80000 := rfl
  have hlt := passed.toNat_lt
  rw [UInt32.lt_iff_toNat_lt, UInt32.le_iff_toNat_le, UInt32.toNat_sub, hslot, UInt32.toNat_zero]
  omega

/-- A packet that is sent and heard tells the joining node what it tells about its own slot. -/
theorem pktTimeRemaining_decode (pkt : ControlPacket) (pad : UInt8) :
    pktTimeRemaining (decodeCtrlpkt (controlpacketGetPacketBytestring pkt pad)) =
      pktTimeRemaining pkt := by
  rw [decodeCtrlpkt, construct_get pkt controlpacketClear pad rfl]
  simp only [pktTimeRemaining, timeRemaining_eq, readNetworkTime_toUInt32 rfl]

/-! ## Sender and joiner -/

/-- The slots whose duration `SYNCHRONIZATION` subtracts, for a sender that entered its session
with the wake-up frame `wakeupFrame` and has executed `PASSIVE` `k` times: those before the slot
of the packet and the one before it, or before the first slot of the frame. -/
def slotsSubtracted (wakeupFrame : UInt32) (k : ℕ) : ℤ :=
  Config.maxNumberSlots * (wakeupFrame.toNat + 1) + k - if k % Config.maxNumberSlots = 0 then 0 else 1

/-- What the joining node takes for the time that has passed of the slot, when the network time of
the sender was `networkTime` at the start of its session. -/
def passedOfSlot (networkTime : UInt64) (wakeupFrame : UInt32) (k : ℕ) : ℤ :=
  (networkTime.toNat + k - 80000 * slotsSubtracted wakeupFrame k) % 2 ^ 32

theorem ClockAt.passed (h : ClockAt n₀ k n) :
    ((n.networkTime.toUInt32 - timePassed n.mac.frame.currentFrame n.mac.frame.currentSlot).toNat :
      ℤ) = passedOfSlot n₀.networkTime n₀.wakeupFrame k := by
  have hframe : Config.frameDuration.toNat = 1280000 := rfl
  have hslot : Config.slotDuration.toNat = 80000 := rfl
  have hlt : k % 16 < 16 := Nat.mod_lt _ (by decide)
  have hzero : n.mac.frame.currentSlot = 0 ↔ k % 16 = 0 := by
    rw [h.currentSlot, ← UInt8.toNat_inj, UInt8.toNat_ofNat', UInt8.toNat_zero]
    simp only [Config.maxNumberSlots]
    omega
  have hw := n₀.wakeupFrame.toNat_lt
  have ht := n₀.networkTime.toNat_lt
  unfold timePassed passedOfSlot slotsSubtracted
  simp only [hzero]
  rw [UInt32.toNat_sub, UInt64.toNat_toUInt32, UInt32.toNat_add, UInt32.toNat_mul, hframe,
    h.networkTime, h.currentFrame, UInt64.toNat_add, UInt64.toNat_ofNat', UInt32.toNat_add,
    UInt32.toNat_add, UInt32.toNat_ofNat', UInt32.toNat_one]
  simp only [Config.maxNumberSlots]
  -- in the first slot of a frame no slot before it is subtracted
  by_cases hk : k % 16 = 0
  · simp only [hk, if_true, UInt32.toNat_zero]
    omega
  · simp only [hk, if_false]
    -- otherwise those up to the slot before the one of the packet
    have hbefore : ((n.mac.frame.currentSlot.toUInt32 - 1) * Config.slotDuration).toNat =
        (k % 16 - 1) * 80000 := by
      rw [UInt32.toNat_mul, hslot, UInt32.toNat_sub, UInt8.toNat_toUInt32, h.currentSlot,
        UInt8.toNat_ofNat', UInt32.toNat_one]
      simp only [Config.maxNumberSlots]
      rw [Nat.mod_eq_of_lt (show k % 16 < 2 ^ 8 by omega),
        show (2 ^ 32 - 1 + k % 16) % 2 ^ 32 = k % 16 - 1 by omega,
        Nat.mod_eq_of_lt (show (k % 16 - 1) * 80000 < 2 ^ 32 by omega)]
    rw [hbefore]
    omega

/-! ## Synchronising from a packet -/

/-- The bytes of the control packet that a node builds now. -/
def ctrlpktOnAir (n : Node) (pad : UInt8) : ByteString :=
  controlpacketGetPacketBytestring (mclmacCreateControlPacket n).mac.ctrlpkt pad

/-- The slot and the frame timer of the listening loop, set with this time. -/
def armWith (build : Build) (pkt : ControlPacket) (remaining : UInt32) (n : Node) :
    Node × SyncLocals :=
  let (n, slotTimer) := n.setTimeout build remaining.toNat
  let (n, frameTimer) := n.setTimeout build remaining.toNat
  (n,
    { currentFrame := pkt.currentFrame
      currentSlot := pkt.currentSlot
      slotTimer := slotTimer
      frameTimer := frameTimer })

/-- `SYNCHRONIZATION` once it has computed a time for what is left of the slot: it sets its timers with
this time, and listens on. -/
def armAndListen (build : Build) (polls : List SyncPoll) (pkt : ControlPacket) (remaining : UInt32)
    (n : Node) : Except Halt (Node × MacExecution) := do
  let (n, l) := armWith build pkt remaining n
  if l.slotTimer = Config.timeoutSetError ∨ l.frameTimer = Config.timeoutSetError then
    return (n, .failed)
  let s ← listenOn build polls (n, l)
  return (endListening s, .success)

/-- **Synchronising from a packet**: executing `SYNCHRONIZATION`, `j` hears the bytes, adopts the packet
in `m`, computes the time from it, and sets its timers with this time. -/
structure SynchronisesFrom (build : Build) (time : UInt32) (attempts : List CtrlRadio)
    (polls : List SyncPoll) (j : Node) (b : ByteString) (m : Node) (remaining : UInt32) : Prop where
  hears : ∃ j₁, listenCtrlpkt build 11 attempts (beginListening j) = .ok (j₁, some b) ∧
    adoptCtrlpkt j₁ (decodeCtrlpkt b) = .ok m
  computes : timeRemaining (decodeCtrlpkt b).currentFrame (decodeCtrlpkt b).currentSlot
    m.networkTime = remaining
  arms : executeSynchronization build time attempts polls j =
    armAndListen build polls (decodeCtrlpkt b) remaining m

/-- A packet of one of the slots is adopted. -/
theorem exists_adoptCtrlpkt (n : Node) {pkt : ControlPacket}
    (hslot : pkt.currentSlot.toNat < Config.maxNumberSlots) : ∃ m, adoptCtrlpkt n pkt = .ok m := by
  have hbounds := (adoptCtrlpkt_ne_outOfBounds n pkt).mpr hslot
  unfold adoptCtrlpkt markSelectedSlot at hbounds ⊢
  dsimp only at hbounds ⊢
  split at hbounds
  · next hlt =>
    rw [dif_pos hlt]
    exact ⟨_, rfl⟩
  · exact absurd rfl hbounds

/-- A node that has adopted a packet arms its timers with the time the packet tells. -/
theorem joinFrom_of_adopted {polls : List SyncPoll} {pkt : ControlPacket}
    (hadopt : adoptCtrlpkt n pkt = .ok m) :
    joinFrom build polls pkt n = armAndListen build polls pkt (pktTimeRemaining pkt) m := by
  have hremaining : timeRemaining pkt.currentFrame pkt.currentSlot m.networkTime =
      pktTimeRemaining pkt := by
    rw [adoptCtrlpkt_networkTime hadopt]
    rfl
  unfold joinFrom
  rw [hadopt, ok_bind]
  have harm : armSyncTimers build pkt m = armWith build pkt (pktTimeRemaining pkt) m := by
    rw [← hremaining]
    rfl
  unfold armAndListen
  rw [harm]
  rfl

/-- **A joining node** that hears a packet of one of the slots synchronises from it, with the time the
packet tells. -/
theorem synchronisesFrom {j j₁ : Node} {b : ByteString} (time : UInt32) (attempts : List CtrlRadio)
    (polls : List SyncPoll) (hfirst : j.isFirstNode = false)
    (hheard : listenCtrlpkt build 11 attempts (beginListening j) = .ok (j₁, some b))
    (hslot : (decodeCtrlpkt b).currentSlot.toNat < Config.maxNumberSlots) :
    ∃ j₂, SynchronisesFrom build time attempts polls j b j₂ (pktTimeRemaining (decodeCtrlpkt b)) := by
  obtain ⟨j₂, hadopt⟩ := exists_adoptCtrlpkt j₁ hslot
  refine ⟨j₂, ⟨j₁, hheard, hadopt⟩, ?_, ?_⟩
  · rw [adoptCtrlpkt_networkTime hadopt]
    rfl
  · have hheard' : listenCtrlpkt build 11 attempts { j with hopCount := 0xffff, networkTime := 0 } =
        .ok (j₁, some b) := hheard
    unfold executeSynchronization
    rw [if_neg (by rw [hfirst]; exact Bool.false_ne_true)]
    dsimp only
    rw [hheard', ok_bind]
    exact joinFrom_of_adopted hadopt

/-- The packet of a node in a session is one of the slots. -/
theorem ClockAt.slot_onAir (h : ClockAt n₀ k n) (pad : UInt8) :
    (decodeCtrlpkt (ctrlpktOnAir n pad)).currentSlot.toNat < Config.maxNumberSlots := by
  have hslot : (decodeCtrlpkt (ctrlpktOnAir n pad)).currentSlot = n.mac.frame.currentSlot := by
    rw [ctrlpktOnAir, decodeCtrlpkt, construct_get _ controlpacketClear pad rfl]
    rfl
  rw [hslot, h.currentSlot, UInt8.toNat_ofNat']
  simp only [Config.maxNumberSlots]
  omega

/-- **Sender and joiner on network time**: a node has entered its session and executed `PASSIVE` `k`
times, and another one hears exactly the control packet it builds then. Executing `SYNCHRONIZATION`,
the latter sets its slot and its frame timer with a time that is positive and at most a slot exactly if
the network time of the sender at its entry, plus `k` and taken for microseconds, lies less than a
slot after the start that the joining node computes for the slot. -/
theorem joiner_timeRemaining_iff (build joining : Build) (inputs : List PmInput) (n₀ n m j j₁ : Node)
    (pad : UInt8) (time : UInt32) (attempts : List CtrlRadio) (polls : List SyncPoll)
    (hslots : n₀.nSlots = UInt8.ofNat Config.maxNumberSlots)
    (henter : enterMediumAccess build n₀ = .ok n)
    (hrun : inputs.foldlM (fun s i => sessionStep build i s) n = some m)
    (hfirst : j.isFirstNode = false)
    (hheard : listenCtrlpkt joining 11 attempts (beginListening j) =
      .ok (j₁, some (ctrlpktOnAir m pad))) :
    ∃ j₂ remaining,
      SynchronisesFrom joining time attempts polls j (ctrlpktOnAir m pad) j₂ remaining ∧
      ((0 < remaining ∧ remaining ≤ Config.slotDuration) ↔
        passedOfSlot n₀.networkTime n₀.wakeupFrame (passiveExecutions build inputs n) < 80000) := by
  have hclock := (clockAt_enter hslots henter).run hrun
  rw [Nat.zero_add] at hclock
  obtain ⟨j₂, hjoins⟩ := synchronisesFrom time attempts polls hfirst hheard (hclock.slot_onAir pad)
  refine ⟨j₂, _, hjoins, ?_⟩
  rw [ctrlpktOnAir, pktTimeRemaining_decode, ← hclock.passed, pktTimeRemaining, timeRemaining_eq,
    slotDuration_sub_iff]
  exact Nat.cast_lt.symm

/-! ### The first slots of a network -/

/-- A new node joins a network whose network time is 2560000, loses it again, and becomes the first
node of another one, of which it goes on to tell that time. -/
def elderLost : List DriverInput :=
  joinHearing (controlpacketGetPacketBytestring { networkTime := 2560000 } 0) ++
    { tick := ⟨1280002, false⟩
      mac :=
        { powerMode :=
            [{ passive := [{ tick := ⟨1360002, true⟩ }] },
              { active := { tick := ⟨1360003, false⟩, cf := some { nodeId := (1, 1) } } ::
                  (List.range' 1 8).map fun j => { tick := ⟨1360002 + j * 500, true⟩ } },
              { attempt₁ := .heard (controlpacketGetPacketBytestring {} 0) }] } } ::
    joinAgain

/-- A session that begins at this time, up to the end of its first slot; the node hears nothing. -/
def quietFrom (start : ℕ) : DriverInput where
  tick := ⟨start, false⟩
  mac :=
    { powerMode :=
        [{ passive := [{ tick := ⟨start + 80000, true⟩ }] },
          { active := (List.range' 1 8).map fun j => { tick := ⟨start + 80000 + j * 500, true⟩ } }] }

/-- The node after these turns of the driver, then at its entry into `MEDIUM_ACCESS` and after the
turns of its session in the input. -/
def senderAfter (turns : List DriverInput) (inp : DriverInput) : Option (Node × Node × Node) :=
  (turns.foldlM (fun m inp => driverTurn ⟨.linux, true⟩ inp m) newNode).bind fun n₀ =>
    (enterMediumAccess ⟨.linux, true⟩ (n₀.resume inp)).toOption.bind fun n =>
      (inp.mac.powerMode.foldlM (fun s i => sessionStep ⟨.linux, true⟩ i s) n).map fun m => (n₀, n, m)

theorem senderAfter_eq_some {turns : List DriverInput} {inp : DriverInput}
    (h : senderAfter turns inp = some (n₀, n, m)) :
    turns.foldlM (fun m inp => driverTurn ⟨.linux, true⟩ inp m) newNode = some n₀ ∧
      enterMediumAccess ⟨.linux, true⟩ (n₀.resume inp) = .ok n ∧
      inp.mac.powerMode.foldlM (fun s i => sessionStep ⟨.linux, true⟩ i s) n = some m := by
  obtain ⟨n₀', hturns, h⟩ := Option.bind_eq_some_iff.mp h
  obtain ⟨n', henter, h⟩ := Option.bind_eq_some_iff.mp h
  obtain ⟨m', hrun, h⟩ := Option.map_eq_some_iff.mp h
  cases h
  exact ⟨hturns, toOption_eq_some.mp henter, hrun⟩

/-- Where `NATIVE` replaces the radio, the first attempt hears the packet that is on the air. -/
theorem listenCtrlpkt_onAir (os : OS) (count : ℕ) (m n : Node) (pad : UInt8) :
    listenCtrlpkt ⟨os, true⟩ (count + 1) [.heard (ctrlpktOnAir m pad)] n =
      .ok (n, some (ctrlpktOnAir m pad)) := by
  have htype : ctrlpktOnAir m pad 0 = 1 := rfl
  have hheard : mclmacReceiveCtrlpktSync ⟨os, true⟩ (.heard (ctrlpktOnAir m pad)) n =
      (n, (some (ctrlpktOnAir m pad)).filter fun b => b 0 == 1) := rfl
  rw [listenCtrlpkt, hheard, Option.filter_some, htype]
  rfl

/-- The first node of a network that has lost an elder one has executed `PASSIVE` once when a new node
hears it, and agrees with it. -/
theorem joiner_timeRemaining_elderLost :
    ∃ n₀ n m j j₂ remaining,
      senderAfter elderLost (quietFrom 3000000) = some (n₀, n, m) ∧ n₀.isFirstNode = true ∧
      passiveExecutions ⟨.linux, true⟩ (quietFrom 3000000).mac.powerMode n = 1 ∧
      othersDetected.foldlM (fun m inp => driverTurn ⟨.linux, true⟩ inp m) newNode = some j ∧
      SynchronisesFrom ⟨.linux, true⟩ 0 [.heard (ctrlpktOnAir m 0)] [] j (ctrlpktOnAir m 0) j₂
        remaining ∧
      0 < remaining ∧ remaining ≤ Config.slotDuration := by
  have hsender : (senderAfter elderLost (quietFrom 3000000)).map (fun s => (s.1.isFirstNode,
      s.1.nSlots, s.1.networkTime, s.1.wakeupFrame,
      passiveExecutions ⟨.linux, true⟩ (quietFrom 3000000).mac.powerMode s.2.1)) =
        some (true, UInt8.ofNat Config.maxNumberSlots, 2560001, 1, 1) := by
    decide +kernel
  have hjoiner : (othersDetected.foldlM (fun m inp => driverTurn ⟨.linux, true⟩ inp m) newNode).map
      (fun j => j.isFirstNode) = some false := by
    decide +kernel
  obtain ⟨⟨n₀, n, m⟩, hafter, hsender⟩ := Option.map_eq_some_iff.mp hsender
  obtain ⟨j, hj, hfirst⟩ := Option.map_eq_some_iff.mp hjoiner
  obtain ⟨-, henter, hrun⟩ := senderAfter_eq_some hafter
  simp only [Prod.mk.injEq] at hsender
  obtain ⟨hn₀, hslots, htime, hwakeup, hpassive⟩ := hsender
  -- the sender entered with frame 1 and the time 2560001, of which thirty-two slots are subtracted
  obtain ⟨j₂, remaining, hjoins, hiff⟩ := joiner_timeRemaining_iff ⟨.linux, true⟩ ⟨.linux, true⟩
    (quietFrom 3000000).mac.powerMode (n₀.resume (quietFrom 3000000)) n m j (beginListening j) 0 0
    [.heard (ctrlpktOnAir m 0)] [] hslots henter hrun hfirst (listenCtrlpkt_onAir _ _ _ _ _)
  have hentered : (n₀.resume (quietFrom 3000000)).networkTime = 2560001 ∧
      (n₀.resume (quietFrom 3000000)).wakeupFrame = 1 := ⟨htime, hwakeup⟩
  rw [hentered.1, hentered.2, hpassive] at hiff
  exact ⟨n₀, n, m, j, j₂, remaining, hafter, hn₀, hpassive, hj, hjoins, hiff.mpr (by decide)⟩

/-- A new node that hears the first node of a network after its first slot sets its timers with
thirty-three slots less a microsecond. -/
theorem joiner_timeRemaining_firstSlot :
    ∃ n₀ n m j j₂ remaining,
      senderAfter joinAlone (quietFrom Config.detectionTime) = some (n₀, n, m) ∧
      n₀.isFirstNode = true ∧
      passiveExecutions ⟨.linux, true⟩ (quietFrom Config.detectionTime).mac.powerMode n = 1 ∧
      othersDetected.foldlM (fun m inp => driverTurn ⟨.linux, true⟩ inp m) newNode = some j ∧
      SynchronisesFrom ⟨.linux, true⟩ 0 [.heard (ctrlpktOnAir m 0)] [] j (ctrlpktOnAir m 0) j₂
        remaining ∧
      remaining = 2639999 ∧ ¬ (0 < remaining ∧ remaining ≤ Config.slotDuration) := by
  have hsender : (senderAfter joinAlone (quietFrom Config.detectionTime)).map (fun s =>
      (s.1.isFirstNode, passiveExecutions ⟨.linux, true⟩
        (quietFrom Config.detectionTime).mac.powerMode s.2.1,
        pktTimeRemaining (decodeCtrlpkt (ctrlpktOnAir s.2.2 0)),
        (decodeCtrlpkt (ctrlpktOnAir s.2.2 0)).currentSlot)) = some (true, 1, 2639999, 1) := by
    decide +kernel
  have hjoiner : (othersDetected.foldlM (fun m inp => driverTurn ⟨.linux, true⟩ inp m) newNode).map
      (fun j => j.isFirstNode) = some false := by
    decide +kernel
  obtain ⟨⟨n₀, n, m⟩, hafter, hsender⟩ := Option.map_eq_some_iff.mp hsender
  obtain ⟨j, hj, hfirst⟩ := Option.map_eq_some_iff.mp hjoiner
  simp only [Prod.mk.injEq] at hsender
  obtain ⟨hn₀, hpassive, hremaining, hslot⟩ := hsender
  -- the packet says frame 2 and slot 1 of a network whose time is 1
  obtain ⟨j₂, hjoins⟩ := synchronisesFrom 0 [.heard (ctrlpktOnAir m 0)] [] hfirst
    (listenCtrlpkt_onAir .linux 10 m _ 0) (by rw [hslot]; decide)
  rw [hremaining] at hjoins
  exact ⟨n₀, n, m, j, j₂, _, hafter, hn₀, hpassive, hj, hjoins, rfl, by decide⟩

end WmnIot
