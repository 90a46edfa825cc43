import WmnIot.Driver.Runs
import WmnIot.Joining.SlotIndices
import WmnIot.Sessions.Faults

/-! # Where the driver can fail

A turn of the driver that does not return either goes on polling or fails. In `START` opening the
queue can fail, in `SYNCHRONIZATION` a control packet that is heard outside the slots, and in
`MEDIUM_ACCESS` a turn of the session. Nothing else can.

* **`JoinFault`**, **`MediumAccessFault`**, **`TurnFault`** — why a turn fails.
* **`driverStep_error_iff`** — the turns that fail. -/

namespace WmnIot

open Runs

variable {build : Build} {n n' m : Node} {e : Halt}

/-! ## The received packets between two turns -/

/-- The ring of the received packets holds packets that can be encoded. -/
def ReceivedEncodable (os : OS) (n : Node) : Prop :=
  ∀ entry, (n.mac.received.packetsReceived entry).Encodable os

/-- **Every node that is reached** has such a ring. -/
theorem Reachable.receivedEncodable (h : Reachable build n) : ReceivedEncodable build.os n := by
  have hinv : WellFormed n ∧ ReceivedEncodable build.os n := by
    refine h.inv (fun m => WellFormed m ∧ ReceivedEncodable build.os m) ?_ ?_
    · intro timeouts clock queues
      exact ⟨wellFormed_init timeouts clock queues, fun _ => ReceptionSound.encodable_clear _⟩
    · rintro inp m m' ⟨hwell, hm⟩ hturn
      refine ⟨hwell.turn hturn, ?_⟩
      by_cases hstate : m.macState.currentState = .mediumAccess
      · obtain ⟨k, hexec, rfl⟩ := driverTurn_mediumAccess hwell hstate hturn
        obtain ⟨-, n₁, i, err, k', -, -, rfl⟩ := executeMediumAccess_cases hexec
        exact fun _ => ReceptionSound.encodable_clear _
      · obtain ⟨_, _, hmac⟩ := driverTurn_mac hwell hstate hturn
        have hsame : m'.mac.received = m.mac.received := by rw [hmac]
        intro entry
        rw [hsame]
        exact hm entry
  exact hinv.2

/-! ## `SYNCHRONIZATION` -/

theorem markSelectedSlot_error_iff {slot : UInt8} :
    markSelectedSlot n slot = .error e ↔
      e = .outOfBounds ∧ Config.maxNumberSlots ≤ slot.toNat := by
  rw [← not_lt, ← slotByte_lt_iff]
  unfold markSelectedSlot
  dsimp only
  split
  · next hlt => exact iff_of_false nofun fun h => h.2 hlt
  · next hlt => exact ⟨fun h => ⟨(Except.error.inj h).symm, hlt⟩, fun h => by rw [h.1]⟩

/-- A turn of the listening loop fails on a packet that is heard outside the slots. -/
theorem syncPoll_error_iff (p : SyncPoll) (s : Node × SyncLocals) :
    syncPoll build p s = .error e ↔ e = .outOfBounds ∧ (syncEvent build p s).heard = true ∧
      Config.maxNumberSlots ≤ s.2.currentSlot.toNat := by
  obtain ⟨n, l⟩ := s
  unfold syncPoll syncEvent
  dsimp only
  generalize mclmacReceiveCtrlpktSync build p.radio n = received
  obtain ⟨n₁, _ | b⟩ := received
  · exact iff_of_false nofun fun h => Bool.noConfusion h.2.1
  · have hmark : markSelectedSlot (mergeCtrlpkt n₁ (decodeCtrlpkt b)) l.currentSlot = .error e ↔ _ :=
      markSelectedSlot_error_iff
    dsimp only
    rw [bind_eq_error, hmark]
    simp

/-- Why a node that joins from a first control packet fails: that packet names a slot that is none of
the network's, or a later one is heard in such a slot. -/
def JoinFault (build : Build) (polls : List SyncPoll) (pkt : ControlPacket) (n : Node) : Prop :=
  Config.maxNumberSlots ≤ pkt.currentSlot.toNat ∨
    ∃ t ∈ joinTurns build polls pkt n, (syncEvent build t.1 t.2).heard = true ∧
      Config.maxNumberSlots ≤ t.2.2.currentSlot.toNat

theorem listenOn_error_iff (he : e ≠ .polling) (polls : List SyncPoll) (s : Node × SyncLocals) :
    listenOn build polls s = .error e ↔ e = .outOfBounds ∧ ∃ t ∈ syncTurns build polls s,
      (syncEvent build t.1 t.2).heard = true ∧ Config.maxNumberSlots ≤ t.2.2.currentSlot.toNat := by
  unfold listenOn syncTurns
  by_cases hgo : stillListening s.1 s.2
  · rw [if_pos hgo, if_pos hgo]
    have hloop : pollLoop .polling (syncPoll build) polls s ≠ .error e ↔ _ :=
      pollLoop_ne_error_iff he.symm polls s
    rw [← not_iff_not, ← Ne, hloop]
    simp only [Ne, syncPoll_error_iff, not_and, not_exists]
    exact ⟨fun h hout t ht hheard => h t ht hout hheard, fun h t ht hout hheard => h hout t ht hheard⟩
  · rw [if_neg hgo, if_neg hgo]
    exact iff_of_false nofun (by simp)

theorem joinFrom_error_iff (he : e ≠ .polling) (polls : List SyncPoll) (pkt : ControlPacket)
    (n : Node) :
    joinFrom build polls pkt n = .error e ↔ e = .outOfBounds ∧ JoinFault build polls pkt n := by
  -- the first access is the slot of the packet in the map
  have hadopted : adoptCtrlpkt n pkt = .error e ↔
      e = .outOfBounds ∧ Config.maxNumberSlots ≤ pkt.currentSlot.toNat := by
    unfold adoptCtrlpkt
    dsimp only
    rw [bind_pure_comp, map_eq_error]
    exact markSelectedSlot_error_iff
  unfold joinFrom JoinFault joinTurns
  cases hadopt : adoptCtrlpkt n pkt with
  | error e' =>
    have hsame : e' = e ↔ e = .outOfBounds ∧ Config.maxNumberSlots ≤ pkt.currentSlot.toNat := by
      rwa [hadopt, Except.error.injEq] at hadopted
    simp [hsame]
  | ok m =>
    have hin : ¬ Config.maxNumberSlots ≤ pkt.currentSlot.toNat := by
      have hbound := adoptCtrlpkt_ne_outOfBounds n pkt
      rw [hadopt] at hbound
      exact not_le.mpr (hbound.mp nofun)
    rw [ok_bind]
    dsimp only
    generalize armSyncTimers build pkt m = s
    obtain ⟨m', l⟩ := s
    dsimp only
    -- without both timers there is no turn that could fail
    by_cases herror : l.slotTimer = Config.timeoutSetError ∨ l.frameTimer = Config.timeoutSetError
    · rw [if_pos herror, if_pos herror]
      exact iff_of_false nofun (by simp [hin])
    · rw [if_neg herror, if_neg herror, bind_pure_comp, map_eq_error, listenOn_error_iff he]
      simp [hin]

/-- Why `SYNCHRONIZATION` fails. -/
def SynchronizationFault (build : Build) (inp : MacInput) (n : Node) : Prop :=
  n.isFirstNode = false ∧ ∃ m b,
    listenCtrlpkt build 11 inp.attempts { n with hopCount := 0xffff, networkTime := 0 } =
      .ok (m, some b) ∧
    JoinFault build inp.syncPolls (decodeCtrlpkt b) m

/-- Hearing the first packet fails for want of attempts only. -/
theorem listenCtrlpkt_ne_error (build : Build) (he : e ≠ .polling) (count : ℕ) (attempts : List CtrlRadio)
    (n : Node) : listenCtrlpkt build count attempts n ≠ .error e := by
  induction count generalizing attempts n with
  | zero =>
    intro h
    cases h
  | succ count ih =>
    cases attempts with
    | nil =>
      intro h
      exact he (Except.error.inj h).symm
    | cons radio attempts =>
      rw [listenCtrlpkt]
      generalize mclmacReceiveCtrlpktSync build radio n = received
      obtain ⟨m, _ | bytes⟩ := received
      · exact ih attempts m
      · intro h
        cases h

/-- **`SYNCHRONIZATION`** fails for this reason. -/
theorem executeSynchronization_error_iff (he : e ≠ .polling) (inp : MacInput) :
    executeSynchronization build inp.time inp.attempts inp.syncPolls n = .error e ↔
      e = .outOfBounds ∧ SynchronizationFault build inp n := by
  unfold executeSynchronization SynchronizationFault
  by_cases hfirst : n.isFirstNode = true
  · rw [if_pos hfirst]
    exact iff_of_false nofun fun h => Bool.noConfusion (hfirst.symm.trans h.2.1)
  rw [if_neg hfirst, and_iff_right (Bool.eq_false_of_not_eq_true hfirst)]
  dsimp only
  have hlisten := listenCtrlpkt_ne_error build he 11 inp.attempts
    { n with hopCount := 0xffff, networkTime := 0 }
  cases hheard : listenCtrlpkt build 11 inp.attempts
    { n with hopCount := 0xffff, networkTime := 0 } with
  | error e' =>
    have hne : e' ≠ e := fun h => hlisten (hheard.trans (congrArg _ h))
    rw [error_bind, Except.error.injEq]
    refine iff_of_false hne ?_
    rintro ⟨-, m, b, h, -⟩
    cases h
  | ok heard =>
    obtain ⟨m, _ | b⟩ := heard
    · refine iff_of_false nofun ?_
      rintro ⟨-, m, b, h, -⟩
      cases h
    · rw [ok_bind]
      dsimp only
      rw [joinFrom_error_iff he]
      simp

/-! ## `MEDIUM_ACCESS` -/

/-- `STARTP` does not fail: there are slots and channels. -/
theorem enterMediumAccess_returns (build : Build) (hslots : n.nSlots > 0) (hchannels : n.nChannels > 0) :
    ∃ n₀, enterMediumAccess build n = .ok n₀ := by
  have hexec (m : Node) (hmode : m.powerMode.currentState = .startp) (hpos : m.nSlots > 0)
      (hchannel : m.nChannels > 0) : mclmacExecutePowermodeState build {} m =
        .ok (setSlotTimer build (startSession m), .success) := by
    rw [executePowermode_eq build {} hpos, hmode]
    dsimp only
    rw [executeStartp_eq build hchannel]
    rfl
  have hstart := hexec { n with toMCLMAC := mclmacInitPowermodeStateMachine n.toMCLMAC } rfl hslots
    hchannels
  unfold enterMediumAccess
  exact ⟨_, bind_eq_ok.mpr ⟨_, hstart, rfl⟩⟩

/-- Why `MEDIUM_ACCESS` fails: a turn of its loop does. -/
def MediumAccessFault (build : Build) (inputs : List PmInput) (n : Node) (e : Halt) : Prop :=
  ∃ n₀ before inp rest m, enterMediumAccess build n = .ok n₀ ∧ inputs = before ++ inp :: rest ∧
    before.foldlM (fun k i => sessionStep build i k) n₀ = some m ∧
    SessionFault build (recorded (messagesRead build) (sessionStep build) before n₀) inp m e

/-- **`MEDIUM_ACCESS`** fails for this reason: neither `STARTP` nor `FINISHP` fails. -/
theorem executeMediumAccess_error_iff (he : e ≠ .polling) (hslots : n.nSlots > 0)
    (hchannels : n.nChannels > 0)
    (hencodable : ReceivedEncodable build.os n)
    (inputs : List PmInput) (last : PmInput) :
    executeMediumAccess build inputs last n = .error e ↔ MediumAccessFault build inputs n e := by
  obtain ⟨n₀, henter⟩ := enterMediumAccess_returns build hslots hchannels
  have hstart := SessionSound.start hslots hencodable henter
  have hsound (before : List PmInput) (m : Node)
      (hrun : before.foldlM (fun k i => sessionStep build i k) n₀ = some m) :
      SessionSound build n₀ m (recorded (messagesRead build) (sessionStep build) before n₀) :=
    run_recorded (SessionSound build n₀) (fun _ _ _ _ hk hstep => hk.step hstep) before hstart hrun
  have hloop : pollLoop .polling (mediumAccessPoll build) inputs n₀ = .error e ↔ _ :=
    pollLoop_eq_error_iff he.symm inputs
  rw [loopStep_mediumAccessPoll] at hloop
  -- `FINISHP` returns, whatever turn has ended the loop
  have hfinish (m : Node) (hends : pollLoop .polling (mediumAccessPoll build) inputs n₀ = .ok m) :
      ∃ r, mclmacExecutePowermodeState build last (mclmacUpdatePowermodeStateMachine m).1 = .ok r := by
    obtain ⟨inp, -, hlast⟩ := pollLoop_last (fun _ _ _ => sessionStep_eq_some) inputs hends
    obtain ⟨err, hend⟩ := sessionEnd_of_mediumAccessPoll (lastVisited_inSession hstart.session) hlast
    have hm : m.nSlots = n₀.nSlots :=
      (congrArg Standing.nSlots hend.standing).trans
        (congrArg Standing.nSlots (lastVisited_standing hstart.session))
    have hpos : (mclmacSetPowermodeState m .finishp).nSlots > 0 := hm ▸ hstart.nSlots
    rw [hend.update, executePowermode_eq build last hpos]
    exact ⟨(executeFinishp (mclmacSetPowermodeState m .finishp), .success), rfl⟩
  unfold executeMediumAccess
  rw [henter, ok_bind, bind_eq_error, hloop]
  constructor
  · rintro (⟨before, inp, rest, m, hsplit, hrun, hfails⟩ | ⟨m, hends, h⟩)
    · have hfault := (mediumAccessPoll_error_iff he (hsound before m hrun) inp).mp hfails
      exact ⟨n₀, before, inp, rest, m, henter, hsplit, hrun, hfault⟩
    · obtain ⟨r, hfinish⟩ := hfinish m hends
      rw [hfinish] at h
      cases h
  · rintro ⟨n₁, before, inp, rest, m, hother, hsplit, hrun, hfault⟩
    obtain rfl : n₀ = n₁ := Except.ok.inj (henter.symm.trans hother)
    have hfails := (mediumAccessPoll_error_iff he (hsound before m hrun) inp).mpr hfault
    exact .inl ⟨before, inp, rest, m, hsplit, hrun, hfails⟩

/-! ## Turns of the driver -/

/-- Why a turn of the driver fails. -/
inductive TurnFault (build : Build) (inp : MacInput) (n : Node) (e : Halt) : Prop
  | start (hstate : n.macState.currentState = .start)
      (h : openQueue build.os inp.pid n.macQueueId inp.pid n.queues = .error e)
  | synchronization (hstate : n.macState.currentState = .synchronization) (he : e = .outOfBounds)
      (h : SynchronizationFault build inp n)
  | mediumAccess (hstate : n.macState.currentState = .mediumAccess)
      (h : MediumAccessFault build inp.powerMode n e)

theorem executeStart_error_iff (rand : ℕ) (pid : Pid) : executeStart build rand pid n = .error e ↔
    openQueue build.os pid n.macQueueId pid n.queues = .error e := by
  unfold executeStart
  dsimp only
  rw [bind_eq_error]
  refine ⟨?_, .inl⟩
  rintro (h | ⟨r, -, h⟩)
  · exact h
  · cases h

theorem executeInitialization_ne_error (he : e ≠ .polling) (polls : List InitPoll) :
    executeInitialization build polls n ≠ .error e := by
  have hpoll (timer : ℕ) (p : InitPoll) (s : Node × Bool) : initPoll timer p s ≠ .error e := by
    unfold initPoll
    dsimp only
    split
    · exact nofun
    · split <;> exact nofun
  intro h
  rcases bind_eq_error.mp h with hloop | ⟨s, -, h⟩
  · exact (pollLoop_ne_error_iff he.symm polls _).mpr (fun t _ => hpoll _ t.1 t.2) hloop
  · cases h

theorem executeTimeslotAndChannelSelection_ne_error (he : e ≠ .polling) (rand : ℕ)
    (ticks : List Tick) : executeTimeslotAndChannelSelection build rand ticks n ≠ .error e := by
  intro h
  unfold executeTimeslotAndChannelSelection at h
  split at h
  · cases h
  dsimp only at h
  split at h
  · cases h
  rcases bind_eq_error.mp h with hloop | ⟨m, -, h⟩
  · have hpoll (timer : ℕ) (tick : Tick) (m : Node) : framePoll timer tick m ≠ .error e := by
      unfold framePoll
      exact nofun
    exact (pollLoop_ne_error_iff he.symm ticks _).mpr (fun t _ => hpoll _ t.1 t.2) hloop
  · cases h

/-- Then a node that has detected another one hears a control packet that names slot 16. -/
def slot16Heard : DriverInput where
  tick := ⟨2, false⟩
  mac := { attempts := [.heard slot16Packet] }

end WmnIot
