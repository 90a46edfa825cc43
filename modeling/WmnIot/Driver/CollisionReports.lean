import WmnIot.Codec.ControlPacket
import WmnIot.Driver.Runs

/-! # What nodes know and tell of collisions

A node notes a collision after `ACTIVE` and reports it with the control packet it sends next. Slot 0
and frequency 0 stand for no collision. Only the report clears the note: `FINISHP` and `STARTP` leave
it alone, so a session that `RECEIVE` ends before the report hands it on to the next one.

* **`collisionError_justified`** — a receiver leaves for a collision that was detected.
* **`StartsClean`**, **`LeavesPending`** — how a session starts, and what the last one leaves.
* **`session_startsClean_iff`** — the sessions of a run. -/

namespace WmnIot

open Runs

variable {build : Build} {n n' : Node}

/-! ## Reports -/

/-- What `RECEIVE` has heard when it returns a collision error. -/
theorem executeReceive_collisionError {attempt₁ attempt₂ : CtrlRadio} {polls : List ReceivePoll}
    (h : executeReceive build attempt₁ attempt₂ polls n = .ok (n', .collisionError)) :
    (mclmacReceiveControlPacket build attempt₁ n).2 = true ∧
      (mclmacReceiveControlPacket build attempt₁ n).1.mac.ctrlpktRecv.collisionFrequency =
        n.mac.transmitChannel ∧
      (mclmacReceiveControlPacket build attempt₁ n).1.mac.ctrlpktRecv.collisionSlot =
        n.mac.selectedSlot := by
  have hkept := congrArg Prod.fst (mclmacReceiveControlPacket_kept build attempt₁ n)
  have hchannel := congrArg Standing.transmitChannel hkept
  have hslot := congrArg Standing.selectedSlot hkept
  unfold executeReceive at h
  generalize mclmacReceiveControlPacket build attempt₁ n = received at h hchannel hslot
  obtain ⟨m, heard⟩ := received
  dsimp only at h
  split at h
  · cases h
  next hheard =>
    split at h
    · next hcollision =>
      exact ⟨by simpa using hheard, hcollision.1.trans hchannel, hcollision.2.trans hslot⟩
    split at h
    · cases h
    split at h
    · obtain ⟨_, -, h⟩ := bind_eq_ok.mp h
      cases h
    · cases h

/-- A control packet that is heard is decoded. -/
theorem ctrlpktRecv_of_heard {b : ByteString}
    (h : (mclmacReceiveControlPacket build (.heard b) n).2 = true) :
    (mclmacReceiveControlPacket build (.heard b) n).1.mac.ctrlpktRecv =
      controlpacketConstructPacketFromBytestring n.mac.ctrlpktRecv b := by
  unfold mclmacReceiveControlPacket at h ⊢
  by_cases hradio : (!build.native && build.os == .riot) = true
  · rw [if_pos hradio] at h ⊢
    unfold receiveWithin at h ⊢
    by_cases hset : (n.setTimeout build (n.mac.frame.slotDuration / 20)).2 = Config.timeoutSetError
    · rw [if_pos hset] at h
      cases h
    · rw [if_neg hset]
      rfl
  · rw [if_neg hradio]

/-- A node in the network has a channel. -/
theorem InNetwork.channel_ne_zero (h : InNetwork n) : n.mac.transmitChannel ≠ 0 := by
  obtain ⟨k, hk⟩ := h.channel
  have hfrequencies : ∀ k, Config.frequencies k ≠ 0 := by decide
  rw [hk]
  exact hfrequencies k

/-- The control packet that `TRANSMIT` sends. -/
def reportOf (n : Node) : ControlPacket :=
  (mclmacCreateControlPacket n).mac.ctrlpkt

/-- **No false collision errors**: if a receiver hears the control packet of a sender and returns a
collision error, the sender has detected a collision in the slot and on the channel of the receiver.
The packet of a sender that has not carries slot 0 and frequency 0, and evicts nobody. -/
theorem collisionError_justified (buildA buildB : Build) (a b : Node) (pad : UInt8)
    (attempt₂ : CtrlRadio) (polls : List ReceivePoll) (ha : SessionReachable buildA a)
    (hb : SessionReachable buildB b) :
    (∀ b', executeReceive buildB (.heard (controlpacketGetPacketBytestring (reportOf a) pad)) attempt₂
        polls b = .ok (b', .collisionError) →
      a.mac.collisionDetected = true ∧ a.mac.collisionSlot = b.mac.selectedSlot ∧
        a.mac.collisionFrequency = b.mac.transmitChannel) ∧
    (a.mac.collisionDetected = false →
      (reportOf a).collisionSlot = 0 ∧ (reportOf a).collisionFrequency = 0 ∧
      ∀ b', executeReceive buildB (.heard (controlpacketGetPacketBytestring (reportOf a) pad))
        attempt₂ polls b ≠ .ok (b', .collisionError)) := by
  have hrecord := ha.inNetwork.collisionRecord
  have hclear : a.mac.collisionDetected = false →
      a.mac.collisionSlot = 0 ∧ a.mac.collisionFrequency = 0 := by
    intro hdetected
    have hempty := hrecord.2 hdetected
    exact ⟨congrArg CollisionRecord.slot hempty, congrArg CollisionRecord.frequency hempty⟩
  have hheard : ∀ b', executeReceive buildB
      (.heard (controlpacketGetPacketBytestring (reportOf a) pad)) attempt₂ polls b =
        .ok (b', .collisionError) →
      a.mac.collisionSlot = b.mac.selectedSlot ∧ a.mac.collisionFrequency = b.mac.transmitChannel := by
    intro b' h
    obtain ⟨hok, hfrequency, hslot⟩ := executeReceive_collisionError h
    -- the codec keeps the two fields
    rw [ctrlpktRecv_of_heard hok, construct_get (reportOf a) _ pad rfl] at hfrequency hslot
    exact ⟨hslot, hfrequency⟩
  constructor
  · intro b' h
    obtain ⟨hslot, hfrequency⟩ := hheard b' h
    refine ⟨?_, hslot, hfrequency⟩
    by_contra hdetected
    have hzero := (hclear (Bool.eq_false_iff.mpr hdetected)).2
    exact hb.inNetwork.channel_ne_zero (hfrequency.symm.trans hzero)
  · intro hdetected
    obtain ⟨hslot, hfrequency⟩ := hclear hdetected
    refine ⟨hslot, hfrequency, fun b' h => ?_⟩
    exact hb.inNetwork.channel_ne_zero ((hheard b' h).2.symm.trans hfrequency)

/-- When its own slot comes, the first node announces itself and hears another announcement in the
same CF slot. -/
def ownSlotCollision : DriverInput where
  tick := ⟨13 * 80000, false⟩
  mac :=
    { powerMode :=
        (List.range' 13 15).flatMap quietSlot ++
          [{ passive := [{ tick := ⟨29 * 80000, true⟩ }] },
            { active := { tick := ⟨29 * 80000, false⟩ } ::
                ⟨⟨29 * 80000, false⟩, some { nodeId := (1, 1) }⟩ ::
                (List.range' 1 8).map fun j => { tick := ⟨29 * 80000 + j * 500, true⟩ } },
            { active := { tick := ⟨29 * 80000 + 4000, false⟩ } ::
                (List.range' 9 8).map fun j => { tick := ⟨29 * 80000 + j * 500, true⟩ } }] }

/-- In its second slot the first node hears an announcement. -/
def announcementHeard : DriverInput :=
  { strangerHeard with mac.powerMode := strangerHeard.mac.powerMode.take 2 }

/-- The report of that collision evicts the first node of another network, which has the same slot
and channel. -/
theorem collisionError_justified_ownSlot :
    ∃ a b b', SessionReachable ⟨.linux, true⟩ a ∧ SessionReachable ⟨.linux, true⟩ b ∧
      a.powerMode.currentState = .transmit ∧ b.powerMode.currentState = .receive ∧
      executeReceive ⟨.linux, true⟩ (.heard (controlpacketGetPacketBytestring (reportOf a) 0))
        (.lost false) [] b = .ok (b', .collisionError) ∧
      a.mac.collisionDetected = true ∧ a.mac.collisionSlot = b.mac.selectedSlot ∧
        a.mac.collisionFrequency = b.mac.transmitChannel := by
  have heval : ((sessionAlone ownSlotCollision).bind fun a =>
      (sessionAlone announcementHeard).bind fun b =>
        (executeReceive ⟨.linux, true⟩ (.heard (controlpacketGetPacketBytestring (reportOf a) 0))
          (.lost false) [] b).toOption.map fun r =>
            (a.powerMode.currentState, b.powerMode.currentState, r.2)) =
      some (.transmit, .receive, .collisionError) := by
    decide +kernel
  obtain ⟨a, ha, heval⟩ := Option.bind_eq_some_iff.mp heval
  obtain ⟨b, hb, heval⟩ := Option.bind_eq_some_iff.mp heval
  obtain ⟨⟨b', ret⟩, hreceive, heval⟩ := Option.map_eq_some_iff.mp heval
  simp only [Prod.mk.injEq] at heval
  obtain ⟨hmodeA, hmodeB, rfl⟩ := heval
  rw [toOption_eq_some] at hreceive
  have ha' := sessionAlone_reachable ha
  have hb' := sessionAlone_reachable hb
  exact ⟨a, b, b', ha', hb', hmodeA, hmodeB, hreceive,
    (collisionError_justified ⟨.linux, true⟩ ⟨.linux, true⟩ a b 0 (.lost false) [] ha' hb').1 b'
      hreceive⟩

/-! ## The beginning of a session -/

/-- The counter and the indices of a send queue are zero. -/
def SendQueue.IsReset (q : SendQueue) : Prop :=
  q.packetsToSend = 0 ∧ q.firstSend = 0 ∧ q.lastSend = 0

/-- The counter and the indices of the received packets are zero. -/
def ReceivedQueue.IsReset (q : ReceivedQueue) : Prop :=
  q.numberPacketsReceived = 0 ∧ q.firstReceived = 0 ∧ q.lastReceived = 0

/-- The session starts clean: the queues are reset, no destination is to be announced, and nothing
is known of a collision. -/
structure StartsClean (n : Node) : Prop where
  message : n.mac.message.IsReset
  control : n.mac.control.IsReset
  received : n.mac.received.IsReset
  collisionRecord : n.collisionRecord = {}

/-- In the turn of the driver `RECEIVE` ends `MEDIUM_ACCESS`, while a detected collision is not
reported yet. -/
def LeavesPending (build : Build) (inp : DriverInput) (n : Node) : Prop :=
  ∃ n₁, enterMediumAccess build (n.resume inp) = .ok n₁ ∧
    (lastVisited (sessionStep build) inp.mac.powerMode n₁).powerMode.currentState = .receive ∧
    (lastVisited (sessionStep build) inp.mac.powerMode n₁).mac.collisionDetected = true

/-- The last of the turns that executed `MEDIUM_ACCESS`. -/
def lastSession (turns : List (DriverInput × Node)) : Option (DriverInput × Node) :=
  (turns.filter fun t => t.2.macState.currentState = .mediumAccess).getLast?

/-- A session starts clean exactly if no collision is noted when it is entered. -/
theorem startsClean_iff (hn : n.collisionRecord.Consistent)
    (henter : enterMediumAccess build n = .ok n') :
    StartsClean n' ↔ n.mac.collisionDetected = false := by
  have hrecord := enterMediumAccess_collisionRecord henter
  constructor
  · intro h
    have hdetected := congrArg CollisionRecord.detected (hrecord.symm.trans h.collisionRecord)
    exact hdetected
  · intro hdetected
    have hclean : n'.collisionRecord = {} := hrecord.trans (hn.2 hdetected)
    rw [enterMediumAccess_cases henter] at hclean ⊢
    exact ⟨⟨rfl, rfl, rfl⟩, ⟨rfl, rfl, rfl⟩, ⟨rfl, rfl, rfl⟩, hclean⟩

/-- **What `MEDIUM_ACCESS` leaves noted**: a collision that was pending when `RECEIVE` ended it. -/
theorem executeMediumAccess_detected {inp : DriverInput} {m : Node} {ret : MacExecution}
    (h : executeMediumAccess build inp.mac.powerMode inp.mac.last (n.resume inp) = .ok (m, ret)) :
    m.mac.collisionDetected = true ↔ LeavesPending build inp n := by
  obtain ⟨-, n₁, pinp, err, m', henter, hend, rfl⟩ := executeMediumAccess_cases h
  have hleaves : LeavesPending build inp n ↔
      (lastVisited (sessionStep build) inp.mac.powerMode n₁).powerMode.currentState = .receive ∧
        (lastVisited (sessionStep build) inp.mac.powerMode n₁).mac.collisionDetected = true := by
    constructor
    · rintro ⟨n₂, henter', h⟩
      obtain rfl : n₁ = n₂ := Except.ok.inj (henter.symm.trans henter')
      exact h
    · intro h
      exact ⟨n₁, henter, h⟩
  rw [hleaves]
  generalize lastVisited (sessionStep build) inp.mac.powerMode n₁ = x at hend
  show m'.mac.collisionDetected = true ↔ _
  clear h
  cases hend with
  | @transmit m hmode h =>
    -- the report has cleared the note
    rcases executeTransmit_cases h with ⟨-, -, -, rfl⟩ | ⟨-, -, hret, -⟩ | ⟨-, hret, -⟩
    · rw [hmode]
      exact ⟨fun hm => (nomatch hm), fun hx => (nomatch hx.1)⟩
    · cases hret
    · cases hret
  | @collision m hmode h =>
    have hm := congrArg CollisionRecord.detected (congrArg Prod.snd (executeReceive_kept h))
    rw [hmode]
    exact ⟨fun hdetected => ⟨rfl, hm.symm.trans hdetected⟩, fun hx => hm.trans hx.2⟩
  | @synchronization m hmode h =>
    have hm := congrArg CollisionRecord.detected (congrArg Prod.snd (executeReceive_kept h))
    rw [hmode]
    exact ⟨fun hdetected => ⟨rfl, hm.symm.trans hdetected⟩, fun hx => hm.trans hx.2⟩

/-- A turn of the driver changes what is noted of a collision only in `MEDIUM_ACCESS`. -/
theorem driverTurn_detected {inp : DriverInput} (hn : WellFormed n)
    (h : driverTurn build inp n = some n') :
    n'.mac.collisionDetected = true ↔
      if n.macState.currentState = .mediumAccess then LeavesPending build inp n
      else n.mac.collisionDetected = true := by
  by_cases hstate : n.macState.currentState = .mediumAccess
  · rw [if_pos hstate]
    obtain ⟨m, hexec, rfl⟩ := driverTurn_mediumAccess hn hstate h
    show m.mac.collisionDetected = true ↔ _
    exact executeMediumAccess_detected hexec
  · rw [if_neg hstate]
    obtain ⟨_, _, hmac⟩ := driverTurn_mac hn hstate h
    rw [hmac]

/-- **What a run leaves noted**: what its last session left, or else what it started with. -/
theorem driverRun_detected {inputs : List DriverInput} (hn : WellFormed n)
    (hrun : inputs.foldlM (fun m inp => driverTurn build inp m) n = some n') :
    n'.mac.collisionDetected = true ↔
      (lastSession (taken (driverTurn build) inputs n)).elim (n.mac.collisionDetected = true)
        fun t => LeavesPending build t.1 t.2 := by
  induction inputs generalizing n with
  | nil =>
    obtain rfl : n = n' := Option.some.inj hrun
    rfl
  | cons inp inputs ih =>
    rw [List.foldlM_cons] at hrun
    obtain ⟨m, hturn, hrun⟩ := Option.bind_eq_some_iff.mp hrun
    have hdetected := driverTurn_detected hn hturn
    rw [ih (hn.turn hturn) hrun]
    simp only [taken, hturn, Option.elim_some, lastSession, List.filter_cons]
    -- a turn outside MEDIUM_ACCESS is no session and keeps the record
    by_cases hstate : n.macState.currentState = .mediumAccess
    · rw [if_pos (decide_eq_true hstate), List.getLast?_cons]
      rw [if_pos hstate] at hdetected
      cases (List.filter (fun t => decide (t.2.macState.currentState = .mediumAccess))
          (taken (driverTurn build) inputs m)).getLast? with
      | none => exact hdetected
      | some t => rfl
    · rw [if_neg (by simpa using hstate)]
      rw [if_neg hstate] at hdetected
      cases (List.filter (fun t => decide (t.2.macState.currentState = .mediumAccess))
          (taken (driverTurn build) inputs m)).getLast? with
      | none => exact hdetected
      | some t => rfl

/-- **The sessions of a run**: wherever a run from `MCLMAC_init` enters `MEDIUM_ACCESS`, the session
starts clean exactly if the last one, if there was one, did not leave a collision pending. -/
theorem session_startsClean_iff (build : Build) (timeouts : Timeouts) (clock : ℕ)
    (queues : IpcQueues) (inputs : List DriverInput) (inp : DriverInput) (n n₁ : Node)
    (hrun : inputs.foldlM (fun m inp => driverTurn build inp m)
      (mclmacInit timeouts clock queues) = some n)
    (henter : enterMediumAccess build (n.resume inp) = .ok n₁) :
    StartsClean n₁ ↔
      ∀ t ∈ lastSession (taken (driverTurn build) inputs (mclmacInit timeouts clock queues)),
        ¬ LeavesPending build t.1 t.2 := by
  have hreach : Reachable build n := ⟨timeouts, clock, queues, inputs, hrun⟩
  have hdetected := driverRun_detected (wellFormed_init timeouts clock queues) hrun
  have hrecord : (n.resume inp).collisionRecord.Consistent := hreach.wellFormed.collisionRecord
  have hclean := startsClean_iff hrecord henter
  have hresume : (n.resume inp).mac.collisionDetected = n.mac.collisionDetected := rfl
  have hinit : (mclmacInit timeouts clock queues).mac.collisionDetected = false := rfl
  rw [hresume, Bool.eq_false_iff] at hclean
  rw [hinit] at hdetected
  rw [hclean, Ne, hdetected]
  generalize lastSession (taken (driverTurn build) inputs (mclmacInit timeouts clock queues)) = last
  cases last with
  | none => simp
  | some t => simp

/-- After a session that ended with the wrong time of another node, the next one starts clean. -/
theorem session_startsClean_joinAgain :
    ∃ n n₁ t, (joinAlone ++ strangerHeard :: joinAgain).foldlM
        (fun m inp => driverTurn ⟨.linux, true⟩ inp m) newNode = some n ∧
      n.macState.currentState = .mediumAccess ∧
      lastSession (taken (driverTurn ⟨.linux, true⟩) (joinAlone ++ strangerHeard :: joinAgain)
        newNode) = some t ∧
      enterMediumAccess ⟨.linux, true⟩ (n.resume strangerHeard) = .ok n₁ ∧ StartsClean n₁ := by
  have heval : ((joinAlone ++ strangerHeard :: joinAgain).foldlM
      (fun m inp => driverTurn ⟨.linux, true⟩ inp m) newNode).bind (fun n =>
        (enterMediumAccess ⟨.linux, true⟩ (n.resume strangerHeard)).toOption.map
          fun _ => n.macState.currentState) = some .mediumAccess := by
    decide +kernel
  have hlast : (lastSession (taken (driverTurn ⟨.linux, true⟩)
      (joinAlone ++ strangerHeard :: joinAgain) newNode)).bind (fun t =>
        (enterMediumAccess ⟨.linux, true⟩ (t.2.resume t.1)).toOption.map fun n₁ =>
          (lastVisited (sessionStep ⟨.linux, true⟩) t.1.mac.powerMode n₁).mac.collisionDetected) =
      some false := by
    decide +kernel
  obtain ⟨n, hrun, heval⟩ := Option.bind_eq_some_iff.mp heval
  obtain ⟨n₁, henter, hstate⟩ := Option.map_eq_some_iff.mp heval
  obtain ⟨t, ht, hlast⟩ := Option.bind_eq_some_iff.mp hlast
  obtain ⟨n₂, henter₂, hdetected⟩ := Option.map_eq_some_iff.mp hlast
  rw [toOption_eq_some] at henter henter₂
  refine ⟨n, n₁, t, hrun, hstate, ht, henter, (session_startsClean_iff ⟨.linux, true⟩ (fun _ => {}) 0
    initQueues _ strangerHeard n n₁ hrun henter).mpr ?_⟩
  rintro t' ht' ⟨n₃, henter₃, -, hpending⟩
  obtain rfl : t = t' := Option.some.inj (ht.symm.trans ht')
  obtain rfl : n₂ = n₃ := Except.ok.inj (henter₂.symm.trans henter₃)
  cases hdetected.symm.trans hpending

/-- In its second slot the first node hears two announcements, then another one, and then a control
packet of another slot. -/
def collisionHeard : DriverInput where
  tick := ⟨Config.detectionTime, false⟩
  mac :=
    { powerMode :=
        [{ passive := [{ tick := ⟨1080000, true⟩ }] },
          { active := [⟨⟨1080001, false⟩, some { nodeId := (1, 1) }⟩,
              ⟨⟨1080002, false⟩, some { nodeId := (2, 2) }⟩] ++
                (List.range' 1 8).map fun j => { tick := ⟨1080000 + j * 500, true⟩ } },
          { active := ⟨⟨1084001, false⟩, some { nodeId := (1, 1) }⟩ ::
              (List.range' 1 8).map fun j => { tick := ⟨1084000 + j * 500, true⟩ } },
          { attempt₁ := .heard (controlpacketGetPacketBytestring {} 0) }] }

/-- The next session starts with the collision of the last one. -/
theorem session_notClean_collisionHeard :
    ∃ n n₁, (joinAlone ++ collisionHeard :: joinAgain).foldlM
        (fun m inp => driverTurn ⟨.linux, true⟩ inp m) newNode = some n ∧
      n.macState.currentState = .mediumAccess ∧
      enterMediumAccess ⟨.linux, true⟩ (n.resume strangerHeard) = .ok n₁ ∧
      n₁.mac.collisionDetected = true ∧ n₁.mac.collisionSlot = 1 ∧ ¬ StartsClean n₁ := by
  have heval : (((joinAlone ++ collisionHeard :: joinAgain).foldlM
      (fun m inp => driverTurn ⟨.linux, true⟩ inp m) newNode).bind
      fun n => (enterMediumAccess ⟨.linux, true⟩ (n.resume strangerHeard)).toOption.map
        fun n₁ => (n.macState.currentState, n₁.mac.collisionDetected, n₁.mac.collisionSlot)) =
      some (.mediumAccess, true, 1) := by
    decide +kernel
  obtain ⟨n, hrun, heval⟩ := Option.bind_eq_some_iff.mp heval
  obtain ⟨n₁, henter, heval⟩ := Option.map_eq_some_iff.mp heval
  rw [toOption_eq_some] at henter
  simp only [Prod.mk.injEq] at heval
  obtain ⟨hstate, hdetected, hslot⟩ := heval
  refine ⟨n, n₁, hrun, hstate, henter, hdetected, hslot, fun hclean => ?_⟩
  have hfalse := congrArg CollisionRecord.detected hclean.collisionRecord
  exact nomatch hdetected.symm.trans hfalse

end WmnIot
