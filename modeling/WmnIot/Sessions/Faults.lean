import WmnIot.Sessions.Receiving

/-! # Where a session can fail

A turn of the loop of `MEDIUM_ACCESS` that does not return either goes on polling or fails. `ACTIVE`
and `TRANSMIT` do not fail: the CF slots have a channel each, and what is in a send queue can be
encoded. On Linux `RECEIVE` fails on a data packet whose size reaches past its end, and `PASSIVE` on
such a message. `PASSIVE` fails on the eleventh message of a class, and where a call of a queue function
fails.

* **`ReadFault`**, **`WriteFault`**, **`PassivePollFault`** — why a turn of the loop of `PASSIVE` fails.
* **`PassiveFault`**, **`ReceiveFault`** — why `PASSIVE` and `RECEIVE` do.
* **`mediumAccessPoll_error_iff`** — the turns of a session that fail. -/

namespace WmnIot

open Runs

variable {build : Build} {n₀ n n' m : Node} {given strings : List ByteString} {e : Halt}

/-! ## The received packets -/

/-- The packets in the ring can be encoded by the OS, and the reader and the writer are inside it. -/
structure ReceptionSound (os : OS) (q : ReceivedQueue) : Prop where
  first : q.firstReceived.toNat < receivedCapacity
  last : q.lastReceived.toNat < receivedCapacity
  encodable : ∀ entry, (q.packetsReceived entry).Encodable os

namespace ReceptionSound

variable {os : OS} {q : ReceivedQueue}

theorem encodable_clear (os : OS) : datapacketClear.Encodable os :=
  fun _ => ⟨by decide, by decide⟩

theorem reset (h : ∀ entry, (q.packetsReceived entry).Encodable os) : ReceptionSound os q.reset := by
  have hzero : (0 : UInt8).toNat < receivedCapacity := by decide
  exact ⟨hzero, hzero, h⟩

theorem stored (h : ReceptionSound os q) {b : ByteString} (hb : SizeFits os b) :
    ReceptionSound os (q.stored b) := by
  refine ⟨h.first, ?_, fun entry => ?_⟩
  · rw [ReceivedQueue.stored_last b h.last]
    exact Nat.mod_lt _ (by decide)
  · show (Function.update q.packetsReceived (Fin.ofNat _ q.lastReceived.toNat)
      (datapacketOfBytes b) entry).Encodable os
    by_cases he : entry = Fin.ofNat _ q.lastReceived.toNat
    · rw [he, Function.update_self]
      exact encodable_datapacketOfBytes hb
    · rw [Function.update_of_ne he]
      exact h.encodable entry

theorem handedUp (h : ReceptionSound os q) : ReceptionSound os (ReceivedRing.afterHandingUp q) := by
  refine ⟨?_, h.last, fun entry => ?_⟩
  · show ((q.firstReceived + 1) % 10).toNat < 20
    have h10 : (10 : UInt8).toNat = 10 := rfl
    rw [UInt8.toNat_mod, h10]
    omega
  · show (Function.update q.packetsReceived (Fin.ofNat _ q.firstReceived.toNat)
      datapacketClear entry).Encodable os
    by_cases he : entry = Fin.ofNat _ q.firstReceived.toNat
    · rw [he, Function.update_self]
      exact encodable_clear os
    · rw [Function.update_of_ne he]
      exact h.encodable entry

end ReceptionSound

/-! ## `PASSIVE` -/

/-- Why `mclmac_read_queue_element` fails, if the session has read these messages so far: a queue
function does, or a message for a send queue does not fit or is one too many. -/
def ReadFault (build : Build) (given : List ByteString) (buf : ByteString) (n : Node) (e : Halt) :
    Prop :=
  mclmacAvailableDataPackets n.toMCLMAC ≠ 2 * Config.maxNumberDataPackets ∧
    (offered build.os n.selfPid n.macQueueId buf n.queues = .error e ∨
      e = .outOfBounds ∧ ∃ o c,
        offered build.os n.selfPid n.macQueueId buf n.queues = .ok (some o) ∧
          sendClass (o.msg 0) = some c ∧
          (¬ SizeFits build.os o.msg ∨ (inClass c given).length = Config.maxNumberDataPackets))

/-- Why `mclmac_write_queue_element` fails: a queue function does. -/
def WriteFault (build : Build) (n : Node) (e : Halt) : Prop :=
  n.mac.received.numberPacketsReceived ≠ 0 ∧
    (elementsOnQueue build.os n.selfPid n.routingQueueId n.queues = .error e ∨
      ∃ elements, elementsOnQueue build.os n.selfPid n.routingQueueId n.queues = .ok elements ∧
        elements ≠ Config.maxElementsOnQueue ∧
        sendMessage build.os n.selfPid n.routingQueueId (datapacketBytes n.junk n.mac.received.oldest)
          Config.packetSizeMac n.selfPid n.queues = .error e)

/-- The node with which a turn of the loop of `PASSIVE` asks what waits in its queue. -/
def PassivePoll.asking (build : Build) (p : PassivePoll) (n : Node) : Node :=
  (pollSlotTimer p.tick n).1.runThreads build p.before

/-- Why a turn of the loop of `PASSIVE` fails: in asking, in reading or in writing. -/
def PassivePollFault (build : Build) (given : List ByteString) (p : PassivePoll) (n : Node) (e : Halt) :
    Prop :=
  elementsOnQueue build.os (p.asking build n).selfPid (p.asking build n).macQueueId
      (p.asking build n).queues = .error e ∨
    (∃ m, p.reading build n = some m ∧ ReadFault build given p.buf m e) ∨
    ∃ m, p.writing build n = some m ∧ WriteFault build m e

/-- Storing a message in a send queue fails exactly if it does not fit or ten were stored before. -/
theorem SendQueue.store_error_iff {os : OS} {q : SendQueue} {fifo : List DataPacket} {accepted : ℕ}
    (h : SendRing os q fifo accepted) (b : ByteString) :
    q.store os b = .error e ↔
      e = .outOfBounds ∧ (¬ SizeFits os b ∨ accepted = Config.maxNumberDataPackets) := by
  have hle := h.accepted_le
  have hlast : q.lastSend.toNat < Config.maxNumberDataPackets ↔
      accepted ≠ Config.maxNumberDataPackets := by
    rw [h.last_eq]
    omega
  unfold SendQueue.store datapacketConstructFromBytestring
  split
  · next hlt =>
    have hne := hlast.mp hlt
    by_cases hb : SizeFits os b
    · rw [if_pos hb]
      exact iff_of_false (fun h => nomatch h) fun h => h.2.elim (fun hno => hno hb) hne
    · rw [if_neg hb, error_bind]
      exact ⟨fun h => ⟨(Except.error.inj h).symm, .inl hb⟩, fun h => by rw [h.1]⟩
  · next hlt =>
    have hten := not_not.mp (mt hlast.mpr hlt)
    exact ⟨fun h => ⟨(Except.error.inj h).symm, .inr hten⟩, fun h => by rw [h.1]; rfl⟩

/-- Reading fails for these reasons, as the send queues are rings. -/
theorem mclmacReadQueueElement_error_iff (build : Build) (hn : SendsInOrder build.os n₀ n given)
    (buf : ByteString) :
    mclmacReadQueueElement build buf n = .error e ↔ ReadFault build given buf n e := by
  have hcount (c : SendClass) :
      (n.sendQueue c).packetsToSend.toNat ≤ Config.maxNumberDataPackets := by
    obtain ⟨fifo, hring, -⟩ := hn.ring c
    rw [hring.count_eq]
    exact hring.holds.fits
  rw [mclmacReadQueueElement_eq (hcount .message) (hcount .control)]
  -- with both queues full nothing is read, and nothing fails
  by_cases hroom : mclmacAvailableDataPackets n.toMCLMAC = 2 * Config.maxNumberDataPackets
  · rw [if_pos hroom]
    exact iff_of_false (fun h => nomatch h) fun h => h.1 hroom
  rw [if_neg hroom, ReadFault, and_iff_right hroom]
  cases hoffer : offered build.os n.selfPid n.macQueueId buf n.queues with
  | error e' => simp
  | ok offer =>
    rw [ok_bind]
    cases offer with
    | none => simp
    | some o =>
      cases hclass : sendClass (o.msg 0) with
      | none => simp [hclass]
      | some c =>
        -- only storing the message can fail now
        obtain ⟨fifo, hring, -⟩ := hn.ring c
        have hstore := SendQueue.store_error_iff (e := e) hring o.msg
        simp only [hclass]
        rw [bind_eq_error, hstore]
        simp [hclass]

/-- Writing fails for these reasons, as what waits can be encoded. -/
theorem mclmacWriteQueueElement_error_iff (build : Build) (hn : ReceptionSound build.os n.mac.received) :
    mclmacWriteQueueElement build n = .error e ↔ WriteFault build n e := by
  have holdest : OldestEncodable build.os n.mac.received := ⟨hn.first, hn.encodable _⟩
  by_cases hnumber : n.mac.received.numberPacketsReceived = 0
  · rw [write_of_none hnumber]
    exact iff_of_false (fun h => nomatch h) fun h => h.1 hnumber
  rw [WriteFault, and_iff_right hnumber]
  cases helements : elementsOnQueue build.os n.selfPid n.routingQueueId n.queues with
  | error e' =>
    have hwrite : mclmacWriteQueueElement build n = .error e' := by
      unfold mclmacWriteQueueElement
      simp only [hnumber, if_false, and_false, helements]
      rfl
    rw [hwrite]
    simp
  | ok elements =>
    by_cases hfull : elements = Config.maxElementsOnQueue
    · rw [write_of_full hnumber (hfull ▸ helements)]
      simp [hfull]
    · have hid : n.routingQueueId ≠ 0 := by
        intro hid
        rw [hid] at helements
        cases helements
      -- the oldest packet can be encoded, so only `send_message` can fail
      rw [(write_of_room hnumber helements hfull hid).1 holdest, bind_eq_error]
      simp [hfull]

/-- A turn of the loop of `PASSIVE`, call by call. -/
theorem passivePoll_eq (p : PassivePoll) (n : Node) : passivePoll build p n =
    elementsOnQueue build.os (p.asking build n).selfPid (p.asking build n).macQueueId
      (p.asking build n).queues >>= fun elements =>
        if elements = 0 ∧ (p.asking build n).mac.received.numberPacketsReceived = 0 then
          .ok (p.asking build n, (pollSlotTimer p.tick n).2)
        else
          mclmacReadQueueElement build p.buf (p.asking build n) >>= fun r =>
            mclmacWriteQueueElement build (r.1.runThreads build p.between) >>= fun w =>
              .ok (w.1, (pollSlotTimer p.tick n).2) := rfl

/-- The node that goes on to read: one that has asked, unless there is nothing to do. -/
theorem PassivePoll.reading_eq (p : PassivePoll) (build : Build) (n : Node) : p.reading build n =
    match elementsOnQueue build.os (p.asking build n).selfPid (p.asking build n).macQueueId
      (p.asking build n).queues with
    | .ok elements =>
      if elements = 0 ∧ (p.asking build n).mac.received.numberPacketsReceived = 0 then none
      else some (p.asking build n)
    | .error _ => none := rfl

/-- **A turn of the loop of `PASSIVE`** fails for these reasons. -/
theorem passivePoll_error_iff (hn : SendsInOrder build.os n₀ n given)
    (hreception : ReceptionSound build.os n.mac.received) (p : PassivePoll) :
    passivePoll build p n = .error e ↔ PassivePollFault build given p n e := by
  have hasking : SendsInOrder build.os n₀ (p.asking build n) given :=
    hn.congr (pollSlotTimer_sent p.tick n).1 (pollSlotTimer_sendQueue p.tick n)
  have hwriting (m : Node) (hm : p.writing build n = some m) :
      ReceptionSound build.os m.mac.received := by
    have hsame : m.mac.received = n.mac.received := congrArg Prod.fst (writing_reception hm)
    rwa [hsame]
  have hreading := p.reading_eq build n
  unfold PassivePoll.writing at hwriting
  rw [passivePoll_eq, PassivePollFault, PassivePoll.writing]
  generalize p.reading build n = reading at hreading hwriting ⊢
  cases helements : elementsOnQueue build.os (p.asking build n).selfPid
    (p.asking build n).macQueueId (p.asking build n).queues with
  | error e' =>
    -- the first call of the turn fails
    rw [helements] at hreading
    subst hreading
    simp
  | ok elements =>
    rw [helements] at hreading
    dsimp only at hreading
    rw [ok_bind]
    split
    · next hidle =>
      -- there is nothing to read and nothing to write
      rw [if_pos hidle] at hreading
      subst hreading
      simp
    · next hwork =>
      rw [if_neg hwork] at hreading
      subst hreading
      -- the turn reads, and writes if the read returns
      have hread := mclmacReadQueueElement_error_iff build (e := e) hasking p.buf
      rw [bind_eq_error, hread]
      rw [Option.bind_some] at hwriting ⊢
      cases hr : mclmacReadQueueElement build p.buf (p.asking build n) with
      | error e' =>
        have hnone : (Except.error e' : Except Halt (Node × ℕ)).toOption = none := rfl
        simp [hnone]
      | ok r =>
        have hsome : (Except.ok r : Except Halt (Node × ℕ)).toOption = some r := rfl
        rw [hr] at hwriting
        have hwrite := mclmacWriteQueueElement_error_iff build (e := e) (hwriting _ rfl)
        simp [bind_eq_error, hwrite, hsome]

/-- Why `PASSIVE` fails: one of the turns of its loop does. -/
def PassiveFault (build : Build) (given : List ByteString) (polls : List PassivePoll) (n : Node)
    (e : Halt) : Prop :=
  ∃ before p rest m, polls = before ++ p :: rest ∧
    before.foldlM (fun k p => loopStep (passivePoll build) p k)
      { n with mac.frame.currentCfSlot := 0 } = some m ∧
    PassivePollFault build (given ++ recorded (PassivePoll.read build) (loopStep (passivePoll build))
      before { n with mac.frame.currentCfSlot := 0 }) p m e

theorem passivePoll_receptionSound {p : PassivePoll} {go : Bool}
    (hn : ReceptionSound build.os n.mac.received)
    (h : passivePoll build p n = .ok (n', go)) : ReceptionSound build.os n'.mac.received := by
  rcases passivePoll_ends h with rfl | ⟨m, ret, hwriting, hwrite⟩
  · have hsame : (pollSlotTimer p.tick n).1.mac.received = n.mac.received :=
      congrArg Prod.fst (pollSlotTimer_reception p.tick n)
    rwa [← hsame] at hn
  · have hsame : m.mac.received = n.mac.received := congrArg Prod.fst (writing_reception hwriting)
    rw [← hsame] at hn
    rcases mclmacWriteQueueElement_hands hwrite with hwritten | ⟨-, hreceived, -⟩
    · have hreceived : n'.mac.received = m.mac.received := congrArg Prod.fst hwritten
      rwa [hreceived]
    · rw [hreceived]
      exact hn.handedUp

/-- **`PASSIVE`** fails for these reasons. -/
theorem executePassive_error_iff (build : Build) (he : e ≠ .polling)
    (hn : SendsInOrder build.os n₀ n given)
    (hreception : ReceptionSound build.os n.mac.received) (polls : List PassivePoll) :
    executePassive build polls n = .error e ↔ PassiveFault build given polls n e := by
  have hstart : SendsInOrder build.os n₀ { n with mac.frame.currentCfSlot := 0 } given ∧
      ReceptionSound build.os ({ n with mac.frame.currentCfSlot := 0 } : Node).mac.received :=
    ⟨hn.congr rfl rfl, hreception⟩
  have hloop : pollLoop .polling (passivePoll build) polls { n with mac.frame.currentCfSlot := 0 } =
      .error e ↔ _ := pollLoop_eq_error_iff he.symm polls
  have hfault (before : List PassivePoll) (p : PassivePoll) (m : Node)
      (hrun : before.foldlM (fun k p => loopStep (passivePoll build) p k)
        { n with mac.frame.currentCfSlot := 0 } = some m) :
      passivePoll build p m = .error e ↔ PassivePollFault build (given ++
        recorded (PassivePoll.read build) (loopStep (passivePoll build)) before
          { n with mac.frame.currentCfSlot := 0 }) p m e := by
    -- the turns before the one that fails keep both queues as its call needs them
    obtain ⟨hsends, hsound⟩ := run_recorded
      (fun k given => SendsInOrder build.os n₀ k given ∧ ReceptionSound build.os k.mac.received)
      (fun _ _ _ _ hk hstep =>
        ⟨passivePoll_sendsInOrder hk.1 (loopStep_eq_some.mp hstep),
          passivePoll_receptionSound hk.2 (loopStep_eq_some.mp hstep)⟩) before hstart hrun
    exact passivePoll_error_iff hsends hsound p
  unfold executePassive
  rw [bind_eq_error, hloop]
  constructor
  · rintro (⟨before, p, rest, m, hsplit, hrun, hfails⟩ | ⟨m, -, h⟩)
    · exact ⟨before, p, rest, m, hsplit, hrun, (hfault before p m hrun).mp hfails⟩
    · cases h
  · rintro ⟨before, p, rest, m, hsplit, hrun, hfails⟩
    exact .inl ⟨before, p, rest, m, hsplit, hrun, (hfault before p m hrun).mpr hfails⟩

/-- **`PASSIVE`** keeps the received packets sound. -/
theorem executePassive_receptionSound {polls : List PassivePoll}
    (hn : ReceptionSound build.os n.mac.received)
    (h : executePassive build polls n = .ok n') : ReceptionSound build.os n'.mac.received := by
  obtain ⟨m, hloop, -, rfl⟩ := executePassive_cases h
  have hstart :
      ReceptionSound build.os ({ n with mac.frame.currentCfSlot := 0 } : Node).mac.received := hn
  exact pollLoop_inv (fun k => ReceptionSound build.os k.mac.received)
    (fun k => ReceptionSound build.os k.mac.received)
    (fun _ _ _ hk hpoll => passivePoll_receptionSound hk hpoll)
    (fun _ _ _ hk hpoll => passivePoll_receptionSound hk hpoll) polls hstart hloop

/-! ## `ACTIVE` -/

/-- The CF slots that an iteration goes on in are those of the channels. -/
theorem activePoll_currentCfSlot {freq : UInt32} {p : ActivePoll} {s s' : Node × ActiveLocals}
    (hs : s.1.mac.frame.currentCfSlot.toNat < Config.maxNumberFreqs)
    (h : activePoll build freq p s = .ok (s', true)) :
    s'.1.mac.frame.currentCfSlot.toNat < Config.maxNumberFreqs := by
  have hturn (m : Node) (channel : UInt32) :
      (cfTurn freq channel p.cf m s.2).1.mac.frame = m.mac.frame := by
    obtain ⟨_, _, _, _, _, _, hturn⟩ := cfTurn_frame freq channel p.cf m s.2
    rw [hturn]
  obtain ⟨channel, -, ⟨-, rfl, -⟩ | ⟨-, hnot, rfl, -⟩ | ⟨-, -, -, hgo⟩⟩ := activePoll_cases h
  · rw [hturn]
    exact hs
  · -- the iteration goes on in the next CF slot, which is not behind the last channel
    have hne : (s.1.mac.frame.currentCfSlot + 1).toNat ≠ Config.maxNumberFreqs := fun heq =>
      hnot (UInt8.toNat_inj.mp heq)
    rw [hturn]
    show (s.1.mac.frame.currentCfSlot + 1).toNat < Config.maxNumberFreqs
    rw [UInt8.toNat_add, UInt8.toNat_one] at hne ⊢
    simp only [Config.maxNumberFreqs] at hs hne ⊢
    omega
  · cases hgo

/-- **`ACTIVE`** does not fail: each of its CF slots has a channel. -/
theorem executeActive_ne_error (he : e ≠ .polling) (polls : List ActivePoll) (n : Node) :
    executeActive build polls n ≠ .error e := by
  intro h
  rcases bind_eq_error.mp h with hloop | ⟨s, -, h⟩
  · obtain ⟨pre, p, rest, s, -, hrun, hbody⟩ := (pollLoop_eq_error_iff he.symm polls).mp hloop
    have hzero : (0 : UInt8).toNat < Config.maxNumberFreqs := by decide
    have hslot : s.1.mac.frame.currentCfSlot.toNat < Config.maxNumberFreqs :=
      run_inv (fun s : Node × ActiveLocals =>
          s.1.mac.frame.currentCfSlot.toNat < Config.maxNumberFreqs)
        (fun _ _ _ hs hstep => activePoll_currentCfSlot hs (loopStep_eq_some.mp hstep)) pre hzero
        hrun
    -- so the one call that could fail returns
    have hchannel : mclmacGetFrequency s.1.toMCLMAC s.1.mac.frame.currentCfSlot =
        .ok (s.1.frequencies ⟨_, hslot⟩) := dif_pos hslot
    by_cases hpassed : timeoutPassed (s.1.tick p.tick).timeouts s.1.mac.frame.cfTimer = 1
    · rw [activePoll_of_passed hchannel hpassed] at hbody
      split_ifs at hbody
    · rw [activePoll_of_pending hchannel hpassed] at hbody
      cases hbody
  · cases h

/-! ## `TRANSMIT` -/

theorem transmitPoll_ne_error (hn : SendsInOrder build.os n₀ n given) (tick : Tick) :
    transmitPoll build tick n ≠ .error e := by
  have hpolled : SendsInOrder build.os n₀ (pollSlotTimer tick n).1 given :=
    hn.congr (pollSlotTimer_sent tick n).1 (pollSlotTimer_sendQueue tick n)
  have hfirst (c : SendClass) : ((pollSlotTimer tick n).1.sendQueue c).firstSend.toNat <
      Config.maxNumberDataPackets := by
    obtain ⟨fifo, hring, -⟩ := hpolled.ring c
    exact hring.first_lt
  have hfrom (c : SendClass) (hpos : ((pollSlotTimer tick n).1.sendQueue c).packetsToSend ≠ 0) :
      (pollSlotTimer tick n).1.sendFrom build.os c ≠ .error e := by
    obtain ⟨fifo, hring, -⟩ := hpolled.ring c
    have hcount := hring.count_eq
    cases fifo with
    | nil => exact absurd (UInt8.toNat_inj.mp hcount) hpos
    | cons p fifo =>
      obtain ⟨q, htake, -⟩ := hring.take (pollSlotTimer tick n).1.junk
      rw [Node.sendFrom, htake, ok_bind]
      intro h
      cases h
  intro h
  unfold transmitPoll at h
  dsimp only at h
  split at h
  · cases h
  rcases bind_eq_error.mp h with hsend | ⟨m, -, h⟩
  · -- the packet comes from the control queue, from the message queue, or there is none
    rw [mclmacSendDataPacket_eq hfirst] at hsend
    split at hsend
    · next hcontrol => exact hfrom .control hcontrol hsend
    split at hsend
    · next hmessage => exact hfrom .message hmessage hsend
    · cases hsend
  · cases h

/-- **`TRANSMIT`** does not fail: what is in the send queues can be encoded. -/
theorem executeTransmit_ne_error (he : e ≠ .polling) (hn : SendsInOrder build.os n₀ n given)
    (ticks : List Tick) : executeTransmit build ticks n ≠ .error e := by
  have hcontrol :
      SendsInOrder build.os n₀ (mclmacSendControlPacket (mclmacCreateControlPacket n)) given :=
    hn.silent rfl rfl rfl
  intro h
  unfold executeTransmit at h
  dsimp only at h
  split at h
  · split at h <;> cases h
  rcases bind_eq_error.mp h with hloop | ⟨m, -, h⟩
  · obtain ⟨before, tick, rest, m, -, hrun, hfails⟩ :=
      (pollLoop_eq_error_iff he.symm ticks).mp hloop
    have hm : SendsInOrder build.os n₀ m given :=
      run_inv (fun k => SendsInOrder build.os n₀ k given)
        (fun _ _ _ hk hstep => transmitPoll_sendsInOrder hk (loopStep_eq_some.mp hstep)) before
        hcontrol hrun
    exact transmitPoll_ne_error hm tick hfails
  · cases h

/-! ## `RECEIVE` -/

/-- Why `RECEIVE` fails: it receives data packets, and one does not fit. -/
def ReceiveFault (build : Build) (inp : PmInput) (n : Node) : Prop :=
  EntersData (mclmacReceiveControlPacket build inp.attempt₁ n) ∧
    ∃ before p rest m, inp.receive = before ++ p :: rest ∧
      before.foldlM (fun k p => loopStep (receivePoll build) p k)
        (mclmacReceiveControlPacket build inp.attempt₁ n).1 = some m ∧
      timeoutPassed (m.tick p.tick).timeouts m.mac.frame.slotTimer ≠ 1 ∧
        ¬ SizeFits build.os p.byteString

theorem receivePoll_receptionSound {p : ReceivePoll} {go : Bool}
    (hn : ReceptionSound build.os n.mac.received)
    (h : receivePoll build p n = .ok (n', go)) : ReceptionSound build.os n'.mac.received := by
  by_cases hpassed : timeoutPassed (n.tick p.tick).timeouts n.mac.frame.slotTimer = 1
  · rw [receivePoll_passed hpassed] at h
    cases h
    exact hn
  · by_cases hb : SizeFits build.os p.byteString
    · rw [receivePoll_stored hpassed hn.last hb] at h
      cases h
      exact hn.stored hb
    · rw [receivePoll_outOfBounds hpassed fun hboth => hb hboth.2] at h
      cases h

theorem receivePoll_error_iff (hn : ReceptionSound build.os n.mac.received) (p : ReceivePoll) :
    receivePoll build p n = .error e ↔ e = .outOfBounds ∧
      timeoutPassed (n.tick p.tick).timeouts n.mac.frame.slotTimer ≠ 1 ∧
        ¬ SizeFits build.os p.byteString := by
  by_cases hpassed : timeoutPassed (n.tick p.tick).timeouts n.mac.frame.slotTimer = 1
  · rw [receivePoll_passed hpassed]
    exact iff_of_false (fun h => nomatch h) fun h => h.2.1 hpassed
  rw [and_iff_right hpassed]
  by_cases hb : SizeFits build.os p.byteString
  · rw [receivePoll_stored hpassed hn.last hb]
    exact iff_of_false (fun h => nomatch h) fun h => h.2 hb
  · rw [receivePoll_outOfBounds hpassed fun hboth => hb hboth.2]
    exact ⟨fun h => ⟨(Except.error.inj h).symm, hb⟩, fun h => by rw [h.1]⟩

/-- **`RECEIVE`** fails for this reason. -/
theorem executeReceive_error_iff (build : Build) (he : e ≠ .polling)
    (hn : ReceptionSound build.os n.mac.received)
    (inp : PmInput) : executeReceive build inp.attempt₁ inp.attempt₂ inp.receive n = .error e ↔
      e = .outOfBounds ∧ ReceiveFault build inp n := by
  have hheard := mclmacReceiveControlPacket_reception build inp.attempt₁ n
  unfold ReceiveFault
  generalize hfirst : mclmacReceiveControlPacket build inp.attempt₁ n = heard at hheard ⊢
  obtain ⟨m, first⟩ := heard
  have hm : ReceptionSound build.os m.mac.received := by
    have hsame : m.mac.received = n.mac.received := congrArg Prod.fst hheard
    rwa [hsame]
  -- the paths that end before the data phase return
  have hskip (r : Node × PmExecution) (hnot : ¬ EntersData (m, first)) :
      (.ok r : Except Halt (Node × PmExecution)) = .error e ↔
        e = .outOfBounds ∧ EntersData (m, first) ∧ ∃ before p rest k,
          inp.receive = before ++ p :: rest ∧
          before.foldlM (fun k p => loopStep (receivePoll build) p k) m = some k ∧
          timeoutPassed (k.tick p.tick).timeouts k.mac.frame.slotTimer ≠ 1 ∧
          ¬ SizeFits build.os p.byteString :=
    iff_of_false (fun h => nomatch h) fun h => hnot h.2.1
  cases first with
  | false =>
    rw [executeReceive_lost hfirst]
    exact hskip _ fun henters => Bool.noConfusion henters.1
  | true =>
    rw [executeReceive_heard hfirst]
    split
    · next hplace => exact hskip _ fun henters => henters.2.1 hplace
    next hplace =>
    split
    swap
    · next hfails => exact hskip _ fun henters => hfails henters.2.2.1
    next hpass =>
    unfold receiveData
    by_cases hroom : m.mac.received.numberPacketsReceived.toNat < receivedCapacity
    swap
    · rw [if_neg hroom]
      exact hskip _ fun henters => hroom henters.2.2.2
    rw [if_pos hroom]
    -- the data phase fails in a poll of its loop, on which the ring is sound
    have hloop : pollLoop .polling (receivePoll build) inp.receive m = .error e ↔ _ :=
      pollLoop_eq_error_iff he.symm inp.receive
    have hdata : EntersData (m, true) := ⟨rfl, hplace, hpass, hroom⟩
    have hsound (before : List ReceivePoll) (k : Node)
        (hrun : before.foldlM (fun k p => loopStep (receivePoll build) p k) m = some k) :
        ReceptionSound build.os k.mac.received :=
      run_inv (fun k => ReceptionSound build.os k.mac.received)
        (fun _ _ _ hk hstep => receivePoll_receptionSound hk (loopStep_eq_some.mp hstep)) before hm
        hrun
    rw [bind_eq_error, hloop, and_iff_right hdata]
    constructor
    · rintro (⟨before, p, rest, k, hsplit, hrun, hfails⟩ | ⟨k, -, h⟩)
      · obtain ⟨rfl, hfault⟩ := (receivePoll_error_iff (hsound before k hrun) p).mp hfails
        exact ⟨rfl, before, p, rest, k, hsplit, hrun, hfault⟩
      · cases h
    · rintro ⟨rfl, before, p, rest, k, hsplit, hrun, hfault⟩
      exact .inl ⟨before, p, rest, k, hsplit, hrun,
        (receivePoll_error_iff (hsound before k hrun) p).mpr ⟨rfl, hfault⟩⟩

/-- **`RECEIVE`** keeps the received packets sound. -/
theorem executeReceive_receptionSound {attempt₁ attempt₂ : CtrlRadio} {polls : List ReceivePoll}
    {ret : PmExecution} (hn : ReceptionSound build.os n.mac.received)
    (h : executeReceive build attempt₁ attempt₂ polls n = .ok (n', ret)) :
    ReceptionSound build.os n'.mac.received := by
  have hheard (radio : CtrlRadio) (k : Node) :
      (mclmacReceiveControlPacket build radio k).1.mac.received = k.mac.received :=
    congrArg Prod.fst (mclmacReceiveControlPacket_reception build radio k)
  have hfirst :
      ReceptionSound build.os (mclmacReceiveControlPacket build attempt₁ n).1.mac.received := by
    rwa [hheard]
  rcases executeReceive_cases h with ⟨-, rfl⟩ | ⟨-, rfl⟩ | ⟨-, m, rfl, rfl | hloop⟩
  · have hsecond := hheard attempt₂ (mclmacReceiveControlPacket build attempt₁ n).1
    rw [← hsecond] at hfirst
    exact hfirst
  · exact hfirst
  · exact hfirst
  · have hm : ReceptionSound build.os m.mac.received :=
      pollLoop_inv (fun k => ReceptionSound build.os k.mac.received)
        (fun k => ReceptionSound build.os k.mac.received)
        (fun _ _ _ hk hpoll => receivePoll_receptionSound hk hpoll)
        (fun _ _ _ hk hpoll => receivePoll_receptionSound hk hpoll) polls hfirst hloop
    exact hm

/-! ## Sessions -/

/-- Why a turn of the loop of `MEDIUM_ACCESS` fails, if the session has read these messages so far. -/
def SessionFault (build : Build) (given : List ByteString) (inp : PmInput) (n : Node) (e : Halt) :
    Prop :=
  n.powerMode.currentState = .passive ∧ PassiveFault build given inp.passive n e ∨
    n.powerMode.currentState = .receive ∧ e = .outOfBounds ∧ ReceiveFault build inp n

/-- A turn of the loop keeps the received packets sound. -/
theorem Session.receptionSound {inp : PmInput} (h : Session build inp n n')
    (hn : ReceptionSound build.os n.mac.received) : ReceptionSound build.os n'.mac.received := by
  cases h with
  | @passive m hmode h =>
    have hm := executePassive_receptionSound hn h
    exact hm
  | @active m hmode h hnext =>
    have hsame : m.mac.received = n.mac.received := congrArg Prod.fst (executeActive_reception h)
    rw [← hsame] at hn
    exact hn
  | @collision m hmode h =>
    have hsame : m.mac.received = n.mac.received := congrArg Prod.fst (executeActive_reception h)
    rw [← hsame] at hn
    exact hn
  | @transmit m hmode h =>
    have hsame : m.mac.received = n.mac.received := congrArg Prod.fst (executeTransmit_reception h)
    rw [← hsame] at hn
    exact hn
  | @receive m hmode h =>
    have hm := executeReceive_receptionSound hn h
    exact hm

/-- What holds at every point of a session that has read these messages. -/
structure SessionSound (build : Build) (n₀ n : Node) (given : List ByteString) : Prop where
  session : InSession n.powerMode.currentState
  nSlots : n.nSlots > 0
  sends : SendsInOrder build.os n₀ n given
  reception : ReceptionSound build.os n.mac.received

theorem SessionSound.step {inp : PmInput} (hn : SessionSound build n₀ n given)
    (h : sessionStep build inp n = some n') :
    SessionSound build n₀ n' (given ++ messagesRead build inp n) := by
  have hturn := sessionStep_cases hn.session h
  have hslots : n'.nSlots = n.nSlots := congrArg Standing.nSlots hturn.standing
  exact ⟨hturn.inSession, hslots ▸ hn.nSlots, hturn.sendsInOrder hn.sends,
    hturn.receptionSound hn.reception⟩

/-- A session starts so, if what is in the ring of the received packets can be encoded. -/
theorem SessionSound.start (hslots : n.nSlots > 0)
    (hencodable : ∀ entry, (n.mac.received.packetsReceived entry).Encodable build.os)
    (h : enterMediumAccess build n = .ok n') : SessionSound build n' n' [] := by
  have hsends := enterMediumAccess_sendsInOrder h
  rw [enterMediumAccess_cases h] at hsends ⊢
  exact ⟨.inl rfl, hslots, hsends, ReceptionSound.reset hencodable⟩

/-- With slots in the network, the current state is executed. -/
theorem executePowermode_eq (build : Build) (inp : PmInput) (hslots : n.nSlots > 0) :
    mclmacExecutePowermodeState build inp n =
      match n.powerMode.currentState with
      | .nonep => .ok (n, .failed)
      | .startp => executeStartp build n >>= fun m => .ok (m, .success)
      | .passive => executePassive build inp.passive n >>= fun m => .ok (m, .success)
      | .active => executeActive build inp.active n
      | .transmit => executeTransmit build inp.transmit n
      | .receive => executeReceive build inp.attempt₁ inp.attempt₂ inp.receive n
      | .finishp => .ok (executeFinishp n, .success)
      | .idlep => .ok (n, .success) := by
  unfold mclmacExecutePowermodeState
  rw [decide_eq_true hslots, assert_true, ok_bind]
  cases n.powerMode.currentState <;> rfl

/-- **A turn of a session** fails for these reasons. -/
theorem mediumAccessPoll_error_iff (he : e ≠ .polling) (hn : SessionSound build n₀ n given)
    (inp : PmInput) :
    mediumAccessPoll build inp n = .error e ↔ SessionFault build given inp n e := by
  have hpoll : mediumAccessPoll build inp n = .error e ↔
      mclmacExecutePowermodeState build inp n = .error e := by
    unfold mediumAccessPoll
    rw [bind_eq_error]
    refine ⟨?_, .inl⟩
    rintro (h | ⟨⟨m, ret⟩, -, h⟩)
    · exact h
    · cases ret <;> cases h
  rw [hpoll, executePowermode_eq build inp hn.nSlots, SessionFault]
  obtain hmode | hmode | hmode | hmode := hn.session
  · have hpassive := executePassive_error_iff build he hn.sends hn.reception inp.passive
    simp [hmode, bind_eq_error, hpassive]
  · simp [hmode, executeActive_ne_error he]
  · simp [hmode, executeTransmit_ne_error he hn.sends]
  · have hreceive := executeReceive_error_iff build he hn.reception inp
    simp [hmode, hreceive]

end WmnIot
