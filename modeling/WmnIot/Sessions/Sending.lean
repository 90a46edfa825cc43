import WmnIot.Driver.Emissions
import WmnIot.PowerMode.Draining
import WmnIot.Queues.Routing

/-! # What a session sends of what it is given

During a session of `MEDIUM_ACCESS` the messages of the upper layers are read in `PASSIVE` and sent
in `TRANSMIT`, and much happens in between. The packets of a class leave in the order in which the
messages were read, each of them once, and what has not left yet is in the queue. This is so in a
session whose turns all return: the eleventh message of a class is stored behind the array.

* **`messagesRead`** — the messages that the turns of the loop decode into the send queues.
* **`SendsInOrder`** — what the radio was given, against what was read.
* **`session_sendsInOrder`** — the sessions. -/

namespace WmnIot

open RingBuffer Runs

/-! ## Messages and data packets -/

/-- The message that `mclmac_read_queue_element` decodes into a send queue, if it does. -/
def readMessage (build : Build) (buf : ByteString) (n : Node) : Option ByteString :=
  match mclmacReadQueueElement build buf n with
  | .ok (_, 1) =>
    (recvMessage build.os n.selfPid n.macQueueId buf Config.maxMessageSize n.queues).toOption.map
      fun r => r.msg
  | _ => none

/-- The message that a turn of the loop of `PASSIVE` decodes into a send queue, if it does. -/
def PassivePoll.read (build : Build) (p : PassivePoll) (n : Node) : List ByteString :=
  ((p.reading build n).bind (readMessage build p.buf)).toList

/-- The messages that a turn of the loop of `MEDIUM_ACCESS` decodes into the send queues. -/
def messagesRead (build : Build) (inp : PmInput) (n : Node) : List ByteString :=
  if n.powerMode.currentState = .passive then
    loopRecorded (PassivePoll.read build) (passivePoll build) inp.passive
      { n with mac.frame.currentCfSlot := 0 }
  else []

/-- How a message goes on the air: decoded and encoded again. What uninitialised variables hold is not
among the bytes. -/
def recoded (b : ByteString) : ByteString := datapacketBytes (fun _ => 0) (datapacketOfBytes b)

/-- The strings of a class. -/
def inClass (c : SendClass) (strings : List ByteString) : List ByteString :=
  strings.filter fun b => sendClass (b 0) = some c

/-- The data packets among the frames. -/
def dataPackets (frames : List Transmission) : List ByteString :=
  frames.filterMap fun
    | .data bytes => some bytes
    | _ => none

variable {build : Build} {n₀ n n' m : Node} {c : SendClass} {given : List ByteString}

theorem datapacketBytes_eq_recoded (junk : ℕ → UInt8) (b : ByteString) :
    datapacketBytes junk (datapacketOfBytes b) = recoded b :=
  datapacketBytes_datapacketOfBytes_junk _ _ _

/-- A message keeps its type on the air. -/
theorem recoded_zero (b : ByteString) : recoded b 0 = b 0 :=
  datapacketBytes_datapacketOfBytes_of_lt (Nat.lt_add_right _ (by decide))

@[simp]
theorem inClass_append (c : SendClass) (l l' : List ByteString) :
    inClass c (l ++ l') = inClass c l ++ inClass c l' :=
  List.filter_append ..

theorem inClass_singleton {b : ByteString} (h : sendClass (b 0) = some c) : inClass c [b] = [b] := by
  simp [inClass, h]

theorem inClass_singleton_of_ne {c' : SendClass} {b : ByteString} (h : sendClass (b 0) = some c)
    (hne : c' ≠ c) : inClass c' [b] = [] := by
  simp [inClass, h, hne.symm]

/-- The class of a recoded message is that of the message. -/
theorem sendClass_of_mem_recoded {b : ByteString} (h : b ∈ (inClass c given).map recoded) :
    sendClass (b 0) = some c := by
  obtain ⟨b, hb, rfl⟩ := List.mem_map.mp h
  rw [recoded_zero]
  simpa using (List.mem_filter.mp hb).2

@[simp]
theorem dataPackets_append (l l' : List Transmission) :
    dataPackets (l ++ l') = dataPackets l ++ dataPackets l' :=
  List.filterMap_append

theorem dataSent_of_append {out : List Transmission} (h : n.sent = n₀.sent ++ out) :
    dataSent n₀ n = dataPackets out := by
  rw [dataSent, h, List.drop_left]
  rfl

/-- Frames that are no data packets. -/
theorem Emits.dataPackets_eq_nil {p : Transmission → Prop} (h : Emits p n n')
    (hp : ∀ t, p t → ∀ b, t ≠ .data b) :
    ∃ out, n'.sent = n.sent ++ out ∧ dataPackets out = [] := by
  obtain ⟨out, hsent, hout⟩ := h
  refine ⟨out, hsent, List.filterMap_eq_nil_iff.mpr fun t ht => ?_⟩
  have hdata := hp t (hout t ht)
  cases t with
  | data b => exact absurd rfl (hdata b)
  | cf pkt | control pkt => rfl

/-! ## The invariant -/

/-- Since the first state the radio was given data packets of the two classes, those of each class in
the order in which the messages of that class were read, and the rest of these are in the queue. -/
structure SendsInOrder (os : OS) (n₀ n : Node) (given : List ByteString) : Prop where
  sent : n₀.sent <+: n.sent
  ring : ∀ c, ∃ left : List ByteString,
    SendRing os (n.sendQueue c) (left.map datapacketOfBytes) (inClass c given).length ∧
      (inClass c given).map recoded = inClass c (dataSent n₀ n) ++ left.map recoded
  classes : ∀ b ∈ dataSent n₀ n, ∃ c, sendClass (b 0) = some c

namespace SendsInOrder

variable {os : OS}

/-- With queues that have just been reset nothing is in them. -/
theorem start (hqueues : ∀ c, ∃ packets q, n.sendQueue c = { SendQueue.reset q with packets := packets }) :
    SendsInOrder os n n [] := by
  have hnone : dataSent n n = [] := by simp [dataSent]
  refine ⟨List.prefix_rfl, fun c => ⟨[], ?_, by simp [inClass, hnone]⟩, by simp [hnone]⟩
  obtain ⟨packets, q, hq⟩ := hqueues c
  rw [hq]
  exact SendRing.reset os packets q

/-- Frames that are no data packets change nothing, as long as the queues stay as they are. -/
theorem silent (h : SendsInOrder os n₀ n given) {out : List Transmission}
    (hsent : n'.sent = n.sent ++ out) (hout : dataPackets out = [])
    (hqueue : n'.sendQueue = n.sendQueue) : SendsInOrder os n₀ n' given := by
  obtain ⟨before, hbefore⟩ := h.sent
  have hdata : dataSent n₀ n' = dataSent n₀ n := by
    rw [dataSent_of_append hbefore.symm,
      dataSent_of_append (hsent.trans (by rw [← hbefore, List.append_assoc])), dataPackets_append,
      hout, List.append_nil]
  refine ⟨?_, fun c => ?_, ?_⟩
  · rw [hsent]
    exact h.sent.trans (List.prefix_append _ _)
  · rw [hqueue, hdata]
    exact h.ring c
  · rw [hdata]
    exact h.classes

theorem congr (h : SendsInOrder os n₀ n given) (hsent : n'.sent = n.sent)
    (hqueue : n'.sendQueue = n.sendQueue) : SendsInOrder os n₀ n' given :=
  h.silent (hsent.trans (List.append_nil _).symm) rfl hqueue

/-- **Reading** a message appends it to the queue of its class. -/
theorem read (h : SendsInOrder os n₀ n given) {msg : ByteString} {q : SendQueue}
    (hclass : sendClass (msg 0) = some c) (hstore : (n.sendQueue c).store os msg = .ok q)
    (hsent : n'.sent = n.sent) (hqueue : n'.sendQueue = Function.update n.sendQueue c q) :
    SendsInOrder os n₀ n' (given ++ [msg]) := by
  have hdata : dataSent n₀ n' = dataSent n₀ n := by rw [dataSent, hsent, dataSent]
  refine ⟨hsent ▸ h.sent, fun c' => ?_, hdata ▸ h.classes⟩
  rw [hdata, hqueue, inClass_append]
  by_cases hc : c' = c
  · subst hc
    obtain ⟨left, hring, hgiven⟩ := h.ring c'
    -- the call has returned, so the message fits and is one of the first ten
    have hsize : SizeFits os msg := by
      by_contra hno
      exact SendRing.store_of_not_sizeFits hno q hstore
    have hten : (inClass c' given).length < Config.maxNumberDataPackets := by
      refine lt_of_le_of_ne hring.accepted_le fun heq => ?_
      rw [heq] at hring
      exact hring.store_of_full msg q hstore
    have hlength := congrArg List.length hgiven
    rw [List.length_map, List.length_append, List.length_map] at hlength
    have hroom : (left.map datapacketOfBytes).length < Config.maxNumberDataPackets := by
      rw [List.length_map]
      omega
    obtain ⟨q', hstore', hring'⟩ := hring.store hroom hten hsize
    obtain rfl : q = q' := Except.ok.inj (hstore.symm.trans hstore')
    refine ⟨left ++ [msg], ?_, ?_⟩
    · rw [Function.update_self, inClass_singleton hclass, List.length_append, List.map_append]
      exact hring'
    · rw [inClass_singleton hclass, List.map_append, List.map_append, hgiven, List.append_assoc]
  · rw [Function.update_of_ne hc, inClass_singleton_of_ne hclass hc, List.append_nil]
    exact h.ring c'

/-- **Sending** takes the oldest packet of a queue. -/
theorem send (h : SendsInOrder os n₀ n given) {q : SendQueue} {bytes : ByteString}
    (hpos : (n.sendQueue c).packetsToSend ≠ 0) (htake : (n.sendQueue c).take os n.junk = .ok (q, bytes))
    (hsent : n'.sent = n.sent ++ [.data bytes])
    (hqueue : n'.sendQueue = Function.update n.sendQueue c q) : SendsInOrder os n₀ n' given := by
  obtain ⟨before, hbefore⟩ := h.sent
  -- what was sent grows by this string, and nothing else was sent since
  have hdata : dataSent n₀ n' = dataSent n₀ n ++ [bytes] := by
    rw [dataSent_of_append hbefore.symm,
      dataSent_of_append (hsent.trans (by rw [← hbefore, List.append_assoc])), dataPackets_append]
    rfl
  obtain ⟨left, hring, hgiven⟩ := h.ring c
  -- the counter is not zero, so a message waits in the queue
  obtain ⟨msg, rest, rfl⟩ : ∃ msg rest, left = msg :: rest := by
    refine List.exists_cons_of_ne_nil fun hnil => hpos ?_
    have hcount := hring.count_eq
    rw [hnil] at hcount
    exact UInt8.toNat_inj.mp hcount
  obtain ⟨q', htake', hring'⟩ := hring.take n.junk
  obtain ⟨rfl, hbytes⟩ := Prod.mk.inj (Except.ok.inj (htake.symm.trans htake'))
  rw [datapacketBytes_eq_recoded] at hbytes
  subst hbytes
  have hclass : sendClass (recoded msg 0) = some c := by
    have hmem : recoded msg ∈ (inClass c given).map recoded := by
      rw [hgiven]
      exact List.mem_append_right _ List.mem_cons_self
    exact sendClass_of_mem_recoded hmem
  refine ⟨hsent ▸ h.sent.trans (List.prefix_append _ _), fun c' => ?_, ?_⟩
  · rw [hdata, hqueue, inClass_append]
    by_cases hc : c' = c
    · subst hc
      rw [Function.update_self, inClass_singleton hclass]
      exact ⟨rest, hring', by rw [hgiven, List.append_assoc]; rfl⟩
    · rw [Function.update_of_ne hc, inClass_singleton_of_ne hclass hc, List.append_nil]
      exact h.ring c'
  · intro b hb
    rw [hdata, List.mem_append, List.mem_singleton] at hb
    rcases hb with hb | rfl
    · exact h.classes b hb
    · exact ⟨c, hclass⟩

end SendsInOrder

/-! ## The states -/

/-- What `mclmac_read_queue_element` does: it decodes a message into the queue of its class, or it
leaves the send queues alone. -/
theorem mclmacReadQueueElement_reads {buf : ByteString} {ret : ℕ}
    (h : mclmacReadQueueElement build buf n = .ok (n', ret)) :
    (readMessage build buf n = none ∧ n'.sendQueue = n.sendQueue) ∨
      ∃ msg c q, readMessage build buf n = some msg ∧ sendClass (msg 0) = some c ∧
        (n.sendQueue c).store build.os msg = .ok q ∧
        n'.sendQueue = Function.update n.sendQueue c q := by
  have hread := h
  have hnone : ret = 0 → readMessage build buf n = none := by
    rintro rfl
    rw [readMessage, hread]
    rfl
  unfold mclmacReadQueueElement at h
  obtain ⟨-, -, h⟩ := bind_eq_ok.mp h
  obtain ⟨-, -, h⟩ := bind_eq_ok.mp h
  -- both queues are full
  split at h
  · cases h
    exact .inl ⟨hnone rfl, rfl⟩
  obtain ⟨elements, -, h⟩ := bind_eq_ok.mp h
  -- no message waits
  split at h
  · cases h
    exact .inl ⟨hnone rfl, rfl⟩
  obtain ⟨r, hrecv, h⟩ := bind_eq_ok.mp h
  have hmessage : ret = 1 → readMessage build buf n = some r.msg := by
    rintro rfl
    rw [readMessage, hread, hrecv]
    rfl
  -- the type byte tells the class of the message, if it has one
  dsimp only at h
  split at h
  · next hclass =>
    obtain ⟨q, hstore, h⟩ := bind_eq_ok.mp h
    cases h
    exact .inr ⟨r.msg, .message, q, hmessage rfl, if_pos hclass, hstore,
      by funext c; cases c <;> rfl⟩
  next hmessages =>
  split at h
  · next hclass =>
    obtain ⟨q, hstore, h⟩ := bind_eq_ok.mp h
    cases h
    exact .inr ⟨r.msg, .control, q, hmessage rfl, by rw [sendClass, if_neg hmessages, if_pos hclass],
      hstore, by funext c; cases c <;> rfl⟩
  · cases h
    exact .inl ⟨hnone rfl, rfl⟩

theorem pollSlotTimer_sendQueue (tick : Tick) (n : Node) :
    (pollSlotTimer tick n).1.sendQueue = n.sendQueue := by
  unfold pollSlotTimer
  dsimp only
  split <;> rfl

/-- What a turn of the loop of `PASSIVE` reads. -/
theorem passivePoll_reads {p : PassivePoll} {go : Bool} (h : passivePoll build p n = .ok (n', go)) :
    (p.read build n = [] ∧ n'.sendQueue = n.sendQueue) ∨
      ∃ msg c q, p.read build n = [msg] ∧ sendClass (msg 0) = some c ∧
        (n.sendQueue c).store build.os msg = .ok q ∧
        n'.sendQueue = Function.update n.sendQueue c q := by
  have hpolled := pollSlotTimer_sendQueue p.tick n
  unfold passivePoll at h
  unfold PassivePoll.read PassivePoll.reading
  generalize pollSlotTimer p.tick n = polled at h hpolled ⊢
  obtain ⟨m, s⟩ := polled
  obtain ⟨elements, helements, h⟩ := bind_eq_ok.mp h
  dsimp only at h helements hpolled ⊢
  rw [helements]
  dsimp only
  split at h
  · next hnothing =>
    cases h
    rw [if_pos hnothing]
    exact .inl ⟨rfl, hpolled⟩
  · next hnothing =>
    rw [if_neg hnothing, Option.bind_some]
    obtain ⟨⟨m₁, ret₁⟩, hread, h⟩ := bind_eq_ok.mp h
    obtain ⟨⟨m₂, ret₂⟩, hwrite, h⟩ := bind_eq_ok.mp h
    cases h
    -- what is written afterwards does not touch the send queues
    obtain ⟨_, _, _, hm₂⟩ := mclmacWriteQueueElement_frame hwrite
    have hsame : m₂.sendQueue = m₁.sendQueue := by
      rw [hm₂]
      rfl
    have hrun : (m.runThreads build p.before).sendQueue = n.sendQueue := hpolled
    rw [hsame, ← hrun]
    rcases mclmacReadQueueElement_reads hread with ⟨hnone, hqueue⟩ | ⟨msg, c, q, hsome, hrest⟩
    · rw [hnone]
      exact .inl ⟨rfl, hqueue⟩
    · rw [hsome]
      exact .inr ⟨msg, c, q, rfl, hrest⟩

theorem passivePoll_sendsInOrder {p : PassivePoll} {go : Bool} (hn : SendsInOrder build.os n₀ n given)
    (h : passivePoll build p n = .ok (n', go)) :
    SendsInOrder build.os n₀ n' (given ++ p.read build n) := by
  have hsent := passivePoll_sent h
  rcases passivePoll_reads h with ⟨hnone, hqueue⟩ | ⟨msg, c, q, hmsg, hclass, hstore, hqueue⟩
  · rw [hnone, List.append_nil]
    exact hn.congr hsent hqueue
  · rw [hmsg]
    exact hn.read hclass hstore hsent hqueue

/-- **`PASSIVE`** reads in order. -/
theorem executePassive_sendsInOrder {polls : List PassivePoll} (hn : SendsInOrder build.os n₀ n given)
    (h : executePassive build polls n = .ok n') :
    SendsInOrder build.os n₀ n' (given ++ loopRecorded (PassivePoll.read build) (passivePoll build) polls
      { n with mac.frame.currentCfSlot := 0 }) := by
  obtain ⟨m, hloop, -, rfl⟩ := executePassive_cases h
  have hstart : SendsInOrder build.os n₀ { n with mac.frame.currentCfSlot := 0 } given :=
    hn.congr rfl rfl
  have hm : SendsInOrder build.os n₀ m (given ++ loopRecorded (PassivePoll.read build) (passivePoll build)
      polls { n with mac.frame.currentCfSlot := 0 }) :=
    pollLoop_recorded (SendsInOrder build.os n₀) (SendsInOrder build.os n₀)
      (fun _ _ _ _ hk hpoll => passivePoll_sendsInOrder hk hpoll)
      (fun _ _ _ _ hk hpoll => passivePoll_sendsInOrder hk hpoll) polls hstart hloop
  exact hm.congr rfl rfl

theorem sendQueue_of_sendQueues (h : n'.sendQueues = n.sendQueues) : n'.sendQueue = n.sendQueue := by
  obtain ⟨hmessage, hcontrol⟩ := Prod.mk.inj h
  funext c
  cases c with
  | message => exact hmessage
  | control => exact hcontrol

/-- **`ACTIVE`** leaves the queues alone. -/
theorem executeActive_sendsInOrder {polls : List ActivePoll} {ret : PmExecution}
    (hn : SendsInOrder build.os n₀ n given) (h : executeActive build polls n = .ok (n', ret)) :
    SendsInOrder build.os n₀ n' given := by
  obtain ⟨out, hsent, hout⟩ := (executeActive_emits h).dataPackets_eq_nil (by
    rintro _ ⟨_, rfl⟩ b
    simp)
  exact hn.silent hsent hout (sendQueue_of_sendQueues (executeActive_sendQueues h))

theorem transmitPoll_sendsInOrder {tick : Tick} {go : Bool} (hn : SendsInOrder build.os n₀ n given)
    (h : transmitPoll build tick n = .ok (n', go)) : SendsInOrder build.os n₀ n' given := by
  have hpolled : SendsInOrder build.os n₀ (pollSlotTimer tick n).1 given :=
    hn.congr (pollSlotTimer_sent tick n).1 (pollSlotTimer_sendQueue tick n)
  unfold transmitPoll at h
  dsimp only at h
  split at h
  · cases h
    exact hpolled
  obtain ⟨m, hsend, h⟩ := bind_eq_ok.mp h
  cases h
  have hfirst : ∀ c, ((pollSlotTimer tick n).1.sendQueue c).firstSend.toNat <
      Config.maxNumberDataPackets := fun c => by
    obtain ⟨_, hring, -⟩ := hpolled.ring c
    exact hring.first_lt
  have hfrom : ∀ c, ((pollSlotTimer tick n).1.sendQueue c).packetsToSend ≠ 0 →
      (pollSlotTimer tick n).1.sendFrom build.os c = .ok n' → SendsInOrder build.os n₀ n' given := by
    intro c hpos hfrom
    obtain ⟨⟨q, bytes⟩, htake, hn'⟩ := bind_eq_ok.mp hfrom
    obtain rfl := Except.ok.inj hn'
    refine hpolled.send hpos htake ?_ ?_
    · cases c <;> rfl
    · rw [sendQueue_setSendQueue]
      rfl
  -- control packets go first
  rw [mclmacSendDataPacket_eq hfirst] at hsend
  split at hsend
  · next hcontrol => exact hfrom .control hcontrol hsend
  split at hsend
  · next hmessage => exact hfrom .message hmessage hsend
  · obtain rfl := Except.ok.inj hsend
    exact hpolled

/-- **`TRANSMIT`** sends in order. -/
theorem executeTransmit_sendsInOrder {ticks : List Tick} {ret : PmExecution}
    (hn : SendsInOrder build.os n₀ n given) (h : executeTransmit build ticks n = .ok (n', ret)) :
    SendsInOrder build.os n₀ n' given := by
  have hcontrol : SendsInOrder build.os n₀ (afterControlPacket n) given := hn.silent rfl rfl rfl
  rcases executeTransmit_cases h with ⟨-, -, -, rfl⟩ | ⟨-, -, -, rfl⟩ | ⟨-, -, m, hloop, rfl⟩
  · exact hcontrol.congr rfl rfl
  · exact hcontrol.congr rfl rfl
  · have hm : SendsInOrder build.os n₀ m given :=
      pollLoop_inv (fun k => SendsInOrder build.os n₀ k given)
        (fun k => SendsInOrder build.os n₀ k given)
        (fun _ _ _ hk hpoll => transmitPoll_sendsInOrder hk hpoll)
        (fun _ _ _ hk hpoll => transmitPoll_sendsInOrder hk hpoll) ticks hcontrol hloop
    exact hm.congr rfl rfl

/-- **`RECEIVE`** leaves the queues alone. -/
theorem executeReceive_sendQueue {attempt₁ attempt₂ : CtrlRadio} {polls : List ReceivePoll}
    {ret : PmExecution} (h : executeReceive build attempt₁ attempt₂ polls n = .ok (n', ret)) :
    n'.sendQueue = n.sendQueue := by
  have hheard : ∀ radio (k : Node), (mclmacReceiveControlPacket build radio k).1.sendQueue =
      k.sendQueue := by
    intro radio k
    obtain ⟨_, _, hk⟩ := mclmacReceiveControlPacket_frame build radio k
    rw [hk]
    rfl
  rcases executeReceive_cases h with ⟨-, rfl⟩ | ⟨-, rfl⟩ | ⟨-, m, rfl, rfl | hloop⟩
  · exact (hheard attempt₂ _).trans (hheard attempt₁ n)
  · exact hheard attempt₁ n
  · exact hheard attempt₁ n
  · refine (pollLoop_frame (f := Node.sendQueue) (fun _ _ _ _ hpoll => ?_) polls hloop).trans
      (hheard attempt₁ n)
    obtain ⟨_, rfl⟩ := receivePoll_frame hpoll
    rfl

/-! ## Sessions -/

/-- **A turn of the loop of `MEDIUM_ACCESS`** keeps the order. -/
theorem Session.sendsInOrder {inp : PmInput} (h : Session build inp n n')
    (hn : SendsInOrder build.os n₀ n given) :
    SendsInOrder build.os n₀ n' (given ++ messagesRead build inp n) := by
  cases h with
  | @passive m hmode h =>
    rw [messagesRead, if_pos hmode]
    exact (executePassive_sendsInOrder hn h).congr rfl rfl
  | @active m hmode h hnext =>
    rw [messagesRead, if_neg (by rw [hmode]; decide), List.append_nil]
    exact (executeActive_sendsInOrder hn h).congr rfl rfl
  | @collision m hmode h =>
    rw [messagesRead, if_neg (by rw [hmode]; decide), List.append_nil]
    exact (executeActive_sendsInOrder hn h).congr rfl rfl
  | @transmit m hmode h =>
    rw [messagesRead, if_neg (by rw [hmode]; decide), List.append_nil]
    exact (executeTransmit_sendsInOrder hn h).congr rfl rfl
  | @receive m hmode h =>
    rw [messagesRead, if_neg (by rw [hmode]; decide), List.append_nil]
    exact (hn.congr (executeReceive_sent h) (executeReceive_sendQueue h)).congr rfl rfl

/-- A session begins with empty queues. -/
theorem enterMediumAccess_sendsInOrder (h : enterMediumAccess build n = .ok n') :
    SendsInOrder build.os n' n' [] := by
  refine SendsInOrder.start fun c => ?_
  rw [enterMediumAccess_cases h]
  cases c
  · exact ⟨n.mac.message.packets, n.mac.message, rfl⟩
  · exact ⟨n.mac.control.packets, n.mac.control, rfl⟩

/-- A first node with slot 1 and one message to read. -/
def carrier : Node :=
  { firstNode with
    queues := oneMessage
    mac.selectedSlot := 1 }

/-- The message is read while slot 0 ends, and sent in slot 1. -/
def carrying : List PmInput :=
  quietSlot 0 ++ [{ transmit := [⟨84500, true⟩] }]

end WmnIot
