import WmnIot.Codec.DataPacket
import WmnIot.Driver.Runs
import WmnIot.PowerMode.SlotTimer

/-! # Announced destinations

`ACTIVE` announces `_destination_id` in its CF message, and `TRANSMIT` then sends the packet that
waits at the head of the queues. Nothing sets `_destination_id` to the destination of that packet:
from `MCLMAC_init` on it stays the one of a message for all.

* **`announcements`**, **`dataSent`** — what a part of a run gives to the radio.
* **`nextToSend`** — the packet at the head of the queues.
* **`announcedDestination_iff`** — when the announcement names the destination. -/

namespace WmnIot

open BigEndian Runs

/-! ## What the radio is given -/

/-- The CF packets that the radio is given from the first state to the second. -/
def announcements (n m : Node) : List CFPacket :=
  (m.sent.drop n.sent.length).filterMap fun
    | .cf pkt => some pkt
    | _ => none

/-- The data packets that the radio is given from the first state to the second. -/
def dataSent (n m : Node) : List ByteString :=
  (m.sent.drop n.sent.length).filterMap fun
    | .data bytes => some bytes
    | _ => none

/-- The packet at the head of the queues: the oldest control packet, or else the oldest message. -/
def nextToSend (n : Node) : Option DataPacket :=
  let q := if n.mac.control.packetsToSend > 0 then n.mac.control else n.mac.message
  if h : q.firstSend.toNat < Config.maxNumberDataPackets then some (q.packets ⟨q.firstSend.toNat, h⟩)
  else none

variable {build : Build} {n n' m : Node} {ret : PmExecution}

/-- The destination in the bytes of a packet. -/
theorem destinationId_datapacketBytes (junk : ℕ → UInt8) (pkt : DataPacket) :
    (datapacketOfBytes (datapacketBytes junk pkt)).destinationId = pkt.destinationId := by
  have hid : ofBytes64 _ _ _ _ _ _ _ _ = pkt.destinationId.1 := ofBytes64_of_toBytes64 rfl
  have hid' : ofBytes64 _ _ _ _ _ _ _ _ = pkt.destinationId.2 := ofBytes64_of_toBytes64 rfl
  exact Prod.ext hid hid'

/-! ## `ACTIVE` announces once -/

/-- What the loop of `ACTIVE` has announced so far, in an execution by a node that is not the first
of its network: nothing, or its destination once. -/
structure AnnouncedBy (n : Node) (s : Node × ActiveLocals) : Prop where
  joined : s.1.isFirstNode = false
  nodeId : s.1.nodeId = n.nodeId
  destinationId : s.1.mac.destinationId = n.mac.destinationId
  sent : (s.2.send = false ∧ s.1.sent = n.sent) ∨ (s.2.send = true ∧ s.2.isCurrent = false ∧
    s.1.sent = n.sent ++ [.cf (cfpacketCreate n.nodeId n.mac.destinationId)])

/-- A turn of a channel announces, unless the node has done so already, or leaves it at that. -/
theorem AnnouncedBy.turn {s : Node × ActiveLocals} (h : AnnouncedBy n s)
    (selectedFreq channel : UInt32) (cf : Option CFPacket) :
    AnnouncedBy n (cfTurn selectedFreq channel cf s.1 s.2) := by
  obtain ⟨hjoined, hnodeId, hdestination, hsent⟩ := h
  unfold cfTurn
  split
  · next hturn =>
    -- the node's own turn: it has not announced yet
    rcases hsent with ⟨hsend, hsent⟩ | ⟨-, hcurrent, -⟩
    · unfold announce
      dsimp only
      split
      · have hfirst : ¬ (mclmacSendCfMessage s.1 s.1.mac.destinationId).isFirstNode = true := by
          rw [Bool.not_eq_true]
          exact hjoined
        rw [if_neg hfirst]
        refine ⟨hjoined, hnodeId, hdestination, .inr ⟨rfl, rfl, ?_⟩⟩
        show s.1.sent ++ [.cf (cfpacketCreate s.1.nodeId s.1.mac.destinationId)] = _
        rw [hsent, hnodeId, hdestination]
      · rw [hjoined]
        exact ⟨hjoined, hnodeId, hdestination, .inl ⟨hsend, hsent⟩⟩
    · rw [hcurrent] at hturn
      exact nomatch hturn
  · cases cf with
    | none => exact ⟨hjoined, hnodeId, hdestination, hsent⟩
    | some pkt =>
      by_cases hpkt : Addressed s.1 pkt
      · rw [listenCf_of_addressed channel s.2 hpkt]
        exact ⟨rfl, hnodeId, hdestination, hsent⟩
      · rw [listenCf_of_not_addressed channel s.2 hpkt]
        exact ⟨rfl, hnodeId, hdestination, hsent⟩

theorem AnnouncedBy.poll {freq : UInt32} {p : ActivePoll} {s s' : Node × ActiveLocals} {go : Bool}
    (hs : AnnouncedBy n s) (h : activePoll build freq p s = .ok (s', go)) : AnnouncedBy n s' := by
  obtain ⟨channel, -, ⟨-, rfl, -⟩ | ⟨-, -, rfl, -⟩ | ⟨-, -, rfl, -⟩⟩ := activePoll_cases h
  · apply AnnouncedBy.turn (s := (s.1.tick p.tick, s.2))
    exact ⟨hs.joined, hs.nodeId, hs.destinationId, hs.sent⟩
  · apply AnnouncedBy.turn (s := (setCfTimer build (nextCfSlot (s.1.tick p.tick)), s.2))
    exact ⟨hs.joined, hs.nodeId, hs.destinationId, hs.sent⟩
  · exact ⟨hs.joined, hs.nodeId, hs.destinationId, hs.sent⟩

/-- **`ACTIVE`**, when it leads to `TRANSMIT`, has announced the destination once. -/
theorem executeActive_announcements {polls : List ActivePoll} (hjoined : n.isFirstNode = false)
    (h : executeActive build polls n = .ok (n', .success))
    (hnext : n'.powerMode.nextState = .transmit) :
    announcements n n' = [cfpacketCreate n.nodeId n.mac.destinationId] := by
  obtain ⟨m, l, hloop, hout⟩ := executeActive_cases h
  have hinv : AnnouncedBy n (m, l) := pollLoop_inv (AnnouncedBy n) (AnnouncedBy n)
    (fun _ _ _ hs hpoll => hs.poll hpoll) (fun _ _ _ hs hpoll => hs.poll hpoll) polls
    ⟨hjoined, rfl, rfl, .inl ⟨rfl, rfl⟩⟩ hloop
  have hsent : n'.sent = m.sent := by
    rw [show n' = (activeOutcome m l).1 from (congrArg Prod.fst hout).symm]
    simp only [activeOutcome]
    split_ifs <;> rfl
  have hsend : l.send = true := by
    -- without an announcement the next state is another one
    rw [← Bool.not_eq_false]
    intro hsend
    unfold activeOutcome at hout
    split at hout
    · cases hout
    · cases hout
      cases hreceive : l.receive <;>
        simp [hsend, hreceive, mclmacSetNextPowermodeState] at hnext
  rcases hinv.sent with ⟨hfalse, -⟩ | ⟨-, -, hm⟩
  · exact Bool.noConfusion (hsend.symm.trans hfalse)
  · rw [announcements, hsent, hm, List.drop_left]
    rfl

/-! ## `TRANSMIT` sends the head of the queues first -/

/-- **What `mclmac_send_data_packet` does**: it sends the packet at the head of the queues, or
nothing. -/
theorem mclmacSendDataPacket_sent (h : mclmacSendDataPacket build n = .ok n') :
    n' = n ∨ ∃ pkt bytes, nextToSend n = some pkt ∧ (∃ junk, datapacketBytes junk pkt = bytes) ∧
      n'.sent = n.sent ++ [.data bytes] := by
  have htake {q q' : SendQueue} {bytes : ByteString} (h : q.take build.os n.junk = .ok (q', bytes)) :
      ∃ hlt : q.firstSend.toNat < Config.maxNumberDataPackets,
        ∃ junk, datapacketBytes junk (q.packets ⟨_, hlt⟩) = bytes := by
    unfold SendQueue.take datapacketGetPacketBytestring at h
    split at h
    · next hlt =>
      obtain ⟨b, hget, h⟩ := bind_eq_ok.mp h
      cases h
      split at hget
      · exact ⟨hlt, n.junk, Except.ok.inj hget⟩
      · cases hget
    · cases h
  unfold mclmacSendDataPacket at h
  dsimp only at h
  split at h
  · exact .inl (Except.ok.inj h).symm
  split at h
  · exact .inl (Except.ok.inj h).symm
  split at h
  · exact .inl (Except.ok.inj h).symm
  split at h
  · -- control packets go first
    next hcontrol =>
    obtain ⟨⟨q, bytes⟩, hq, h⟩ := bind_eq_ok.mp h
    cases h
    obtain ⟨hlt, hget⟩ := htake hq
    refine .inr ⟨_, bytes, ?_, hget, rfl⟩
    simp only [nextToSend, if_pos hcontrol, dif_pos hlt]
  · -- messages only when no control packet waits
    next hcontrol =>
    split at h
    · obtain ⟨⟨q, bytes⟩, hq, h⟩ := bind_eq_ok.mp h
      cases h
      obtain ⟨hlt, hget⟩ := htake hq
      refine .inr ⟨_, bytes, ?_, hget, rfl⟩
      simp only [nextToSend, if_neg hcontrol, dif_pos hlt]
    · exact .inl (Except.ok.inj h).symm

theorem pollSlotTimer_sent (tick : Tick) (n : Node) :
    (pollSlotTimer tick n).1.sent = n.sent ∧ nextToSend (pollSlotTimer tick n).1 = nextToSend n := by
  unfold pollSlotTimer
  dsimp only
  split <;> exact ⟨rfl, rfl⟩

/-- A turn of sending gives the radio more. -/
theorem transmitPoll_extends {tick : Tick} {go : Bool} (h : transmitPoll build tick n = .ok (n', go)) :
    n.sent <+: n'.sent := by
  have hpoll := (pollSlotTimer_sent tick n).1
  unfold transmitPoll at h
  dsimp only at h
  split at h
  · cases h
    rw [hpoll]
  · obtain ⟨m, hsend, h⟩ := bind_eq_ok.mp h
    cases h
    rw [← hpoll]
    rcases mclmacSendDataPacket_sent hsend with rfl | ⟨-, bytes, -, -, hsent⟩
    · exact List.prefix_rfl
    · rw [hsent]
      exact List.prefix_append _ _

/-- **The loop of `TRANSMIT`**: the first thing it gives to the radio, if there is one, is the packet
at the head of the queues. -/
theorem transmitLoop_first {ticks : List Tick}
    (h : pollLoop .polling (transmitPoll build) ticks n = .ok m) :
    m.sent = n.sent ∨ ∃ pkt bytes, nextToSend n = some pkt ∧
      (∃ junk, datapacketBytes junk pkt = bytes) ∧ n.sent ++ [.data bytes] <+: m.sent := by
  induction ticks generalizing n with
  | nil => cases h
  | cons tick ticks ih =>
    obtain ⟨hpoll, hnext⟩ := pollSlotTimer_sent tick n
    rw [pollLoop] at h
    unfold transmitPoll at h
    dsimp only at h
    cases hsleep : (pollSlotTimer tick n).2 with
    | false =>
      simp only [hsleep, Bool.not_false, if_true, pure_eq_ok] at h
      obtain rfl := Except.ok.inj h
      exact .inl hpoll
    | true =>
      simp only [hsleep, Bool.not_true, Bool.false_eq_true, if_false] at h
      cases hsend : mclmacSendDataPacket build (pollSlotTimer tick n).1 with
      | error e =>
        rw [hsend] at h
        cases h
      | ok n₁ =>
        rw [hsend, ok_bind, pure_eq_ok] at h
        rcases mclmacSendDataPacket_sent hsend with rfl | ⟨pkt, bytes, hpkt, hget, hsent⟩
        · -- nothing to send yet
          split at h
          · cases h
          · next s' hs =>
            obtain ⟨rfl, -⟩ := Prod.mk.inj (Except.ok.inj hs)
            have hrest := ih h
            rwa [hpoll, hnext] at hrest
          · next s' hs =>
            obtain ⟨rfl, -⟩ := Prod.mk.inj (Except.ok.inj hs)
            obtain rfl := Except.ok.inj h
            exact .inl hpoll
        · refine .inr ⟨pkt, bytes, hnext ▸ hpkt, hget, ?_⟩
          rw [← hpoll, ← hsent]
          split at h
          · cases h
          · next s' hs =>
            obtain ⟨rfl, -⟩ := Prod.mk.inj (Except.ok.inj hs)
            exact pollLoop_inv (fun s => n₁.sent <+: s.sent) (fun s => n₁.sent <+: s.sent)
              (fun _ _ _ hs hpoll => hs.trans (transmitPoll_extends hpoll))
              (fun _ _ _ hs hpoll => hs.trans (transmitPoll_extends hpoll)) ticks
              List.prefix_rfl h
          · next s' hs =>
            obtain ⟨rfl, -⟩ := Prod.mk.inj (Except.ok.inj hs)
            obtain rfl := Except.ok.inj h
            exact List.prefix_rfl

/-- **`TRANSMIT`**, when nothing is noted of a collision, sends the packet at the head of the queues
before any other data packet. -/
theorem executeTransmit_dataSent {ticks : List Tick} (hdetected : n.mac.collisionDetected = false)
    (h : executeTransmit build ticks n = .ok (n', ret)) {bytes : ByteString}
    (hfirst : (dataSent n n').head? = some bytes) :
    ∃ pkt, nextToSend n = some pkt ∧ ∃ junk, datapacketBytes junk pkt = bytes := by
  rcases executeTransmit_cases h with ⟨hc, -⟩ | ⟨hc, -⟩ | ⟨-, -, m, hloop, rfl⟩
  · exact nomatch hdetected.symm.trans hc
  · exact nomatch hdetected.symm.trans hc
  · have hsent : (afterControlPacket n).sent = n.sent ++ [.control (mclmacCreateControlPacket n).mac.ctrlpkt] :=
      rfl
    have hdata : dataSent n (mclmacSetNextPowermodeState m .passive) = dataSent n m := rfl
    rw [hdata, dataSent] at hfirst
    rcases transmitLoop_first hloop with hm | ⟨pkt, b, hpkt, hget, more, hm⟩
    · rw [hm, hsent, List.drop_left] at hfirst
      exact nomatch hfirst
    · rw [← hm, hsent, List.append_assoc, List.append_assoc, List.drop_left] at hfirst
      have hb : b = bytes := by simpa using hfirst
      exact ⟨pkt, hpkt, hb ▸ hget⟩

/-! ## The announcement and the packet -/

/-- **The announced destination**: wherever a run from `MCLMAC_init` has a node that is not the first
one announce itself with no collision to report, so for the packets it has queued, the announcement
names the destination of the packet that is sent first exactly if that packet is for all. -/
theorem announcedDestination_iff (build : Build) (n m m' : Node) (inp inp' : PmInput)
    (ret : PmExecution) (bytes : ByteString) (hreach : SessionReachable build n)
    (hmode : n.powerMode.currentState = .active) (hjoined : n.isFirstNode = false)
    (hdetected : n.mac.collisionDetected = false)
    (hactive : sessionStep build inp n = some m) (htransmit : m.powerMode.currentState = .transmit)
    (hexec : mclmacExecutePowermodeState build inp' m = .ok (m', ret))
    (hfirst : (dataSent m m').head? = some bytes) :
    (∀ cf ∈ announcements n m, cf.destinationId = (datapacketOfBytes bytes).destinationId) ↔
      ∀ pkt ∈ nextToSend n, pkt.destinationId = (0, 0) := by
  have hsession := hreach.inNetwork
  have hall : n.mac.destinationId = (0, 0) := hsession.collisionRecord.1
  -- what `ACTIVE` announces
  have hstep := sessionStep_cases hsession.session hactive
  have hannounced : announcements n m = [cfpacketCreate n.nodeId (0, 0)] ∧
      m.mac.collisionDetected = false ∧ nextToSend m = nextToSend n := by
    cases hstep with
    | passive hpassive => exact nomatch hmode.symm.trans hpassive
    | @active m₁ _ h hnext =>
      have hnext : m₁.powerMode.nextState = .transmit := htransmit
      refine ⟨?_, ?_, ?_⟩
      · have hsame : announcements n (mclmacSetPowermodeState m₁ m₁.powerMode.nextState) =
            announcements n m₁ := rfl
        rw [hsame, ← hall]
        exact executeActive_announcements hjoined h hnext
      · have hkept := (executeActive_kept h).2.1 (by decide)
        exact (congrArg CollisionRecord.detected hkept).trans hdetected
      · have hqueues : m₁.sendQueues = n.sendQueues := executeActive_sendQueues h
        obtain ⟨hmessage, hcontrol⟩ := Prod.mk.inj hqueues
        show nextToSend m₁ = _
        unfold nextToSend
        rw [hmessage, hcontrol]
    | @collision m₁ _ h =>
      have hstay := currentState_of_schedule (executeActive_schedule h)
      exact nomatch (htransmit.symm.trans hstay).trans hmode
    | transmit hmode' => exact nomatch hmode.symm.trans hmode'
    | receive hmode' => exact nomatch hmode.symm.trans hmode'
  obtain ⟨hannounced, hreported, hnext⟩ := hannounced
  -- what `TRANSMIT` sends
  obtain ⟨-, -, hexec⟩ := bind_eq_ok.mp hexec
  simp only [htransmit] at hexec
  obtain ⟨pkt, hpkt, junk, rfl⟩ := executeTransmit_dataSent hreported hexec hfirst
  have hbytes : (datapacketOfBytes (datapacketBytes junk pkt)).destinationId = pkt.destinationId :=
    destinationId_datapacketBytes junk pkt
  rw [hannounced, hbytes, ← hnext, hpkt]
  constructor
  · intro h pkt' hpkt'
    obtain rfl := Option.some.inj hpkt'
    exact (h _ List.mem_cons_self).symm
  · intro h cf hcf
    obtain rfl := List.mem_singleton.mp hcf
    exact (h pkt rfl).symm

/-! ### A node that joins a network -/

/-- The queues, once the node has opened that of the upper layers. -/
def queuesOpened : IpcQueues :=
  match openQueue .linux 1 1 1 newNode.queues with
  | .ok (queues, _) => queues
  | .error _ => newNode.queues

/-- It hears of a network that occupies the first slot, and joins it in the second one. -/
def joinNetwork : List DriverInput :=
  [{ tick := ⟨0, false⟩, queues := newNode.queues, mac := { rand := 1, pid := 1 } },
    { tick := ⟨0, false⟩, queues := queuesOpened
      mac := { initPolls := [{ detected := true, tick := ⟨0, false⟩ }] } },
    { tick := ⟨0, false⟩, queues := queuesOpened
      mac := { attempts := [.heard (controlpacketGetPacketBytestring
        { occupiedSlots := fun i j => if i = 0 ∧ j = 0 then 0x80 else 0 } 0)] } },
    { tick := ⟨0, false⟩, queues := queuesOpened
      mac := { frameTicks := [⟨1280000, true⟩] } }]

/-- Before its slot the upper layers give it a message for the destination. -/
def messageFor (destinationId : NodeId) : PmInput where
  passive := [{
    tick := ⟨1360000, true⟩
    before := [.send 2 1 (datapacketBytes (fun _ => 0)
      { type := 7, size := 1, destinationId := destinationId, data := [1] }) 256 1] }]

/-- It hears nothing in the common-frequency phase. -/
def quietPhase : PmInput where
  active := { tick := ⟨1360001, false⟩ } ::
    (List.range' 1 8).map fun j => { tick := ⟨1360000 + j * 500, true⟩ }

/-- The node in its slot, when it has taken the message for the destination. -/
def messageTaken (destinationId : NodeId) : Option Node :=
  (joinNetwork.foldlM (fun m inp => driverTurn ⟨.linux, true⟩ inp m) newNode).bind fun n =>
    (enterMediumAccess ⟨.linux, true⟩
        (n.resume { tick := ⟨1280000, false⟩, queues := queuesOpened })).toOption.bind fun n₁ =>
      [messageFor destinationId].foldlM (fun m i => sessionStep ⟨.linux, true⟩ i m) n₁

theorem messageTaken_reachable {destinationId : NodeId} (h : messageTaken destinationId = some n) :
    SessionReachable ⟨.linux, true⟩ n := by
  have hstate : (joinNetwork.foldlM (fun m inp => driverTurn ⟨.linux, true⟩ inp m) newNode).map
      (fun n => n.macState.currentState) = some .mediumAccess := by
    decide +kernel
  obtain ⟨n₀, hrun, h⟩ := Option.bind_eq_some_iff.mp h
  obtain ⟨n₁, henter, h⟩ := Option.bind_eq_some_iff.mp h
  rw [hrun] at hstate
  rw [toOption_eq_some] at henter
  exact ⟨n₀, _, n₁, _, ⟨_, _, _, joinNetwork, hrun⟩, Option.some.inj hstate, henter, h⟩

/-- What is announced and sent of the message, with the state that precedes the announcement. -/
def messageSent (destinationId : NodeId) : Option (Node × Node × Node × PmExecution × ByteString) :=
  (messageTaken destinationId).bind fun n =>
    (sessionStep ⟨.linux, true⟩ quietPhase n).bind fun m =>
      (mclmacExecutePowermodeState ⟨.linux, true⟩ { transmit := [⟨1364001, false⟩] } m).toOption.bind
        fun r => (dataSent m r.1).head?.map fun bytes => (n, m, r.1, r.2, bytes)

theorem messageSent_cases {destinationId : NodeId} {bytes : ByteString}
    (h : messageSent destinationId = some (n, m, n', ret, bytes)) :
    SessionReachable ⟨.linux, true⟩ n ∧ sessionStep ⟨.linux, true⟩ quietPhase n = some m ∧
      mclmacExecutePowermodeState ⟨.linux, true⟩ { transmit := [⟨1364001, false⟩] } m =
        .ok (n', ret) ∧
      (dataSent m n').head? = some bytes := by
  obtain ⟨n₁, hn, h⟩ := Option.bind_eq_some_iff.mp h
  obtain ⟨m₁, hactive, h⟩ := Option.bind_eq_some_iff.mp h
  obtain ⟨r, hexec, h⟩ := Option.bind_eq_some_iff.mp h
  obtain ⟨b, hfirst, h⟩ := Option.map_eq_some_iff.mp h
  obtain ⟨rfl, rfl, rfl, rfl, rfl⟩ : n₁ = n ∧ m₁ = m ∧ r.1 = n' ∧ r.2 = ret ∧ b = bytes := by
    simpa using h
  rw [toOption_eq_some] at hexec
  exact ⟨messageTaken_reachable hn, hactive, hexec, hfirst⟩

/-- A message for all is announced and sent. -/
theorem announcedDestination_forAll :
    ∃ n m m' bytes, SessionReachable ⟨.linux, true⟩ n ∧
      sessionStep ⟨.linux, true⟩ quietPhase n = some m ∧ (dataSent m m').head? = some bytes ∧
      ∀ cf ∈ announcements n m, cf.destinationId = (datapacketOfBytes bytes).destinationId := by
  have heval : (messageSent (0, 0)).map (fun t => decide (t.1.powerMode.currentState = .active ∧
      t.1.isFirstNode = false ∧ t.1.mac.collisionDetected = false ∧
      t.2.1.powerMode.currentState = .transmit ∧
      (nextToSend t.1).map (fun pkt => pkt.destinationId) = some (0, 0))) = some true := by
    decide +kernel
  obtain ⟨⟨n, m, m', ret, bytes⟩, hsent, heval⟩ := Option.map_eq_some_iff.mp heval
  obtain ⟨hmode, hjoined, hdetected, htransmit, hdest⟩ := of_decide_eq_true heval
  obtain ⟨hreach, hactive, hexec, hfirst⟩ := messageSent_cases hsent
  refine ⟨n, m, m', bytes, hreach, hactive, hfirst, (announcedDestination_iff _ n m m' quietPhase _
    ret bytes hreach hmode hjoined hdetected hactive htransmit hexec hfirst).mpr ?_⟩
  intro pkt hpkt
  obtain ⟨pkt', hpkt', hdest⟩ := Option.map_eq_some_iff.mp hdest
  obtain rfl := Option.some.inj (hpkt'.symm.trans hpkt)
  exact hdest

/-- A message for the node 7 is announced as one for all. -/
theorem announcedDestination_differs :
    ∃ n m m' ret bytes, SessionReachable ⟨.linux, true⟩ n ∧ n.isFirstNode = false ∧
      n.mac.collisionDetected = false ∧ n.mac.message.packetsToSend = 1 ∧
      n.powerMode.currentState = .active ∧ sessionStep ⟨.linux, true⟩ quietPhase n = some m ∧
      m.powerMode.currentState = .transmit ∧
      mclmacExecutePowermodeState ⟨.linux, true⟩ { transmit := [⟨1364001, false⟩] } m =
        .ok (m', ret) ∧
      (dataSent m m').head? = some bytes ∧ (datapacketOfBytes bytes).destinationId = (0, 7) ∧
      (announcements n m).map (fun cf => cf.destinationId) = [(0, 0)] := by
  have heval : (messageSent (0, 7)).map (fun t => decide (t.1.isFirstNode = false ∧
      t.1.mac.collisionDetected = false ∧ t.1.mac.message.packetsToSend = 1 ∧
      t.1.powerMode.currentState = .active ∧ t.2.1.powerMode.currentState = .transmit ∧
      (datapacketOfBytes t.2.2.2.2).destinationId = (0, 7) ∧
      (announcements t.1 t.2.1).map (fun cf => cf.destinationId) = [(0, 0)])) = some true := by
    decide +kernel
  obtain ⟨⟨n, m, m', ret, bytes⟩, hsent, heval⟩ := Option.map_eq_some_iff.mp heval
  obtain ⟨hjoined, hdetected, hqueued, hmode, htransmit, hdest, hannounced⟩ :=
    of_decide_eq_true heval
  obtain ⟨hreach, hactive, hexec, hfirst⟩ := messageSent_cases hsent
  exact ⟨n, m, m', ret, bytes, hreach, hjoined, hdetected, hqueued, hmode, hactive, htransmit, hexec,
    hfirst, hdest, hannounced⟩

end WmnIot
