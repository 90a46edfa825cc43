import WmnIot.Foundations.RingBuffer
import WmnIot.Foundations.Runs
import WmnIot.Model.PacketsHandlers
import WmnIot.Queues.Calls

/-! # The received packets as a FIFO queue

The radio stores received packets at the end of a ring of twenty entries and the layer hands them
up from its front. The writer advances modulo 20 and the reader modulo 10, so the two agree until
the reader has come halfway round.

* **`ReceivedFifo`**, **`ReceivedFifo.next`** — the FIFO queue the ring is meant to be.
* **`ReceivedRing`** — the ring invariant, with its rules for storing and handing up.
* **`receivedQueue_refine_iff`** — the runs in which the ring is the FIFO queue. -/

namespace WmnIot

open RingBuffer Runs

/-- The entries of the ring: twice what a node sends in a slot. -/
abbrev receivedCapacity : ℕ := 2 * Config.maxNumberDataPackets

/-! ## The abstract queue -/

/-- A FIFO queue and the packets taken from it, in order. -/
structure ReceivedFifo where
  queue : List DataPacket := []
  handed : List DataPacket := []

/-- A step of a run: a packet is received, or the oldest one is handed up with the queues as the
other layers have left them. -/
inductive ReceivedOp
  | receive (byteString : ByteString)
  | write (queues : IpcQueues)

/-- The step hands a packet up. -/
def ReceivedOp.isWrite : ReceivedOp → Bool
  | .receive _ => false
  | .write _ => true

/-- The step on the FIFO queue. -/
def ReceivedFifo.next : ReceivedOp → ReceivedFifo → ReceivedFifo
  | .receive b, t => { t with queue := t.queue ++ [datapacketOfBytes b] }
  | .write _, t => { queue := t.queue.tail, handed := t.handed ++ t.queue.head?.toList }

/-! ## The ring -/

/-- The ring holds the queue, its end is where the next packet goes, `handed` packets were taken
from it, and every packet in it can be encoded. -/
structure ReceivedRing (os : OS) (q : ReceivedQueue) (fifo : List DataPacket) (handed : ℕ) :
    Prop where
  holds : Holds q.packetsReceived q.firstReceived.toNat q.numberPacketsReceived.toNat fifo
  last_eq : q.lastReceived.toNat =
    (q.firstReceived.toNat + q.numberPacketsReceived.toNat) % receivedCapacity
  first_eq : q.firstReceived.toNat = handed
  handed_lt : handed < Config.maxNumberDataPackets
  encodable : ∀ p ∈ fifo, p.Encodable os

namespace ReceivedRing

variable {os : OS} {q : ReceivedQueue} {fifo : List DataPacket} {handed : ℕ}

/-- **Storing** a packet appends it. -/
theorem store (h : ReceivedRing os q fifo handed) (hroom : fifo.length < receivedCapacity)
    {b : ByteString} (hb : SizeFits os b) :
    ∃ q', q.store os b = .ok q' ∧ ReceivedRing os q' (fifo ++ [datapacketOfBytes b]) handed := by
  have hcount := h.holds.count_eq
  have hlast := h.last_eq
  have hlt : q.lastReceived.toNat < receivedCapacity := by
    rw [hlast]
    exact Nat.mod_lt _ (by decide)
  -- last_received is the first free place of the ring
  have hslot : (⟨q.lastReceived.toNat, hlt⟩ : Fin receivedCapacity) =
      Fin.ofNat _ (q.firstReceived.toNat + q.numberPacketsReceived.toNat) := by
    rw [← ofNat_of_lt hlt]
    exact ofNat_eq_of_mod_eq (by rw [hlast, Nat.mod_mod])
  simp only [receivedCapacity, Config.maxNumberDataPackets] at *
  have hcount' : (q.numberPacketsReceived + 1).toNat = q.numberPacketsReceived.toNat + 1 := by
    rw [UInt16.toNat_add, UInt16.toNat_one]
    omega
  have hlast' : ((q.lastReceived + 1) % 20).toNat = (q.lastReceived.toNat + 1) % 20 := by
    have h20 : (20 : UInt8).toNat = 20 := rfl
    rw [UInt8.toNat_mod, UInt8.toNat_add, UInt8.toNat_one, h20]
    omega
  refine ⟨{ q with
      packetsReceived := Function.update q.packetsReceived ⟨_, hlt⟩ (datapacketOfBytes b)
      lastReceived := (q.lastReceived + 1) % 20
      numberPacketsReceived := q.numberPacketsReceived + 1 }, ?_, ?_⟩
  · rw [ReceivedQueue.store, dif_pos hlt, datapacketConstructFromBytestring, if_pos hb]
    rfl
  · constructor
    · have hpush := h.holds.push hroom (datapacketOfBytes b)
      rwa [← hslot, ← hcount'] at hpush
    · simp only [hlast', hcount', receivedCapacity, Config.maxNumberDataPackets]
      omega
    · exact h.first_eq
    · exact h.handed_lt
    · intro p hp
      rcases List.mem_append.mp hp with hp | hp
      · exact h.encodable p hp
      · rw [List.mem_singleton.mp hp]
        exact encodable_datapacketOfBytes hb

/-- **Storing** fails for a packet whose size reaches past its end. -/
theorem store_of_not_sizeFits {b : ByteString} (hb : ¬ SizeFits os b) (q' : ReceivedQueue) :
    q.store os b ≠ .ok q' := by
  unfold ReceivedQueue.store
  split <;> simp [datapacketConstructFromBytestring, hb]

/-- What handing up leaves of the ring: the entry is cleared and the reader advances modulo 10. -/
def afterHandingUp (q : ReceivedQueue) : ReceivedQueue :=
  { q with
    packetsReceived :=
      Function.update q.packetsReceived (Fin.ofNat _ q.firstReceived.toNat) datapacketClear
    firstReceived := (q.firstReceived + 1) % 10
    numberPacketsReceived := q.numberPacketsReceived - 1 }

/-- The oldest packet is in the entry that is handed up. -/
theorem head {p : DataPacket} (h : ReceivedRing os q (p :: fifo) handed) :
    q.packetsReceived (Fin.ofNat _ q.firstReceived.toNat) = p :=
  h.holds.head

theorem number_sub {p : DataPacket} (h : ReceivedRing os q (p :: fifo) handed) :
    (q.numberPacketsReceived - 1).toNat = q.numberPacketsReceived.toNat - 1 := by
  have hcount := h.holds.count_eq
  rw [List.length_cons] at hcount
  rw [UInt16.toNat_sub_of_le _ _ (UInt16.le_iff_toNat_le.mpr (by rw [UInt16.toNat_one]; omega)),
    UInt16.toNat_one]

/-- **Handing up** one of the first nine packets removes it. -/
theorem handUp {p : DataPacket} (h : ReceivedRing os q (p :: fifo) handed)
    (hnine : handed + 1 < Config.maxNumberDataPackets) :
    ReceivedRing os (afterHandingUp q) fifo (handed + 1) := by
  have hcount := h.holds.count_eq
  have hlast := h.last_eq
  have hfirst := h.first_eq
  have hnumber := h.number_sub
  simp only [receivedCapacity, Config.maxNumberDataPackets, List.length_cons] at *
  have hfirst' : ((q.firstReceived + 1) % 10).toNat = q.firstReceived.toNat + 1 := by
    have h10 : (10 : UInt8).toNat = 10 := rfl
    rw [UInt8.toNat_mod, UInt8.toNat_add, UInt8.toNat_one, h10]
    omega
  constructor
  · have hpop := h.holds.pop datapacketClear
    rwa [← hnumber, ← hfirst'] at hpop
  · simp only [afterHandingUp, hfirst', hnumber, receivedCapacity, Config.maxNumberDataPackets]
    omega
  · simp only [afterHandingUp, hfirst', hfirst]
  · exact hnine
  · exact fun p' hp' => h.encodable p' (List.mem_cons_of_mem p hp')

/-- **Handing up** the tenth packet takes the reader back to entry 0, ten entries off. -/
theorem last_ne_of_tenth {p : DataPacket} (h : ReceivedRing os q (p :: fifo) handed)
    (hten : handed + 1 = Config.maxNumberDataPackets) :
    (afterHandingUp q).lastReceived.toNat ≠
      ((afterHandingUp q).firstReceived.toNat + (afterHandingUp q).numberPacketsReceived.toNat) %
        receivedCapacity := by
  have hcount := h.holds.count_eq
  have hlast := h.last_eq
  have hfirst := h.first_eq
  have hnumber := h.number_sub
  simp only [receivedCapacity, Config.maxNumberDataPackets, List.length_cons] at *
  have hfirst' : ((q.firstReceived + 1) % 10).toNat = 0 := by
    have h10 : (10 : UInt8).toNat = 10 := rfl
    rw [UInt8.toNat_mod, UInt8.toNat_add, UInt8.toNat_one, h10]
    omega
  simp only [afterHandingUp, hfirst', hnumber]
  omega

end ReceivedRing

/-! ## Runs -/

/-- `send_message` accepts the message for the thread `pid`. -/
def Accepts (os : OS) (pid : Pid) (routingQueueId : ℕ) (queues : IpcQueues) (b : ByteString) :
    Prop :=
  ∃ queues' ret, sendMessage os pid routingQueueId b Config.packetSizeMac pid queues =
    .ok (queues', ret) ∧ ret ≠ 0

/-- Whether a message is accepted does not depend on what it says. -/
theorem Accepts.any {os : OS} {pid : Pid} {routingQueueId : ℕ} {queues : IpcQueues}
    {b : ByteString} (h : Accepts os pid routingQueueId queues b) (b' : ByteString) :
    Accepts os pid routingQueueId queues b' := by
  obtain ⟨queues', ret, hsent, hret⟩ := h
  cases sendMessage_eq_ok_iff.mp hsent with
  | refused => exact absurd rfl hret
  | @queued q i mq hfinds hreceiver hopen hsize hmq =>
    have hany : ∃ mq', mqSend (queues.queues i)
        { sender := pid, pid := pid, size := Config.packetSizeMac, bytes := b' } = .ok mq' :=
      mqSend_any hmq rfl
    obtain ⟨mq', hmq'⟩ := hany
    exact ⟨_, 1, sendMessage_eq_ok_iff.mpr (.queued hfinds hreceiver hopen hsize hmq'), one_ne_zero⟩
  | full => exact absurd rfl hret
  | stored hfinds halloc hsize hroom hend hmsg =>
    obtain ⟨queues'', hmsg'⟩ := msgSend_self pid (storedMsg pid Config.packetSizeMac queues)
      (stored b' queues hend)
    exact ⟨queues'', 1, sendMessage_eq_ok_iff.mpr (.stored hfinds halloc hsize hroom hend hmsg'),
      one_ne_zero⟩

/-- What lets `mclmac_write_queue_element` return 1 when a packet is there: the routing layer's
queue exists and is not full, and `send_message` accepts a message for the thread `pid`. -/
def RoutingAccepts (os : OS) (pid : Pid) (routingQueueId : ℕ) (queues : IpcQueues) : Prop :=
  (∃ elements, elementsOnQueue os pid routingQueueId queues = .ok elements ∧
    elements ≠ Config.maxElementsOnQueue) ∧ routingQueueId ≠ 0 ∧
  ∃ b, Accepts os pid routingQueueId queues b

/-- The node after `send_message` has accepted the packet `p`, which left `queues`. -/
def Node.afterHandingUp (n : Node) (p : DataPacket) (queues : IpcQueues) : Node :=
  { n with
    queues := queues
    handedUp := n.handedUp ++ [datapacketBytes n.junk p]
    mac.received := ReceivedRing.afterHandingUp n.mac.received }

@[simp]
theorem Node.afterHandingUp_received (n : Node) (p : DataPacket) (queues : IpcQueues) :
    (n.afterHandingUp p queues).mac.received = ReceivedRing.afterHandingUp n.mac.received :=
  rfl

@[simp]
theorem Node.afterHandingUp_handedUp (n : Node) (p : DataPacket) (queues : IpcQueues) :
    (n.afterHandingUp p queues).handedUp = n.handedUp ++ [datapacketBytes n.junk p] :=
  rfl

@[simp]
theorem Node.afterHandingUp_junk (n : Node) (p : DataPacket) (queues : IpcQueues) :
    (n.afterHandingUp p queues).junk = n.junk :=
  rfl

/-- **What a call of `mclmac_write_queue_element` that returns 1 does.** -/
theorem mclmacWriteQueueElement_eq {build : Build} {n : Node} {p : DataPacket}
    {fifo : List DataPacket} {handed : ℕ}
    (h : ReceivedRing build.os n.mac.received (p :: fifo) handed)
    (hrouting : RoutingAccepts build.os n.selfPid n.routingQueueId n.queues) :
    ∃ queues, mclmacWriteQueueElement build n = .ok (n.afterHandingUp p queues, 1) := by
  obtain ⟨⟨elements, helements, hroom⟩, hid, b, hsend⟩ := hrouting
  obtain ⟨queues, ret, hsent, hret⟩ := hsend.any (datapacketBytes n.junk p)
  have hnumber : n.mac.received.numberPacketsReceived ≠ 0 := fun h0 => by
    have hcount := h.holds.count_eq
    rw [h0] at hcount
    simp at hcount
  have hlt : n.mac.received.firstReceived.toNat < receivedCapacity := by
    rw [h.first_eq]
    exact lt_trans h.handed_lt (by decide)
  have hhead := h.head
  have hp : p.Encodable build.os := h.encodable p List.mem_cons_self
  rw [ofNat_of_lt hlt] at hhead
  refine ⟨queues, ?_⟩
  unfold mclmacWriteQueueElement
  simp only [hnumber, if_false, and_false, helements, ok_bind, hroom, hid, dif_pos hlt, hhead,
    datapacketGetPacketBytestring, if_pos hp, hsent, hret, Node.afterHandingUp,
    ReceivedRing.afterHandingUp, ofNat_of_lt hlt, pure_eq_ok]
  rfl

/-- The step on the node. -/
def receivedStep (build : Build) : ReceivedOp → Node → Option Node
  | .receive b, n => (mclmacReceiveDataPacket build b n).toOption
  | .write queues, n =>
    (mclmacWriteQueueElement build { n with queues := queues }).toOption.map Prod.fst

namespace ReceivedFifo

/-- What the claim asks of a run: packets are received while the queue is not full, and handing up
returns 1. -/
def legal (os : OS) (pid : Pid) (routingQueueId : ℕ) : ReceivedOp → ReceivedFifo → Prop
  | .receive _, t => t.queue.length < receivedCapacity
  | .write queues, t => t.queue ≠ [] ∧ RoutingAccepts os pid routingQueueId queues

/-- What the ring supports: packets whose size stays inside them on Linux, and nine packets handed up. -/
def supported (os : OS) : ReceivedOp → ReceivedFifo → Prop
  | .receive b, _ => SizeFits os b
  | .write _, t => t.handed.length + 1 < Config.maxNumberDataPackets

/-- The node's ring holds the queue, the next packet goes right behind it, and `send_message` was
given what was taken from it, after `before`. -/
structure Refines (before : List ByteString) (n : Node) (t : ReceivedFifo) : Prop where
  holds : Holds n.mac.received.packetsReceived n.mac.received.firstReceived.toNat
    n.mac.received.numberPacketsReceived.toNat t.queue
  last_eq : n.mac.received.lastReceived.toNat =
    (n.mac.received.firstReceived.toNat + n.mac.received.numberPacketsReceived.toNat) %
      receivedCapacity
  handedUp : n.handedUp = before ++ t.handed.map (datapacketBytes n.junk)

/-- The invariant of a run. -/
structure Inv (os : OS) (pid : Pid) (routingQueueId : ℕ) (before : List ByteString) (n : Node)
    (t : ReceivedFifo) : Prop where
  ring : ReceivedRing os n.mac.received t.queue t.handed.length
  handedUp : n.handedUp = before ++ t.handed.map (datapacketBytes n.junk)
  pid : n.selfPid = pid
  routingQueueId : n.routingQueueId = routingQueueId

variable {os : OS} {pid : Pid} {routingQueueId : ℕ} {before : List ByteString} {n : Node}
  {t : ReceivedFifo}

theorem Inv.refines (h : Inv os pid routingQueueId before n t) : Refines before n t :=
  ⟨h.ring.holds, h.ring.last_eq, h.handedUp⟩

/-- A legal run is supported exactly if every packet it receives fits and it hands up fewer than
ten, counting those handed up before. -/
theorem along_supported_iff {ops : List ReceivedOp}
    (hlt : t.handed.length < Config.maxNumberDataPackets)
    (hlegal : Along next (legal os pid routingQueueId) ops t) :
    Along next (supported os) ops t ↔
      (∀ b, .receive b ∈ ops → SizeFits os b) ∧
        t.handed.length + ops.countP ReceivedOp.isWrite < Config.maxNumberDataPackets := by
  induction ops generalizing t with
  | nil => simpa [Along] using hlt
  | cons op ops ih =>
    obtain ⟨hop, hops⟩ := hlegal
    cases op with
    | receive b =>
      simp only [Along, supported, ih (t := next (.receive b) t) hlt hops, List.mem_cons,
        ReceivedOp.receive.injEq, forall_eq_or_imp, List.countP_cons, ReceivedOp.isWrite]
      exact ⟨fun h => ⟨⟨h.1, h.2.1⟩, h.2.2⟩, fun h => ⟨h.1.1, h.1.2, h.2⟩⟩
    | write queues =>
      obtain ⟨p, rest, hqueue⟩ := List.exists_cons_of_ne_nil hop.1
      have hlength : (next (.write queues) t).handed.length = t.handed.length + 1 := by
        simp [next, hqueue]
      simp only [Along, supported, List.mem_cons, reduceCtorEq, false_or, List.countP_cons,
        ReceivedOp.isWrite, if_true]
      -- the tenth packet that is handed up is the first one not supported
      by_cases hnine : t.handed.length + 1 < Config.maxNumberDataPackets
      · rw [ih (by rwa [hlength]) hops, hlength]
        constructor
        · exact fun h => ⟨h.2.1, by omega⟩
        · exact fun h => ⟨hnine, h.1, by omega⟩
      · exact ⟨fun h => absurd h.1 hnine, fun h => absurd h.2 (by omega)⟩

end ReceivedFifo

/-! ## The refinement -/

/-- **The received packets as a FIFO queue**: starting from an empty ring, a run that receives only
while fewer than twenty packets are queued, and in which handing up returns 1, keeps the ring a
FIFO queue, with the end where it belongs and the packets handed up in the order of reception,
exactly if fewer than ten packets are handed up and, on Linux, the size of every packet stays inside
it. -/
theorem receivedQueue_refine_iff (build : Build) (ops : List ReceivedOp) (n : Node)
    (hfresh : n.mac.received.reset = n.mac.received)
    (hlegal : Along ReceivedFifo.next
      (ReceivedFifo.legal build.os n.selfPid n.routingQueueId) ops {}) :
    Tracks (receivedStep build) ReceivedFifo.next (ReceivedFifo.Refines n.handedUp) ops n {} ↔
      (∀ b, .receive b ∈ ops → SizeFits build.os b) ∧
        ops.countP ReceivedOp.isWrite < Config.maxNumberDataPackets := by
  have hcount := ReceivedFifo.along_supported_iff (t := {}) (by decide) hlegal
  rw [List.length_nil, Nat.zero_add] at hcount
  rw [← hcount]
  refine tracks_iff_along (ReceivedFifo.Inv build.os n.selfPid n.routingQueueId n.handedUp)
    (fun _ _ h => h.refines) ?_ ?_ ops ?_ hlegal
  · -- an operation within the condition keeps the relation
    intro op m t h hop hsup
    cases op with
    | receive b =>
      obtain ⟨q, hstore, hring⟩ := h.ring.store hop hsup
      refine ⟨{ m with mac.received := q }, ?_, hring, h.handedUp, h.pid, h.routingQueueId⟩
      rw [receivedStep, mclmacReceiveDataPacket, hstore]
      rfl
    | write queues =>
      obtain ⟨p, rest, hqueue⟩ := List.exists_cons_of_ne_nil hop.1
      have hring := h.ring
      rw [hqueue] at hring
      obtain ⟨queues', hwrite⟩ := mclmacWriteQueueElement_eq
        (n := { m with queues := queues }) hring (by rw [h.pid, h.routingQueueId]; exact hop.2)
      refine ⟨Node.afterHandingUp { m with queues := queues } p queues', ?_, ?_, ?_, h.pid,
        h.routingQueueId⟩
      · rw [receivedStep, hwrite]
        rfl
      · simpa [ReceivedFifo.next, hqueue] using hring.handUp hsup
      · simp [ReceivedFifo.next, hqueue, h.handedUp]
  · -- an operation outside it ends the run or leaves the relation broken
    intro op m m' t h hop hsup hstep hrefines
    cases op with
    | receive b =>
      obtain ⟨q, hstore, -⟩ := bind_eq_ok.mp (toOption_eq_some.mp hstep)
      exact ReceivedRing.store_of_not_sizeFits hsup q hstore
    | write queues =>
      obtain ⟨p, rest, hqueue⟩ := List.exists_cons_of_ne_nil hop.1
      have hring := h.ring
      rw [hqueue] at hring
      obtain ⟨queues', hwrite⟩ := mclmacWriteQueueElement_eq
        (n := { m with queues := queues }) hring (by rw [h.pid, h.routingQueueId]; exact hop.2)
      rw [receivedStep, hwrite] at hstep
      obtain rfl := Option.some.inj hstep
      have hlt := h.ring.handed_lt
      -- the tenth packet handed up takes the first index back to 0, ten entries behind
      have hten : t.handed.length + 1 = Config.maxNumberDataPackets := by
        simp only [ReceivedFifo.supported] at hsup
        omega
      exact hring.last_ne_of_tenth hten hrefines.last_eq
  · refine ⟨?_, by simp, rfl, rfl⟩
    rw [← hfresh]
    exact ⟨Holds.nil _ _, rfl, rfl, by decide, by simp⟩

/-! ### Nine packets and a tenth -/

/-- The queues of a device: queue 1 is that of the thread 1, queue 2 that of the thread 2. -/
def layerQueues : IpcQueues where
  queues := fun i =>
    if (i : ℕ) < 2 then
      { queueId := i + 1
        messageSize := Config.maxMessageSize
        msgsAllow := Config.maxElementsOnQueue
        allocated := true
        opened := true }
    else {}
  queuesIds := fun i =>
    if (i : ℕ) < 2 then { queueId := 1, pid := UInt64.ofNat (i + 1) } else {}

/-- The node of the thread 1, with the routing layer behind queue 2. -/
def forwardingNode : Node :=
  { mclmacInit (fun _ => {}) 0 layerQueues with selfPid := 1, routingQueueId := 2 }

/-- Packets that are handed up as they come. -/
def receiveAndWrite : ℕ → List ReceivedOp
  | 0 => []
  | k + 1 => .receive (fun _ => 7) :: .write layerQueues :: receiveAndWrite k

theorem routingAccepts_layerQueues : RoutingAccepts .linux 1 2 layerQueues :=
  ⟨⟨0, rfl, by decide⟩, by decide, fun _ => 0, _, 1, rfl, by decide⟩

/-- Such a run never holds more than one packet. -/
theorem along_receiveAndWrite (k : ℕ) {t : ReceivedFifo} (ht : t.queue = []) :
    Along ReceivedFifo.next (ReceivedFifo.legal .linux 1 2) (receiveAndWrite k) t := by
  induction k generalizing t with
  | zero => trivial
  | succ k ih =>
    refine ⟨?_, ⟨?_, routingAccepts_layerQueues⟩, ih ?_⟩
    · simp [ReceivedFifo.legal, ht]
    · simp [ReceivedFifo.next]
    · simp [ReceivedFifo.next, ht]

/-- The first nine packets are handed up in order. -/
theorem receivedQueue_refine_nine :
    Tracks (receivedStep ⟨.linux, true⟩) ReceivedFifo.next (ReceivedFifo.Refines [])
      (receiveAndWrite 9) forwardingNode {} :=
  (receivedQueue_refine_iff ⟨.linux, true⟩ (receiveAndWrite 9) forwardingNode rfl
    (along_receiveAndWrite 9 rfl)).mpr
    ⟨by simp [receiveAndWrite, SizeFits, dataStart, Config.packetSizeMac], by decide⟩

/-- After ten packets the reader is back at the first entry, and what it hands up for the eleventh
is the cleared packet it left there. -/
theorem receivedQueue_eleventh_cleared :
    Along ReceivedFifo.next (ReceivedFifo.legal .linux 1 2) (receiveAndWrite 11) {} ∧
    ¬ Tracks (receivedStep ⟨.linux, true⟩) ReceivedFifo.next (ReceivedFifo.Refines [])
      (receiveAndWrite 11) forwardingNode {} := by
  refine ⟨along_receiveAndWrite 11 rfl, fun h => ?_⟩
  obtain ⟨m, hm, hrefines⟩ := h.last
  have hcleared : ((receiveAndWrite 11).foldlM (fun n op => receivedStep ⟨.linux, true⟩ op n)
      forwardingNode).map (fun m => m.handedUp.map fun b => b 0) =
        some (List.replicate 10 7 ++ [255]) := by
    decide +kernel
  rw [hm] at hcleared
  have hbytes : m.handedUp.map (fun b => b 0) = List.replicate 10 7 ++ [255] :=
    Option.some.inj hcleared
  rw [hrefines.handedUp] at hbytes
  have htypes (packets : List DataPacket) : (packets.map (datapacketBytes m.junk)).map (fun b => b 0) =
      packets.map fun p => p.type.toUInt8 := by
    rw [List.map_map]
    rfl
  rw [List.nil_append, htypes] at hbytes
  revert hbytes
  decide +kernel

end WmnIot
