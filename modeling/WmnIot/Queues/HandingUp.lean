import WmnIot.Queues.ReceivedQueue
import WmnIot.Queues.Routing

/-! # Handing up is all or nothing

`mclmac_write_queue_element` removes a received packet when `send_message` has taken it, and nothing
otherwise. What gets in between are the guards: whether the routing queue is full is asked before
whether there is one, and the entry that follows the tenth is the first of the twenty.

* **`Enqueues`** — a message has been appended to a queue.
* **`HandsUpWhole`** — a call hands up the oldest packet and removes it, or does neither.
* **`handsUpWhole_iff`** — the nodes at which a call does. -/

namespace WmnIot

open Runs

/-! ## What a call should do -/

/-- The queues after the message has been appended to one of them, or on RIOT to the message queue
of a thread. -/
def Enqueues (os : OS) (b : ByteString) (Q Q' : IpcQueues) : Prop :=
  match os with
  | .linux => ∃ i m, m.bytes = b ∧ m.size = Config.packetSizeMac ∧
      (Q'.queues i).messages = (Q.queues i).messages ++ [m]
  | .riot => ∃ pid m, Q'.mailbox pid = Q.mailbox pid ++ [m] ∧
      ∃ h : m.ptr < storageSize, Q'.msgStorage ⟨m.ptr, h⟩ = b

/-- `send_message` for the thread that calls it returns 1 exactly when it has appended the packet
to a queue. -/
def SendsTruthfully (os : OS) (owner : Pid) (queueId : ℕ) (Q : IpcQueues) : Prop :=
  ∀ b Q' ret, sendMessage os owner queueId b Config.packetSizeMac owner Q = .ok (Q', ret) →
    (ret = 1 ↔ Enqueues os b Q Q')

/-- The routing queue is either none or one that is open. -/
def RoutingQueueValid (os : OS) (n : Node) : Prop :=
  n.routingQueueId = 0 ∨
    ∃ r : Fin Config.maxQueues, n.routingQueueId = r + 1 ∧ IsOpen os (n.queues.queues r)

/-- The oldest packet: the one in the entry `_first_received`. -/
def ReceivedQueue.oldest (q : ReceivedQueue) : DataPacket :=
  q.packetsReceived (Fin.ofNat _ q.firstReceived.toNat)

/-- The queue without its oldest packet: the entry is cleared, and the next one in the ring comes
first. -/
def ReceivedQueue.removeOldest (q : ReceivedQueue) : ReceivedQueue :=
  { q with
    packetsReceived :=
      Function.update q.packetsReceived (Fin.ofNat _ q.firstReceived.toNat) datapacketClear
    firstReceived := (q.firstReceived + 1) % UInt8.ofNat receivedCapacity
    numberPacketsReceived := q.numberPacketsReceived - 1 }

/-- **All or nothing**: the call returns 1, and the encoding of the oldest packet has been appended
to a queue and exactly that packet removed; or it returns 0, and the received packets are as they
were. Without a routing queue it returns 0. -/
def HandsUpWhole (build : Build) (n : Node) : Prop :=
  ∃ n' ret, mclmacWriteQueueElement build n = .ok (n', ret) ∧
    (n.routingQueueId = 0 → ret = 0) ∧
    (ret = 1 ∧ n.mac.received.numberPacketsReceived ≠ 0 ∧
        Enqueues build.os (datapacketBytes n.junk n.mac.received.oldest) n.queues n'.queues ∧
        n'.mac.received = n.mac.received.removeOldest ∨
      ret = 0 ∧ n'.mac.received = n.mac.received)

/-! ## When it does -/

/-- `send_message` refuses a packet of the thread that calls it: no queue is registered for the
thread, or on RIOT the storage ring is full. -/
def SelfRefuses (os : OS) (owner : Pid) (queueId : ℕ) (Q : IpcQueues) : Prop :=
  (∀ r i, ¬ Finds Q queueId owner r i) ∨
    os = .riot ∧ ∃ r i, Finds Q queueId owner r i ∧ (Q.queues r).allocated ∧
      Config.packetSizeMac ≤ (Q.queues r).messageSize ∧ Q.storedElements = storageSize

/-- The entry that is read exists, and on Linux its packet fits into a byte string. -/
def OldestEncodable (os : OS) (q : ReceivedQueue) : Prop :=
  q.firstReceived.toNat < receivedCapacity ∧ q.oldest.Encodable os

/-- The entry after the one that is read is the next one of the ring, also modulo 10. -/
def ReaderAdvances (q : ReceivedQueue) : Prop :=
  q.firstReceived.toNat + 1 < Config.maxNumberDataPackets ∨
    q.firstReceived.toNat + 1 = receivedCapacity

/-- No packet waits; or there is a routing queue, and it is full, or the oldest packet can be
encoded and `send_message` refuses it, or accepts it while the reader is not about to jump. -/
def WriteSupported (os : OS) (n : Node) : Prop :=
  n.mac.received.numberPacketsReceived = 0 ∨
    n.routingQueueId ≠ 0 ∧
      (elementsOnQueue os n.selfPid n.routingQueueId n.queues = .ok Config.maxElementsOnQueue ∨
        OldestEncodable os n.mac.received ∧
          (SelfRefuses os n.selfPid n.routingQueueId n.queues ∨
            SelfAccepts os n.selfPid n.routingQueueId n.queues ∧ ReaderAdvances n.mac.received))

/-! ### The calls of `send_message` -/

section

variable {build : Build} {os : OS} {owner : Pid} {queueId : ℕ} {b : ByteString} {Q : IpcQueues}
  {n : Node} {r i : Fin Config.maxQueues}

/-- Queues that have not changed have taken no message. -/
theorem not_enqueues_self (os : OS) (b : ByteString) (Q : IpcQueues) : ¬ Enqueues os b Q Q := by
  intro h
  cases os with
  | linux =>
    obtain ⟨i, m, -, -, h⟩ := h
    simp at h
  | riot =>
    obtain ⟨pid, m, h, -⟩ := h
    simp at h

/-- **`send_message` for the calling thread** returns 0 exactly if it refuses. -/
theorem selfRefuses_iff :
    sendMessage os owner queueId b Config.packetSizeMac owner Q = .ok (Q, 0) ↔
      SelfRefuses os owner queueId Q := by
  have hrefuses {Q' : IpcQueues}
      (h : SendReturns owner queueId b Config.packetSizeMac owner Q os Q' 0) :
      SelfRefuses os owner queueId Q := by
    cases h with
    | refused _ hnone => exact .inl hnone
    | full hfinds halloc hsize hfull => exact .inr ⟨rfl, _, _, hfinds, halloc, hsize, hfull⟩
  constructor
  · exact fun h => hrefuses (sendMessage_eq_ok_iff.mp h)
  · rintro (hnone | ⟨rfl, r, i, hfinds, halloc, hsize, hfull⟩)
    · exact sendMessage_eq_ok_iff.mpr (.refused os hnone)
    · exact sendMessage_eq_ok_iff.mpr (.full hfinds halloc hsize hfull)

/-- What `send_message` does for the calling thread: it refuses, accepts or does not return. -/
theorem sendMessage_self_cases (os : OS) (owner : Pid) (queueId : ℕ) (b : ByteString)
    (Q : IpcQueues) :
    (∃ e, sendMessage os owner queueId b Config.packetSizeMac owner Q = .error e) ∨
      sendMessage os owner queueId b Config.packetSizeMac owner Q = .ok (Q, 0) ∨
      ∃ Q', sendMessage os owner queueId b Config.packetSizeMac owner Q = .ok (Q', 1) := by
  cases h : sendMessage os owner queueId b Config.packetSizeMac owner Q with
  | error e => exact .inl ⟨e, rfl⟩
  | ok s =>
    obtain ⟨Q', ret⟩ := s
    rcases sendMessage_ret h with ⟨rfl, rfl⟩ | rfl
    · exact .inr (.inl rfl)
    · exact .inr (.inr ⟨Q', rfl⟩)

/-- On Linux a thread whose queue takes packets of this size is told the truth. -/
theorem Finds.sendsTruthfully (h : Finds Q queueId owner r i)
    (hsize : Config.packetSizeMac ≤ (Q.queues i).messageSize) :
    SendsTruthfully .linux owner queueId Q := by
  intro b Q' ret hsend
  cases sendMessage_eq_ok_iff.mp hsend with
  | refused _ hnone => exact absurd h (hnone r i)
  | @queued r' i' mq hfinds hreceiver hopen hfits hmq =>
    obtain ⟨-, rfl⟩ := h.unique hfinds
    refine iff_of_true rfl
      ⟨i', { sender := owner, pid := owner, size := Config.packetSizeMac, bytes := b }, rfl, rfl, ?_⟩
    unfold mqSend at hmq
    rw [if_neg (not_lt.mpr hsize)] at hmq
    split_ifs at hmq
    simp only [Function.update_self, ← Except.ok.inj hmq]

/-! ### The guards -/

/-- The entry after the one that is read is the next one of the ring exactly if the reader does not
jump. -/
theorem readerAdvances_iff {q : ReceivedQueue} (hfirst : q.firstReceived.toNat < receivedCapacity) :
    ReceivedRing.afterHandingUp q = q.removeOldest ↔ ReaderAdvances q := by
  have hiff : ReceivedRing.afterHandingUp q = q.removeOldest ↔
      ((q.firstReceived + 1) % 10).toNat = ((q.firstReceived + 1) % 20).toNat := by
    unfold ReceivedRing.afterHandingUp ReceivedQueue.removeOldest
    rw [UInt8.toNat_inj]
    constructor
    · intro h
      exact congrArg ReceivedQueue.firstReceived h
    · intro h
      rw [h]
      rfl
  rw [hiff]
  simp only [receivedCapacity, Config.maxNumberDataPackets, ReaderAdvances] at hfirst ⊢
  have h10 : (10 : UInt8).toNat = 10 := rfl
  have h20 : (20 : UInt8).toNat = 20 := rfl
  rw [UInt8.toNat_mod, UInt8.toNat_mod, UInt8.toNat_add, UInt8.toNat_one, h10, h20]
  omega

/-- A queue of the table can be asked for its elements. -/
theorem elementsOnQueue_ok (os : OS) (caller : Pid) (r : Fin Config.maxQueues) (Q : IpcQueues) :
    ∃ elements, elementsOnQueue os caller (r + 1) Q = .ok elements := by
  unfold elementsOnQueue
  rw [dif_pos ⟨Nat.succ_pos r, r.isLt⟩]
  cases os with
  | linux => exact ⟨_, rfl⟩
  | riot => exact ⟨_, rfl⟩

theorem write_of_none (hnumber : n.mac.received.numberPacketsReceived = 0) :
    mclmacWriteQueueElement build n = .ok (n, 0) := by
  unfold mclmacWriteQueueElement
  simp only [hnumber, if_true, pure_eq_ok]

/-- Whether the routing queue is full is asked of queue 0 as well. -/
theorem write_of_noRouting (hnumber : n.mac.received.numberPacketsReceived ≠ 0)
    (hid : n.routingQueueId = 0) :
    mclmacWriteQueueElement build n = .error .assertFailed := by
  have helements : elementsOnQueue build.os n.selfPid n.routingQueueId n.queues =
      .error .assertFailed := by
    rw [hid]
    rfl
  unfold mclmacWriteQueueElement
  simp only [hnumber, if_false, and_false, helements]
  rfl

theorem write_of_full (hnumber : n.mac.received.numberPacketsReceived ≠ 0)
    (hfull : elementsOnQueue build.os n.selfPid n.routingQueueId n.queues =
      .ok Config.maxElementsOnQueue) :
    mclmacWriteQueueElement build n = .ok (n, 0) := by
  unfold mclmacWriteQueueElement
  simp only [hnumber, if_false, and_false, hfull, ok_bind, if_true, pure_eq_ok]

/-- Behind the guards the oldest packet is encoded and given to `send_message`. -/
theorem write_of_room {elements : ℕ} (hnumber : n.mac.received.numberPacketsReceived ≠ 0)
    (helements : elementsOnQueue build.os n.selfPid n.routingQueueId n.queues = .ok elements)
    (hroom : elements ≠ Config.maxElementsOnQueue) (hid : n.routingQueueId ≠ 0) :
    (OldestEncodable build.os n.mac.received → mclmacWriteQueueElement build n =
        sendMessage build.os n.selfPid n.routingQueueId (datapacketBytes n.junk n.mac.received.oldest)
          Config.packetSizeMac n.selfPid n.queues >>= fun s =>
            .ok (if s.2 = 0 then ({ n with queues := s.1 }, 0)
              else (n.afterHandingUp n.mac.received.oldest s.1, 1))) ∧
      (¬ OldestEncodable build.os n.mac.received →
        mclmacWriteQueueElement build n = .error .outOfBounds) := by
  unfold mclmacWriteQueueElement
  simp only [hnumber, if_false, and_false, helements, ok_bind, hroom, hid]
  by_cases hfirst : n.mac.received.firstReceived.toNat < receivedCapacity
  · rw [dif_pos hfirst]
    have holdest : n.mac.received.packetsReceived ⟨_, hfirst⟩ = n.mac.received.oldest := by
      rw [ReceivedQueue.oldest, RingBuffer.ofNat_of_lt hfirst]
    rw [holdest]
    unfold datapacketGetPacketBytestring
    constructor
    · intro h
      rw [if_pos h.2, ok_bind]
      congr 1
      funext s
      by_cases hret : s.2 = 0
      · simp [hret]
      · simp only [hret, if_false, pure_eq_ok, Node.afterHandingUp, ReceivedRing.afterHandingUp,
          RingBuffer.ofNat_of_lt hfirst]
        rfl
    · intro h
      rw [if_neg fun henc => h ⟨hfirst, henc⟩]
      rfl
  · rw [dif_neg hfirst]
    exact ⟨fun h => absurd h.1 hfirst, fun _ => rfl⟩

/-- What there is to decide once the packet is given to `send_message`. -/
theorem handsUpWhole_of_room {elements : ℕ} (hnumber : n.mac.received.numberPacketsReceived ≠ 0)
    (helements : elementsOnQueue build.os n.selfPid n.routingQueueId n.queues = .ok elements)
    (hroom : elements ≠ Config.maxElementsOnQueue) (hid : n.routingQueueId ≠ 0)
    (hencodable : OldestEncodable build.os n.mac.received)
    (hsend : SendsTruthfully build.os n.selfPid n.routingQueueId n.queues) :
    HandsUpWhole build n ↔
      SelfRefuses build.os n.selfPid n.routingQueueId n.queues ∨
        SelfAccepts build.os n.selfPid n.routingQueueId n.queues ∧
          ReaderAdvances n.mac.received := by
  have hwrite : mclmacWriteQueueElement build n = _ :=
    (write_of_room hnumber helements hroom hid).1 hencodable
  have hrefuses : sendMessage build.os n.selfPid n.routingQueueId
      (datapacketBytes n.junk n.mac.received.oldest) Config.packetSizeMac n.selfPid n.queues =
        .ok (n.queues, 0) ↔ SelfRefuses build.os n.selfPid n.routingQueueId n.queues :=
    selfRefuses_iff
  have haccepts : (∃ Q', sendMessage build.os n.selfPid n.routingQueueId
      (datapacketBytes n.junk n.mac.received.oldest) Config.packetSizeMac n.selfPid n.queues =
        .ok (Q', 1)) ↔ SelfAccepts build.os n.selfPid n.routingQueueId n.queues :=
    selfAccepts_iff
  unfold HandsUpWhole
  rw [hwrite, ← hrefuses, ← haccepts]
  rcases sendMessage_self_cases build.os n.selfPid n.routingQueueId
    (datapacketBytes n.junk n.mac.received.oldest) n.queues with ⟨e, h⟩ | h | ⟨Q', h⟩
  · -- it does not return
    rw [h]
    refine iff_of_false ?_ ?_
    · rintro ⟨n', ret, hreturns, -⟩
      cases hreturns
    · rintro (hrefused | ⟨⟨Q', haccepted⟩, -⟩)
      · cases hrefused
      · cases haccepted
  · -- it refuses
    rw [h]
    refine iff_of_true ⟨_, 0, rfl, fun _ => rfl, .inr ⟨rfl, rfl⟩⟩ (.inl rfl)
  · -- it accepts, so the packet has been appended to a queue
    have henqueues := (hsend _ _ _ h).mp rfl
    rw [h, ← readerAdvances_iff hencodable.1]
    constructor
    · rintro ⟨n', ret, hreturns, -, h⟩
      obtain ⟨rfl, rfl⟩ := Prod.mk.inj (Except.ok.inj hreturns)
      rcases h with ⟨-, -, -, hremoved⟩ | ⟨hret, -⟩
      · exact .inr ⟨⟨Q', rfl⟩, hremoved⟩
      · cases hret
    · rintro (hrefused | ⟨-, hadvances⟩)
      · cases congrArg Prod.snd (Except.ok.inj hrefused)
      · exact ⟨_, 1, rfl, fun h => absurd h hid, .inl ⟨rfl, hnumber, henqueues, hadvances⟩⟩

/-- **Handing a packet up is all or nothing**, for a routing queue that is none or open and a
`send_message` that returns 1 exactly when it has appended the message, exactly if no packet waits,
or there is a routing queue and it is full, or there is one, the oldest packet can be encoded, and
`send_message` refuses it or accepts it before the reader jumps back. -/
theorem handsUpWhole_iff (build : Build) (n : Node) (hvalid : RoutingQueueValid build.os n)
    (hsend : SendsTruthfully build.os n.selfPid n.routingQueueId n.queues) :
    HandsUpWhole build n ↔ WriteSupported build.os n := by
  by_cases hnumber : n.mac.received.numberPacketsReceived = 0
  · refine iff_of_true ⟨n, 0, write_of_none hnumber, fun _ => rfl, .inr ⟨rfl, rfl⟩⟩ (.inl hnumber)
  rcases hvalid with hid | ⟨r, hid, -⟩
  · -- with id 0 elements_on_queue asserts, before the guard for it is reached
    refine iff_of_false ?_ ?_
    · rintro ⟨n', ret, hreturns, -⟩
      rw [write_of_noRouting hnumber hid] at hreturns
      cases hreturns
    · rintro (h | ⟨h, -⟩)
      · exact hnumber h
      · exact h hid
  have hne : n.routingQueueId ≠ 0 := by
    rw [hid]
    exact Nat.succ_ne_zero _
  obtain ⟨elements, helements⟩ : ∃ elements,
      elementsOnQueue build.os n.selfPid n.routingQueueId n.queues = .ok elements := by
    rw [hid]
    exact elementsOnQueue_ok build.os n.selfPid r n.queues
  by_cases hfull : elements = Config.maxElementsOnQueue
  · subst hfull
    exact iff_of_true ⟨n, 0, write_of_full hnumber helements, fun _ => rfl, .inr ⟨rfl, rfl⟩⟩
      (.inr ⟨hne, .inl helements⟩)
  -- what is left to decide is the packet and the queue that send_message finds
  have hsupported : WriteSupported build.os n ↔ OldestEncodable build.os n.mac.received ∧
      (SelfRefuses build.os n.selfPid n.routingQueueId n.queues ∨
        SelfAccepts build.os n.selfPid n.routingQueueId n.queues ∧
          ReaderAdvances n.mac.received) := by
    unfold WriteSupported
    rw [helements]
    simp [hnumber, hne, hfull]
  rw [hsupported]
  by_cases hencodable : OldestEncodable build.os n.mac.received
  · rw [handsUpWhole_of_room hnumber helements hfull hne hencodable hsend]
    simp [hencodable]
  · refine iff_of_false ?_ (fun h => hencodable h.1)
    rintro ⟨n', ret, hreturns, -⟩
    rw [(write_of_room hnumber helements hfull hne).2 hencodable] at hreturns
    cases hreturns

end

/-! ### One packet, with and without a routing queue -/

/-- The node after it has received one packet, without data. -/
def Node.receiveOne (n : Node) : Node :=
  { n with
    mac.received :=
      { n.mac.received with
        numberPacketsReceived := 1
        lastReceived := 1
        packetsReceived := Function.update n.mac.received.packetsReceived 0
          (datapacketOfBytes fun k => if k = 0 then 7 else 0) } }

/-- Thread 1 has queue 1, which is empty. -/
def emptyQueue : IpcQueues where
  queues := fun i =>
    if i = 0 then
      { queueId := 1
        messageSize := Config.maxMessageSize
        msgsAllow := Config.maxElementsOnQueue
        allocated := true
        opened := true }
    else {}
  queuesIds := fun i => if i = 0 then { queueId := 1, pid := 1 } else {}

/-- A node whose thread has opened that queue and names it as the routing queue. -/
def selfRouting : Node :=
  { mclmacInit (fun _ => {}) 0 initQueues with
    queues := emptyQueue
    routingQueueId := 1
    selfPid := 1 }

theorem emptyQueue_finds : Finds emptyQueue 1 1 0 0 :=
  ⟨rfl, by decide, by decide +kernel⟩

/-- The packet is appended to the queue and removed. -/
theorem handsUpWhole_one : HandsUpWhole ⟨.linux, true⟩ selfRouting.receiveOne :=
  (handsUpWhole_iff ⟨.linux, true⟩ selfRouting.receiveOne (.inr ⟨0, rfl, by decide, rfl⟩)
    (emptyQueue_finds.sendsTruthfully (by decide))).mpr
      (.inr ⟨by decide, .inr ⟨⟨by decide, fun _ => ⟨by decide, by decide⟩⟩,
        .inr ⟨⟨0, 0, emptyQueue_finds, by decide, by decide, rfl, by decide, rfl, .inr (by decide)⟩,
          .inl (by decide)⟩⟩⟩)

/-- Before the routing queue is set an assertion fails when a packet waits. -/
theorem handsUpWhole_noRouting :
    RoutingQueueValid .linux (mclmacInit (fun _ => {}) 0 initQueues).receiveOne ∧
      SendsTruthfully .linux 0 0 (mclmacInit (fun _ => {}) 0 initQueues).queues ∧
      mclmacWriteQueueElement ⟨.linux, true⟩ (mclmacInit (fun _ => {}) 0 initQueues).receiveOne =
        .error .assertFailed ∧
      ¬ HandsUpWhole ⟨.linux, true⟩ (mclmacInit (fun _ => {}) 0 initQueues).receiveOne := by
  have hfails : mclmacWriteQueueElement ⟨.linux, true⟩
      (mclmacInit (fun _ => {}) 0 initQueues).receiveOne = .error .assertFailed :=
    write_of_noRouting (by decide) rfl
  refine ⟨.inl rfl, ?_, hfails, ?_⟩
  · intro b Q' ret h
    obtain ⟨rfl, rfl⟩ := Prod.mk.inj (Except.ok.inj h)
    exact iff_of_false (by decide) (not_enqueues_self _ _ _)
  · rintro ⟨n', ret, hreturns, -⟩
    rw [hfails] at hreturns
    cases hreturns

end WmnIot
