import WmnIot.PowerMode.Frames
import WmnIot.Queues.SharedStorage

/-! # Where received packets go

`PASSIVE` hands received packets to the routing layer, whose queue another thread has opened. But
`mclmac_write_queue_element` passes its own thread to `send_message`, which looks the queue up by
thread: the packet goes to the queue of the MAC layer itself, where `mclmac_read_queue_element`
finds it among the messages of the upper layers.

* **`PassiveTurn`** — one execution of `PASSIVE`, and what happens before it.
* **`PassivePoll.Forwards`** — what a turn of the loop should do with the packets it takes out.
* **`TakesOut`** — what makes `mclmac_write_queue_element` take a packet out.
* **`receivedPackets_goUp_iff`** — the runs in which every turn of the loop does what it should. -/

namespace WmnIot

open Runs Channels

/-! ## Executions of `PASSIVE` -/

/-- One execution of `PASSIVE`: what the other states have left of the node, its queues apart, the
calls that other threads have made meanwhile, and the turns of the loop. -/
structure PassiveTurn where
  left : Node
  calls : List ThreadCall := []
  polls : List PassivePoll

namespace PassiveTurn

/-- The node that enters the state. -/
def enter (build : Build) (t : PassiveTurn) (n : Node) : Node :=
  Node.runThreads build
    { t.left with
        selfPid := n.selfPid
        macQueueId := n.macQueueId
        routingQueueId := n.routingQueueId
        queues := n.queues } t.calls

/-- The execution, if it returns. -/
def step (build : Build) (t : PassiveTurn) (n : Node) : Option Node :=
  (executePassive build t.polls (t.enter build n)).toOption

/-- The turns of its loop, each with the node it begins with. -/
def turns (build : Build) (t : PassiveTurn) (n : Node) : List (PassivePoll × Node) :=
  attempted (loopStep (passivePoll build)) t.polls { t.enter build n with mac.frame.currentCfSlot := 0 }

/-- The other threads are not the one of the MAC layer. -/
def ByOthers (owner : Pid) (t : PassiveTurn) : Prop :=
  (∀ c ∈ t.calls, c.caller ≠ owner) ∧
    ∀ p ∈ t.polls, (∀ c ∈ p.before, c.caller ≠ owner) ∧ ∀ c ∈ p.between, c.caller ≠ owner

end PassiveTurn

/-- The node with which a turn of the loop reads the queue of the layer, if it does. -/
def PassivePoll.reading (build : Build) (p : PassivePoll) (n : Node) : Option Node :=
  let n := (pollSlotTimer p.tick n).1.runThreads build p.before
  match elementsOnQueue build.os n.selfPid n.macQueueId n.queues with
  | .ok packetsOnQueue =>
    if packetsOnQueue = 0 ∧ n.mac.received.numberPacketsReceived = 0 then none else some n
  | .error _ => none

/-- The node with which a turn of the loop writes the received packets, if it does. -/
def PassivePoll.writing (build : Build) (p : PassivePoll) (n : Node) : Option Node :=
  (p.reading build n).bind fun n =>
    (mclmacReadQueueElement build p.buf n).toOption.map fun r => r.1.runThreads build p.between

/-! ## Packets taken out -/

/-- The bytes waiting in a queue: on RIOT those of the messages in flight for the thread that is
registered for it. -/
def waitingIn (os : OS) (i : Fin Config.maxQueues) (Q : IpcQueues) : List ByteString :=
  match os with
  | .linux => (Q.queues i).messages.map MqMessage.bytes
  | .riot => inFlight (Q.queuesIds i).pid Q

/-- A packet that the write takes out is appended to the routing queue. -/
def HandsUp (build : Build) (n : Node) : Prop :=
  ∀ n', mclmacWriteQueueElement build n = .ok (n', 1) →
    ∃ (r : Fin Config.maxQueues) (b : ByteString), n.routingQueueId = r + 1 ∧
      n'.handedUp = n.handedUp ++ [b] ∧
      waitingIn build.os r n'.queues = waitingIn build.os r n.queues ++ [b]

/-- A message that the read places in a send queue is not a packet that was taken out: these are
all the messages that the thread of the MAC layer itself sends. -/
def KeepsApart (build : Build) (buf : ByteString) (n : Node) : Prop :=
  ∀ n' r, mclmacReadQueueElement build buf n = .ok (n', 1) →
    recvMessage build.os n.selfPid n.macQueueId buf Config.maxMessageSize n.queues = .ok r →
      r.sender ≠ some n.selfPid

/-- What a turn of the loop should do: hand up what it takes out, and not take it for a message of
the upper layers. -/
def PassivePoll.Forwards (build : Build) (p : PassivePoll) (n : Node) : Prop :=
  (∀ m, p.reading build n = some m → KeepsApart build p.buf m) ∧
    ∀ m, p.writing build n = some m → HandsUp build m

/-- All turns of the loop of the execution do what they should. -/
def PassiveTurn.Forwards (build : Build) (t : PassiveTurn) (n : Node) : Prop :=
  ∀ q ∈ t.turns build n, q.1.Forwards build q.2

/-! ## When a packet is taken out -/

/-- The queues that `send_message` looks at let it accept a packet: both are open, the one it is
named is for packets of that size, and there is room, or the packet is too long for the one it
found and dropped. On RIOT only the storage ring needs room. -/
def QueuesAccept (os : OS) (r i : Fin Config.maxQueues) (Q : IpcQueues) : Prop :=
  Config.packetSizeMac ≤ (Q.queues r).messageSize ∧
    match os with
    | .linux => (Q.queues i).queueId ≠ 0 ∧ (Q.queues i).opened ∧ (Q.queues r).queueId ≠ 0 ∧
        (Q.queues r).opened ∧ ((Q.queues i).messageSize < Config.packetSizeMac ∨
          (Q.queues i).messages.length < (Q.queues i).msgsAllow)
    | .riot => (Q.queues r).allocated ∧ Q.storedElements ≠ storageSize ∧ Q.endStorage < storageSize

/-- `send_message` accepts a packet for the thread that calls it. -/
def SelfAccepts (os : OS) (owner : Pid) (queueId : ℕ) (Q : IpcQueues) : Prop :=
  ∃ r i, Finds Q queueId owner r i ∧ QueuesAccept os r i Q

/-- `mclmac_write_queue_element` takes a packet out: one waits where the ring is read, and on Linux
fits into a byte string with its data; the routing queue is not reported full; and `send_message`
accepts it. -/
def TakesOut (os : OS) (n : Node) : Prop :=
  n.mac.received.numberPacketsReceived ≠ 0 ∧
    (∃ elements, elementsOnQueue os n.selfPid n.routingQueueId n.queues = .ok elements ∧
      elements ≠ Config.maxElementsOnQueue) ∧
    (∃ h : n.mac.received.firstReceived.toNat < 2 * Config.maxNumberDataPackets,
      (n.mac.received.packetsReceived ⟨_, h⟩).Encodable os) ∧
    SelfAccepts os n.selfPid n.routingQueueId n.queues

/-- The turn of the loop takes no packet out. -/
def PassivePoll.TakesNone (build : Build) (p : PassivePoll) (n : Node) : Prop :=
  ∀ m, p.writing build n = some m → ¬ TakesOut build.os m

/-- No turn of the loop of the execution takes a packet out. -/
def PassiveTurn.TakesNone (build : Build) (t : PassiveTurn) (n : Node) : Prop :=
  ∀ q ∈ t.turns build n, q.1.TakesNone build q.2

section

variable {build : Build} {os : OS} {owner pid : Pid} {queueId ret : ℕ} {b : ByteString}
  {Q Q' : IpcQueues} {n n' : Node} {i r : Fin Config.maxQueues}

/-- **`send_message` for the calling thread** returns 1 exactly if it accepts. -/
theorem selfAccepts_iff :
    (∃ Q', sendMessage os owner queueId b Config.packetSizeMac owner Q = .ok (Q', 1)) ↔
      SelfAccepts os owner queueId Q := by
  simp only [sendMessage_eq_ok_iff]
  constructor
  · rintro ⟨Q', h⟩
    cases h with
    | @queued r i mq hfinds hreceiver hopen hsize hmq =>
      refine ⟨r, i, hfinds, hsize, hreceiver.1, hreceiver.2, hopen.1, hopen.2, ?_⟩
      unfold mqSend at hmq
      split_ifs at hmq with hlong hfull
      · exact .inl hlong
      · exact .inr (not_le.mp hfull)
    | stored hfinds halloc hsize hroom hend hmsg =>
      exact ⟨_, _, hfinds, hsize, halloc, hroom, hend⟩
  · rintro ⟨r, i, hfinds, haccepts⟩
    cases os with
    | linux =>
      obtain ⟨hsize, hi, hi', hr, hr', hroom⟩ := haccepts
      have hmq : ∃ mq, mqSend (Q.queues i)
          { sender := owner, pid := owner, size := Config.packetSizeMac, bytes := b } = .ok mq := by
        unfold mqSend
        dsimp only
        split_ifs with hlong hfull
        · exact ⟨_, rfl⟩
        · exact absurd hroom (by omega)
        · exact ⟨_, rfl⟩
      obtain ⟨mq, hmq⟩ := hmq
      exact ⟨_, .queued hfinds ⟨hi, hi'⟩ ⟨hr, hr'⟩ hsize hmq⟩
    | riot =>
      obtain ⟨hsize, halloc, hroom, hend⟩ := haccepts
      obtain ⟨Q', hmsg⟩ := msgSend_self owner (storedMsg owner Config.packetSizeMac Q)
        (stored b Q hend)
      exact ⟨Q', .stored hfinds halloc hsize hroom hend hmsg⟩

/-- A message that is refused leaves the queues alone, and one that is accepted is accepted with 1. -/
theorem sendMessage_ret {caller : Pid} {size : ℕ}
    (h : sendMessage os caller queueId b size pid Q = .ok (Q', ret)) : ret = 0 ∧ Q' = Q ∨ ret = 1 := by
  cases sendMessage_eq_ok_iff.mp h with
  | refused => exact .inl ⟨rfl, rfl⟩
  | queued => exact .inr rfl
  | full => exact .inl ⟨rfl, rfl⟩
  | stored => exact .inr rfl

/-- **A message to oneself** does not reach the queue of another thread. -/
theorem waitingIn_length_of_self {size : ℕ} (hother : (Q.queuesIds r).pid ≠ owner)
    (h : sendMessage os owner queueId b size owner Q = .ok (Q', 1)) :
    (waitingIn os r Q').length = (waitingIn os r Q).length := by
  cases sendMessage_eq_ok_iff.mp h with
  | @queued q i mq hfinds hreceiver hopen hsize hmq =>
    have hne : r ≠ i := by
      rintro rfl
      exact hother hfinds.pid_eq
    simp [waitingIn, Function.update_of_ne hne]
  | stored hfinds halloc hsize hroom hend hmsg =>
    rcases msgSend_cases hmsg with ⟨-, rfl⟩ | ⟨-, rfl⟩
    · simp [waitingIn, inFlight, stored, Function.update_of_ne hother]
    · simp [waitingIn, inFlight, stored]

/-! ### Writing -/

/-- What `mclmac_write_queue_element` does when it returns. -/
theorem mclmacWriteQueueElement_cases (h : mclmacWriteQueueElement build n = .ok (n', ret)) :
    ret = 0 ∧ n' = n ∨ ret = 1 ∧ TakesOut build.os n ∧ ∃ (b : ByteString) (queues : IpcQueues),
      sendMessage build.os n.selfPid n.routingQueueId b Config.packetSizeMac n.selfPid n.queues =
        .ok (queues, 1) ∧ n'.handedUp = n.handedUp ++ [b] ∧ n'.queues = queues := by
  unfold mclmacWriteQueueElement at h
  dsimp only at h
  split at h
  · obtain ⟨rfl, rfl⟩ := Prod.mk.inj (Except.ok.inj h)
    exact .inl ⟨rfl, rfl⟩
  next hnumber =>
  split at h
  · obtain ⟨rfl, rfl⟩ := Prod.mk.inj (Except.ok.inj h)
    exact .inl ⟨rfl, rfl⟩
  obtain ⟨elements, helements, h⟩ := bind_eq_ok.mp h
  split at h
  · obtain ⟨rfl, rfl⟩ := Prod.mk.inj (Except.ok.inj h)
    exact .inl ⟨rfl, rfl⟩
  next hfull =>
  split at h
  · obtain ⟨rfl, rfl⟩ := Prod.mk.inj (Except.ok.inj h)
    exact .inl ⟨rfl, rfl⟩
  split at h
  · next hfirst =>
    obtain ⟨b, hb, h⟩ := bind_eq_ok.mp h
    obtain ⟨⟨queues, accepted⟩, hsend, h⟩ := bind_eq_ok.mp h
    -- the string was made, so its positions were all within the array
    have hencodable : (n.mac.received.packetsReceived ⟨_, hfirst⟩).Encodable build.os := by
      unfold datapacketGetPacketBytestring at hb
      split_ifs at hb with hencodable
      exact hencodable
    dsimp only at h
    -- send_message refuses or accepts; only then the packet is cleared
    rcases sendMessage_ret hsend with ⟨rfl, rfl⟩ | rfl
    · rw [if_pos rfl] at h
      obtain ⟨rfl, rfl⟩ := Prod.mk.inj (Except.ok.inj h)
      exact .inl ⟨rfl, rfl⟩
    · rw [if_neg one_ne_zero] at h
      obtain ⟨rfl, rfl⟩ := Prod.mk.inj (Except.ok.inj h)
      exact .inr ⟨rfl, ⟨hnumber, ⟨elements, helements, hfull⟩, ⟨hfirst, hencodable⟩,
        selfAccepts_iff.mp ⟨queues, hsend⟩⟩, b, queues, hsend, rfl, rfl⟩
  · cases h

/-- A packet that can be taken out is taken out. -/
theorem TakesOut.write (h : TakesOut build.os n) :
    ∃ n', mclmacWriteQueueElement build n = .ok (n', 1) := by
  obtain ⟨hnumber, ⟨elements, helements, hfull⟩, ⟨hfirst, hencodable⟩, haccepts⟩ := h
  have hid : n.routingQueueId ≠ 0 := by
    obtain ⟨r, i, hfinds, -⟩ := haccepts
    rw [hfinds.queueId_eq]
    exact Nat.succ_ne_zero _
  obtain ⟨queues, hsend⟩ := (selfAccepts_iff
    (b := datapacketBytes n.junk (n.mac.received.packetsReceived ⟨_, hfirst⟩))).mpr haccepts
  unfold mclmacWriteQueueElement
  simp only [hnumber, if_false, and_false, helements, ok_bind, hfull, hid, dif_pos hfirst,
    datapacketGetPacketBytestring, if_pos hencodable, hsend, one_ne_zero, pure_eq_ok]
  exact ⟨_, rfl⟩

/-- **A write** hands up the packets it takes out exactly if it takes none out, when the routing
queue is that of another thread. -/
theorem handsUp_iff (hrouting : n.routingQueueId = r + 1)
    (hother : (n.queues.queuesIds r).pid ≠ n.selfPid) :
    HandsUp build n ↔ ¬ TakesOut build.os n := by
  constructor
  · intro hup htakes
    obtain ⟨n', hwrite⟩ := htakes.write
    obtain ⟨r', b, hrouting', -, hwaiting⟩ := hup n' hwrite
    obtain rfl : r' = r := Fin.ext (by omega)
    rcases mclmacWriteQueueElement_cases hwrite with ⟨h, -⟩ | ⟨-, -, b', queues, hsend, -, rfl⟩
    · cases h
    · -- a queue of another thread is as long as before
      have hlength := waitingIn_length_of_self hother hsend
      rw [hwaiting, List.length_append, List.length_singleton] at hlength
      omega
  · intro hnone n' hwrite
    rcases mclmacWriteQueueElement_cases hwrite with ⟨h, -⟩ | ⟨-, htakes, -⟩
    · cases h
    · exact absurd htakes hnone

/-! ### The loop -/

/-- The routing queue is that of another thread, and no message of the thread of the MAC layer
waits. -/
structure Apart (owner : Pid) (n : Node) : Prop where
  selfPid_eq : n.selfPid = owner
  routed : ∃ r : Fin Config.maxQueues, n.routingQueueId = r + 1 ∧ (n.queues.queuesIds r).pid ≠ owner
  messages : ∀ i, ∀ m ∈ (n.queues.queues i).messages, m.sender ≠ owner
  mailbox : ∀ thread, ∀ m ∈ n.queues.mailbox thread, m.senderPid ≠ owner

/-- Messages of other threads leave the node as it should be. -/
theorem Apart.congr {sender : Pid} (h : Apart owner n) (hsender : sender ≠ owner)
    (hself : n'.selfPid = n.selfPid) (hrouting : n'.routingQueueId = n.routingQueueId)
    (hqueues : OnlyFrom sender n.queues n'.queues) : Apart owner n' where
  selfPid_eq := hself.trans h.selfPid_eq
  routed := by
    rw [hrouting, hqueues.queuesIds_eq]
    exact h.routed
  messages := by
    intro i m hm
    rcases hqueues.messages i m hm with hold | hnew
    · exact h.messages i m hold
    · rwa [hnew]
  mailbox := by
    intro thread m hm
    rcases hqueues.mailbox thread m hm with hold | hnew
    · exact h.mailbox thread m hold
    · rwa [hnew]

theorem Apart.runThreads {calls : List ThreadCall} (h : Apart owner n) (build : Build)
    (hcalls : ∀ c ∈ calls, c.caller ≠ owner) : Apart owner (n.runThreads build calls) := by
  induction calls generalizing n with
  | nil => exact h
  | cons c calls ih =>
    have hone : Apart owner { n with queues := ThreadCall.run build.os n.queues c } :=
      h.congr (hcalls c List.mem_cons_self) rfl rfl (ThreadCall.run_onlyFrom build.os n.queues c)
    exact ih hone fun d hd => hcalls d (List.mem_cons_of_mem c hd)

/-- Reading adds nothing to the queues. -/
theorem mclmacReadQueueElement_onlyFrom {buf : ByteString} (sender : Pid)
    (h : mclmacReadQueueElement build buf n = .ok (n', ret)) :
    OnlyFrom sender n.queues n'.queues := by
  unfold mclmacReadQueueElement at h
  obtain ⟨-, -, h⟩ := bind_eq_ok.mp h
  obtain ⟨-, -, h⟩ := bind_eq_ok.mp h
  split at h
  · cases h
    exact .refl sender _
  obtain ⟨elements, -, h⟩ := bind_eq_ok.mp h
  split at h
  · cases h
    exact .refl sender _
  obtain ⟨r, hrecv, h⟩ := bind_eq_ok.mp h
  have hqueues := (recvMessage_onlyFrom sender hrecv).1
  dsimp only at h
  split at h
  · obtain ⟨q, -, h⟩ := bind_eq_ok.mp h
    cases h
    exact hqueues
  split at h
  · obtain ⟨q, -, h⟩ := bind_eq_ok.mp h
    cases h
    exact hqueues
  · cases h
    exact hqueues

theorem Apart.read {buf : ByteString} (h : Apart owner n)
    (hread : mclmacReadQueueElement build buf n = .ok (n', ret)) : Apart owner n' := by
  obtain ⟨sender, hsender⟩ : ∃ sender : Pid, sender ≠ owner := by
    by_cases howner : owner = 0
    · exact ⟨1, by rw [howner]; decide⟩
    · exact ⟨0, fun heq => howner heq.symm⟩
  have hqueues := mclmacReadQueueElement_onlyFrom sender hread
  obtain ⟨_, _, _, rfl, -⟩ := mclmacReadQueueElement_frame hread
  exact h.congr hsender rfl rfl hqueues

/-- **A read** of a queue without messages of the own thread places none. -/
theorem Apart.keepsApart {buf : ByteString} (h : Apart owner n) : KeepsApart build buf n := by
  intro n' r _ hrecv hsender
  rcases (recvMessage_onlyFrom owner hrecv).2 _ hsender with ⟨i, m, hm, hown⟩ | ⟨thread, m, hm, hown⟩
  · exact h.messages i m hm (hown.trans h.selfPid_eq)
  · exact h.mailbox thread m hm (hown.trans h.selfPid_eq)

theorem Apart.pollSlotTimer (h : Apart owner n) (tick : Tick) :
    Apart owner (WmnIot.pollSlotTimer tick n).1 := by
  unfold WmnIot.pollSlotTimer
  dsimp only
  split
  · exact ⟨h.selfPid_eq, h.routed, h.messages, h.mailbox⟩
  · exact ⟨h.selfPid_eq, h.routed, h.messages, h.mailbox⟩

variable {p : PassivePoll}

theorem Apart.reading (h : Apart owner n) (hbefore : ∀ c ∈ p.before, c.caller ≠ owner) {m : Node}
    (hm : p.reading build n = some m) : Apart owner m := by
  unfold PassivePoll.reading at hm
  dsimp only at hm
  split at hm
  · split_ifs at hm
    obtain rfl := Option.some.inj hm
    exact (h.pollSlotTimer p.tick).runThreads build hbefore
  · cases hm

theorem Apart.writing (h : Apart owner n) (hbefore : ∀ c ∈ p.before, c.caller ≠ owner)
    (hbetween : ∀ c ∈ p.between, c.caller ≠ owner) {m : Node}
    (hm : p.writing build n = some m) : Apart owner m := by
  obtain ⟨m₁, hreading, hm⟩ := Option.bind_eq_some_iff.mp hm
  obtain ⟨⟨m₂, ret⟩, hread, rfl⟩ := Option.map_eq_some_iff.mp hm
  exact ((h.reading hbefore hreading).read (toOption_eq_some.mp hread)).runThreads build hbetween

/-- **A turn of the loop** does what it should exactly if it takes no packet out. -/
theorem Apart.forwards_iff (h : Apart owner n) (hbefore : ∀ c ∈ p.before, c.caller ≠ owner)
    (hbetween : ∀ c ∈ p.between, c.caller ≠ owner) :
    p.Forwards build n ↔ p.TakesNone build n := by
  have hwrites : ∀ m, p.writing build n = some m → (HandsUp build m ↔ ¬ TakesOut build.os m) := by
    intro m hm
    have hm := h.writing hbefore hbetween hm
    obtain ⟨r, hrouting, hother⟩ := hm.routed
    rw [← hm.selfPid_eq] at hother
    exact handsUp_iff hrouting hother
  constructor
  · rintro ⟨-, hup⟩ m hm
    exact (hwrites m hm).mp (hup m hm)
  · intro hnone
    refine ⟨fun m hm => (h.reading hbefore hm).keepsApart, fun m hm => ?_⟩
    exact (hwrites m hm).mpr (hnone m hm)

/-- How a turn of the loop ends: there was nothing to do, or with the write. -/
theorem passivePoll_ends {sleep : Bool} (h : passivePoll build p n = .ok (n', sleep)) :
    n' = (pollSlotTimer p.tick n).1.runThreads build p.before ∨
      ∃ m ret, p.writing build n = some m ∧ mclmacWriteQueueElement build m = .ok (n', ret) := by
  unfold passivePoll at h
  unfold PassivePoll.writing PassivePoll.reading
  generalize pollSlotTimer p.tick n = polled at h ⊢
  obtain ⟨m, s⟩ := polled
  obtain ⟨elements, helements, h⟩ := bind_eq_ok.mp h
  dsimp only at h helements ⊢
  rw [helements]
  dsimp only
  split at h
  · cases h
    exact .inl rfl
  · next hwork =>
    obtain ⟨⟨m', ret⟩, hread, h⟩ := bind_eq_ok.mp h
    obtain ⟨⟨m'', ret'⟩, hwrite, h⟩ := bind_eq_ok.mp h
    cases h
    refine .inr ⟨_, ret', ?_, hwrite⟩
    rw [if_neg hwork, Option.bind_some, hread]
    rfl

/-- A turn that takes no packet out leaves the node as it should be. -/
theorem Apart.poll {sleep : Bool} (h : Apart owner n) (hbefore : ∀ c ∈ p.before, c.caller ≠ owner)
    (hbetween : ∀ c ∈ p.between, c.caller ≠ owner)
    (hnone : p.TakesNone build n) (hpoll : passivePoll build p n = .ok (n', sleep)) : Apart owner n' := by
  rcases passivePoll_ends hpoll with rfl | ⟨m, ret, hm, hwrite⟩
  · exact (h.pollSlotTimer p.tick).runThreads build hbefore
  · rcases mclmacWriteQueueElement_cases hwrite with ⟨-, rfl⟩ | ⟨-, htakes, -⟩
    · exact h.writing hbefore hbetween hm
    · exact absurd htakes (hnone m hm)

end

/-! ## Runs -/

theorem Apart.enter {owner : Pid} {t : PassiveTurn} {n : Node} (h : Apart owner n) (build : Build)
    (ht : t.ByOthers owner) :
    Apart owner { t.enter build n with mac.frame.currentCfSlot := 0 } := by
  have hstart : Apart owner { t.left with
      selfPid := n.selfPid
      macQueueId := n.macQueueId
      routingQueueId := n.routingQueueId
      queues := n.queues } := ⟨h.selfPid_eq, h.routed, h.messages, h.mailbox⟩
  obtain ⟨hself, hrouted, hmessages, hmailbox⟩ := hstart.runThreads build ht.1
  exact ⟨hself, hrouted, hmessages, hmailbox⟩

/-- **One execution of `PASSIVE`** does what it should in all its turns exactly if it takes no
packet out. -/
theorem Apart.execution_iff {build : Build} {owner : Pid} {t : PassiveTurn} {n : Node}
    (h : Apart owner n) (ht : t.ByOthers owner) :
    t.Forwards build n ↔ t.TakesNone build n := by
  have hentered := h.enter build ht
  have hkeeps : ∀ p ∈ t.polls, ∀ m m', Apart owner m → p.TakesNone build m →
      loopStep (passivePoll build) p m = some m' → Apart owner m' :=
    fun p hp m m' hm hnone hstep =>
      hm.poll (ht.2 p hp).1 (ht.2 p hp).2 hnone (loopStep_eq_some.mp hstep)
  have hiff : ∀ p ∈ t.polls, ∀ m, Apart owner m → (p.Forwards build m ↔ p.TakesNone build m) :=
    fun p hp m hm => hm.forwards_iff (ht.2 p hp).1 (ht.2 p hp).2
  exact forall_attempted_iff (Apart owner) t.polls hkeeps hiff hentered

theorem Apart.execution {build : Build} {owner : Pid} {t : PassiveTurn} {n n' : Node}
    (h : Apart owner n) (ht : t.ByOthers owner) (hnone : t.TakesNone build n)
    (hstep : t.step build n = some n') : Apart owner n' := by
  obtain ⟨m, hloop, -, rfl⟩ := executePassive_cases (toOption_eq_some.mp hstep)
  have hm : Apart owner m := by
    refine pollLoop_good (Apart owner) t.polls ?_ hnone (h.enter build ht) hloop
    intro p hp n n' b hn hgood hpoll
    exact hn.poll (ht.2 p hp).1 (ht.2 p hp).2 hgood hpoll
  exact ⟨hm.selfPid_eq, hm.routed, hm.messages, hm.mailbox⟩

/-- No message waits before the first execution. -/
theorem apart_setUp {os : OS} {setup : List SetupCall} {n : Node}
    (hsetup : setUp os setup = some n.queues) {r : Fin Config.maxQueues}
    (hrouting : n.routingQueueId = r + 1) (hother : (n.queues.queuesIds r).pid ≠ n.selfPid) :
    Apart n.selfPid n := by
  have hfresh := fresh_setUp hsetup
  refine ⟨rfl, ⟨r, hrouting, hother⟩, fun i m hm => ?_, fun thread m hm => ?_⟩
  · rw [hfresh.messages_eq] at hm
    cases hm
  · rw [hfresh.mailbox_eq] at hm
    cases hm

/-- **Received packets go up, not back out**, exactly in the runs in which none is taken out: every
packet that is taken out goes to the queue of the thread that takes it out. -/
theorem receivedPackets_goUp_iff (build : Build) (setup : List SetupCall) (n : Node)
    (hsetup : setUp build.os setup = some n.queues) (r : Fin Config.maxQueues)
    (hrouting : n.routingQueueId = r + 1) (hother : (n.queues.queuesIds r).pid ≠ n.selfPid)
    (turns : List PassiveTurn) (hturns : ∀ t ∈ turns, t.ByOthers n.selfPid) :
    (∀ t ∈ attempted (PassiveTurn.step build) turns n, t.1.Forwards build t.2) ↔
      ∀ t ∈ attempted (PassiveTurn.step build) turns n, t.1.TakesNone build t.2 := by
  have hapart := apart_setUp hsetup hrouting hother
  have hkeeps : ∀ t ∈ turns, ∀ m m', Apart n.selfPid m → t.TakesNone build m →
      t.step build m = some m' → Apart n.selfPid m' :=
    fun t ht m m' hm hnone hstep => hm.execution (hturns t ht) hnone hstep
  have hiff : ∀ t ∈ turns, ∀ m, Apart n.selfPid m → (t.Forwards build m ↔ t.TakesNone build m) :=
    fun t ht m hm => hm.execution_iff (hturns t ht)
  exact forall_attempted_iff (Apart n.selfPid) turns hkeeps hiff hapart

/-! ### A node between two threads -/

/-- The layer runs on thread 1, the routing layer on thread 2. -/
def routedNode (Q : IpcQueues) : Node :=
  { mclmacInit (fun _ => {}) 0 Q with
      selfPid := 1
      macQueueId := 1
      routingQueueId := 2
      queues := Q
      timeouts := (timeoutSet .linux 0 (fun _ => {}) 1).1 }

/-- The slot timer passes in the second turn of the loop. -/
def twoPolls (before : List ThreadCall) : List PassivePoll :=
  [{ tick := ⟨0, false⟩, before := before }, { tick := ⟨1, true⟩ }]

/-- The routing layer sends a message. -/
def messageFromRouting : PassiveTurn where
  left := routedNode {}
  polls := twoPolls [.send 2 1 (fun _ => 7) Config.maxMessageSize 1]

/-- A packet has been received. -/
def packetReceived : PassiveTurn where
  left :=
    match mclmacReceiveDataPacket ⟨.linux, true⟩ (fun _ => 7) (routedNode {}) with
    | .ok n => n
    | .error _ => routedNode {}
  polls := twoPolls []

theorem takesNone_of_none_received {build : Build} {p : PassivePoll} {n : Node}
    (h : ((p.writing build n).all fun m => m.mac.received.numberPacketsReceived == 0) = true) :
    p.TakesNone build n := by
  intro m hm htakes
  rw [hm, Option.all_some, beq_iff_eq] at h
  exact htakes.1 h

/-- A message of the routing layer is sent on, and not taken for a received packet. -/
theorem receivedPackets_goUp_message :
    ∃ Q, setUp .linux twoQueues = some Q ∧
      (∃ n', messageFromRouting.step ⟨.linux, true⟩ (routedNode Q) = some n' ∧
        n'.mac.message.packetsToSend = 1) ∧
      ∀ t ∈ attempted (PassiveTurn.step ⟨.linux, true⟩) [messageFromRouting] (routedNode Q),
        t.1.Forwards ⟨.linux, true⟩ t.2 := by
  have heval : (setUp .linux twoQueues).map (fun Q => decide ((Q.queuesIds 1).pid ≠ 1 ∧
      (messageFromRouting.step ⟨.linux, true⟩ (routedNode Q)).map
        (fun n' => n'.mac.message.packetsToSend) = some 1 ∧
      ∀ q ∈ messageFromRouting.turns ⟨.linux, true⟩ (routedNode Q),
        ((q.1.writing ⟨.linux, true⟩ q.2).all fun m =>
          m.mac.received.numberPacketsReceived == 0) = true)) = some true := by
    decide +kernel
  obtain ⟨Q, hsetup, heval⟩ := Option.map_eq_some_iff.mp heval
  obtain ⟨hother, hsent, hnone⟩ := of_decide_eq_true heval
  have hothers : messageFromRouting.ByOthers 1 := by
    simp [PassiveTurn.ByOthers, messageFromRouting, twoPolls, ThreadCall.caller]
  refine ⟨Q, hsetup, Option.map_eq_some_iff.mp hsent,
    (receivedPackets_goUp_iff ⟨.linux, true⟩ twoQueues (routedNode Q) hsetup 1 rfl hother
      [messageFromRouting] fun t ht => List.mem_singleton.mp ht ▸ hothers).mpr ?_⟩
  intro t ht
  obtain rfl : t = (messageFromRouting, routedNode Q) := by
    cases hstep : messageFromRouting.step ⟨.linux, true⟩ (routedNode Q) <;>
      simpa [attempted, hstep] using ht
  exact fun q hq => takesNone_of_none_received (hnone q hq)

/-- The packet goes to the queue of the layer itself, and is queued for sending in the next turn. -/
theorem receivedPackets_goUp_looped :
    ∃ Q n', setUp .linux twoQueues = some Q ∧
      packetReceived.step ⟨.linux, true⟩ (routedNode Q) = some n' ∧
      n'.handedUp.length = 1 ∧ waitingIn .linux 1 n'.queues = [] ∧
      n'.mac.message.packetsToSend = 1 ∧
      ¬ packetReceived.Forwards ⟨.linux, true⟩ (routedNode Q) := by
  have heval : ((setUp .linux twoQueues).bind fun Q =>
      (packetReceived.step ⟨.linux, true⟩ (routedNode Q)).map fun n' => (Q, n')).map
        (fun t => decide ((t.1.queuesIds 1).pid ≠ 1 ∧ t.2.handedUp.length = 1 ∧
          (t.2.queues.queues 1).messages.length = 0 ∧ t.2.mac.message.packetsToSend = 1 ∧
          ((packetReceived.turns ⟨.linux, true⟩ (routedNode t.1)).any fun q =>
            (q.1.writing ⟨.linux, true⟩ q.2).any fun m =>
              (mclmacWriteQueueElement ⟨.linux, true⟩ m).toOption.any fun r => r.2 == 1) =
            true)) = some true := by
    decide +kernel
  obtain ⟨⟨Q, n'⟩, hrun, heval⟩ := Option.map_eq_some_iff.mp heval
  obtain ⟨hother, hhanded, hempty, hqueued, htaken⟩ := of_decide_eq_true heval
  obtain ⟨Q', hsetup, hstep⟩ := Option.bind_eq_some_iff.mp hrun
  obtain ⟨n'', hreturns, heq⟩ := Option.map_eq_some_iff.mp hstep
  obtain ⟨rfl, rfl⟩ := Prod.mk.inj heq
  refine ⟨Q', n'', hsetup, hreturns, hhanded, ?_, hqueued, fun hforwards => ?_⟩
  · simpa [waitingIn] using hempty
  · -- the turn that took the packet out did not hand it up
    obtain ⟨q, hq, htaken⟩ := List.any_eq_true.mp htaken
    obtain ⟨m, hm, htaken⟩ := (Option.any_eq_true _ _).mp htaken
    obtain ⟨⟨m', ret⟩, hwrite, hret⟩ := (Option.any_eq_true _ _).mp htaken
    obtain rfl : ret = 1 := by simpa using hret
    have hapart : Apart 1 (routedNode Q') := apart_setUp (n := routedNode Q') hsetup rfl hother
    have hothers : packetReceived.ByOthers 1 := by
      simp [PassiveTurn.ByOthers, packetReceived, twoPolls]
    have htakes := (mclmacWriteQueueElement_cases (toOption_eq_some.mp hwrite)).resolve_left
      fun h => nomatch h.1
    exact (hapart.execution_iff hothers).mp hforwards q hq m hm htakes.2.1

end WmnIot
