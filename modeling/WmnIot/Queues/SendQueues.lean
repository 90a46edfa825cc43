import WmnIot.Foundations.RingBuffer
import WmnIot.Model.PowerMode

/-! # The send queues as bounded FIFO queues

Messages of the upper layers are decoded into one of two rings by their type, and the power-mode
states send from the front of the rings, control packets first. Between two resets a ring works as
a FIFO queue for its first ten messages only: `_last_send_*` is not wrapped, so the eleventh is
stored outside the array.

* **`SendFifos`**, **`SendFifos.next`** — the two FIFO queues the rings are meant to be.
* **`SendQueue.queued`** — the packets in a ring, oldest first.
* **`SendRing`** — the ring invariant, with its rules for storing, taking and resetting.
* **`sendQueues_refine_iff`** — the runs in which the rings are the FIFO queues. -/

namespace WmnIot

open RingBuffer Runs

/-! ## The two classes -/

/-- The class of a message: the queue it goes to. -/
inductive SendClass
  | message
  | control
  deriving DecidableEq

/-- The class of a message by its type byte: 7 to 9 are messages, 2 to 6 control packets. -/
def sendClass (type : UInt8) : Option SendClass :=
  if 7 ≤ type ∧ type < 10 then some .message
  else if 2 ≤ type ∧ type < 7 then some .control
  else none

/-- The send queue of a class. -/
def Node.sendQueue (n : Node) : SendClass → SendQueue
  | .message => n.mac.message
  | .control => n.mac.control

/-- Replace the send queue of a class. -/
def Node.setSendQueue (n : Node) (c : SendClass) (q : SendQueue) : Node :=
  match c with
  | .message => { n with mac.message := q }
  | .control => { n with mac.control := q }

theorem sendQueue_setSendQueue (n : Node) (c : SendClass) (q : SendQueue) :
    (n.setSendQueue c q).sendQueue = Function.update n.sendQueue c q := by
  funext c'
  cases c <;> cases c' <;> rfl

/-! ## The abstract queues -/

/-- Two FIFO queues: what each holds, how many packets each has accepted since the last reset, and
the packets that have left, in order. -/
structure SendFifos where
  queue : SendClass → List DataPacket := fun _ => []
  accepted : SendClass → ℕ := fun _ => 0
  departed : List DataPacket := []

/-- Accept a packet at the end of its queue. -/
def SendFifos.accept (t : SendFifos) (c : SendClass) (p : DataPacket) : SendFifos :=
  { t with
    queue := Function.update t.queue c (t.queue c ++ [p])
    accepted := Function.update t.accepted c (t.accepted c + 1) }

/-- The oldest packet leaves the queue. -/
def SendFifos.depart (t : SendFifos) (c : SendClass) : SendFifos :=
  { t with
    queue := Function.update t.queue c (t.queue c).tail
    departed := t.departed ++ (t.queue c).head?.toList }

/-- A reset discards what is queued. -/
def SendFifos.reset (t : SendFifos) : SendFifos :=
  { departed := t.departed }

/-! ## One ring -/

/-- What storing does when the entry is inside the array and the message can be decoded. -/
theorem SendQueue.store_eq {os : OS} {q : SendQueue} {b : ByteString}
    (h : q.lastSend.toNat < Config.maxNumberDataPackets) (hb : SizeFits os b) :
    q.store os b = .ok { q with
      packets := Function.update q.packets ⟨q.lastSend.toNat, h⟩ (datapacketOfBytes b)
      lastSend := q.lastSend + 1
      packetsToSend := q.packetsToSend + 1 } := by
  rw [SendQueue.store, dif_pos h, datapacketConstructFromBytestring, if_pos hb]
  rfl

/-- What taking does when the entry is inside the array and the packet can be encoded. -/
theorem SendQueue.take_eq {os : OS} {junk : ℕ → UInt8} {q : SendQueue}
    (h : q.firstSend.toNat < Config.maxNumberDataPackets)
    (hp : (q.packets ⟨q.firstSend.toNat, h⟩).Encodable os) :
    q.take os junk = .ok ({ q with
      packets := Function.update q.packets ⟨q.firstSend.toNat, h⟩ datapacketClear
      firstSend := (q.firstSend + 1) % 10
      packetsToSend := q.packetsToSend - 1 },
      datapacketBytes junk (q.packets ⟨q.firstSend.toNat, h⟩)) := by
  rw [SendQueue.take, dif_pos h, datapacketGetPacketBytestring, if_pos hp]
  rfl

/-- The index after that of the oldest packet. -/
theorem firstSend_next {first : UInt8} (h : first.toNat < Config.maxNumberDataPackets) :
    ((first + 1) % 10).toNat = (first.toNat + 1) % Config.maxNumberDataPackets := by
  have hlt : first.toNat < 10 := h
  have h10 : (10 : UInt8).toNat = 10 := rfl
  have hnext : (first + 1).toNat = first.toNat + 1 := by
    rw [UInt8.toNat_add, UInt8.toNat_one]
    omega
  rw [UInt8.toNat_mod, h10, hnext]

theorem packetsToSend_sub_one {count : UInt8} (h : count ≠ 0) :
    (count - 1).toNat = count.toNat - 1 := by
  have hone : (1 : UInt8) ≤ count := by
    rw [UInt8.le_iff_toNat_le, UInt8.toNat_one]
    exact UInt8.lt_iff_toNat_lt.mp (UInt8.pos_iff_ne_zero.mpr h)
  rw [UInt8.toNat_sub_of_le _ _ hone, UInt8.toNat_one]

/-- The packets in a send queue, oldest first. -/
def SendQueue.queued (q : SendQueue) : List DataPacket :=
  window q.packets q.firstSend.toNat q.packetsToSend.toNat

/-- The ring holds the queue, has accepted `accepted` packets since it was reset, and every packet
in it can be encoded. -/
structure SendRing (os : OS) (q : SendQueue) (fifo : List DataPacket) (accepted : ℕ) : Prop where
  holds : Holds q.packets q.firstSend.toNat q.packetsToSend.toNat fifo
  first_lt : q.firstSend.toNat < Config.maxNumberDataPackets
  last_eq : q.lastSend.toNat = accepted
  accepted_le : accepted ≤ Config.maxNumberDataPackets
  behind : (q.firstSend.toNat + q.packetsToSend.toNat) % Config.maxNumberDataPackets =
    accepted % Config.maxNumberDataPackets
  encodable : ∀ p ∈ fifo, p.Encodable os

namespace SendRing

variable {os : OS} {q : SendQueue} {fifo : List DataPacket} {accepted : ℕ}

theorem count_eq (h : SendRing os q fifo accepted) : q.packetsToSend.toNat = fifo.length :=
  h.holds.count_eq

/-- A ring that has just been reset is empty. -/
theorem reset (os : OS) (packets : Fin Config.maxNumberDataPackets → DataPacket) (q : SendQueue) :
    SendRing os { q.reset with packets := packets } [] 0 where
  holds := Holds.nil _ _
  first_lt := by
    show (0 : UInt8).toNat < _
    decide
  last_eq := rfl
  accepted_le := by decide
  behind := rfl
  encodable := by simp

/-- **Storing** one of the first ten packets since the reset appends it. -/
theorem store (h : SendRing os q fifo accepted) (hroom : fifo.length < Config.maxNumberDataPackets)
    (hacc : accepted < Config.maxNumberDataPackets) {b : ByteString} (hb : SizeFits os b) :
    ∃ q', q.store os b = .ok q' ∧ SendRing os q' (fifo ++ [datapacketOfBytes b]) (accepted + 1) := by
  have hlast := h.last_eq
  have hcount := h.count_eq
  have hbehind := h.behind
  have hlt : q.lastSend.toNat < Config.maxNumberDataPackets := by omega
  -- without a wrap, last_send is the first free place of the ring
  have hslot : (⟨q.lastSend.toNat, hlt⟩ : Fin Config.maxNumberDataPackets) =
      Fin.ofNat _ (q.firstSend.toNat + q.packetsToSend.toNat) := by
    rw [← ofNat_of_lt hlt]
    exact ofNat_eq_of_mod_eq (by rw [hlast, hbehind])
  simp only [Config.maxNumberDataPackets] at *
  have hcount' : (q.packetsToSend + 1).toNat = q.packetsToSend.toNat + 1 := by
    rw [UInt8.toNat_add, UInt8.toNat_one]
    omega
  refine ⟨_, SendQueue.store_eq hlt hb, ?_⟩
  constructor
  · have hpush := h.holds.push hroom (datapacketOfBytes b)
    rwa [← hslot, ← hcount'] at hpush
  · exact h.first_lt
  · rw [UInt8.toNat_add, UInt8.toNat_one]
    omega
  · exact hacc
  · simp only [hcount', Config.maxNumberDataPackets]
    omega
  · intro p hp
    rcases List.mem_append.mp hp with hp | hp
    · exact h.encodable p hp
    · rw [List.mem_singleton.mp hp]
      exact encodable_datapacketOfBytes hb

/-- **Storing** fails for a message whose size reaches past its end. -/
theorem store_of_not_sizeFits {b : ByteString} (hb : ¬ SizeFits os b) (q' : SendQueue) :
    q.store os b ≠ .ok q' := by
  unfold SendQueue.store
  split <;> simp [datapacketConstructFromBytestring, hb]

/-- **Storing** fails once ten packets were accepted since the reset. -/
theorem store_of_full (h : SendRing os q fifo Config.maxNumberDataPackets) (b : ByteString)
    (q' : SendQueue) : q.store os b ≠ .ok q' := by
  have hlast : ¬ q.lastSend.toNat < Config.maxNumberDataPackets := by
    rw [h.last_eq]
    exact lt_irrefl _
  simp [SendQueue.store, hlast]

/-- **Taking** gives the bytes of the oldest packet and removes it. -/
theorem take {p : DataPacket} (h : SendRing os q (p :: fifo) accepted) (junk : ℕ → UInt8) :
    ∃ q', q.take os junk = .ok (q', datapacketBytes junk p) ∧ SendRing os q' fifo accepted := by
  have hcount := h.count_eq
  have hbehind := h.behind
  have hfirst := h.first_lt
  have hhead : q.packets ⟨q.firstSend.toNat, hfirst⟩ = p := by
    rw [← ofNat_of_lt hfirst]
    exact h.holds.head
  have hp : p.Encodable os := h.encodable p List.mem_cons_self
  have hcount' : (q.packetsToSend - 1).toNat = q.packetsToSend.toNat - 1 :=
    packetsToSend_sub_one fun h0 => by simp [h0] at hcount
  have hfirst' := firstSend_next hfirst
  simp only [Config.maxNumberDataPackets, List.length_cons] at *
  have htake : q.take os junk = .ok _ := SendQueue.take_eq hfirst (hhead ▸ hp)
  rw [hhead] at htake
  refine ⟨_, htake, ?_⟩
  constructor
  · have hpop := h.holds.pop datapacketClear
    rw [ofNat_of_lt hfirst] at hpop
    simp only [hfirst', hcount']
    exact Holds.mod_iff.mpr hpop
  · simp only [hfirst']
    exact Nat.mod_lt _ (by decide)
  · exact h.last_eq
  · exact h.accepted_le
  · simp only [hfirst', hcount', Config.maxNumberDataPackets]
    omega
  · exact fun p' hp' => h.encodable p' (List.mem_cons_of_mem p hp')

end SendRing

/-! ## Reading and sending -/

/-- What a read finds in the queue of the upper layers: the queues afterwards, the message buffer,
and whether a message came. -/
structure Offer where
  queues : IpcQueues
  msg : ByteString
  came : Bool

/-- What is offered to a read by the thread `pid` of the queue `queueId`; nothing if the queue is
empty. -/
def offered (os : OS) (pid : Pid) (queueId : ℕ) (buf : ByteString) (queues : IpcQueues) :
    Except Halt (Option Offer) := do
  let elements ← elementsOnQueue os pid queueId queues
  if elements = 0 then return none
  let r ← recvMessage os pid queueId buf Config.maxMessageSize queues
  return some { queues := r.queues, msg := r.msg, came := r.sender.isSome && r.ret == 1 }

/-- **What `mclmac_read_queue_element` does**: unless both queues are full, what is offered goes to
the queue of its class. -/
theorem mclmacReadQueueElement_eq {build : Build} {buf : ByteString} {n : Node}
    (hm : n.mac.message.packetsToSend.toNat ≤ Config.maxNumberDataPackets)
    (hc : n.mac.control.packetsToSend.toNat ≤ Config.maxNumberDataPackets) :
    mclmacReadQueueElement build buf n =
      if mclmacAvailableDataPackets n.toMCLMAC = 2 * Config.maxNumberDataPackets then .ok (n, 0)
      else
        offered build.os n.selfPid n.macQueueId buf n.queues >>= fun offer =>
          match offer with
          | none => .ok (n, 0)
          | some o =>
            match sendClass (o.msg 0) with
            | none => .ok ({ n with queues := o.queues }, 0)
            | some c => (n.sendQueue c).store build.os o.msg >>= fun q =>
              .ok (({ n with queues := o.queues } : Node).setSendQueue c q, 1) := by
  -- below the bound both assertions hold
  have hm' : decide (n.mac.message.packetsToSend ≤ UInt8.ofNat Config.maxNumberDataPackets) = true :=
    decide_eq_true (UInt8.le_iff_toNat_le.mpr hm)
  have hc' : decide (n.mac.control.packetsToSend ≤ UInt8.ofNat Config.maxNumberDataPackets) = true :=
    decide_eq_true (UInt8.le_iff_toNat_le.mpr hc)
  rw [mclmacReadQueueElement, hm', hc', assert_true, ok_bind, ok_bind]
  split
  · rfl
  · rw [offered]
    cases elementsOnQueue build.os n.selfPid n.macQueueId n.queues with
    | error e => rfl
    | ok elements =>
      by_cases h0 : elements = 0
      · simp [h0]
      · cases recvMessage build.os n.selfPid n.macQueueId buf Config.maxMessageSize n.queues with
        | error e => simp [h0]
        | ok r =>
          simp only [ok_bind, if_neg h0, pure_eq_ok, sendClass]
          by_cases h7 : 7 ≤ r.msg 0 ∧ r.msg 0 < 10
          · simp [h7, Node.sendQueue, Node.setSendQueue]
          · by_cases h2 : 2 ≤ r.msg 0 ∧ r.msg 0 < 7
            · simp [h7, h2, Node.sendQueue, Node.setSendQueue]
            · simp [h7, h2]

/-- Send the packet in front of the queue of a class. -/
def Node.sendFrom (os : OS) (n : Node) (c : SendClass) : Except Halt Node :=
  (n.sendQueue c).take os n.junk >>= fun r =>
    .ok (({ n with sent := n.sent ++ [.data r.2] } : Node).setSendQueue c r.1)

/-- **What `mclmac_send_data_packet` does** while the indices are inside the arrays: it sends a
control packet, or else a message. -/
theorem mclmacSendDataPacket_eq {build : Build} {n : Node}
    (h : ∀ c, (n.sendQueue c).firstSend.toNat < Config.maxNumberDataPackets) :
    mclmacSendDataPacket build n =
      if (n.sendQueue .control).packetsToSend ≠ 0 then n.sendFrom build.os .control
      else if (n.sendQueue .message).packetsToSend ≠ 0 then n.sendFrom build.os .message
      else .ok n := by
  have hm : ¬ n.mac.message.firstSend > UInt8.ofNat Config.maxNumberDataPackets := fun hgt =>
    absurd (UInt8.lt_iff_toNat_lt.mp hgt) (not_lt.mpr (h .message).le)
  have hc : ¬ n.mac.control.firstSend > UInt8.ofNat Config.maxNumberDataPackets := fun hgt =>
    absurd (UInt8.lt_iff_toNat_lt.mp hgt) (not_lt.mpr (h .control).le)
  have hpos : ∀ x : UInt8, 0 < x ↔ x ≠ 0 := fun x => UInt8.pos_iff_ne_zero
  unfold mclmacSendDataPacket
  simp only [if_neg hm, if_neg hc, gt_iff_lt, hpos, Node.sendQueue, Node.sendFrom,
    Node.setSendQueue]
  by_cases h0 : n.mac.control.packetsToSend = 0
  · by_cases h1 : n.mac.message.packetsToSend = 0
    · simp [h0, h1]
    · simp [h0, h1]
  · simp [h0]

/-! ## Runs -/

/-- A step of a run: a read, which finds the queues as the upper layers have left them; a send; or
one of the two states that reset the queues. -/
inductive SendOp
  | read (queues : IpcQueues) (buf : ByteString)
  | send
  | startp
  | finishp

/-- The step on the node. -/
def sendStep (build : Build) : SendOp → Node → Option Node
  | .read queues buf, n =>
    (mclmacReadQueueElement build buf { n with queues := queues }).toOption.map Prod.fst
  | .send, n => (mclmacSendDataPacket build n).toOption
  | .startp, n => (executeStartp build n).toOption
  | .finishp, n => some (executeFinishp n)

namespace SendFifos

/-- Both queues are full. -/
def Full (t : SendFifos) : Prop :=
  (t.queue .message).length + (t.queue .control).length = 2 * Config.maxNumberDataPackets

instance (t : SendFifos) : Decidable t.Full := inferInstanceAs (Decidable (_ = _))

/-- A message arrives: it is decoded into the queue of its class. -/
def arrive (os : OS) (t : SendFifos) (o : Offer) : SendFifos :=
  match sendClass (o.msg 0) with
  | none => t
  | some c => if o.came ∧ SizeFits os o.msg then t.accept c (datapacketOfBytes o.msg) else t

/-- The queue a packet leaves first: that of the control packets, unless it is empty. -/
def turn (t : SendFifos) : SendClass :=
  if t.queue .control = [] then .message else .control

/-- The step on the two FIFO queues, for the thread `pid` reading the queue `queueId`. -/
def next (os : OS) (pid : Pid) (queueId : ℕ) : SendOp → SendFifos → SendFifos
  | .read queues buf, t =>
    if t.Full then t
    else
      match offered os pid queueId buf queues with
      | .ok (some o) => t.arrive os o
      | _ => t
  | .send, t => t.depart t.turn
  | .startp, t => t.reset
  | .finishp, t => t.reset

/-- The runs in question: the queue of the upper layers can be read, and no queue is asked to hold more
than ten packets at once. -/
def legal (os : OS) (pid : Pid) (queueId : ℕ) : SendOp → SendFifos → Prop
  | .read queues buf, t => ¬ t.Full →
    ∃ offer, offered os pid queueId buf queues = .ok offer ∧
      ∀ o ∈ offer, ∀ c ∈ sendClass (o.msg 0), (t.queue c).length < Config.maxNumberDataPackets
  | _, _ => True

/-- What the rings support: a message that came, whose size on Linux stays inside it, and that is one
of the first ten of its class since the reset. -/
def supported (os : OS) (pid : Pid) (queueId : ℕ) : SendOp → SendFifos → Prop
  | .read queues buf, t => ¬ t.Full →
    ∀ offer, offered os pid queueId buf queues = .ok offer →
      ∀ o ∈ offer, ∀ c ∈ sendClass (o.msg 0),
        o.came ∧ SizeFits os o.msg ∧ t.accepted c < Config.maxNumberDataPackets
  | _, _ => True

/-- The node's rings hold the queues, and its radio has sent what departed, after `before`. -/
structure Refines (before : List Transmission) (n : Node) (t : SendFifos) : Prop where
  holds : ∀ c, Holds (n.sendQueue c).packets (n.sendQueue c).firstSend.toNat
    (n.sendQueue c).packetsToSend.toNat (t.queue c)
  sent : n.sent = before ++ t.departed.map fun p => .data (datapacketBytes n.junk p)

/-- The invariant of a run: both rings are in order and nothing the steps depend on changes. -/
structure Inv (os : OS) (pid : Pid) (queueId : ℕ) (before : List Transmission) (n : Node)
    (t : SendFifos) : Prop where
  ring : ∀ c, SendRing os (n.sendQueue c) (t.queue c) (t.accepted c)
  sent : n.sent = before ++ t.departed.map fun p => .data (datapacketBytes n.junk p)
  pid : n.selfPid = pid
  queueId : n.macQueueId = queueId
  channels : 0 < n.nChannels

variable {build : Build} {os : OS} {pid : Pid} {queueId : ℕ} {before : List Transmission} {n : Node}
  {t : SendFifos}

theorem Inv.refines (h : Inv os pid queueId before n t) : Refines before n t :=
  ⟨fun c => (h.ring c).holds, h.sent⟩

theorem Inv.full_iff (h : Inv os pid queueId before n t) :
    mclmacAvailableDataPackets n.toMCLMAC = 2 * Config.maxNumberDataPackets ↔ t.Full := by
  have hm := (h.ring .message).count_eq
  have hc := (h.ring .control).count_eq
  simp only [Node.sendQueue] at hm hc
  rw [mclmacAvailableDataPackets, hm, hc, SendFifos.Full]

/-- The invariant does not look at the queues between the layers. -/
theorem Inv.withQueues (h : Inv os pid queueId before n t) (queues : IpcQueues) :
    Inv os pid queueId before { n with queues := queues } t :=
  ⟨fun c => by have hc := h.ring c; cases c <;> exact hc, h.sent, h.pid, h.queueId, h.channels⟩

/-- Replacing the ring of one class and what was sent. -/
theorem Inv.setSendQueue (h : Inv os pid queueId before n t) {c : SendClass} {q : SendQueue}
    {t' : SendFifos} {queues : IpcQueues} {sent : List Transmission}
    (hq : SendRing os q (t'.queue c) (t'.accepted c))
    (hother : ∀ c' ≠ c, t'.queue c' = t.queue c' ∧ t'.accepted c' = t.accepted c')
    (hsent : sent = before ++ t'.departed.map fun p => .data (datapacketBytes n.junk p)) :
    Inv os pid queueId before
      (({ n with queues := queues, sent := sent } : Node).setSendQueue c q) t' := by
  refine ⟨fun c' => ?_, ?_, ?_, ?_, ?_⟩
  · rw [sendQueue_setSendQueue]
    by_cases hc : c' = c
    · subst hc
      rwa [Function.update_self]
    · rw [Function.update_of_ne hc, (hother c' hc).1, (hother c' hc).2]
      exact h.ring c'
  · cases c <;> exact hsent
  · cases c <;> exact h.pid
  · cases c <;> exact h.queueId
  · cases c <;> exact h.channels

/-- Sending from a queue that is not empty takes its oldest packet. -/
theorem Inv.sendFrom (h : Inv os pid queueId before n t) {c : SendClass} {p : DataPacket}
    {rest : List DataPacket} (hc : t.queue c = p :: rest) :
    ∃ n', n.sendFrom os c = .ok n' ∧ Inv os pid queueId before n' (t.depart c) := by
  have hring := h.ring c
  rw [hc] at hring
  obtain ⟨q, htake, hq⟩ := hring.take n.junk
  refine ⟨_, by rw [Node.sendFrom, htake]; rfl, ?_⟩
  refine h.setSendQueue ?_ ?_ ?_
  · simpa [depart, hc] using hq
  · exact fun c' hne => ⟨Function.update_of_ne hne _ _, rfl⟩
  · rw [h.sent]
    simp [depart, hc]

/-- Sending takes the oldest packet of the queue whose turn it is. -/
theorem Inv.send (h : Inv build.os pid queueId before n t) :
    ∃ n', mclmacSendDataPacket build n = .ok n' ∧
      Inv build.os pid queueId before n' (t.depart t.turn) := by
  have hcount : ∀ c, (n.sendQueue c).packetsToSend = 0 ↔ t.queue c = [] := fun c => by
    rw [← UInt8.toNat_inj, (h.ring c).count_eq]
    exact List.length_eq_zero_iff
  rw [mclmacSendDataPacket_eq fun c => (h.ring c).first_lt]
  cases hc : t.queue .control with
  | cons p rest =>
    rw [if_pos (by simp [hcount, hc]), show t.turn = .control by simp [turn, hc]]
    exact h.sendFrom hc
  | nil =>
    rw [if_neg (by simp [hcount, hc]), show t.turn = .message by simp [turn, hc]]
    cases hm : t.queue .message with
    | cons p rest =>
      rw [if_pos (by simp [hcount, hm])]
      exact h.sendFrom hm
    | nil =>
      rw [if_neg (by simp [hcount, hm])]
      have hdepart : t.depart .message = t := by
        have hqueue : Function.update t.queue .message [] = t.queue := by
          rw [← hm, Function.update_eq_self]
        simp [depart, hm, hqueue]
      rw [hdepart]
      exact ⟨n, rfl, h⟩

/-- A reset empties both rings, whatever it leaves in their entries. -/
theorem Inv.reset (h : Inv os pid queueId before n t) {n' : Node}
    (hrings : ∀ c, ∃ packets, n'.sendQueue c = { (n.sendQueue c).reset with packets := packets })
    (hsent : n'.sent = n.sent) (hjunk : n'.junk = n.junk) (hpid : n'.selfPid = n.selfPid)
    (hqueueId : n'.macQueueId = n.macQueueId) (hchannels : n'.nChannels = n.nChannels) :
    Inv os pid queueId before n' t.reset := by
  refine ⟨fun c => ?_, by rw [hsent, hjunk]; exact h.sent, hpid.trans h.pid, hqueueId.trans h.queueId,
    hchannels ▸ h.channels⟩
  obtain ⟨packets, hpackets⟩ := hrings c
  rw [hpackets]
  exact SendRing.reset _ packets _

theorem Inv.count_le (h : Inv os pid queueId before n t) (c : SendClass) :
    (n.sendQueue c).packetsToSend.toNat ≤ Config.maxNumberDataPackets :=
  (h.ring c).count_eq ▸ (h.ring c).holds.fits

/-- Reading one of the first ten messages of its class appends it. -/
theorem Inv.read (h : Inv build.os pid queueId before n t) {buf : ByteString}
    (hlegal : legal build.os pid queueId (.read n.queues buf) t)
    (hsup : supported build.os pid queueId (.read n.queues buf) t) :
    ∃ n' ret, mclmacReadQueueElement build buf n = .ok (n', ret) ∧
      Inv build.os pid queueId before n' (next build.os pid queueId (.read n.queues buf) t) := by
  rw [mclmacReadQueueElement_eq (h.count_le .message) (h.count_le .control), h.pid, h.queueId]
  by_cases hfull : t.Full
  · rw [if_pos (h.full_iff.mpr hfull), next, if_pos hfull]
    exact ⟨n, 0, rfl, h⟩
  · obtain ⟨offer, hoffer, hroom⟩ := hlegal hfull
    rw [if_neg (mt h.full_iff.mp hfull), next, if_neg hfull, hoffer, ok_bind]
    cases offer with
    | none => exact ⟨n, 0, rfl, h⟩
    | some o =>
      cases hclass : sendClass (o.msg 0) with
      | none =>
        simp only [hclass, arrive]
        exact ⟨_, 0, rfl, h.withQueues o.queues⟩
      | some c =>
        obtain ⟨hcame, hsize, hacc⟩ := hsup hfull _ hoffer o rfl c hclass
        obtain ⟨q, hstore, hring⟩ := (h.ring c).store (hroom o rfl c hclass) hacc hsize
        simp only [hclass, hstore, ok_bind, arrive, if_pos (And.intro hcame hsize)]
        refine ⟨_, 1, rfl, ?_⟩
        refine h.setSendQueue ?_ ?_ ?_
        · simpa [accept] using hring
        · exact fun c' hne => ⟨Function.update_of_ne hne _ _, Function.update_of_ne hne _ _⟩
        · exact h.sent

/-- A read that returns although it is not supported has stored what never came. -/
theorem Inv.not_refines_of_not_supported (h : Inv build.os pid queueId before n t) {buf : ByteString}
    (hlegal : legal build.os pid queueId (.read n.queues buf) t)
    (hsup : ¬ supported build.os pid queueId (.read n.queues buf) t) {n' : Node} {ret : ℕ}
    (hread : mclmacReadQueueElement build buf n = .ok (n', ret)) :
    ¬ Refines before n' (next build.os pid queueId (.read n.queues buf) t) := by
  simp only [supported, not_forall] at hsup
  obtain ⟨hfull, offer, hoffer, o, ho, c, hc, hbad⟩ := hsup
  obtain rfl : offer = some o := ho
  have hclass : sendClass (o.msg 0) = some c := hc
  obtain ⟨offer', hoffer', hroom⟩ := hlegal hfull
  obtain rfl : offer' = some o := Except.ok.inj (hoffer'.symm.trans hoffer)
  rw [mclmacReadQueueElement_eq (h.count_le .message) (h.count_le .control), h.pid, h.queueId,
    if_neg (mt h.full_iff.mp hfull), hoffer, ok_bind] at hread
  simp only [hclass] at hread
  -- the message is stored, so it fits and is one of the first ten: it did not come
  obtain ⟨q, hstore, hq⟩ := bind_eq_ok.mp hread
  obtain ⟨rfl, -⟩ := Prod.mk.inj (Except.ok.inj hq)
  have hsize : SizeFits build.os o.msg := by
    by_contra hno
    exact SendRing.store_of_not_sizeFits hno q hstore
  have hacc : t.accepted c < Config.maxNumberDataPackets := by
    refine lt_of_le_of_ne (h.ring c).accepted_le fun heq => ?_
    have hring := h.ring c
    rw [heq] at hring
    exact hring.store_of_full o.msg q hstore
  have hcame : ¬ o.came = true := fun hcame => hbad ⟨hcame, hsize, hacc⟩
  obtain ⟨q', hstore', hring⟩ := (h.ring c).store (hroom o rfl c hclass) hacc hsize
  obtain rfl : q = q' := Except.ok.inj (hstore.symm.trans hstore')
  intro hrefines
  have hcount := (hrefines.holds c).count_eq
  rw [next, if_neg hfull, hoffer] at hcount
  simp only [arrive, hclass, if_neg (fun h : _ ∧ _ => hcame h.1)] at hcount
  rw [sendQueue_setSendQueue, Function.update_self, hring.count_eq] at hcount
  simp at hcount

end SendFifos

/-! ## The refinement -/

/-- The send queues of a node are empty, with their indices at zero. -/
def FreshSendQueues (n : Node) : Prop :=
  ∀ c, (n.sendQueue c).reset = n.sendQueue c

/-- **The send queues as FIFO queues**: starting from empty rings, a run of reads, sends and resets
that asks neither queue to hold more than ten packets at once has every step return, with both
rings holding the FIFO queues and the packets leaving in FIFO order throughout, exactly if every
read that takes a message takes one that came, that is one of the first ten of its class since the
last reset, and whose size, on Linux, stays inside it. -/
theorem sendQueues_refine_iff (build : Build) (ops : List SendOp) (n : Node)
    (hfresh : FreshSendQueues n) (hchannels : 0 < n.nChannels)
    (hlegal : Along (SendFifos.next build.os n.selfPid n.macQueueId)
      (SendFifos.legal build.os n.selfPid n.macQueueId) ops {}) :
    Tracks (sendStep build) (SendFifos.next build.os n.selfPid n.macQueueId)
        (SendFifos.Refines n.sent) ops n {} ↔
      Along (SendFifos.next build.os n.selfPid n.macQueueId)
        (SendFifos.supported build.os n.selfPid n.macQueueId) ops {} := by
  refine tracks_iff_along (SendFifos.Inv build.os n.selfPid n.macQueueId n.sent)
    (fun _ _ h => h.refines) ?_ ?_ ops ?_ hlegal
  · -- a supported operation keeps the relation
    intro op m t h hlegal hsup
    cases op with
    | read queues buf =>
      obtain ⟨n', ret, hn', hinv⟩ := (h.withQueues queues).read hlegal hsup
      exact ⟨n', by rw [sendStep, hn']; rfl, hinv⟩
    | send =>
      obtain ⟨n', hn', hinv⟩ := h.send
      exact ⟨n', toOption_eq_some.mpr hn', hinv⟩
    | startp =>
      refine ⟨_, toOption_eq_some.mpr (executeStartp_eq build h.channels), ?_⟩
      refine h.reset (fun c => ?_) rfl rfl rfl rfl rfl
      exact ⟨(m.sendQueue c).packets, by cases c <;> rfl⟩
    | finishp =>
      refine ⟨_, rfl, h.reset (fun c => ?_) rfl rfl rfl rfl rfl⟩
      exact ⟨fun _ => datapacketClear, by cases c <;> rfl⟩
  · -- only a read can be unsupported
    intro op m n' t h hlegal hsup hstep
    cases op with
    | read queues buf =>
      obtain ⟨⟨n'', ret⟩, hread, rfl⟩ := Option.map_eq_some_iff.mp hstep
      exact (h.withQueues queues).not_refines_of_not_supported hlegal hsup
        (toOption_eq_some.mp hread)
    | send => exact absurd trivial hsup
    | startp => exact absurd trivial hsup
    | finishp => exact absurd trivial hsup
  · refine ⟨fun c => ?_, by simp, rfl, rfl, hchannels⟩
    rw [← hfresh c]
    exact SendRing.reset _ (n.sendQueue c).packets (n.sendQueue c)

/-! ### Ten messages and an eleventh -/

/-- A message of type 7 without data. -/
def emptyMessage : ByteString := fun k => if k = 0 then 7 else 0

/-- The queue of the upper layers holds one message. -/
def oneMessage : IpcQueues where
  queues := fun i =>
    if i = 0 then
      { queueId := 1
        messageSize := Config.maxMessageSize
        msgsAllow := Config.maxElementsOnQueue
        allocated := true
        opened := true
        messages :=
          [{ sender := 2, pid := 1, size := Config.maxMessageSize, bytes := emptyMessage }] }
    else {}

/-- Messages that arrive one at a time, each sent before the next. -/
def readAndSend : ℕ → List SendOp
  | 0 => []
  | k + 1 => .read oneMessage emptyMessage :: .send :: readAndSend k

/-- What `oneMessage` offers. -/
theorem offered_oneMessage : ∃ o, offered .linux 0 1 emptyMessage oneMessage = .ok (some o) ∧
    sendClass (o.msg 0) = some .message ∧ o.came = true ∧ SizeFits .linux o.msg :=
  ⟨_, rfl, by decide, rfl, by decide⟩

/-- Such a run never holds more than one packet, and is supported up to the tenth. -/
theorem along_readAndSend (k : ℕ) {t : SendFifos} (ht : t.queue = fun _ => []) :
    Along (SendFifos.next .linux 0 1) (SendFifos.legal .linux 0 1) (readAndSend k) t ∧
      (t.accepted .message + k ≤ Config.maxNumberDataPackets →
        Along (SendFifos.next .linux 0 1) (SendFifos.supported .linux 0 1) (readAndSend k) t) := by
  induction k generalizing t with
  | zero => exact ⟨trivial, fun _ => trivial⟩
  | succ k ih =>
    obtain ⟨o, ho, hclass, hcame, hsize⟩ := offered_oneMessage
    have hfull : ¬ t.Full := by simp [SendFifos.Full, ht]
    have hread : SendFifos.next .linux 0 1 (.read oneMessage emptyMessage) t =
        t.accept .message (datapacketOfBytes o.msg) := by
      simp [SendFifos.next, hfull, ho, SendFifos.arrive, hclass, hcame, hsize]
    have hempty : (SendFifos.next .linux 0 1 .send
        (t.accept .message (datapacketOfBytes o.msg))).queue = fun _ => [] := by
      funext c
      cases c <;> simp [SendFifos.next, SendFifos.turn, SendFifos.accept, SendFifos.depart, ht]
    obtain ⟨hlegal, hsup⟩ := ih hempty
    simp only [readAndSend, Along, hread]
    refine ⟨⟨fun _ => ⟨_, ho, ?_⟩, trivial, hlegal⟩,
      fun hk => ⟨fun _ offer hoffer o' ho' c hc => ?_, trivial, hsup ?_⟩⟩
    · rintro _ ⟨⟩ c hc
      simp [ht]
    · rw [ho] at hoffer
      cases hoffer
      cases ho'
      rw [hclass] at hc
      cases hc
      exact ⟨hcame, hsize, by omega⟩
    · have hacc : (SendFifos.next .linux 0 1 .send
          (t.accept .message (datapacketOfBytes o.msg))).accepted .message =
          t.accepted .message + 1 := by
        simp [SendFifos.next, SendFifos.accept, SendFifos.depart]
      omega

/-- The first ten messages of a session are sent in order. -/
theorem sendQueues_refine_ten :
    Tracks (sendStep ⟨.linux, true⟩) (SendFifos.next .linux 0 1) (SendFifos.Refines [])
      (readAndSend 10) (mclmacInit (fun _ => {}) 0 initQueues) {} :=
  (sendQueues_refine_iff ⟨.linux, true⟩ (readAndSend 10) (mclmacInit (fun _ => {}) 0 initQueues)
    (fun c => by cases c <;> rfl) (by decide) (along_readAndSend 10 rfl).1).mpr
    ((along_readAndSend 10 rfl).2 (by decide))

/-- The eleventh message of a session, with never more than one packet queued, is stored outside
the array. -/
theorem sendQueues_eleventh_outOfBounds :
    Along (SendFifos.next .linux 0 1) (SendFifos.legal .linux 0 1) (readAndSend 11) {} ∧
    ¬ Tracks (sendStep ⟨.linux, true⟩) (SendFifos.next .linux 0 1) (SendFifos.Refines [])
      (readAndSend 11) (mclmacInit (fun _ => {}) 0 initQueues) {} := by
  refine ⟨(along_readAndSend 11 rfl).1, fun h => ?_⟩
  have hnone : (readAndSend 11).foldlM (fun n op => sendStep ⟨.linux, true⟩ op n)
      (mclmacInit (fun _ => {}) 0 initQueues) = none := by
    rw [← Option.isNone_iff_eq_none]
    decide +kernel
  obtain ⟨n', hn', -⟩ := h.last
  exact absurd (hnone.symm.trans hn') (by simp)

end WmnIot
