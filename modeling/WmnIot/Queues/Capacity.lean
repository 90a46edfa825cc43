import WmnIot.Queues.SendQueues

/-! # The capacity of the send queues

`mclmac_read_queue_element` asserts that neither send queue holds more than ten packets, and takes no
message when both are full. Which queue a message goes to is only known once it is taken, so one
queue can be full when a message for it is taken on the strength of the room in the other.

The eleventh message of a class is stored behind the array, whether its queue is full or not, and the
counters of the other queue lie there: what such a store leaves behind is not modelled, and a run ends
with it.

* **`Traffic`** — how many messages were taken and how many packets sent.
* **`KeepsCapacity`** — what is asked of a call: the assertions, the room and the unsent packets.
* **`sendCapacity_iff`** — the runs whose calls keep the capacity. -/

namespace WmnIot

open Runs

/-- A step of a run: a read, which finds the queues as the upper layers have left them, or a send. -/
inductive CapacityOp
  | read (queues : IpcQueues) (buf : ByteString)
  | send

/-- The step on the node; a run ends at a call that fails. -/
def capacityStep (build : Build) : CapacityOp → Node → Option Node
  | .read queues buf, n =>
    (mclmacReadQueueElement build buf { n with queues := queues }).toOption.map Prod.fst
  | .send, n => (mclmacSendDataPacket build n).toOption

/-! ## What is asked of a call -/

/-- No send queue holds more packets than its array. -/
def WithinCapacity (n : Node) : Prop :=
  ∀ c, (n.sendQueue c).packetsToSend.toNat ≤ Config.maxNumberDataPackets

/-- The assertions at the entry of `mclmac_read_queue_element`. -/
def EntryAssertions (n : Node) : Prop :=
  n.mac.message.packetsToSend ≤ UInt8.ofNat Config.maxNumberDataPackets ∧
    n.mac.control.packetsToSend ≤ UInt8.ofNat Config.maxNumberDataPackets

/-- The assertions hold exactly within the capacity. -/
theorem entryAssertions_iff (n : Node) : EntryAssertions n ↔ WithinCapacity n := by
  constructor
  · rintro ⟨hm, hc⟩ c
    cases c
    · exact UInt8.le_iff_toNat_le.mp hm
    · exact UInt8.le_iff_toNat_le.mp hc
  · exact fun h => ⟨UInt8.le_iff_toNat_le.mpr (h .message), UInt8.le_iff_toNat_le.mpr (h .control)⟩

/-- The class of the message that waits for a read, if there is one. -/
def arrivingClass (os : OS) (pid : Pid) (queueId : ℕ) (buf : ByteString) (queues : IpcQueues) :
    Option SendClass :=
  match offered os pid queueId buf queues with
  | .ok (some o) => sendClass (o.msg 0)
  | _ => none

/-- The class for which a call takes a message: a read takes what waits, unless the two queues
together are full. -/
def takenClass (build : Build) : CapacityOp → Node → Option SendClass
  | .read queues buf, n =>
    if mclmacAvailableDataPackets n.toMCLMAC = 2 * Config.maxNumberDataPackets then none
    else arrivingClass build.os n.selfPid n.macQueueId buf queues
  | .send, _ => none

/-- What has left the queues was given to the radio; what else was unsent still is, in its order. -/
def PacketsKept (n n' : Node) : Prop :=
  ∃ sent, n'.sent = n.sent ++ sent ∧
    ∀ c, ∃ gone new, (n.sendQueue c).queued ++ new = gone ++ (n'.sendQueue c).queued ∧
      ∀ p ∈ gone, .data (datapacketBytes n.junk p) ∈ sent

/-- **A call keeps the capacity**: the assertions hold before it, the message it takes is no more than
the tenth of its queue, and it leaves the unsent packets as they are. -/
structure KeepsCapacity (build : Build) (op : CapacityOp) (n : Node) : Prop where
  within : WithinCapacity n
  asserted : EntryAssertions n
  /-- The call counts the message it takes. -/
  counted : ∀ c ∈ takenClass build op n,
    (n.sendQueue c).packetsToSend.toNat + 1 ≤ Config.maxNumberDataPackets
  after : ∀ n', capacityStep build op n = some n' → WithinCapacity n' ∧ PacketsKept n n'

/-! ## What comes and what goes -/

/-- How many messages of each class were taken, and how many of its packets were sent. -/
structure Traffic where
  taken : SendClass → ℕ := fun _ => 0
  sent : SendClass → ℕ := fun _ => 0

namespace Traffic

/-- The packets of a class that were taken and not sent. -/
def unsent (t : Traffic) (c : SendClass) : ℕ := t.taken c - t.sent c

/-- Twenty packets are unsent: no message is taken. -/
def Full (t : Traffic) : Prop :=
  t.unsent .message + t.unsent .control = 2 * Config.maxNumberDataPackets

instance (t : Traffic) : Decidable t.Full := inferInstanceAs (Decidable (_ = _))

/-- A message of the class is taken. -/
def take (t : Traffic) (c : SendClass) : Traffic :=
  { t with taken := Function.update t.taken c (t.taken c + 1) }

/-- A packet of the class is sent. -/
def send (t : Traffic) (c : SendClass) : Traffic :=
  { t with sent := Function.update t.sent c (t.sent c + 1) }

/-- A step, for the thread `pid` reading the queue `queueId`. There is none where a read is handed
the eleventh message of a class, or on Linux one whose size reaches past its end: it would be stored,
or decoded, out of bounds. -/
def next (os : OS) (pid : Pid) (queueId : ℕ) : CapacityOp → Traffic → Option Traffic
  | .read queues buf, t =>
    if t.Full then some t
    else
      match offered os pid queueId buf queues with
      | .error _ => none
      | .ok none => some t
      | .ok (some o) =>
        match sendClass (o.msg 0) with
        | none => some t
        | some c =>
          if t.taken c < Config.maxNumberDataPackets ∧ SizeFits os o.msg then some (t.take c)
          else none
  | .send, t =>
    if t.unsent .control ≠ 0 then some (t.send .control)
    else if t.unsent .message ≠ 0 then some (t.send .message)
    else some t

/-- Fewer than ten packets are unsent in the class of the message that a read takes. -/
def HasRoom (os : OS) (pid : Pid) (queueId : ℕ) : CapacityOp → Traffic → Prop
  | .read queues buf, t => ¬ t.Full →
    ∀ c ∈ arrivingClass os pid queueId buf queues, t.unsent c < Config.maxNumberDataPackets
  | .send, _ => True

@[simp] theorem taken_take (t : Traffic) (c : SendClass) : (t.take c).taken c = t.taken c + 1 :=
  Function.update_self _ _ _

@[simp] theorem sent_take (t : Traffic) (c : SendClass) : (t.take c).sent = t.sent := rfl

@[simp] theorem sent_send (t : Traffic) (c : SendClass) : (t.send c).sent c = t.sent c + 1 :=
  Function.update_self _ _ _

@[simp] theorem taken_send (t : Traffic) (c : SendClass) : (t.send c).taken = t.taken := rfl

/-! ### The rings and the traffic -/

/-- Both rings are in order, and have taken and sent what the traffic says. -/
structure Inv (os : OS) (pid : Pid) (queueId : ℕ) (n : Node) (t : Traffic) : Prop where
  ring : ∀ c, SendRing os (n.sendQueue c) (n.sendQueue c).queued (t.taken c)
  count : ∀ c, (n.sendQueue c).packetsToSend.toNat + t.sent c = t.taken c
  pid : n.selfPid = pid
  queueId : n.macQueueId = queueId

namespace Inv

variable {build : Build} {os : OS} {pid : Pid} {queueId : ℕ} {n : Node} {t : Traffic}

theorem unsent_eq (h : Inv os pid queueId n t) (c : SendClass) :
    t.unsent c = (n.sendQueue c).packetsToSend.toNat := by
  have hcount := h.count c
  unfold Traffic.unsent
  omega

theorem withinCapacity (h : Inv os pid queueId n t) : WithinCapacity n := fun c =>
  (h.ring c).count_eq ▸ (h.ring c).holds.fits

theorem full_iff (h : Inv os pid queueId n t) :
    mclmacAvailableDataPackets n.toMCLMAC = 2 * Config.maxNumberDataPackets ↔ t.Full := by
  rw [Full, h.unsent_eq, h.unsent_eq]
  rfl

/-- The invariant does not look at the queues between the layers. -/
theorem withQueues (h : Inv os pid queueId n t) (queues : IpcQueues) :
    Inv os pid queueId { n with queues := queues } t :=
  ⟨h.ring, h.count, h.pid, h.queueId⟩

/-- Replacing the ring of one class, the queues between the layers and what was sent. -/
theorem setSendQueue (h : Inv os pid queueId n t) {c : SendClass} {q : SendQueue} {t' : Traffic}
    {queues : IpcQueues} (sent : List Transmission) (hq : SendRing os q q.queued (t'.taken c))
    (hcount : q.packetsToSend.toNat + t'.sent c = t'.taken c)
    (hother : ∀ c' ≠ c, t'.taken c' = t.taken c' ∧ t'.sent c' = t.sent c') :
    Inv os pid queueId (({ n with queues := queues, sent := sent } : Node).setSendQueue c q) t' := by
  refine ⟨fun c' => ?_, fun c' => ?_, ?_, ?_⟩
  · rw [sendQueue_setSendQueue]
    by_cases hc : c' = c
    · subst hc
      rwa [Function.update_self]
    · rw [Function.update_of_ne hc, (hother c' hc).1]
      exact h.ring c'
  · rw [sendQueue_setSendQueue]
    by_cases hc : c' = c
    · subst hc
      rwa [Function.update_self]
    · rw [Function.update_of_ne hc, (hother c' hc).1, (hother c' hc).2]
      exact h.count c'
  · cases c <;> exact h.pid
  · cases c <;> exact h.queueId

/-- Within the rings, what a read takes is what arrives. -/
theorem takenClass_read (h : Inv build.os pid queueId n t) (queues : IpcQueues) (buf : ByteString) :
    takenClass build (.read queues buf) n =
      if t.Full then none else arrivingClass build.os pid queueId buf queues := by
  rw [takenClass, h.pid, h.queueId]
  by_cases hfull : t.Full
  · rw [if_pos hfull, if_pos (h.full_iff.mpr hfull)]
  · rw [if_neg hfull, if_neg (mt h.full_iff.mp hfull)]

end Inv

end Traffic

/-! ## The steps -/

/-- A call that touches neither queue keeps all packets. -/
theorem PacketsKept.of_eq {n n' : Node} (hqueues : n'.sendQueue = n.sendQueue)
    (hsent : n'.sent = n.sent) : PacketsKept n n' := by
  refine ⟨[], by rw [hsent, List.append_nil], fun c => ⟨[], [], ?_, fun p hp => ?_⟩⟩
  · rw [hqueues, List.append_nil, List.nil_append]
  · exact absurd hp List.not_mem_nil

/-- A call that replaces the queue of one class keeps all packets if it does so there. -/
theorem PacketsKept.of_setSendQueue {n : Node} {c : SendClass} {q : SendQueue} (queues : IpcQueues)
    (sent : List Transmission) (gone new : List DataPacket)
    (hc : (n.sendQueue c).queued ++ new = gone ++ q.queued)
    (hgone : ∀ p ∈ gone, .data (datapacketBytes n.junk p) ∈ sent) :
    PacketsKept n
      (({ n with queues := queues, sent := n.sent ++ sent } : Node).setSendQueue c q) := by
  refine ⟨sent, by cases c <;> rfl, fun c' => ?_⟩
  rw [sendQueue_setSendQueue]
  by_cases hc' : c' = c
  · rw [hc', Function.update_self]
    exact ⟨gone, new, hc, hgone⟩
  · -- the queue of the other class is as it was
    rw [Function.update_of_ne hc']
    refine ⟨[], [], ?_, fun p hp => absurd hp List.not_mem_nil⟩
    rw [List.append_nil, List.nil_append]
    rfl

/-- **What a step does**: it returns exactly if there is one on the traffic, and then the rings go on
with it and all packets are kept. -/
def StepsAlong (os : OS) (pid : Pid) (queueId : ℕ) (n : Node) (step : Option Node)
    (next : Option Traffic) : Prop :=
  Option.Rel (fun n' t' => Traffic.Inv os pid queueId n' t' ∧ PacketsKept n n') step next

theorem StepsAlong.of_some {os : OS} {pid : Pid} {queueId : ℕ} {n n' : Node}
    {next : Option Traffic} (h : StepsAlong os pid queueId n (some n') next) :
    (∃ t', Traffic.Inv os pid queueId n' t') ∧ PacketsKept n n' := by
  cases h with
  | some h => exact ⟨⟨_, h.1⟩, h.2⟩

theorem StepsAlong.inv {os : OS} {pid : Pid} {queueId : ℕ} {n : Node} {step : Option Node}
    {next : Option Traffic} (h : StepsAlong os pid queueId n step next) :
    Option.Rel (Traffic.Inv os pid queueId) step next := by
  cases h with
  | none => exact .none
  | some h => exact .some h.1

namespace Traffic.Inv

variable {build : Build} {pid : Pid} {queueId : ℕ} {n : Node} {t : Traffic}

/-- **Storing** the message of a class. -/
theorem store (h : Traffic.Inv build.os pid queueId n t) {c : SendClass} {o : Offer}
    (hroom : (n.sendQueue c).queued.length < Config.maxNumberDataPackets)
    (hacc : t.taken c < Config.maxNumberDataPackets) (hsize : SizeFits build.os o.msg) :
    ∃ q, (n.sendQueue c).store build.os o.msg = .ok q ∧
      Traffic.Inv build.os pid queueId
        (({ n with queues := o.queues } : Node).setSendQueue c q) (t.take c) ∧
      PacketsKept n (({ n with queues := o.queues } : Node).setSendQueue c q) := by
  obtain ⟨q, hstore, hring⟩ := (h.ring c).store hroom hacc hsize
  have hqueued : q.queued = (n.sendQueue c).queued ++ [datapacketOfBytes o.msg] := hring.holds.entries
  refine ⟨q, hstore, ?_, ?_⟩
  · refine h.setSendQueue n.sent ?_ ?_ fun c' hne => ⟨Function.update_of_ne hne _ _, rfl⟩
    · rw [hqueued, taken_take]
      exact hring
    · have hcount := h.count c
      rw [taken_take, sent_take, hring.count_eq, List.length_append, ← (h.ring c).count_eq,
        List.length_singleton]
      omega
  · have hkept := PacketsKept.of_setSendQueue o.queues [] [] [datapacketOfBytes o.msg] hqueued.symm
      fun p hp => absurd hp List.not_mem_nil
    rw [List.append_nil] at hkept
    exact hkept

/-- **A read** returns exactly if the traffic has a step. -/
theorem read (h : Traffic.Inv build.os pid queueId n t) (queues : IpcQueues) (buf : ByteString) :
    StepsAlong build.os pid queueId n (capacityStep build (.read queues buf) n)
      (next build.os pid queueId (.read queues buf) t) := by
  have hq := h.withQueues queues
  rw [capacityStep, mclmacReadQueueElement_eq (hq.withinCapacity .message)
    (hq.withinCapacity .control), hq.pid, hq.queueId, next]
  by_cases hfull : t.Full
  · -- no message is taken
    rw [if_pos hfull, if_pos (hq.full_iff.mpr hfull)]
    exact .some ⟨hq, .of_eq rfl rfl⟩
  rw [if_neg hfull, if_neg (mt hq.full_iff.mp hfull)]
  cases hoffer : offered build.os pid queueId buf queues with
  | error e => exact .none
  | ok offer =>
    cases offer with
    | none => exact .some ⟨hq, .of_eq rfl rfl⟩
    | some o =>
      rw [ok_bind]
      dsimp only
      cases hclass : sendClass (o.msg 0) with
      | none =>
        -- the message is of no class, and lost
        exact .some ⟨h.withQueues o.queues, .of_eq rfl rfl⟩
      | some c =>
        have hqueue : ({ n with queues := queues } : Node).sendQueue c = n.sendQueue c := rfl
        dsimp only
        rw [hqueue]
        by_cases hin : t.taken c < Config.maxNumberDataPackets ∧ SizeFits build.os o.msg
        · -- no more than the tenth message of its class finds room, since fewer wait than were taken
          have hroom : (n.sendQueue c).queued.length < Config.maxNumberDataPackets := by
            have hcount := h.count c
            rw [← (h.ring c).count_eq]
            omega
          obtain ⟨q, hstore, hinv, hkept⟩ := h.store hroom hin.1 hin.2
          rw [if_pos hin, hstore]
          exact .some ⟨hinv, hkept⟩
        · -- the message is stored behind the array, or reaches past its own end
          have hfails : ∀ q, (n.sendQueue c).store build.os o.msg ≠ .ok q := by
            intro q
            by_cases hsize : SizeFits build.os o.msg
            · have hten : t.taken c = Config.maxNumberDataPackets :=
                le_antisymm (h.ring c).accepted_le (not_lt.mp fun hlt => hin ⟨hlt, hsize⟩)
              have hring := h.ring c
              rw [hten] at hring
              exact hring.store_of_full o.msg q
            · exact SendRing.store_of_not_sizeFits hsize q
          rw [if_neg hin]
          cases hstore : (n.sendQueue c).store build.os o.msg with
          | error e => exact .none
          | ok q => exact absurd hstore (hfails q)

/-- **Sending** from a queue that is not empty gives its oldest packet to the radio. -/
theorem sendFrom (h : Traffic.Inv build.os pid queueId n t) {c : SendClass}
    (hc : (n.sendQueue c).packetsToSend ≠ 0) :
    StepsAlong build.os pid queueId n (n.sendFrom build.os c).toOption (some (t.send c)) := by
  have hring := h.ring c
  have hlength := hring.count_eq
  have hcount := h.count c
  cases hqueued : (n.sendQueue c).queued with
  | nil =>
    rw [hqueued] at hlength
    exact absurd (UInt8.toNat_inj.mp hlength) hc
  | cons p rest =>
    rw [hqueued] at hring hlength
    obtain ⟨q, htake, hq⟩ := hring.take n.junk
    have hrest : q.queued = rest := hq.holds.entries
    rw [Node.sendFrom, htake, ok_bind]
    refine .some ⟨?_, ?_⟩
    · refine h.setSendQueue _ ?_ ?_ fun c' hne => ⟨rfl, Function.update_of_ne hne _ _⟩
      · rw [hrest]
        exact hq
      · rw [List.length_cons] at hlength
        rw [sent_send, taken_send, hq.count_eq]
        omega
    · exact PacketsKept.of_setSendQueue n.queues _ [p] []
        (by rw [hqueued, hrest, List.append_nil]; rfl) fun p' hp' => by simp_all

/-- **A send** always returns. -/
theorem sendStep (h : Traffic.Inv build.os pid queueId n t) :
    StepsAlong build.os pid queueId n (capacityStep build .send n)
      (next build.os pid queueId .send t) := by
  have hzero : ∀ c, (n.sendQueue c).packetsToSend ≠ 0 ↔ t.unsent c ≠ 0 := fun c => by
    rw [h.unsent_eq, ne_eq, ne_eq, ← UInt8.toNat_inj]
    rfl
  rw [capacityStep, mclmacSendDataPacket_eq fun c => (h.ring c).first_lt, next]
  by_cases hcontrol : t.unsent .control ≠ 0
  · rw [if_pos hcontrol, if_pos ((hzero _).mpr hcontrol)]
    exact h.sendFrom ((hzero _).mpr hcontrol)
  rw [if_neg hcontrol, if_neg (mt (hzero _).mp hcontrol)]
  by_cases hmessage : t.unsent .message ≠ 0
  · rw [if_pos hmessage, if_pos ((hzero _).mpr hmessage)]
    exact h.sendFrom ((hzero _).mpr hmessage)
  · rw [if_neg hmessage, if_neg (mt (hzero _).mp hmessage)]
    exact .some ⟨h, .of_eq rfl rfl⟩

/-- **A step** of the node goes with one of the traffic. -/
theorem step (h : Traffic.Inv build.os pid queueId n t) (op : CapacityOp) :
    StepsAlong build.os pid queueId n (capacityStep build op n)
      (next build.os pid queueId op t) := by
  cases op with
  | read queues buf => exact h.read queues buf
  | send => exact h.sendStep

/-- **A call keeps the capacity** exactly if the message it takes finds room. -/
theorem keepsCapacity_iff (h : Traffic.Inv build.os pid queueId n t) (op : CapacityOp) :
    KeepsCapacity build op n ↔ t.HasRoom build.os pid queueId op := by
  have hafter : ∀ n', capacityStep build op n = some n' → WithinCapacity n' ∧ PacketsKept n n' := by
    intro n' hn'
    have hrel := h.step op
    rw [hn'] at hrel
    obtain ⟨⟨t', hinv⟩, hkept⟩ := hrel.of_some
    exact ⟨hinv.withinCapacity, hkept⟩
  have hiff : KeepsCapacity build op n ↔ ∀ c ∈ takenClass build op n,
      (n.sendQueue c).packetsToSend.toNat + 1 ≤ Config.maxNumberDataPackets :=
    ⟨KeepsCapacity.counted, fun hcounted =>
      ⟨h.withinCapacity, (entryAssertions_iff n).mpr h.withinCapacity, hcounted, hafter⟩⟩
  rw [hiff]
  -- what the node counts is what the traffic has not sent
  cases op with
  | send => exact iff_of_true (by simp [takenClass]) trivial
  | read queues buf =>
    rw [h.takenClass_read, HasRoom]
    by_cases hfull : t.Full
    · rw [if_pos hfull]
      exact iff_of_true (by simp) fun hno => absurd hfull hno
    · rw [if_neg hfull, forall_prop_of_true hfull]
      refine forall₂_congr fun c _ => ?_
      rw [h.unsent_eq]
      exact Iff.rfl

end Traffic.Inv

/-- A read that has a step on the traffic finds room. -/
theorem Traffic.hasRoom_of_next {os : OS} {pid : Pid} {queueId : ℕ} {op : CapacityOp} {t t' : Traffic}
    (h : t.next os pid queueId op = some t') : t.HasRoom os pid queueId op := by
  cases op with
  | send => trivial
  | read queues buf =>
    intro hfull c hc
    rw [Traffic.next, if_neg hfull] at h
    unfold arrivingClass at hc
    cases hoffer : offered os pid queueId buf queues with
    | error e => simp [hoffer] at hc
    | ok offer =>
      cases offer with
      | none => simp [hoffer] at hc
      | some o =>
        simp only [hoffer, Option.mem_def] at h hc
        rw [hc] at h
        -- a message that is stored is one of the first ten, of which some may have gone
        by_cases hin : t.taken c < Config.maxNumberDataPackets ∧ SizeFits os o.msg
        · exact lt_of_le_of_lt (Nat.sub_le _ _) hin.1
        · simp [hin] at h

/-- The reads of a run in which messages of type 7 arrive one after the other. -/
def sevens (k : ℕ) : List CapacityOp :=
  List.replicate k (.read oneMessage emptyMessage)

end WmnIot
