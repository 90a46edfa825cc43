import WmnIot.Foundations.Channels
import WmnIot.Queues.Calls

/-! # The queue a message goes to

On Linux `send_message` is told a queue and a thread. The queue is only checked: the message goes
to the first queue registered for the thread.

* **`ThreadCall.sentTo`**, **`ThreadCall.returnedBy`** — what is sent to a queue by name, and what
  `recv_message` returns of it.
* **`AppendsOnly`**, **`ReceivedInOrder`** — what naming a queue should mean.
* **`namedQueues_iff`** — the runs in which it does. -/

namespace WmnIot

open Runs Channels

/-! ## Messages by the name of their queue -/

/-- The message that a successful `send_message` has sent to queue `i`. -/
def ThreadCall.sentTo (i : Fin Config.maxQueues) : ThreadCall → IpcQueues → Option MqMessage
  | .send caller queueId msg size pid, Q =>
    match sendMessage .linux caller queueId msg size pid Q with
    | .ok (_, ret) =>
      if ret = 1 ∧ queueId = i + 1 then
        some { sender := caller, pid := pid, size := size, bytes := msg }
      else none
    | .error _ => none
  | .recv .., _ => none

/-- What a successful `recv_message` returns of queue `i`. -/
def ThreadCall.returnedBy (i : Fin Config.maxQueues) : ThreadCall → IpcQueues → Option Received
  | .send .., _ => none
  | .recv caller queueId buf size, Q =>
    match recvMessage .linux caller queueId buf size Q with
    | .ok r => if r.ret = 1 ∧ queueId = i + 1 then some r else none
    | .error _ => none

/-- The message is what was received: its thread id and as many bytes as it has. -/
def Delivers (r : Received) (m : MqMessage) : Prop :=
  r.pid = some m.pid ∧ ∀ k : Fin Config.packetSizeMac, (k : ℕ) < m.size → r.msg k = m.bytes k

/-- What a call sends to a queue is put at its end, and no other queue changes. -/
def AppendsOnly (c : ThreadCall) (Q : IpcQueues) : Prop :=
  ∀ i m, c.sentTo i Q = some m → ∀ Q', c.step .linux Q = some Q' →
    (Q'.queues i).messages = (Q.queues i).messages ++ [m] ∧
      ∀ j, j ≠ i → (Q'.queues j).messages = (Q.queues j).messages

/-- What is received are the first of the messages sent, in order. -/
def ReceivedInOrder (received : List Received) (sent : List MqMessage) : Prop :=
  ∃ ms, List.Forall₂ Delivers received ms ∧ ms <+: sent

/-- A sender names the first queue registered for the thread it names, and a receiver has room for
the messages of its queue. -/
def NamesItsQueue : ThreadCall → IpcQueues → Prop
  | .send _ queueId _ _ pid, Q => ∀ q i, Finds Q queueId pid q i → i = q
  | .recv _ queueId _ size, Q =>
    ∀ q : Fin Config.maxQueues, queueId = q + 1 → size ≠ 0 → (Q.queues q).messageSize ≤ size

/-! ## One call -/

section

variable {caller pid : Pid} {queueId size : ℕ} {msg buf : ByteString} {Q Q' : IpcQueues}
  {q i : Fin Config.maxQueues}

/-- A call of `send_message` that finds its queues sends, and reports success. -/
theorem Finds.sent (h : Finds Q queueId pid q i)
    (hstep : (ThreadCall.send caller queueId msg size pid).step .linux Q = some Q') :
    sendMessage .linux caller queueId msg size pid Q = .ok (Q', 1) ∧
      size ≤ (Q.queues q).messageSize ∧
      ∃ recvQ, mqSend (Q.queues i) { sender := caller, pid := pid, size := size, bytes := msg } =
        .ok recvQ ∧ Q' = { Q with queues := Function.update Q.queues i recvQ } := by
  obtain ⟨ret, hsend⟩ := step_send.mp hstep
  cases sendMessage_eq_ok_iff.mp hsend with
  | refused _ hnone => exact absurd h (hnone q i)
  | queued hfinds hreceiver hopen hsize hmq =>
    obtain ⟨rfl, rfl⟩ := h.unique hfinds
    exact ⟨hsend, hsize, _, hmq, rfl⟩

/-- `mq_send` appends a message that is not too long. -/
theorem mqSend_of_fits {m : MqMessage} {mq mq' : Queue} (hsize : m.size ≤ mq.messageSize)
    (h : mqSend mq m = .ok mq') : mq' = { mq with messages := mq.messages ++ [m] } := by
  unfold mqSend at h
  rw [if_neg (not_lt.mpr hsize)] at h
  split_ifs at h
  exact (Except.ok.inj h).symm

theorem sentTo_of_ok (h : sendMessage .linux caller queueId msg size pid Q = .ok (Q', 1))
    (j : Fin Config.maxQueues) : (ThreadCall.send caller queueId msg size pid).sentTo j Q =
      if queueId = j + 1 then some { sender := caller, pid := pid, size := size, bytes := msg }
      else none := by
  simp [ThreadCall.sentTo, h]

theorem returnedBy_of_ok {r : Received} (h : recvMessage .linux caller queueId buf size Q = .ok r)
    (j : Fin Config.maxQueues) : (ThreadCall.recv caller queueId buf size).returnedBy j Q =
      if r.ret = 1 ∧ queueId = j + 1 then some r else none := by
  simp [ThreadCall.returnedBy, h]

/-- **A send** goes to the queue it names, and nowhere else, exactly if that queue is the first one
registered for the thread. -/
theorem appendsOnly_send_iff
    (hstep : (ThreadCall.send caller queueId msg size pid).step .linux Q = some Q') :
    AppendsOnly (.send caller queueId msg size pid) Q ↔
      NamesItsQueue (.send caller queueId msg size pid) Q := by
  constructor
  · intro happends q i hfinds
    obtain ⟨hok, -, recvQ, -, rfl⟩ := hfinds.sent hstep
    have hsent := sentTo_of_ok hok q
    rw [if_pos hfinds.queueId_eq] at hsent
    obtain ⟨hmessages, -⟩ := happends q _ hsent _ hstep
    by_contra hne
    -- the named queue has not changed
    have hq : q ≠ i := fun h => hne h.symm
    simp [hq] at hmessages
  · intro hnames j m hsent Q'' hstep''
    obtain rfl : Q' = Q'' := Option.some.inj (hstep.symm.trans hstep'')
    rcases finds_or_refused .linux caller queueId msg size pid Q with ⟨q, i, hfinds⟩ | ⟨-, hrefused⟩
    · obtain ⟨hok, hsize, recvQ, hmq, rfl⟩ := hfinds.sent hstep
      obtain rfl : i = q := hnames q i hfinds
      rw [sentTo_of_ok hok] at hsent
      split_ifs at hsent with hj
      · obtain rfl : i = j := Fin.ext (by have := hfinds.queueId_eq; omega)
        obtain rfl := Option.some.inj hsent
        obtain rfl := mqSend_of_fits hsize hmq
        refine ⟨by simp, fun k hk => ?_⟩
        simp [hk]
    · simp [ThreadCall.sentTo, hrefused] at hsent

/-- A receiver with room for the messages of its queue takes the oldest one out. -/
theorem recv_takes (hid : queueId = q + 1) (hsize : size ≠ 0)
    (hroom : (Q.queues q).messageSize ≤ size)
    (hstep : (ThreadCall.recv caller queueId buf size).step .linux Q = some Q') :
    ∃ m rest r, (Q.queues q).messages = m :: rest ∧
      Q' = { Q with queues := Function.update Q.queues q { Q.queues q with messages := rest } } ∧
      recvMessage .linux caller queueId buf size Q = .ok r ∧ r.ret = 1 ∧ Delivers r m := by
  obtain ⟨r, hrecv, rfl⟩ := step_recv.mp hstep
  cases recvMessage_returns hrecv with
  | refused _ hnone => exact absurd ⟨hid, hsize⟩ (hnone q)
  | @short q' hid' hne hopened hshort =>
    obtain rfl : q = q' := Fin.ext (Nat.succ.inj (hid.symm.trans hid'))
    exact absurd hroom (not_le.mpr hshort)
  | @dequeued q' m rest hid' hne hopened hroom' hmessages =>
    obtain rfl : q = q' := Fin.ext (Nat.succ.inj (hid.symm.trans hid'))
    exact ⟨m, rest, _, hmessages, rfl, hrecv, rfl, rfl, fun k hk => if_pos hk⟩

/-- A receiver without room is told that it received a message, but there is none. -/
theorem recv_refused (hid : queueId = q + 1) (hsize : size ≠ 0)
    (hroom : size < (Q.queues q).messageSize)
    (hstep : (ThreadCall.recv caller queueId buf size).step .linux Q = some Q') :
    ∃ r, (ThreadCall.recv caller queueId buf size).returnedBy q Q = some r ∧ r.pid = none := by
  obtain ⟨r, hrecv, -⟩ := step_recv.mp hstep
  cases recvMessage_returns hrecv with
  | refused _ hnone => exact absurd ⟨hid, hsize⟩ (hnone q)
  | short => exact ⟨_, (returnedBy_of_ok hrecv q).trans (if_pos ⟨rfl, hid⟩), rfl⟩
  | @dequeued q' m rest hid' hne hopened hroom' hmessages =>
    obtain rfl : q = q' := Fin.ext (Nat.succ.inj (hid.symm.trans hid'))
    exact absurd hroom' (not_le.mpr hroom)

/-- **Every queue is a FIFO channel** for a call that names its queue. -/
theorem passes_of_namesItsQueue {c : ThreadCall} (i : Fin Config.maxQueues)
    (hnames : NamesItsQueue c Q) (hstep : c.step .linux Q = some Q') :
    Passes (fun Q => (Q.queues i).messages) (ThreadCall.sentTo i) (ThreadCall.returnedBy i) Delivers
      c Q Q' := by
  cases c with
  | send caller queueId msg size pid =>
    rcases finds_or_refused .linux caller queueId msg size pid Q with ⟨q, j, hfinds⟩ | ⟨-, hrefused⟩
    · have happends := (appendsOnly_send_iff hstep).mpr hnames
      obtain ⟨hok, -⟩ := hfinds.sent hstep
      have hsent := sentTo_of_ok hok q
      rw [if_pos hfinds.queueId_eq] at hsent
      -- the message goes to the queue it names; every other queue is idle
      obtain ⟨hmessages, hothers⟩ := happends q _ hsent Q' hstep
      by_cases hi : i = q
      · subst hi
        exact .put hsent rfl hmessages
      · refine .idle ?_ rfl (hothers i hi)
        rw [sentTo_of_ok hok, if_neg]
        have hid := hfinds.queueId_eq
        intro heq
        exact hi (Fin.ext (by omega))
    · obtain ⟨ret, hsend⟩ := step_send.mp hstep
      obtain rfl : Q = Q' := by
        rw [hrefused] at hsend
        exact congrArg Prod.fst (Except.ok.inj hsend)
      exact .idle (by simp [ThreadCall.sentTo, hrefused]) rfl rfl
  | recv caller queueId buf size =>
    rcases reads_or_refused .linux caller queueId buf size Q with ⟨q, hid, hsize⟩ | hrefused
    · -- the first message of the queue is taken; every other queue is idle
      obtain ⟨m, rest, r, hmessages, rfl, hrecv, hret, hdelivers⟩ :=
        recv_takes hid hsize (hnames q hid hsize) hstep
      by_cases hi : i = q
      · subst hi
        refine .take rfl ?_ hdelivers ?_
        · rw [returnedBy_of_ok hrecv, if_pos ⟨hret, hid⟩]
        · simp [hmessages]
      · refine .idle rfl ?_ ?_
        · rw [returnedBy_of_ok hrecv, if_neg]
          rintro ⟨-, hi'⟩
          exact hi (Fin.ext (by omega))
        · simp [hi]
    · obtain ⟨r, hrecv, rfl⟩ := step_recv.mp hstep
      rw [hrefused] at hrecv
      obtain rfl := Except.ok.inj hrecv
      refine .idle rfl ?_ rfl
      rw [returnedBy_of_ok hrefused, if_neg]
      rintro ⟨hret, -⟩
      cases hret

end

/-! ## Runs -/

/-- **Messages go to the queue that is named**, and are received in the order in which they were
sent to it, exactly in the runs in which every sender names the first queue registered for the
thread it names, and every receiver has room for the messages of its queue. -/
theorem namedQueues_iff (setup : List SetupCall) (Q : IpcQueues)
    (hsetup : setUp .linux setup = some Q) (calls : List ThreadCall) :
    ((∀ t ∈ taken (ThreadCall.step .linux) calls Q, AppendsOnly t.1 t.2) ∧
        ∀ i, ReceivedInOrder
          (emitted (ThreadCall.returnedBy i) (taken (ThreadCall.step .linux) calls Q))
          (emitted (ThreadCall.sentTo i) (taken (ThreadCall.step .linux) calls Q))) ↔
      ∀ t ∈ taken (ThreadCall.step .linux) calls Q, NamesItsQueue t.1 t.2 := by
  have htaken : ∀ t ∈ taken (ThreadCall.step .linux) calls Q,
      True ∧ ∃ Q', t.1.step .linux t.2 = some Q' :=
    forall_taken (fun _ => True) (fun _ _ _ _ _ => trivial) calls trivial
  constructor
  · rintro ⟨happends, hreceived⟩ ⟨c, Q₁⟩ ht
    obtain ⟨-, Q', hstep⟩ := htaken _ ht
    cases c with
    | send caller queueId msg size pid => exact (appendsOnly_send_iff hstep).mp (happends _ ht)
    | recv caller queueId buf size =>
      intro q hid hsize
      by_contra hroom
      obtain ⟨r, hr, hnone⟩ := recv_refused hid hsize (not_le.mp hroom) hstep
      -- what was not received cannot be among the messages sent
      obtain ⟨ms, hms, -⟩ := hreceived q
      have hmem : r ∈ emitted (ThreadCall.returnedBy q) (taken (ThreadCall.step .linux) calls Q) :=
        List.mem_filterMap.mpr ⟨_, ht, hr⟩
      obtain ⟨m, hpid, -⟩ := delivered_of_mem hms hmem
      rw [hnone] at hpid
      cases hpid
  · intro hnames
    refine ⟨fun t ht => ?_, fun i => ?_⟩
    · obtain ⟨-, Q', hstep⟩ := htaken t ht
      obtain ⟨c, Q₁⟩ := t
      cases c with
      | send caller queueId msg size pid => exact (appendsOnly_send_iff hstep).mpr (hnames _ ht)
      | recv caller queueId buf size => exact fun _ _ hsent => nomatch hsent
    · have hpasses : ∀ t ∈ taken (ThreadCall.step .linux) calls Q, ∀ Q',
          t.1.step .linux t.2 = some Q' → Passes (fun Q => (Q.queues i).messages)
            (ThreadCall.sentTo i) (ThreadCall.returnedBy i) Delivers t.1 t.2 Q' :=
        fun t ht Q' hstep => passes_of_namesItsQueue i (hnames t ht) hstep
      exact received_first calls ((fresh_setUp hsetup).messages_eq i) hpasses

/-! ### Two threads with a queue each -/

/-- Thread 2 sends to its own queue, but for thread 1. -/
def strayMessage : List ThreadCall :=
  [.send 2 2 (fun _ => 7) Config.maxMessageSize 1, .recv 1 1 (fun _ => 0) Config.maxMessageSize]

instance (Q : IpcQueues) (queueId : ℕ) (pid : Pid) (q i : Fin Config.maxQueues) :
    Decidable (Finds Q queueId pid q i) :=
  decidable_of_iff (queueId = q + 1 ∧ pid ≠ 0 ∧ queueOfPid Q pid = some i)
    ⟨fun ⟨h, h', h''⟩ => ⟨h, h', h''⟩, fun ⟨h, h', h''⟩ => ⟨h, h', h''⟩⟩

instance (c : ThreadCall) (Q : IpcQueues) : Decidable (NamesItsQueue c Q) :=
  match c with
  | .send _ queueId _ _ pid =>
    inferInstanceAs (Decidable (∀ q i, Finds Q queueId pid q i → i = q))
  | .recv _ queueId _ size =>
    inferInstanceAs (Decidable (∀ q : Fin Config.maxQueues, queueId = q + 1 → size ≠ 0 →
      (Q.queues q).messageSize ≤ size))

/-- Threads that name each other's queues exchange their messages. -/
theorem namedQueues_exchange :
    ∃ Q, setUp .linux twoQueues = some Q ∧
      (taken (ThreadCall.step .linux) exchange Q).length = 4 ∧
      (∀ t ∈ taken (ThreadCall.step .linux) exchange Q, AppendsOnly t.1 t.2) ∧
      ∀ i, ReceivedInOrder
        (emitted (ThreadCall.returnedBy i) (taken (ThreadCall.step .linux) exchange Q))
        (emitted (ThreadCall.sentTo i) (taken (ThreadCall.step .linux) exchange Q)) := by
  have heval : (setUp .linux twoQueues).map (fun Q => decide
      ((taken (ThreadCall.step .linux) exchange Q).length = 4 ∧
        ∀ t ∈ taken (ThreadCall.step .linux) exchange Q, NamesItsQueue t.1 t.2)) = some true := by
    decide +kernel
  obtain ⟨Q, hsetup, heval⟩ := Option.map_eq_some_iff.mp heval
  obtain ⟨hlength, hnames⟩ := of_decide_eq_true heval
  exact ⟨Q, hsetup, hlength, (namedQueues_iff twoQueues Q hsetup exchange).mpr hnames⟩

/-- The message for thread 1 does not go to queue 2, and thread 1 receives it from queue 1, to
which nothing was sent. -/
theorem namedQueues_strayMessage :
    ∃ Q Q', setUp .linux twoQueues = some Q ∧
      sendMessage .linux 2 2 (fun _ => 7) Config.maxMessageSize 1 Q = .ok (Q', 1) ∧
      (Q'.queues 1).messages = [] ∧ (Q'.queues 0).messages ≠ [] ∧
      ¬ AppendsOnly (.send 2 2 (fun _ => 7) Config.maxMessageSize 1) Q ∧
      ¬ ReceivedInOrder
        (emitted (ThreadCall.returnedBy 0) (taken (ThreadCall.step .linux) strayMessage Q))
        (emitted (ThreadCall.sentTo 0) (taken (ThreadCall.step .linux) strayMessage Q)) := by
  -- one evaluation of the run; the propositions are read off it below
  have heval : ((setUp .linux twoQueues).bind fun Q =>
      (sendMessage .linux 2 2 (fun _ => 7) Config.maxMessageSize 1 Q).toOption.map fun r =>
        (Q, r)).map (fun t => decide (t.2.2 = 1 ∧ (t.2.1.queues 1).messages.length = 0 ∧
          (t.2.1.queues 0).messages.length = 1 ∧
          (emitted (ThreadCall.returnedBy 0)
            (taken (ThreadCall.step .linux) strayMessage t.1)).length = 1 ∧
          (emitted (ThreadCall.sentTo 0)
            (taken (ThreadCall.step .linux) strayMessage t.1)).length = 0)) = some true := by
    decide +kernel
  obtain ⟨⟨Q, Q', ret⟩, hrun, heval⟩ := Option.map_eq_some_iff.mp heval
  obtain ⟨hret, hqueue2, hqueue1, hreceived, hsent⟩ := of_decide_eq_true heval
  obtain ⟨Q₁, hsetup, hrun⟩ := Option.bind_eq_some_iff.mp hrun
  obtain ⟨r, hsend, hr⟩ := Option.map_eq_some_iff.mp hrun
  obtain ⟨rfl, rfl⟩ := Prod.mk.inj hr
  obtain rfl : ret = 1 := hret
  replace hsend := toOption_eq_some.mp hsend
  have hstep : (ThreadCall.send 2 2 (fun _ => 7) Config.maxMessageSize 1).step .linux Q₁ = some Q' :=
    step_send.mpr ⟨1, hsend⟩
  refine ⟨Q₁, Q', hsetup, hsend, List.length_eq_zero_iff.mp hqueue2, ?_, ?_, ?_⟩
  · intro hnil
    rw [hnil] at hqueue1
    cases hqueue1
  · intro happends
    have hmessages := (happends 1 _ ((sentTo_of_ok hsend 1).trans (if_pos rfl)) Q' hstep).1
    have hlength := congrArg List.length hmessages
    rw [List.length_append, List.length_singleton] at hlength
    exact absurd (hlength.symm.trans hqueue2) (Nat.succ_ne_zero _)
  · rintro ⟨ms, hms, hprefix⟩
    have hle := hprefix.length_le
    rw [← hms.length_eq, hreceived, hsent] at hle
    cases hle

end WmnIot
