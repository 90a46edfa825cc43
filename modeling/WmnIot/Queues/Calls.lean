import WmnIot.Foundations.Channels
import WmnIot.Model.IpcQueues

/-! # Calls of the queue module

The queues are created and opened, and from then on threads send and receive in any order. A call
that would block is one that comes later in the order.

* **`SetupCall`**, **`setUp`** — creating and opening the queues.
* **`ThreadCall.exec`**, **`ThreadCall.step`** — what a call of `send_message` or `recv_message` does.
* **`Finds`** — the two queues `send_message` looks at.
* **`SendReturns`**, **`RecvReturns`** — what a call that returns has done.
* **`OnlyFrom`** — a call adds no messages but those of the thread that makes it.
* **`Fresh`** — what is known of the queues before the first message. -/

namespace WmnIot

open Runs Channels

/-! ## Setting up -/

/-- A call that creates or opens a queue. -/
inductive SetupCall
  | create (maxQueueSize messageSize msgsAllow : ℕ)
  | opens (caller : Pid) (queueId : ℕ) (pid : Pid)

/-- The queues after the call, if it returns. -/
def SetupCall.step (os : OS) : SetupCall → IpcQueues → Option IpcQueues
  | .create maxQueueSize messageSize msgsAllow, Q =>
    some (createQueue maxQueueSize messageSize msgsAllow Q).1
  | .opens caller queueId pid, Q => (openQueue os caller queueId pid Q).toOption.map Prod.fst

/-- The queues after the calls, if they all return. -/
def setUp (os : OS) (calls : List SetupCall) : Option IpcQueues :=
  calls.foldlM (fun Q c => c.step os Q) initQueues

/-- Nothing has been sent: no message waits anywhere, and the storage ring is unused. -/
structure Fresh (Q : IpcQueues) : Prop where
  messages_eq : ∀ i, (Q.queues i).messages = []
  mailbox_eq : ∀ pid, Q.mailbox pid = []
  startStorage_eq : Q.startStorage = 0
  endStorage_eq : Q.endStorage = 0
  storedElements_eq : Q.storedElements = 0

theorem fresh_initQueues : Fresh initQueues :=
  ⟨fun _ => rfl, fun _ => rfl, rfl, rfl, rfl⟩

theorem Fresh.create {Q : IpcQueues} (h : Fresh Q) (maxQueueSize messageSize msgsAllow : ℕ) :
    Fresh (createQueue maxQueueSize messageSize msgsAllow Q).1 := by
  unfold createQueue
  split_ifs
  · exact h
  · exact h
  · exact h
  · split
    · exact h
    · next i _ =>
      refine ⟨fun j => ?_, h.mailbox_eq, h.startStorage_eq, h.endStorage_eq, h.storedElements_eq⟩
      by_cases hj : j = i
      · subst hj
        simpa using h.messages_eq j
      · simpa [hj] using h.messages_eq j

/-- The queue is registered for the thread and opened. -/
def openedBy (os : OS) (caller : Pid) (i : Fin Config.maxQueues) (pid : Pid) (Q : IpcQueues) :
    IpcQueues :=
  let ids := Function.update Q.queuesIds i { Q.queuesIds i with pid := pid }
  match os with
  | .linux =>
    { Q with
        queuesIds := ids
        queues := Function.update Q.queues i { Q.queues i with opened := true } }
  | .riot =>
    { Q with
        queuesIds := ids
        mailbox := Function.update Q.mailbox caller []
        mailboxSize := Function.update Q.mailboxSize caller (Q.queues i).queueSize }

/-- What `open_queue` does when it returns. -/
theorem openQueue_cases {os : OS} {caller pid : Pid} {queueId ret : ℕ} {Q Q' : IpcQueues}
    (h : openQueue os caller queueId pid Q = .ok (Q', ret)) :
    Q' = Q ∨ ∃ i : Fin Config.maxQueues, Q' = openedBy os caller i pid Q := by
  unfold openQueue at h
  obtain ⟨-, -, h⟩ := bind_eq_ok.mp h
  split_ifs at h with hid
  · obtain ⟨-, -, h⟩ := bind_eq_ok.mp h
    refine .inr ⟨⟨queueId - 1, by omega⟩, ?_⟩
    cases os with
    | linux => exact (congrArg Prod.fst (Except.ok.inj h)).symm
    | riot => exact (congrArg Prod.fst (Except.ok.inj h)).symm
  · exact .inl (congrArg Prod.fst (Except.ok.inj h)).symm

theorem Fresh.opened {Q : IpcQueues} (h : Fresh Q) (os : OS) (caller : Pid)
    (i : Fin Config.maxQueues) (pid : Pid) : Fresh (openedBy os caller i pid Q) := by
  cases os with
  | linux =>
    refine ⟨fun j => ?_, h.mailbox_eq, h.startStorage_eq, h.endStorage_eq, h.storedElements_eq⟩
    by_cases hj : j = i
    · subst hj
      simpa [openedBy] using h.messages_eq j
    · simpa [openedBy, hj] using h.messages_eq j
  | riot =>
    refine ⟨h.messages_eq, fun p => ?_, h.startStorage_eq, h.endStorage_eq, h.storedElements_eq⟩
    by_cases hp : p = caller
    · subst hp
      simp [openedBy]
    · simpa [openedBy, hp] using h.mailbox_eq p

/-- **Setting up** sends nothing. -/
theorem fresh_setUp {os : OS} {calls : List SetupCall} {Q : IpcQueues}
    (h : setUp os calls = some Q) : Fresh Q := by
  refine run_inv Fresh ?_ calls fresh_initQueues h
  intro c Q Q' hQ hstep
  cases c with
  | create maxQueueSize messageSize msgsAllow =>
    obtain rfl : (createQueue maxQueueSize messageSize msgsAllow Q).1 = Q' := Option.some.inj hstep
    exact hQ.create maxQueueSize messageSize msgsAllow
  | opens caller queueId pid =>
    obtain ⟨⟨Q'', ret⟩, hopen, rfl⟩ := Option.map_eq_some_iff.mp hstep
    rcases openQueue_cases (toOption_eq_some.mp hopen) with rfl | ⟨i, rfl⟩
    · exact hQ
    · exact hQ.opened os caller i pid

/-! ## Sending and receiving -/

/-- The queues after a call of a thread, if it returns. -/
def ThreadCall.exec (os : OS) : ThreadCall → IpcQueues → Except Halt IpcQueues
  | .send caller queueId msg size pid, Q => Prod.fst <$> sendMessage os caller queueId msg size pid Q
  | .recv caller queueId buf size, Q => Received.queues <$> recvMessage os caller queueId buf size Q

/-- A call that returns is a step of a run. -/
def ThreadCall.step (os : OS) (c : ThreadCall) (Q : IpcQueues) : Option IpcQueues :=
  (c.exec os Q).toOption

theorem step_send {os : OS} {caller pid : Pid} {queueId size : ℕ} {msg : ByteString}
    {Q Q' : IpcQueues} : (ThreadCall.send caller queueId msg size pid).step os Q = some Q' ↔
      ∃ ret, sendMessage os caller queueId msg size pid Q = .ok (Q', ret) := by
  unfold ThreadCall.step ThreadCall.exec
  rw [toOption_eq_some, map_eq_ok]
  constructor
  · rintro ⟨⟨Q'', ret⟩, h, rfl⟩
    exact ⟨ret, h⟩
  · rintro ⟨ret, h⟩
    exact ⟨(Q', ret), h, rfl⟩

theorem step_recv {os : OS} {caller : Pid} {queueId size : ℕ} {buf : ByteString}
    {Q Q' : IpcQueues} : (ThreadCall.recv caller queueId buf size).step os Q = some Q' ↔
      ∃ r, recvMessage os caller queueId buf size Q = .ok r ∧ r.queues = Q' := by
  unfold ThreadCall.step ThreadCall.exec
  rw [toOption_eq_some, map_eq_ok]

theorem exec_send_error {os : OS} {caller pid : Pid} {queueId size : ℕ} {msg : ByteString}
    {Q : IpcQueues} {e : Halt} : (ThreadCall.send caller queueId msg size pid).exec os Q = .error e ↔
      sendMessage os caller queueId msg size pid Q = .error e :=
  map_eq_error

theorem exec_recv_error {os : OS} {caller : Pid} {queueId size : ℕ} {buf : ByteString}
    {Q : IpcQueues} {e : Halt} : (ThreadCall.recv caller queueId buf size).exec os Q = .error e ↔
      recvMessage os caller queueId buf size Q = .error e :=
  map_eq_error

/-- The queue has been created and opened. -/
def IsOpen (os : OS) (q : Queue) : Prop :=
  q.queueId ≠ 0 ∧
    match os with
    | .linux => q.opened
    | .riot => q.allocated

/-- `send_message` is given the id of queue `q`, and finds queue `i` registered for the thread. -/
structure Finds (Q : IpcQueues) (queueId : ℕ) (pid : Pid) (q i : Fin Config.maxQueues) : Prop where
  queueId_eq : queueId = q + 1
  pid_ne : pid ≠ 0
  queueOfPid_eq : queueOfPid Q pid = some i

section

variable {os : OS} {caller pid : Pid} {queueId size : ℕ} {msg buf : ByteString} {Q : IpcQueues}
  {q i : Fin Config.maxQueues}

/-- `send_message` either finds its queues or refuses the message. -/
theorem finds_or_refused (os : OS) (caller : Pid) (queueId : ℕ) (msg : ByteString) (size : ℕ)
    (pid : Pid) (Q : IpcQueues) :
    (∃ q i, Finds Q queueId pid q i) ∨
      (∀ q i, ¬ Finds Q queueId pid q i) ∧
        sendMessage os caller queueId msg size pid Q = .ok (Q, 0) := by
  unfold sendMessage
  by_cases hid : 1 ≤ queueId ∧ queueId ≤ Config.maxQueues
  · rw [dif_pos hid]
    by_cases hpid : pid = 0
    · refine .inr ⟨fun q i h => h.pid_ne hpid, ?_⟩
      rw [if_pos hpid]
      rfl
    · cases hdest : queueOfPid Q pid with
      | none =>
        refine .inr ⟨fun q i h => ?_, ?_⟩
        · rw [h.queueOfPid_eq] at hdest
          cases hdest
        · rw [if_neg hpid]
          rfl
      | some i =>
        refine .inl ⟨⟨queueId - 1, by omega⟩, i, ?_, hpid, hdest⟩
        show queueId = queueId - 1 + 1
        omega
  · refine .inr ⟨fun q i h => hid ?_, ?_⟩
    · have hq := q.isLt
      rw [h.queueId_eq]
      omega
    · rw [dif_neg hid]
      rfl

/-- The queue that is found is registered for the thread. -/
theorem Finds.pid_eq (h : Finds Q queueId pid q i) : (Q.queuesIds i).pid = pid := by
  have hfind := List.find?_some h.queueOfPid_eq
  simp only [Bool.and_eq_true, beq_iff_eq] at hfind
  exact hfind.1

theorem Finds.unique {q' i' : Fin Config.maxQueues} (h : Finds Q queueId pid q i)
    (h' : Finds Q queueId pid q' i') : q' = q ∧ i' = i := by
  refine ⟨Fin.ext ?_, Option.some.inj (h'.queueOfPid_eq.symm.trans h.queueOfPid_eq)⟩
  have hq := h.queueId_eq
  have hq' := h'.queueId_eq
  omega

/-- What `send_message` does on Linux with the queues it finds. -/
theorem Finds.sendMessage_linux (h : Finds Q queueId pid q i) :
    sendMessage .linux caller queueId msg size pid Q = (do
      assert ((Q.queues i).queueId != 0 && (Q.queues i).opened)
      assert ((Q.queues q).queueId != 0 && (Q.queues q).opened)
      assert (size ≤ (Q.queues q).messageSize)
      let recvQ ← mqSend (Q.queues i) { sender := caller, pid := pid, size := size, bytes := msg }
      return ({ Q with queues := Function.update Q.queues i recvQ }, 1)) := by
  obtain ⟨rfl, hpid, hdest⟩ := h
  have hq := q.isLt
  have hid : 1 ≤ (q : ℕ) + 1 ∧ (q : ℕ) + 1 ≤ Config.maxQueues := ⟨by omega, by omega⟩
  unfold sendMessage
  rw [dif_pos hid, if_neg hpid, hdest]
  rfl

/-- What `send_message` does on RIOT with the queues it finds. -/
theorem Finds.sendMessage_riot (h : Finds Q queueId pid q i) :
    sendMessage .riot caller queueId msg size pid Q = (do
      assert (Q.queues q).allocated
      assert (size ≤ (Q.queues q).messageSize)
      storeAndSend caller msg size pid Q) := by
  obtain ⟨rfl, hpid, hdest⟩ := h
  have hq := q.isLt
  have hid : 1 ≤ (q : ℕ) + 1 ∧ (q : ℕ) + 1 ≤ Config.maxQueues := ⟨by omega, by omega⟩
  unfold sendMessage
  rw [dif_pos hid, if_neg hpid, hdest]
  rfl

/-- An assertion that does not fail. -/
theorem assert_eq_ok {cond : Bool} {u : Unit} : assert cond = .ok u ↔ cond = true := by
  cases cond <;> simp

/-- `recv_message` looks at queue `q`, or has no queue or no buffer to look at. -/
theorem reads_or_refused (os : OS) (caller : Pid) (queueId : ℕ) (buf : ByteString) (size : ℕ)
    (Q : IpcQueues) :
    (∃ q : Fin Config.maxQueues, queueId = q + 1 ∧ size ≠ 0) ∨
      recvMessage os caller queueId buf size Q =
        .ok { queues := Q, msg := buf, pid := none, sender := none, ret := 0 } := by
  unfold recvMessage
  by_cases hid : 1 ≤ queueId ∧ queueId ≤ Config.maxQueues
  · rw [dif_pos hid]
    by_cases hsize : size = 0
    · right
      rw [if_pos hsize]
      rfl
    · refine .inl ⟨⟨queueId - 1, by omega⟩, ?_, hsize⟩
      show queueId = queueId - 1 + 1
      omega
  · right
    rw [dif_neg hid]
    rfl

/-- What `recv_message` does on Linux with its queue. -/
theorem recvMessage_linux (hid : queueId = q + 1) (hsize : size ≠ 0) :
    recvMessage .linux caller queueId buf size Q = (do
      assert (Q.queues q).opened
      if size < (Q.queues q).messageSize then
        return { queues := Q, msg := buf, pid := none, sender := none, ret := 1 }
      match (Q.queues q).messages with
      | [] => throw .blocked
      | m :: rest =>
        return {
          queues := { Q with
            queues := Function.update Q.queues q { Q.queues q with messages := rest } }
          msg := fun k => if (k : ℕ) < m.size then m.bytes k else buf k
          pid := some m.pid
          sender := some m.sender
          ret := 1 }) := by
  subst hid
  have hq := q.isLt
  have hvalid : 1 ≤ (q : ℕ) + 1 ∧ (q : ℕ) + 1 ≤ Config.maxQueues := ⟨by omega, by omega⟩
  unfold recvMessage
  rw [dif_pos hvalid, if_neg hsize]
  rfl

/-- What `recv_message` does on RIOT with its queue. -/
theorem recvMessage_riot (hid : queueId = q + 1) (hsize : size ≠ 0) :
    recvMessage .riot caller queueId buf size Q = (do
      assert (Q.queues q).allocated
      if Q.storedElements = 0 then
        return { queues := Q, msg := buf, pid := none, sender := none, ret := 0 }
      match Q.mailbox caller with
      | [] => throw .blocked
      | m :: rest =>
        let Q' := { Q with mailbox := Function.update Q.mailbox caller rest }
        if m.type.toNat ≠ (Q.queues q).messageSize then
          return { queues := Q', msg := buf, pid := none, sender := some m.senderPid, ret := 0 }
        if hs : m.ptr < storageSize ∧ Q.startStorage < storageSize then
          return {
            queues := { Q' with
              msgStorage := Function.update Q.msgStorage ⟨Q.startStorage, hs.2⟩ fun _ => 0
              startStorage := (Q.startStorage + 1) % storageSize
              storedElements := Q.storedElements - 1 }
            msg := fun k => if (k : ℕ) < size then Q.msgStorage ⟨m.ptr, hs.1⟩ k else buf k
            pid := some m.senderPid
            sender := some m.senderPid
            ret := 1 }
        else throw .outOfBounds) := by
  subst hid
  have hq := q.isLt
  have hvalid : 1 ≤ (q : ℕ) + 1 ∧ (q : ℕ) + 1 ≤ Config.maxQueues := ⟨by omega, by omega⟩
  unfold recvMessage
  rw [dif_pos hvalid, if_neg hsize]
  rfl

/-! ## What a call that returns has done -/

/-- The queues after a message is copied to the end of the ring. -/
def stored (msg : ByteString) (Q : IpcQueues) (h : Q.endStorage < storageSize) : IpcQueues :=
  { Q with
      msgStorage := Function.update Q.msgStorage ⟨Q.endStorage, h⟩ msg
      endStorage := Q.endStorage + 1
      storedElements := Q.storedElements + 1 }

/-- The message that says where the bytes are. -/
def storedMsg (caller : Pid) (size : ℕ) (Q : IpcQueues) : Msg :=
  { senderPid := caller, type := UInt16.ofNat size, ptr := Q.endStorage }

/-- What `storeAndSend` does when it has a place. -/
theorem storeAndSend_of_lt (hfull : Q.storedElements ≠ storageSize)
    (hend : Q.endStorage < storageSize) :
    storeAndSend caller msg size pid Q = (do
      let Q ← msgSend caller (storedMsg caller size Q) pid (stored msg Q hend)
      return (Q, 1)) := by
  have hlast : (if Q.endStorage ≥ storageSize then 0 else Q.endStorage + 1) = Q.endStorage + 1 :=
    if_neg (not_le.mpr hend)
  unfold storeAndSend stored storedMsg
  rw [if_neg hfull, dif_pos hend]
  simp only [hlast]

/-- Without a place the message is written outside the ring. -/
theorem storeAndSend_of_not_lt (hfull : Q.storedElements ≠ storageSize)
    (hend : ¬ Q.endStorage < storageSize) :
    storeAndSend caller msg size pid Q = .error .outOfBounds := by
  unfold storeAndSend
  rw [if_neg hfull, dif_neg hend]
  rfl

/-- A message that a thread sends reaches the message queue of the receiver, or is dropped. -/
theorem msgSend_cases {m : Msg} (h : msgSend caller m pid Q = .ok Q') :
    ((Q.mailbox pid).length < Q.mailboxSize pid ∧
        Q' = { Q with mailbox := Function.update Q.mailbox pid (Q.mailbox pid ++ [m]) }) ∨
      ¬ (Q.mailbox pid).length < Q.mailboxSize pid ∧ Q' = Q := by
  unfold msgSend at h
  split_ifs at h with hroom hself
  · exact .inl ⟨hroom, (Except.ok.inj h).symm⟩
  · exact .inr ⟨hroom, (Except.ok.inj h).symm⟩

/-- A message to oneself never blocks. -/
theorem msgSend_self (owner : Pid) (m : Msg) (Q : IpcQueues) :
    ∃ Q', msgSend owner m owner Q = .ok Q' := by
  unfold msgSend
  rw [if_pos rfl]
  split_ifs
  · exact ⟨_, rfl⟩
  · exact ⟨_, rfl⟩

/-- Whether `mq_send` returns does not depend on what the message says. -/
theorem mqSend_any {mq mq' : Queue} {m m' : MqMessage} (h : mqSend mq m = .ok mq')
    (hsize : m'.size = m.size) : ∃ mq'', mqSend mq m' = .ok mq'' := by
  unfold mqSend at h ⊢
  rw [hsize]
  split_ifs at h ⊢
  · exact ⟨_, rfl⟩
  · exact ⟨_, rfl⟩

/-- A call of `send_message` that returns has been refused, since it does not find its queues; or has
handed the message to the queue of the receiver; or on RIOT has found the storage ring full, or has
stored the message and said to the receiver where. -/
inductive SendReturns (caller : Pid) (queueId : ℕ) (msg : ByteString) (size : ℕ) (pid : Pid)
    (Q : IpcQueues) : OS → IpcQueues → ℕ → Prop
  | refused (os : OS) (hnone : ∀ q i, ¬ Finds Q queueId pid q i) :
    SendReturns caller queueId msg size pid Q os Q 0
  | queued {q i : Fin Config.maxQueues} {mq : Queue} (hfinds : Finds Q queueId pid q i)
    (hreceiver : (Q.queues i).queueId ≠ 0 ∧ (Q.queues i).opened)
    (hopen : (Q.queues q).queueId ≠ 0 ∧ (Q.queues q).opened)
    (hsize : size ≤ (Q.queues q).messageSize)
    (hmq : mqSend (Q.queues i) { sender := caller, pid := pid, size := size, bytes := msg } =
      .ok mq) :
    SendReturns caller queueId msg size pid Q .linux
      { Q with queues := Function.update Q.queues i mq } 1
  | full {q i : Fin Config.maxQueues} (hfinds : Finds Q queueId pid q i)
    (halloc : (Q.queues q).allocated) (hsize : size ≤ (Q.queues q).messageSize)
    (hfull : Q.storedElements = storageSize) :
    SendReturns caller queueId msg size pid Q .riot Q 0
  | stored {q i : Fin Config.maxQueues} {Q' : IpcQueues} (hfinds : Finds Q queueId pid q i)
    (halloc : (Q.queues q).allocated) (hsize : size ≤ (Q.queues q).messageSize)
    (hroom : Q.storedElements ≠ storageSize) (hend : Q.endStorage < storageSize)
    (hmsg : msgSend caller (storedMsg caller size Q) pid (stored msg Q hend) = .ok Q') :
    SendReturns caller queueId msg size pid Q .riot Q' 1

/-- **What `send_message` has done** when it returns. -/
theorem sendMessage_eq_ok_iff {ret : ℕ} {Q' : IpcQueues} :
    sendMessage os caller queueId msg size pid Q = .ok (Q', ret) ↔
      SendReturns caller queueId msg size pid Q os Q' ret := by
  constructor
  · intro h
    rcases finds_or_refused os caller queueId msg size pid Q with ⟨q, i, hfinds⟩ | ⟨hnone, hrefused⟩
    · cases os with
      | linux =>
        rw [hfinds.sendMessage_linux] at h
        obtain ⟨_, hreceiver, h⟩ := bind_eq_ok.mp h
        obtain ⟨_, hopen, h⟩ := bind_eq_ok.mp h
        obtain ⟨_, hsize, h⟩ := bind_eq_ok.mp h
        obtain ⟨mq, hmq, h⟩ := bind_eq_ok.mp h
        obtain ⟨rfl, rfl⟩ := Prod.mk.inj (Except.ok.inj h)
        refine .queued hfinds ?_ ?_ (of_decide_eq_true (assert_eq_ok.mp hsize)) hmq
        · simpa using assert_eq_ok.mp hreceiver
        · simpa using assert_eq_ok.mp hopen
      | riot =>
        rw [hfinds.sendMessage_riot] at h
        obtain ⟨_, halloc, h⟩ := bind_eq_ok.mp h
        obtain ⟨_, hsize, h⟩ := bind_eq_ok.mp h
        have halloc := assert_eq_ok.mp halloc
        have hsize := of_decide_eq_true (assert_eq_ok.mp hsize)
        by_cases hfull : Q.storedElements = storageSize
        · rw [storeAndSend, if_pos hfull] at h
          obtain ⟨rfl, rfl⟩ := Prod.mk.inj (Except.ok.inj h)
          exact .full hfinds halloc hsize hfull
        · by_cases hend : Q.endStorage < storageSize
          · rw [storeAndSend_of_lt hfull hend] at h
            obtain ⟨Q'', hmsg, h⟩ := bind_eq_ok.mp h
            obtain ⟨rfl, rfl⟩ := Prod.mk.inj (Except.ok.inj h)
            exact .stored hfinds halloc hsize hfull hend hmsg
          · rw [storeAndSend_of_not_lt hfull hend] at h
            cases h
    · obtain ⟨rfl, rfl⟩ := Prod.mk.inj (Except.ok.inj (hrefused.symm.trans h))
      exact .refused os hnone
  · intro h
    cases h with
    | refused os hnone =>
      rcases finds_or_refused os caller queueId msg size pid Q with ⟨q, i, hfinds⟩ | ⟨-, hrefused⟩
      · exact absurd hfinds (hnone q i)
      · exact hrefused
    | @queued q i mq hfinds hreceiver hopen hsize hmq =>
      have hreceiver : ((Q.queues i).queueId != 0 && (Q.queues i).opened) = true := by
        simpa using hreceiver
      have hopen : ((Q.queues q).queueId != 0 && (Q.queues q).opened) = true := by
        simpa using hopen
      rw [hfinds.sendMessage_linux, hreceiver, hopen, decide_eq_true hsize, hmq]
      rfl
    | full hfinds halloc hsize hfull =>
      rw [hfinds.sendMessage_riot, storeAndSend, if_pos hfull]
      simp [halloc, hsize]
    | stored hfinds halloc hsize hroom hend hmsg =>
      rw [hfinds.sendMessage_riot, storeAndSend_of_lt hroom hend, hmsg]
      simp [halloc, hsize]

/-- A call of `recv_message` that returns has had no queue or no buffer to look at; or on Linux has
had too short a buffer, or has taken the oldest message of its queue out; or on RIOT has found
nothing stored, or has taken the first message of its mailbox, to discard it for its size or to copy
it out of the storage ring. -/
inductive RecvReturns (caller : Pid) (queueId : ℕ) (buf : ByteString) (size : ℕ) (Q : IpcQueues) :
    OS → Received → Prop
  | refused (os : OS) (hnone : ∀ q : Fin Config.maxQueues, ¬ (queueId = q + 1 ∧ size ≠ 0)) :
    RecvReturns caller queueId buf size Q os
      { queues := Q, msg := buf, pid := none, sender := none, ret := 0 }
  | short {q : Fin Config.maxQueues} (hid : queueId = q + 1) (hne : size ≠ 0)
    (hopened : (Q.queues q).opened) (hshort : size < (Q.queues q).messageSize) :
    RecvReturns caller queueId buf size Q .linux
      { queues := Q, msg := buf, pid := none, sender := none, ret := 1 }
  | dequeued {q : Fin Config.maxQueues} {m : MqMessage} {rest : List MqMessage}
    (hid : queueId = q + 1) (hne : size ≠ 0) (hopened : (Q.queues q).opened)
    (hroom : (Q.queues q).messageSize ≤ size) (hmessages : (Q.queues q).messages = m :: rest) :
    RecvReturns caller queueId buf size Q .linux
      { queues := { Q with
          queues := Function.update Q.queues q { Q.queues q with messages := rest } }
        msg := fun k => if (k : ℕ) < m.size then m.bytes k else buf k
        pid := some m.pid
        sender := some m.sender
        ret := 1 }
  | empty {q : Fin Config.maxQueues} (hid : queueId = q + 1) (hne : size ≠ 0)
    (halloc : (Q.queues q).allocated) (hstored : Q.storedElements = 0) :
    RecvReturns caller queueId buf size Q .riot
      { queues := Q, msg := buf, pid := none, sender := none, ret := 0 }
  | discarded {q : Fin Config.maxQueues} {m : Msg} {rest : List Msg} (hid : queueId = q + 1)
    (hne : size ≠ 0) (halloc : (Q.queues q).allocated) (hstored : Q.storedElements ≠ 0)
    (hmailbox : Q.mailbox caller = m :: rest) (htype : m.type.toNat ≠ (Q.queues q).messageSize) :
    RecvReturns caller queueId buf size Q .riot
      { queues := { Q with mailbox := Function.update Q.mailbox caller rest }
        msg := buf
        pid := none
        sender := some m.senderPid
        ret := 0 }
  | taken {q : Fin Config.maxQueues} {m : Msg} {rest : List Msg} (hid : queueId = q + 1)
    (hne : size ≠ 0) (halloc : (Q.queues q).allocated) (hstored : Q.storedElements ≠ 0)
    (hmailbox : Q.mailbox caller = m :: rest) (htype : m.type.toNat = (Q.queues q).messageSize)
    (hptr : m.ptr < storageSize) (hstart : Q.startStorage < storageSize) :
    RecvReturns caller queueId buf size Q .riot
      { queues := { Q with
          mailbox := Function.update Q.mailbox caller rest
          msgStorage := Function.update Q.msgStorage ⟨Q.startStorage, hstart⟩ fun _ => 0
          startStorage := (Q.startStorage + 1) % storageSize
          storedElements := Q.storedElements - 1 }
        msg := fun k => if (k : ℕ) < size then Q.msgStorage ⟨m.ptr, hptr⟩ k else buf k
        pid := some m.senderPid
        sender := some m.senderPid
        ret := 1 }

/-- **What `recv_message` has done** when it returns. -/
theorem recvMessage_returns {r : Received}
    (h : recvMessage os caller queueId buf size Q = .ok r) :
    RecvReturns caller queueId buf size Q os r := by
  by_cases hread : ∃ q : Fin Config.maxQueues, queueId = q + 1 ∧ size ≠ 0
  swap
  · have hrefused := (reads_or_refused os caller queueId buf size Q).resolve_left hread
    obtain rfl := Except.ok.inj (hrefused.symm.trans h)
    exact .refused os fun q hq => hread ⟨q, hq⟩
  obtain ⟨q, hid, hne⟩ := hread
  cases os with
  | linux =>
    -- a short buffer makes mq_receive fail; an empty queue blocks the call
    rw [recvMessage_linux hid hne] at h
    obtain ⟨_, hopened, h⟩ := bind_eq_ok.mp h
    split_ifs at h with hshort
    · obtain rfl := Except.ok.inj h
      exact .short hid hne (assert_eq_ok.mp hopened) hshort
    · cases hmessages : (Q.queues q).messages with
      | nil =>
        rw [hmessages] at h
        cases h
      | cons m rest =>
        rw [hmessages] at h
        obtain rfl := Except.ok.inj h
        exact .dequeued hid hne (assert_eq_ok.mp hopened) (not_lt.mp hshort) hmessages
  | riot =>
    rw [recvMessage_riot hid hne] at h
    obtain ⟨_, halloc, h⟩ := bind_eq_ok.mp h
    have halloc := assert_eq_ok.mp halloc
    split_ifs at h with hstored
    · obtain rfl := Except.ok.inj h
      exact .empty hid hne halloc hstored
    · cases hmailbox : Q.mailbox caller with
      | nil =>
        rw [hmailbox] at h
        cases h
      | cons m rest =>
        rw [hmailbox] at h
        dsimp only at h
        split_ifs at h with htype hplaces
        · obtain rfl := Except.ok.inj h
          exact .discarded hid hne halloc hstored hmailbox htype
        · obtain rfl := Except.ok.inj h
          exact .taken hid hne halloc hstored hmailbox (not_not.mp htype) hplaces.1 hplaces.2

/-! ## Senders -/

/-- What the queues and the message queues of the threads hold of the messages of one thread, and
for which thread each queue is registered, when nothing but messages of other threads is added. -/
structure OnlyFrom (sender : Pid) (Q Q' : IpcQueues) : Prop where
  queuesIds_eq : Q'.queuesIds = Q.queuesIds
  messages : ∀ i, ∀ m ∈ (Q'.queues i).messages, m ∈ (Q.queues i).messages ∨ m.sender = sender
  mailbox : ∀ thread, ∀ m ∈ Q'.mailbox thread, m ∈ Q.mailbox thread ∨ m.senderPid = sender

theorem OnlyFrom.refl (sender : Pid) (Q : IpcQueues) : OnlyFrom sender Q Q :=
  ⟨rfl, fun _ _ hm => .inl hm, fun _ _ hm => .inl hm⟩

theorem mqSend_cases {mq mq' : Queue} {m : MqMessage} (h : mqSend mq m = .ok mq') :
    mq' = mq ∨ mq' = { mq with messages := mq.messages ++ [m] } := by
  unfold mqSend at h
  split_ifs at h
  · exact .inl (Except.ok.inj h).symm
  · exact .inr (Except.ok.inj h).symm

theorem msgSend_onlyFrom {m : Msg} {Q' : IpcQueues} (hm : m.senderPid = caller)
    (h : msgSend caller m pid Q = .ok Q') : OnlyFrom caller Q Q' := by
  unfold msgSend at h
  split_ifs at h
  · obtain rfl := Except.ok.inj h
    refine ⟨rfl, fun _ _ hx => .inl hx, fun thread x hx => ?_⟩
    rcases mem_update_append hx with hx | ⟨-, rfl⟩
    · exact .inl hx
    · exact .inr hm
  · obtain rfl := Except.ok.inj h
    exact .refl caller Q

/-- **`send_message`** adds messages of the thread that calls it. -/
theorem sendMessage_onlyFrom {ret : ℕ} {Q' : IpcQueues}
    (h : sendMessage os caller queueId msg size pid Q = .ok (Q', ret)) : OnlyFrom caller Q Q' := by
  cases sendMessage_eq_ok_iff.mp h with
  | refused os hnone => exact .refl caller Q
  | @queued q i mq hfinds hreceiver hopen hsize hmq =>
    refine ⟨rfl, fun j m hm => ?_, fun _ _ hm => .inl hm⟩
    by_cases hj : j = i
    · subst hj
      simp only [Function.update_self] at hm
      rcases mqSend_cases hmq with rfl | rfl
      · exact .inl hm
      · rcases List.mem_append.mp hm with hm | hm
        · exact .inl hm
        · rw [List.mem_singleton.mp hm]
          exact .inr rfl
    · simp only [Function.update_of_ne hj] at hm
      exact .inl hm
  | full hfinds halloc hsize hfull => exact .refl caller Q
  | stored hfinds halloc hsize hroom hend hmsg =>
    obtain ⟨hids, hmessages, hmailbox⟩ := msgSend_onlyFrom rfl hmsg
    exact ⟨hids, hmessages, hmailbox⟩

/-- **`recv_message`** adds nothing, and what it takes out has been waiting. -/
theorem recvMessage_onlyFrom {r : Received} (sender : Pid)
    (h : recvMessage os caller queueId buf size Q = .ok r) :
    OnlyFrom sender Q r.queues ∧ ∀ pid, r.sender = some pid →
      (∃ i, ∃ m ∈ (Q.queues i).messages, m.sender = pid) ∨
        ∃ thread, ∃ m ∈ Q.mailbox thread, m.senderPid = pid := by
  -- a mailbox from which the first message was taken holds no new one
  have hrest {m : Msg} {rest : List Msg} (hmailbox : Q.mailbox caller = m :: rest) :
      (∀ thread, ∀ x ∈ Function.update Q.mailbox caller rest thread,
        x ∈ Q.mailbox thread ∨ x.senderPid = sender) ∧ m ∈ Q.mailbox caller := by
    refine ⟨fun thread x hx => .inl ((update_tail_sublist hmailbox thread).subset hx), ?_⟩
    rw [hmailbox]
    exact List.mem_cons_self
  cases recvMessage_returns h with
  | refused os hnone => exact ⟨.refl sender Q, nofun⟩
  | short hid hne hopened hshort => exact ⟨.refl sender Q, nofun⟩
  | @dequeued q m rest hid hne hopened hroom hmessages =>
    refine ⟨⟨rfl, fun j x hx => .inl ?_, fun _ _ hx => .inl hx⟩, fun pid hpid => .inl ?_⟩
    · by_cases hj : j = q
      · subst hj
        simp only [Function.update_self] at hx
        rw [hmessages]
        exact List.mem_cons_of_mem m hx
      · simpa only [Function.update_of_ne hj] using hx
    · refine ⟨q, m, ?_, Option.some.inj hpid⟩
      rw [hmessages]
      exact List.mem_cons_self
  | empty hid hne halloc hstored => exact ⟨.refl sender Q, nofun⟩
  | @discarded q m rest hid hne halloc hstored hmailbox htype =>
    exact ⟨⟨rfl, fun _ _ hx => .inl hx, (hrest hmailbox).1⟩,
      fun pid hpid => .inr ⟨caller, m, (hrest hmailbox).2, Option.some.inj hpid⟩⟩
  | @taken q m rest hid hne halloc hstored hmailbox htype hptr hstart =>
    exact ⟨⟨rfl, fun _ _ hx => .inl hx, (hrest hmailbox).1⟩,
      fun pid hpid => .inr ⟨caller, m, (hrest hmailbox).2, Option.some.inj hpid⟩⟩

/-- A call of a thread adds only messages of that thread. -/
theorem ThreadCall.run_onlyFrom (os : OS) (Q : IpcQueues) (c : ThreadCall) :
    OnlyFrom c.caller Q (ThreadCall.run os Q c) := by
  cases c with
  | send caller queueId msg size pid =>
    cases h : sendMessage os caller queueId msg size pid Q with
    | error e =>
      have hrun : ThreadCall.run os Q (.send caller queueId msg size pid) = Q := by
        simp [ThreadCall.run, h]
      rw [hrun]
      exact .refl _ Q
    | ok r =>
      have hrun : ThreadCall.run os Q (.send caller queueId msg size pid) = r.1 := by
        simp [ThreadCall.run, h]
      rw [hrun]
      exact sendMessage_onlyFrom h
  | recv caller queueId buf size =>
    cases h : recvMessage os caller queueId buf size Q with
    | error e =>
      have hrun : ThreadCall.run os Q (.recv caller queueId buf size) = Q := by
        simp [ThreadCall.run, h]
      rw [hrun]
      exact .refl _ Q
    | ok r =>
      have hrun : ThreadCall.run os Q (.recv caller queueId buf size) = r.queues := by
        simp [ThreadCall.run, h]
      rw [hrun]
      exact (recvMessage_onlyFrom _ h).1

end

/-! ## Two threads with a queue each -/

/-- Threads 1 and 2 open queues 1 and 2. -/
def twoQueues : List SetupCall :=
  [.create Config.queueSize Config.maxMessageSize Config.maxElementsOnQueue, .opens 1 1 1,
    .create Config.queueSize Config.maxMessageSize Config.maxElementsOnQueue, .opens 2 2 2]

/-- They send each other a message, and receive them. -/
def exchange : List ThreadCall :=
  [.send 1 2 (fun _ => 7) Config.maxMessageSize 2, .send 2 1 (fun _ => 8) Config.maxMessageSize 1,
    .recv 1 1 (fun _ => 0) Config.maxMessageSize, .recv 2 2 (fun _ => 0) Config.maxMessageSize]

end WmnIot
