import WmnIot.Model.Config

/-! # Queues between the layers

`ipc-queues.c`: a table of queues, each registered for the thread that opened it. On Linux every
queue is a POSIX message queue; on RIOT the messages travel through the message queue of the
receiving thread, and their bytes through one storage ring shared by all of them. Every call is one
step; a call of another thread that would block takes effect when it no longer does.

* **`IpcQueues`** — the state of the module and of the operating system's queues.
* **`createQueue`**, **`openQueue`**, **`sendMessage`**, **`recvMessage`**, **`elementsOnQueue`** —
  the functions of the module.
* **`ThreadCall`** — what the other threads do. -/

namespace WmnIot

/-- A thread id: `pthread_t` or `kernel_pid_t`. -/
abbrev Pid : Type := UInt64

/-- The bytes in flight on RIOT: `MAX_QUEUES * MAX_ELEMENTS_ON_QUEUE`. -/
abbrev storageSize : ℕ := Config.maxQueues * Config.maxElementsOnQueue

/-- A message in a POSIX queue. The `sender` is not part of it: it records which thread sent it. -/
structure MqMessage where
  sender : Pid
  pid : Pid
  size : ℕ
  bytes : ByteString

/-- A RIOT message, `msg_t`; `ptr` is its place in `msg_storage`. -/
structure Msg where
  senderPid : Pid
  type : UInt16
  ptr : ℕ

/-- `Queue_t`. The name (Linux) or the stack and queue pointers (RIOT) are set if `allocated`, the
descriptor is valid if `opened`, and `messages` is what the POSIX queue holds. -/
structure Queue where
  queueId : ℕ := 0
  queueSize : ℕ := 0
  messageSize : ℕ := 0
  msgsAllow : ℕ := 0
  allocated : Bool := false
  opened : Bool := false
  messages : List MqMessage := []

/-- `queue_thread_t`. -/
structure QueueThread where
  queueId : ℕ := 0
  pid : Pid := 0

/-- `IPC_Queues_t`, with the message queues that RIOT keeps for the threads. -/
structure IpcQueues where
  queues : Fin Config.maxQueues → Queue := fun _ => {}
  queuesIds : Fin Config.maxQueues → QueueThread := fun _ => {}
  /-- The RIOT message queue of each thread. -/
  mailbox : Pid → List Msg := fun _ => []
  /-- The capacity `msg_init_queue` gave the message queue of each thread. -/
  mailboxSize : Pid → ℕ := fun _ => 0
  msgStorage : Fin storageSize → ByteString := fun _ _ => 0
  startStorage : ℕ := 0
  endStorage : ℕ := 0
  storedElements : ℕ := 0

/-- `init_queues`. -/
def initQueues : IpcQueues := {}

/-! ## Creating and opening -/

/-- `create_queue`: take the first free entry of the table and return its id, one more than its
index; 0 if an argument exceeds its limit or no entry is free. -/
def createQueue (maxQueueSize messageSize msgsAllow : ℕ) (Q : IpcQueues) : IpcQueues × ℕ :=
  if maxQueueSize > Config.queueSize then (Q, 0)
  else if messageSize > Config.maxMessageSize then (Q, 0)
  else if msgsAllow > Config.maxElementsOnQueue then (Q, 0)
  else
    match (List.finRange Config.maxQueues).find? fun i => (Q.queuesIds i).queueId == 0 with
    | none => (Q, 0)
    | some i =>
      ({ Q with
          queuesIds := Function.update Q.queuesIds i { queueId := 1, pid := 0 }
          queues := Function.update Q.queues i
            { Q.queues i with
                queueId := i + 1
                queueSize := maxQueueSize
                messageSize := messageSize
                msgsAllow := msgsAllow
                allocated := true } },
        i + 1)

/-- The index of a queue is one less than its id. -/
theorem queueIndex_lt {queueId : ℕ} (h : 0 < queueId ∧ queueId ≤ Config.maxQueues) :
    queueId - 1 < Config.maxQueues := by
  omega

/-- `open_queue`: register the thread and open its queue. `mq_open` is taken to succeed; on RIOT
the calling thread gets an empty message queue. -/
def openQueue (os : OS) (caller : Pid) (queueId : ℕ) (pid : Pid) (Q : IpcQueues) :
    Except Halt (IpcQueues × ℕ) := do
  assert (queueId != 0)
  if h : 1 ≤ queueId ∧ queueId ≤ Config.maxQueues then
    let i : Fin Config.maxQueues := ⟨queueId - 1, queueIndex_lt h⟩
    assert (Q.queues i).allocated
    let Q := { Q with queuesIds := Function.update Q.queuesIds i { Q.queuesIds i with pid := pid } }
    match os with
    | .linux =>
      return ({ Q with queues := Function.update Q.queues i { Q.queues i with opened := true } }, 1)
    | .riot =>
      return ({ Q with
          mailbox := Function.update Q.mailbox caller []
          mailboxSize := Function.update Q.mailboxSize caller (Q.queues i).queueSize }, 1)
  else return (Q, 0)

/-! ## Sending -/

/-- The queue `send_message` looks up: the first open one registered for the thread. -/
def queueOfPid (Q : IpcQueues) (pid : Pid) : Option (Fin Config.maxQueues) :=
  (List.finRange Config.maxQueues).find? fun i =>
    (Q.queuesIds i).pid == pid && (Q.queuesIds i).queueId == 1

/-- `mq_send`, retried on `EAGAIN` and `EINTR`: a message that is too long is dropped, and a full
queue blocks. -/
def mqSend (q : Queue) (m : MqMessage) : Except Halt Queue :=
  if m.size > q.messageSize then .ok q
  else if q.messages.length ≥ q.msgsAllow then .error .blocked
  else .ok { q with messages := q.messages ++ [m] }

/-- `msg_send`: append to the message queue of the thread. A message to oneself that finds the
queue full is lost; to another thread it blocks. -/
def msgSend (caller : Pid) (m : Msg) (pid : Pid) (Q : IpcQueues) : Except Halt IpcQueues :=
  if (Q.mailbox pid).length < Q.mailboxSize pid then
    .ok { Q with mailbox := Function.update Q.mailbox pid (Q.mailbox pid ++ [m]) }
  else if pid = caller then .ok Q
  else .error .blocked

/-- The RIOT half of `send_message`: copy the message to the storage ring and send its place. -/
def storeAndSend (caller : Pid) (msg : ByteString) (size : ℕ) (pid : Pid) (Q : IpcQueues) :
    Except Halt (IpcQueues × ℕ) := do
  if Q.storedElements = storageSize then return (Q, 0)
  if h : Q.endStorage < storageSize then
    let last := Q.endStorage
    let Q :=
      { Q with
          msgStorage := Function.update Q.msgStorage ⟨last, h⟩ msg
          endStorage := if last ≥ storageSize then 0 else last + 1
          storedElements := Q.storedElements + 1 }
    let Q ← msgSend caller { senderPid := caller, type := UInt16.ofNat size, ptr := last } pid Q
    return (Q, 1)
  else throw .outOfBounds

/-- `send_message`: the message goes to the queue of the thread `pid`; `queueId` only has to name
a queue in use. -/
def sendMessage (os : OS) (caller : Pid) (queueId : ℕ) (msg : ByteString) (size : ℕ) (pid : Pid)
    (Q : IpcQueues) : Except Halt (IpcQueues × ℕ) := do
  if h : 1 ≤ queueId ∧ queueId ≤ Config.maxQueues then
    let q := Q.queues ⟨queueId - 1, queueIndex_lt h⟩
    if pid = 0 then return (Q, 0)
    match queueOfPid Q pid with
    | none => return (Q, 0)
    | some i =>
      match os with
      | .linux =>
        assert ((Q.queues i).queueId != 0 && (Q.queues i).opened)
        assert (q.queueId != 0 && q.opened)
        assert (size ≤ q.messageSize)
        let recvQ ← mqSend (Q.queues i) { sender := caller, pid := pid, size := size, bytes := msg }
        return ({ Q with queues := Function.update Q.queues i recvQ }, 1)
      | .riot =>
        assert q.allocated
        assert (size ≤ q.messageSize)
        storeAndSend caller msg size pid Q
  else return (Q, 0)

/-! ## Receiving -/

/-- What `recv_message` leaves behind: the queues, the caller's buffer, `*pid` if it is written,
the thread that sent the message taken out, and the return value. -/
structure Received where
  queues : IpcQueues
  msg : ByteString
  pid : Option Pid
  sender : Option Pid
  ret : ℕ

/-- `recv_message` into a buffer with the contents `buf`. On Linux what the message does not fill
of the buffer is unspecified; on RIOT a message of the wrong size is taken out and discarded. -/
def recvMessage (os : OS) (caller : Pid) (queueId : ℕ) (buf : ByteString) (size : ℕ)
    (Q : IpcQueues) : Except Halt Received := do
  if h : 1 ≤ queueId ∧ queueId ≤ Config.maxQueues then
    let i : Fin Config.maxQueues := ⟨queueId - 1, queueIndex_lt h⟩
    if size = 0 then return { queues := Q, msg := buf, pid := none, sender := none, ret := 0 }
    match os with
    | .linux =>
      assert (Q.queues i).opened
      -- `mq_receive` refuses a buffer shorter than the messages of the queue
      if size < (Q.queues i).messageSize then
        return { queues := Q, msg := buf, pid := none, sender := none, ret := 1 }
      match (Q.queues i).messages with
      | [] => throw .blocked
      | m :: rest =>
        return {
          queues := { Q with
            queues := Function.update Q.queues i { Q.queues i with messages := rest } }
          msg := fun k => if (k : ℕ) < m.size then m.bytes k else buf k
          pid := some m.pid
          sender := some m.sender
          ret := 1 }
    | .riot =>
      assert (Q.queues i).allocated
      if Q.storedElements = 0 then
        return { queues := Q, msg := buf, pid := none, sender := none, ret := 0 }
      match Q.mailbox caller with
      | [] => throw .blocked
      | m :: rest =>
        let Q := { Q with mailbox := Function.update Q.mailbox caller rest }
        if m.type.toNat ≠ (Q.queues i).messageSize then
          return { queues := Q, msg := buf, pid := none, sender := some m.senderPid, ret := 0 }
        if hs : m.ptr < storageSize ∧ Q.startStorage < storageSize then
          return {
            queues := { Q with
              msgStorage := Function.update Q.msgStorage ⟨Q.startStorage, hs.2⟩ fun _ => 0
              startStorage := (Q.startStorage + 1) % storageSize
              storedElements := Q.storedElements - 1 }
            msg := fun k => if (k : ℕ) < size then Q.msgStorage ⟨m.ptr, hs.1⟩ k else buf k
            pid := some m.senderPid
            sender := some m.senderPid
            ret := 1 }
        else throw .outOfBounds
  else return { queues := Q, msg := buf, pid := none, sender := none, ret := 0 }

/-- `elements_on_queue`: on RIOT, whatever the id, the messages waiting for the caller. -/
def elementsOnQueue (os : OS) (caller : Pid) (queueId : ℕ) (Q : IpcQueues) : Except Halt ℕ :=
  if h : 0 < queueId ∧ queueId ≤ Config.maxQueues then
    match os with
    | .linux =>
      let q := Q.queues ⟨queueId - 1, queueIndex_lt h⟩
      .ok (if q.opened then q.messages.length else 0)
    | .riot => .ok (Q.mailbox caller).length
  else .error .assertFailed

/-! ## Other threads -/

/-- A call of the queue functions by a thread other than that of the MAC layer. -/
inductive ThreadCall
  | send (caller : Pid) (queueId : ℕ) (msg : ByteString) (size : ℕ) (pid : Pid)
  | recv (caller : Pid) (queueId : ℕ) (buf : ByteString) (size : ℕ)

/-- The thread that makes the call. -/
def ThreadCall.caller : ThreadCall → Pid
  | .send caller .. => caller
  | .recv caller .. => caller

/-- The queues after the call; a call that does not return leaves them as they were. -/
def ThreadCall.run (os : OS) (Q : IpcQueues) : ThreadCall → IpcQueues
  | .send caller queueId msg size pid =>
    match sendMessage os caller queueId msg size pid Q with
    | .ok (Q', _) => Q'
    | .error _ => Q
  | .recv caller queueId buf size =>
    match recvMessage os caller queueId buf size Q with
    | .ok r => r.queues
    | .error _ => Q

end WmnIot
