import WmnIot.Foundations.BigEndian
import WmnIot.Model.IpcQueues

/-! # Calls of the message queues that fail

On Linux `send_message` and `recv_message` call `mq_send` and `mq_receive`, and go by what these
report: success, or an error such as the interruption by a signal. Here the reports are an input,
one for each call in turn, and a message is what is handed to the operating system: the eight bytes
of a thread id and those of the message.

* **`MqResult`** — what a call reports.
* **`MqQueue.send`**, **`MqQueue.receive`** — `mq_send` and `mq_receive`.
* **`sendMessageLinux`**, **`recvMessageLinux`** — `send_message` and `recv_message`. -/

namespace WmnIot

open BigEndian

/-- `sizeof(pthread_t)`. -/
abbrev pidSize : ℕ := 8

/-- The values of `errno` that the functions tell apart. -/
inductive Errno
  | eagain
  | eintr
  | ebadf
  | emsgsize
  | other (code : ℕ)
  deriving DecidableEq, Repr

/-- What a call of the operating system reports. -/
inductive MqResult
  | done
  | failed (err : Errno)
  deriving DecidableEq, Repr

/-- A POSIX queue, with `mq_maxmsg` and `mq_msgsize`. -/
structure MqQueue where
  maxmsg : ℕ
  msgsize : ℕ
  messages : List (List UInt8) := []

/-- `mq_send`: a message longer than `mq_msgsize` is refused. A call that succeeds has found room. -/
def MqQueue.send (q : MqQueue) (out : List UInt8) (r : MqResult) :
    Except Halt (MqQueue × Option Errno) :=
  if q.msgsize < out.length then .ok (q, some .emsgsize)
  else
    match r with
    | .failed err => .ok (q, some err)
    | .done =>
      if q.messages.length ≥ q.maxmsg then .error .blocked
      else .ok ({ q with messages := q.messages ++ [out] }, none)

/-- `mq_receive`: a buffer shorter than `mq_msgsize` is refused. A call that succeeds has found a
message. -/
def MqQueue.receive (q : MqQueue) (length : ℕ) (r : MqResult) :
    Except Halt (MqQueue × Except Errno (List UInt8)) :=
  if length < q.msgsize then .ok (q, .error .emsgsize)
  else
    match r with
    | .failed err => .ok (q, .error err)
    | .done =>
      match q.messages with
      | [] => .error .blocked
      | m :: rest => .ok ({ q with messages := rest }, .ok m)

/-! ## Sending -/

/-- `out_msg`: the thread id, and `size` bytes of the memory at `msg`. -/
def outMsg (pid : Pid) (msg : ℕ → UInt8) (size : ℕ) : List UInt8 :=
  toBytes64 pid ++ (List.range size).map msg

/-- The loop of `send_message`: it goes on after `EAGAIN` and `EINTR`, and ends after any other
report. -/
def sendLoop (out : List UInt8) : List MqResult → MqQueue → Except Halt MqQueue
  | [], _ => .error .polling
  | r :: rs, q => do
    let (q, err) ← q.send out r
    match err with
    | some .eagain | some .eintr => sendLoop out rs q
    | _ => return q

/-- `send_message`, with the message at `msg` and the queues `mqs` of the operating system. -/
def sendMessageLinux (results : List MqResult) (queueId : ℕ) (msg : ℕ → UInt8) (size : ℕ)
    (pid : Pid) (Q : IpcQueues) (mqs : Fin Config.maxQueues → MqQueue) :
    Except Halt ((Fin Config.maxQueues → MqQueue) × ℕ) := do
  if h : 1 ≤ queueId ∧ queueId ≤ Config.maxQueues then
    let q := Q.queues ⟨queueId - 1, queueIndex_lt h⟩
    if pid = 0 then return (mqs, 0)
    match queueOfPid Q pid with
    | none => return (mqs, 0)
    | some i =>
      assert ((Q.queues i).queueId != 0 && (Q.queues i).opened)
      assert (q.queueId != 0 && q.opened)
      assert (size ≤ q.messageSize)
      let mq ← sendLoop (outMsg pid msg size) results (mqs i)
      return (Function.update mqs i mq, 1)
  else return (mqs, 0)

/-! ## Receiving -/

/-- What `recv_message` leaves behind: the queues, the memory at `msg`, `*pid` if it is written, and
the return value. -/
structure LinuxReceived where
  mqs : Fin Config.maxQueues → MqQueue
  msg : ℕ → UInt8
  pid : Option Pid
  ret : ℕ

/-- The thread id in the first bytes of the buffer. -/
def pidOf (buffer : ℕ → UInt8) : Pid :=
  ofBytes64 (buffer 0) (buffer 1) (buffer 2) (buffer 3) (buffer 4) (buffer 5) (buffer 6) (buffer 7)

/-- What is left in the buffer, which held `heap`: the message, if there is one. -/
def received (heap : ℕ → UInt8) : Except Errno (List UInt8) → ℕ → UInt8
  | .ok m, k => m.getD k (heap k)
  | .error _, k => heap k

/-- The end of `recv_message`, whatever is in the buffer: the thread id and `size` bytes are copied
out of it. -/
def copyOut (mqs : Fin Config.maxQueues → MqQueue) (buffer msg : ℕ → UInt8) (size : ℕ) :
    LinuxReceived where
  mqs := mqs
  msg := fun k => if k < size then buffer (k + pidSize) else msg k
  pid := some (pidOf buffer)
  ret := 1

/-- `recv_message`: the buffer that `malloc` returns holds `heap`. A call that is interrupted is made
once more, with the size of the message. -/
def recvMessageLinux (results : List MqResult) (queueId : ℕ) (heap msg : ℕ → UInt8) (size : ℕ)
    (Q : IpcQueues) (mqs : Fin Config.maxQueues → MqQueue) : Except Halt LinuxReceived := do
  if h : 1 ≤ queueId ∧ queueId ≤ Config.maxQueues then
    let i : Fin Config.maxQueues := ⟨queueId - 1, queueIndex_lt h⟩
    if size = 0 then return { mqs := mqs, msg := msg, pid := none, ret := 0 }
    assert (Q.queues i).opened
    match results with
    | [] => throw .polling
    | r :: rs =>
      let (mq, out) ← (mqs i).receive (size + pidSize) r
      match out with
      | .error .eintr =>
        match rs with
        | [] => throw .polling
        | r' :: _ =>
          let (mq, out) ← mq.receive size r'
          return copyOut (Function.update mqs i mq) (received heap out) msg size
      -- `return -1` of a `uint32_t`
      | .error .ebadf => return { mqs := mqs, msg := msg, pid := none, ret := 2 ^ 32 - 1 }
      | _ => return copyOut (Function.update mqs i mq) (received heap out) msg size
  else return { mqs := mqs, msg := msg, pid := none, ret := 0 }

end WmnIot
