import WmnIot.Model.MessageQueues
import WmnIot.Queues.Calls

/-! # What the queue functions report on Linux

A signal can interrupt `mq_send` and `mq_receive`. `send_message` goes on until it is not, but then
returns 1 whatever the error; `recv_message` goes on once, with a buffer too short for the queue,
and returns 1 after any error but `EBADF`.

* **`SentHere`** — what holds of queues that the module has opened and filled.
* **`MqCall.Truthful`** — the return value tells whether a message was appended or removed.
* **`returnCodes_iff`** — the reports of the operating system for which it does.
* **`sendMessageLinux_refines`**, **`recvMessageLinux_refines`** — the calls of the other modules are
  those that are only ever interrupted. -/

namespace WmnIot

open Runs BigEndian

/-! ## What a call should report -/

/-- The queues have the attributes that `create_queue` gives them, and hold messages that
`send_message` has sent. -/
structure SentHere (Q : IpcQueues) (mqs : Fin Config.maxQueues → MqQueue) : Prop where
  msgsize_eq : ∀ i, (mqs i).msgsize = (Q.queues i).messageSize + pidSize
  sent : ∀ i, ∀ m ∈ (mqs i).messages, ∃ pid msg size,
    size ≤ (Q.queues i).messageSize ∧ m = outMsg pid msg size

/-- The message has been appended to one of the queues. -/
def MqAppended (mqs mqs' : Fin Config.maxQueues → MqQueue) (out : List UInt8) : Prop :=
  ∃ i, mqs' = Function.update mqs i { mqs i with messages := (mqs i).messages ++ [out] }

/-- A message has been removed from the queue, and its bytes and its thread id are what the caller
is left with. -/
def MqRemoved (mqs : Fin Config.maxQueues → MqQueue) (queueId : ℕ) (r : LinuxReceived) : Prop :=
  ∃ (i : Fin Config.maxQueues) (pid : Pid) (msg : ℕ → UInt8) (size : ℕ) (rest : List (List UInt8)),
    queueId = i + 1 ∧ (mqs i).messages = outMsg pid msg size :: rest ∧
      r.mqs = Function.update mqs i { mqs i with messages := rest } ∧
      r.pid = some pid ∧ ∀ k < size, r.msg k = msg k

/-- A result of `send_message` is truthful: the call has come to an end, and it returns 1 if the
message was appended and 0 if not. -/
def SendTruthful (mqs : Fin Config.maxQueues → MqQueue) (out : List UInt8)
    (result : Except Halt ((Fin Config.maxQueues → MqQueue) × ℕ)) : Prop :=
  result ≠ .error .polling ∧ ∀ mqs' ret, result = .ok (mqs', ret) →
    (ret = 1 ↔ MqAppended mqs mqs' out) ∧ (ret ≠ 1 → ret = 0)

/-- A result of `recv_message` is truthful: the call has come to an end, and it returns 1 exactly if
a message was removed and given to the caller. -/
def RecvTruthful (mqs : Fin Config.maxQueues → MqQueue) (queueId : ℕ)
    (result : Except Halt LinuxReceived) : Prop :=
  result ≠ .error .polling ∧ ∀ r, result = .ok r → (r.ret = 1 ↔ MqRemoved mqs queueId r)

/-- A call of one of the functions, with the reports it meets. -/
inductive MqCall
  | send (results : List MqResult) (queueId : ℕ) (msg : ℕ → UInt8) (size : ℕ) (pid : Pid)
  | recv (results : List MqResult) (queueId : ℕ) (heap msg : ℕ → UInt8) (size : ℕ)

/-- The reports after which `send_message` goes on. -/
def MqResult.retried (r : MqResult) : Bool :=
  r == .failed .eagain || r == .failed .eintr

namespace MqCall

/-- The size is that of the messages of the queue, and not every report is an interruption. -/
def Contract (Q : IpcQueues) : MqCall → Prop
  | .send results queueId _ size _ | .recv results queueId _ _ size =>
    (∀ i : Fin Config.maxQueues, queueId = i + 1 → size = (Q.queues i).messageSize) ∧
      ∃ r ∈ results, r.retried = false

/-- **The return value is truthful.** -/
def Truthful (Q : IpcQueues) (mqs : Fin Config.maxQueues → MqQueue) : MqCall → Prop
  | .send results queueId msg size pid =>
    SendTruthful mqs (outMsg pid msg size) (sendMessageLinux results queueId msg size pid Q mqs)
  | .recv results queueId heap msg size =>
    RecvTruthful mqs queueId (recvMessageLinux results queueId heap msg size Q mqs)

/-- Where the functions get to the operating system: the queue that `send_message` finds takes
messages of this size, and the first report that is no interruption is a success; the first report
of all to `recv_message` is a success or `EBADF`. -/
def Supported (Q : IpcQueues) : MqCall → Prop
  | .send results queueId _ size pid =>
    ∀ q i, Finds Q queueId pid q i → IsOpen .linux (Q.queues q) → IsOpen .linux (Q.queues i) →
      size ≤ (Q.queues i).messageSize ∧ results.find? (fun r => !r.retried) = some .done
  | .recv results queueId _ _ size =>
    ∀ i : Fin Config.maxQueues, queueId = i + 1 → size ≠ 0 → (Q.queues i).opened →
      results.head? = some .done ∨ results.head? = some (.failed .ebadf)

end MqCall

/-! ## Sending -/

section

variable {results : List MqResult} {queueId size : ℕ} {pid : Pid} {msg heap : ℕ → UInt8}
  {Q : IpcQueues} {mqs : Fin Config.maxQueues → MqQueue} {q i : Fin Config.maxQueues}
  {mq : MqQueue} {out : List UInt8}

@[simp] theorem length_outMsg (pid : Pid) (msg : ℕ → UInt8) (size : ℕ) :
    (outMsg pid msg size).length = pidSize + size := by
  simp [outMsg]

/-- A message that is too long is given up after one call. -/
theorem sendLoop_of_long (hlong : mq.msgsize < out.length) (hresults : results ≠ []) :
    sendLoop out results mq = .ok mq := by
  obtain ⟨r, rs, rfl⟩ := List.exists_cons_of_ne_nil hresults
  have hsend : mq.send out r = .ok (mq, some .emsgsize) := by
    unfold MqQueue.send
    rw [if_pos hlong]
  rw [sendLoop, hsend]
  rfl

/-- The loop ends with the first report that is no interruption. -/
theorem sendLoop_eq (hfits : out.length ≤ mq.msgsize) :
    sendLoop out results mq =
      match results.find? fun r => !r.retried with
      | none => .error .polling
      | some (.failed _) => .ok mq
      | some .done =>
        if mq.messages.length ≥ mq.maxmsg then .error .blocked
        else .ok { mq with messages := mq.messages ++ [out] } := by
  induction results with
  | nil => rfl
  | cons r rs ih =>
    rw [sendLoop]
    unfold MqQueue.send
    rw [if_neg (not_lt.mpr hfits)]
    match r with
    | .failed .eagain => exact ih
    | .failed .eintr => exact ih
    | .failed .ebadf => rfl
    | .failed .emsgsize => rfl
    | .failed (.other _) => rfl
    | .done =>
      by_cases hfull : mq.messages.length ≥ mq.maxmsg
      · simp only [if_pos hfull]
        rfl
      · simp only [if_neg hfull]
        rfl

/-- Queues that have not changed have taken no message. -/
theorem not_mqAppended_self (mqs : Fin Config.maxQueues → MqQueue) (out : List UInt8) :
    ¬ MqAppended mqs mqs out := by
  rintro ⟨i, h⟩
  have hi := congrArg (fun f => (f i).messages) h
  simp at hi

/-- What `send_message` does with the queues it finds. -/
theorem Finds.sendMessageLinux_eq (h : Finds Q queueId pid q i) :
    sendMessageLinux results queueId msg size pid Q mqs = (do
      assert ((Q.queues i).queueId != 0 && (Q.queues i).opened)
      assert ((Q.queues q).queueId != 0 && (Q.queues q).opened)
      assert (size ≤ (Q.queues q).messageSize)
      let mq ← sendLoop (outMsg pid msg size) results (mqs i)
      return (Function.update mqs i mq, 1)) := by
  obtain ⟨rfl, hpid, hdest⟩ := h
  have hq := q.isLt
  have hid : 1 ≤ (q : ℕ) + 1 ∧ (q : ℕ) + 1 ≤ Config.maxQueues := ⟨by omega, by omega⟩
  unfold sendMessageLinux
  rw [dif_pos hid, if_neg hpid, hdest]
  rfl

/-- `send_message` that finds no queue leaves everything as it is. -/
theorem sendMessageLinux_of_refused (hnone : ∀ q i, ¬ Finds Q queueId pid q i) :
    sendMessageLinux results queueId msg size pid Q mqs = .ok (mqs, 0) := by
  unfold sendMessageLinux
  by_cases hid : 1 ≤ queueId ∧ queueId ≤ Config.maxQueues
  · rw [dif_pos hid]
    by_cases hpid : pid = 0
    · rw [if_pos hpid]
      rfl
    · cases hdest : queueOfPid Q pid with
      | none =>
        rw [if_neg hpid]
        rfl
      | some i =>
        refine absurd ⟨?_, hpid, hdest⟩ (hnone ⟨queueId - 1, by omega⟩ i)
        show queueId = queueId - 1 + 1
        omega
  · rw [dif_neg hid]
    rfl

/-- An open queue passes the assertions. -/
theorem isOpen_linux_iff {q : Queue} :
    IsOpen .linux q ↔ (q.queueId != 0 && q.opened) = true := by
  unfold IsOpen
  simp

theorem sendTruthful_error {e : Halt} (he : e ≠ .polling) : SendTruthful mqs out (.error e) :=
  ⟨fun h => he (Except.error.inj h), nofun⟩

/-- A refusal is truthful. -/
theorem sendTruthful_zero (mqs : Fin Config.maxQueues → MqQueue) (out : List UInt8) :
    SendTruthful mqs out (.ok (mqs, 0)) := by
  refine ⟨nofun, ?_⟩
  intro mqs' ret h
  obtain ⟨rfl, rfl⟩ := Prod.mk.inj (Except.ok.inj h)
  exact ⟨iff_of_false (by decide) (not_mqAppended_self _ _), fun _ => rfl⟩

theorem sendTruthful_one_iff {mqs' : Fin Config.maxQueues → MqQueue} :
    SendTruthful mqs out (.ok (mqs', 1)) ↔ MqAppended mqs mqs' out := by
  constructor
  · exact fun h => (h.2 _ _ rfl).1.mp rfl
  · intro happended
    refine ⟨nofun, ?_⟩
    intro mqs'' ret h
    obtain ⟨rfl, rfl⟩ := Prod.mk.inj (Except.ok.inj h)
    exact ⟨iff_of_true rfl happended, fun h => absurd rfl h⟩

/-- What is left to decide once the loop is reached: 1 is returned, whatever ends it. -/
theorem sendTruthful_loop_iff (hmsgsize : (mqs i).msgsize = (Q.queues i).messageSize + pidSize)
    (hdecisive : ∃ r ∈ results, r.retried = false) :
    SendTruthful mqs (outMsg pid msg size)
        (sendLoop (outMsg pid msg size) results (mqs i) >>= fun mq =>
          .ok (Function.update mqs i mq, 1)) ↔
      size ≤ (Q.queues i).messageSize ∧ results.find? (fun r => !r.retried) = some .done := by
  -- the call returns 1 in any case, which is true only if the message was queued
  have hunsent : sendLoop (outMsg pid msg size) results (mqs i) = .ok (mqs i) →
      ¬ SendTruthful mqs (outMsg pid msg size)
        (sendLoop (outMsg pid msg size) results (mqs i) >>= fun mq =>
          .ok (Function.update mqs i mq, 1)) := by
    intro hloop h
    rw [hloop, ok_bind, Function.update_eq_self, sendTruthful_one_iff] at h
    exact not_mqAppended_self _ _ h
  by_cases hfits : size ≤ (Q.queues i).messageSize
  · have hlength : (outMsg pid msg size).length ≤ (mqs i).msgsize := by
      rw [length_outMsg, hmsgsize]
      omega
    have hloop : sendLoop (outMsg pid msg size) results (mqs i) = _ := sendLoop_eq hlength
    cases hfind : results.find? fun r => !r.retried with
    | none =>
      -- the loop does not end before a result that is not retried
      obtain ⟨r, hr, hnot⟩ := hdecisive
      have hretried := List.find?_eq_none.mp hfind r hr
      rw [hnot] at hretried
      exact absurd rfl hretried
    | some r =>
      rw [hfind] at hloop
      cases r with
      | failed err =>
        refine iff_of_false (hunsent hloop) fun h => ?_
        cases h.2
      | done =>
        refine iff_of_true ?_ ⟨hfits, rfl⟩
        rw [hloop]
        by_cases hfull : (mqs i).messages.length ≥ (mqs i).maxmsg
        · simp only [if_pos hfull]
          exact sendTruthful_error nofun
        · simp only [if_neg hfull]
          exact sendTruthful_one_iff.mpr ⟨i, rfl⟩
  · refine iff_of_false (hunsent (sendLoop_of_long ?_ ?_)) fun h => hfits h.1
    · rw [length_outMsg, hmsgsize]
      omega
    · obtain ⟨r, hr, -⟩ := hdecisive
      exact List.ne_nil_of_mem hr

/-- **Sending**: the return value is truthful exactly if the message is appended. -/
theorem send_truthful_iff (hsent : SentHere Q mqs)
    (hc : (MqCall.send results queueId msg size pid).Contract Q) :
    (MqCall.send results queueId msg size pid).Truthful Q mqs ↔
      (MqCall.send results queueId msg size pid).Supported Q := by
  obtain ⟨hsize, hdecisive⟩ := hc
  simp only [MqCall.Truthful, MqCall.Supported]
  by_cases hfinds : ∃ q i, Finds Q queueId pid q i
  swap
  · -- no queue is found, so 0 is returned
    have hnone : ∀ q i, ¬ Finds Q queueId pid q i := fun q i h => hfinds ⟨q, i, h⟩
    rw [sendMessageLinux_of_refused hnone]
    exact iff_of_true (sendTruthful_zero _ _) fun q i h => absurd h (hnone q i)
  obtain ⟨q, i, hfinds⟩ := hfinds
  obtain rfl := hsize q hfinds.queueId_eq
  rw [hfinds.sendMessageLinux_eq]
  by_cases hopen : IsOpen .linux (Q.queues q) ∧ IsOpen .linux (Q.queues i)
  · rw [isOpen_linux_iff.mp hopen.1, isOpen_linux_iff.mp hopen.2, decide_eq_true le_rfl]
    simp only [assert_true, ok_bind]
    refine (sendTruthful_loop_iff (hsent.msgsize_eq i) hdecisive).trans ⟨?_, ?_⟩
    · intro h q' i' hfinds' _ _
      obtain ⟨rfl, rfl⟩ := hfinds.unique hfinds'
      exact h
    · exact fun h => h q i hfinds hopen.1 hopen.2
  · -- an assertion fails, so nothing is returned
    refine iff_of_true ?_ ?_
    · rw [isOpen_linux_iff, isOpen_linux_iff] at hopen
      by_cases hi : ((Q.queues i).queueId != 0 && (Q.queues i).opened) = true
      · have hq : ((Q.queues q).queueId != 0 && (Q.queues q).opened) = false :=
          Bool.eq_false_iff.mpr fun hq => hopen ⟨hq, hi⟩
        rw [hi, hq]
        exact sendTruthful_error nofun
      · rw [Bool.eq_false_iff.mpr hi]
        exact sendTruthful_error nofun
    · intro q' i' hfinds' hq hi
      obtain ⟨rfl, rfl⟩ := hfinds.unique hfinds'
      exact absurd ⟨hq, hi⟩ hopen

/-! ## Receiving -/

/-- A buffer shorter than the messages of the queue is refused, whatever would be reported. -/
theorem receive_of_short {length : ℕ} (hshort : length < mq.msgsize) (r : MqResult) :
    mq.receive length r = .ok (mq, .error .emsgsize) := by
  unfold MqQueue.receive
  rw [if_pos hshort]

theorem receive_failed {length : ℕ} (hroom : mq.msgsize ≤ length) (err : Errno) :
    mq.receive length (.failed err) = .ok (mq, .error err) := by
  unfold MqQueue.receive
  rw [if_neg (not_lt.mpr hroom)]

theorem receive_done {length : ℕ} (hroom : mq.msgsize ≤ length) :
    mq.receive length .done =
      match mq.messages with
      | [] => .error .blocked
      | m :: rest => .ok ({ mq with messages := rest }, .ok m) := by
  unfold MqQueue.receive
  exact if_neg (not_lt.mpr hroom)

/-- The thread id is read back from the front of a message. -/
theorem pidOf_outMsg (heap : ℕ → UInt8) (pid : Pid) (msg : ℕ → UInt8) (size : ℕ) :
    pidOf (received heap (.ok (outMsg pid msg size))) = pid :=
  ofBytes64_of_toBytes64 rfl

/-- The bytes of a message are behind its thread id. -/
theorem received_outMsg (heap : ℕ → UInt8) (pid : Pid) (msg : ℕ → UInt8) {size k : ℕ}
    (hk : k < size) : received heap (.ok (outMsg pid msg size)) (k + pidSize) = msg k := by
  have hbehind : (toBytes64 pid).length ≤ k + pidSize := by
    rw [length_toBytes64]
    exact Nat.le_add_left 8 k
  show (toBytes64 pid ++ (List.range size).map msg).getD (k + pidSize) _ = msg k
  rw [List.getD_append_right _ _ _ _ hbehind, length_toBytes64, Nat.add_sub_cancel,
    List.getD_eq_getElem _ _ (by simpa using hk)]
  simp

/-- From queues that have not changed nothing has been removed. -/
theorem not_mqRemoved_self {r : LinuxReceived} (h : r.mqs = mqs) : ¬ MqRemoved mqs queueId r := by
  rintro ⟨i, pid, msg, size, rest, -, hmessages, hmqs, -⟩
  have hi := congrArg (fun f => (f i).messages.length) (h.symm.trans hmqs)
  simp [hmessages] at hi

theorem recvTruthful_error {e : Halt} (he : e ≠ .polling) :
    RecvTruthful mqs queueId (.error e) :=
  ⟨fun h => he (Except.error.inj h), nofun⟩

theorem recvTruthful_ok_iff {r : LinuxReceived} :
    RecvTruthful mqs queueId (.ok r) ↔ (r.ret = 1 ↔ MqRemoved mqs queueId r) := by
  constructor
  · exact fun h => h.2 r rfl
  · intro hr
    refine ⟨nofun, ?_⟩
    intro r' h
    obtain rfl := Except.ok.inj h
    exact hr

/-- A call that leaves the queues alone and does not return 1 is truthful. -/
theorem recvTruthful_unchanged {r : LinuxReceived} (hmqs : r.mqs = mqs) (hret : r.ret ≠ 1) :
    RecvTruthful mqs queueId (.ok r) :=
  recvTruthful_ok_iff.mpr (iff_of_false hret (not_mqRemoved_self hmqs))

/-- Without a queue or a size nothing is received. -/
theorem recvMessageLinux_of_refused
    (hnone : ¬ ∃ i : Fin Config.maxQueues, queueId = i + 1 ∧ size ≠ 0) :
    recvMessageLinux results queueId heap msg size Q mqs =
      .ok { mqs := mqs, msg := msg, pid := none, ret := 0 } := by
  unfold recvMessageLinux
  by_cases hid : 1 ≤ queueId ∧ queueId ≤ Config.maxQueues
  · have hsize : size = 0 := by
      by_contra hne
      refine hnone ⟨⟨queueId - 1, by omega⟩, ?_, hne⟩
      show queueId = queueId - 1 + 1
      omega
    rw [dif_pos hid, if_pos hsize]
    rfl
  · rw [dif_neg hid]
    rfl

/-- What `recv_message` does with its queue. -/
theorem recvMessageLinux_eq {r : MqResult} {rs : List MqResult} (hid : queueId = i + 1)
    (hsize : size ≠ 0) :
    recvMessageLinux (r :: rs) queueId heap msg size Q mqs = (do
      assert (Q.queues i).opened
      let (mq, out) ← (mqs i).receive (size + pidSize) r
      match out with
      | .error .eintr =>
        match rs with
        | [] => throw .polling
        | r' :: _ =>
          let (mq, out) ← mq.receive size r'
          return copyOut (Function.update mqs i mq) (received heap out) msg size
      | .error .ebadf => return { mqs := mqs, msg := msg, pid := none, ret := 2 ^ 32 - 1 }
      | _ => return copyOut (Function.update mqs i mq) (received heap out) msg size) := by
  subst hid
  have hi := i.isLt
  have hvalid : 1 ≤ (i : ℕ) + 1 ∧ (i : ℕ) + 1 ≤ Config.maxQueues := ⟨by omega, by omega⟩
  unfold recvMessageLinux
  rw [dif_pos hvalid, if_neg hsize]
  rfl

/-- An error that is taken for a message is not reported. -/
theorem recv_untruthful (buffer : ℕ → UInt8) :
    ¬ RecvTruthful mqs queueId
      (.ok (copyOut (Function.update mqs i (mqs i)) buffer msg size)) := by
  rw [recvTruthful_ok_iff, Function.update_eq_self]
  intro h
  have hself : (copyOut mqs buffer msg size).mqs = mqs := rfl
  exact not_mqRemoved_self hself (h.mp rfl)

/-- What is left to decide once the operating system is reached. -/
theorem recvTruthful_iff {r : MqResult} {rs : List MqResult} (hsent : SentHere Q mqs)
    (hid : queueId = i + 1) (hsize : size = (Q.queues i).messageSize) (hne : size ≠ 0)
    (hopened : (Q.queues i).opened = true) (hdecisive : ∃ r' ∈ r :: rs, r'.retried = false) :
    RecvTruthful mqs queueId (recvMessageLinux (r :: rs) queueId heap msg size Q mqs) ↔
      r = .done ∨ r = .failed .ebadf := by
  have hmsgsize : (mqs i).msgsize = size + pidSize := by
    rw [hsent.msgsize_eq i, hsize]
  rw [recvMessageLinux_eq hid hne, hopened, assert_true, ok_bind]
  cases r with
  | done =>
    refine iff_of_true ?_ (.inl rfl)
    rw [receive_done hmsgsize.le]
    cases hmessages : (mqs i).messages with
    | nil => exact recvTruthful_error nofun
    | cons m rest =>
      obtain ⟨pid, sent, length, hlength, rfl⟩ := hsent.sent i m (by simp [hmessages])
      refine recvTruthful_ok_iff.mpr (iff_of_true rfl ?_)
      refine ⟨i, pid, sent, length, rest, hid, hmessages, rfl,
        congrArg some (pidOf_outMsg heap pid sent length), ?_⟩
      intro k hk
      show (if k < size then _ else _) = _
      rw [if_pos (by omega)]
      exact received_outMsg heap pid sent hk
  | failed err =>
    rw [receive_failed hmsgsize.le]
    by_cases hebadf : err = .ebadf
    · -- the descriptor is bad, and -1 is returned
      subst hebadf
      refine iff_of_true ?_ (.inr rfl)
      exact recvTruthful_unchanged rfl (by show 2 ^ 32 - 1 ≠ 1; decide)
    · refine iff_of_false ?_ ?_
      swap
      · rintro (h | h)
        · cases h
        · exact hebadf (MqResult.failed.inj h)
      by_cases heintr : err = .eintr
      · -- the second call has too short a buffer
        subst heintr
        cases rs with
        | nil =>
          obtain ⟨r', hr', hnot⟩ := hdecisive
          rw [List.mem_singleton.mp hr'] at hnot
          cases hnot
        | cons r' rs =>
          have hshort : size < (mqs i).msgsize := by
            rw [hmsgsize]
            exact Nat.lt_add_of_pos_right (by decide)
          simp only [ok_bind, receive_of_short hshort r']
          exact recv_untruthful _
      · match err, hebadf, heintr with
        | .eagain, _, _ => exact recv_untruthful _
        | .emsgsize, _, _ => exact recv_untruthful _
        | .other _, _, _ => exact recv_untruthful _

/-- **Receiving**: the return value is truthful exactly if the first call succeeds or the descriptor
is bad. -/
theorem recv_truthful_iff (hsent : SentHere Q mqs)
    (hc : (MqCall.recv results queueId heap msg size).Contract Q) :
    (MqCall.recv results queueId heap msg size).Truthful Q mqs ↔
      (MqCall.recv results queueId heap msg size).Supported Q := by
  obtain ⟨hsize, hdecisive⟩ := hc
  simp only [MqCall.Truthful, MqCall.Supported]
  by_cases hqueue : ∃ i : Fin Config.maxQueues, queueId = i + 1 ∧ size ≠ 0
  swap
  · rw [recvMessageLinux_of_refused hqueue]
    refine iff_of_true (recvTruthful_unchanged rfl zero_ne_one) ?_
    exact fun i hid hne => absurd ⟨i, hid, hne⟩ hqueue
  obtain ⟨i, hid, hne⟩ := hqueue
  -- the result that ends the loop exists, so the list of results is not empty
  obtain ⟨r, rs, rfl⟩ : ∃ r rs, results = r :: rs := by
    obtain ⟨r, hr, -⟩ := hdecisive
    exact List.exists_cons_of_ne_nil (List.ne_nil_of_mem hr)
  by_cases hopened : (Q.queues i).opened = true
  · refine (recvTruthful_iff hsent hid (hsize i hid) hne hopened hdecisive).trans ⟨?_, ?_⟩
    · intro h j hj _ _
      simpa using h
    · intro h
      simpa using h i hid hne hopened
  · refine iff_of_true ?_ ?_
    · rw [recvMessageLinux_eq hid hne, Bool.eq_false_iff.mpr hopened]
      exact recvTruthful_error nofun
    · intro j hj _ hj'
      obtain rfl : i = j := Fin.ext (by omega)
      exact absurd hj' hopened

/-! ## Queues that the module fills -/

/-- A loop that ends has appended the message, which then fits, or left the queue alone. -/
theorem sendLoop_cases {mq' : MqQueue} (h : sendLoop out results mq = .ok mq') :
    mq' = mq ∨ out.length ≤ mq.msgsize ∧ mq' = { mq with messages := mq.messages ++ [out] } := by
  by_cases hfits : out.length ≤ mq.msgsize
  · rw [sendLoop_eq hfits] at h
    split at h
    · cases h
    · exact .inl (Except.ok.inj h).symm
    · split_ifs at h
      exact .inr ⟨hfits, (Except.ok.inj h).symm⟩
  · by_cases hresults : results = []
    · subst hresults
      cases h
    · rw [sendLoop_of_long (not_le.mp hfits) hresults] at h
      exact .inl (Except.ok.inj h).symm

/-- Replacing one queue by another with the same attributes. -/
theorem SentHere.update (h : SentHere Q mqs) (hmsgsize : mq.msgsize = (mqs i).msgsize)
    (hsent : ∀ m ∈ mq.messages, m ∈ (mqs i).messages ∨ ∃ pid msg size,
      size ≤ (Q.queues i).messageSize ∧ m = outMsg pid msg size) :
    SentHere Q (Function.update mqs i mq) := by
  constructor
  · intro j
    by_cases hj : j = i
    · subst hj
      rw [Function.update_self, hmsgsize]
      exact h.msgsize_eq j
    · rw [Function.update_of_ne hj]
      exact h.msgsize_eq j
  · intro j m hm
    by_cases hj : j = i
    · subst hj
      rw [Function.update_self] at hm
      rcases hsent m hm with hold | hnew
      · exact h.sent j m hold
      · exact hnew
    · rw [Function.update_of_ne hj] at hm
      exact h.sent j m hm

/-- **Sending** adds what the module sends. -/
theorem SentHere.send {ret : ℕ} {mqs' : Fin Config.maxQueues → MqQueue} (h : SentHere Q mqs)
    (hsend : sendMessageLinux results queueId msg size pid Q mqs = .ok (mqs', ret)) :
    SentHere Q mqs' := by
  by_cases hfinds : ∃ q i, Finds Q queueId pid q i
  · obtain ⟨q, i, hfinds⟩ := hfinds
    rw [hfinds.sendMessageLinux_eq] at hsend
    obtain ⟨_, -, hsend⟩ := bind_eq_ok.mp hsend
    obtain ⟨_, -, hsend⟩ := bind_eq_ok.mp hsend
    obtain ⟨_, -, hsend⟩ := bind_eq_ok.mp hsend
    obtain ⟨mq, hloop, hsend⟩ := bind_eq_ok.mp hsend
    obtain ⟨rfl, -⟩ := Prod.mk.inj (Except.ok.inj hsend)
    rcases sendLoop_cases hloop with rfl | ⟨hfits, rfl⟩
    · rwa [Function.update_eq_self]
    · refine h.update rfl ?_
      intro m hm
      rcases List.mem_append.mp hm with hm | hm
      · exact .inl hm
      · refine .inr ⟨pid, msg, size, ?_, List.mem_singleton.mp hm⟩
        rw [length_outMsg, h.msgsize_eq i] at hfits
        omega
  · rw [sendMessageLinux_of_refused fun q i h => hfinds ⟨q, i, h⟩] at hsend
    obtain ⟨rfl, -⟩ := Prod.mk.inj (Except.ok.inj hsend)
    exact h

/-- What a call of `mq_receive` leaves has been there before. -/
theorem mqReceive_sublist {length : ℕ} {r : MqResult} {result : MqQueue × Except Errno (List UInt8)}
    (h : mq.receive length r = .ok result) :
    result.1.msgsize = mq.msgsize ∧ result.1.messages.Sublist mq.messages := by
  unfold MqQueue.receive at h
  split_ifs at h
  · obtain rfl := Except.ok.inj h
    exact ⟨rfl, .refl _⟩
  · split at h
    · obtain rfl := Except.ok.inj h
      exact ⟨rfl, .refl _⟩
    · split at h
      · cases h
      · next m rest hmessages =>
        obtain rfl := Except.ok.inj h
        refine ⟨rfl, ?_⟩
        rw [hmessages]
        exact List.sublist_cons_self m rest

/-- A queue from which messages were received. -/
theorem SentHere.afterReceive (h : SentHere Q mqs)
    (hmq : mq.msgsize = (mqs i).msgsize ∧ mq.messages.Sublist (mqs i).messages) :
    SentHere Q (Function.update mqs i mq) :=
  h.update hmq.1 fun _ hm => .inl (hmq.2.subset hm)

/-- **Receiving** adds nothing. -/
theorem SentHere.recv {r : LinuxReceived} (h : SentHere Q mqs)
    (hrecv : recvMessageLinux results queueId heap msg size Q mqs = .ok r) : SentHere Q r.mqs := by
  by_cases hqueue : ∃ i : Fin Config.maxQueues, queueId = i + 1 ∧ size ≠ 0
  swap
  · rw [recvMessageLinux_of_refused hqueue] at hrecv
    obtain rfl := Except.ok.inj hrecv
    exact h
  obtain ⟨i, hid, hne⟩ := hqueue
  cases results with
  | nil =>
    subst hid
    unfold recvMessageLinux at hrecv
    rw [dif_pos ⟨Nat.succ_pos i, i.isLt⟩, if_neg hne] at hrecv
    obtain ⟨_, -, hrecv⟩ := bind_eq_ok.mp hrecv
    cases hrecv
  | cons report rs =>
    rw [recvMessageLinux_eq hid hne] at hrecv
    obtain ⟨_, -, hrecv⟩ := bind_eq_ok.mp hrecv
    obtain ⟨⟨mq, out⟩, hfirst, hrecv⟩ := bind_eq_ok.mp hrecv
    have hmq := mqReceive_sublist hfirst
    dsimp only at hrecv hmq
    split at hrecv
    · split at hrecv
      · cases hrecv
      · -- interrupted, so received from once more
        obtain ⟨⟨mq', out'⟩, hsecond, hrecv⟩ := bind_eq_ok.mp hrecv
        have hmq' := mqReceive_sublist hsecond
        obtain rfl := Except.ok.inj hrecv
        exact h.afterReceive ⟨hmq'.1.trans hmq.1, hmq'.2.trans hmq.2⟩
    · obtain rfl := Except.ok.inj hrecv
      exact h
    · obtain rfl := Except.ok.inj hrecv
      exact h.afterReceive hmq

/-- The queues after the call, if it returns. -/
def MqCall.step (Q : IpcQueues) (mqs : Fin Config.maxQueues → MqQueue) :
    MqCall → Option (Fin Config.maxQueues → MqQueue)
  | .send results queueId msg size pid =>
    (sendMessageLinux results queueId msg size pid Q mqs).toOption.map Prod.fst
  | .recv results queueId heap msg size =>
    (recvMessageLinux results queueId heap msg size Q mqs).toOption.map LinuxReceived.mqs

/-- **Queues that the module has filled**: empty ones hold only messages of the module after any
calls of its functions. -/
theorem sentHere_run {Q : IpcQueues} {mqs mqs' : Fin Config.maxQueues → MqQueue}
    (hmsgsize : ∀ i, (mqs i).msgsize = (Q.queues i).messageSize + pidSize)
    (hempty : ∀ i, (mqs i).messages = []) (calls : List MqCall)
    (hrun : calls.foldlM (fun s c => c.step Q s) mqs = some mqs') : SentHere Q mqs' := by
  have hstart : SentHere Q mqs := by
    refine ⟨hmsgsize, ?_⟩
    intro i m hm
    rw [hempty i] at hm
    cases hm
  refine run_inv (SentHere Q) ?_ calls hstart hrun
  intro c s s' hs hstep
  cases c with
  | send results queueId msg size pid =>
    obtain ⟨⟨mqs'', ret⟩, hsend, rfl⟩ := Option.map_eq_some_iff.mp hstep
    exact hs.send (toOption_eq_some.mp hsend)
  | recv results queueId heap msg size =>
    obtain ⟨r, hrecv, rfl⟩ := Option.map_eq_some_iff.mp hstep
    exact hs.recv (toOption_eq_some.mp hrecv)

/-- **The return codes on Linux**: for a message of the size of its queue, and reports that are not
all interruptions, the return value tells whether a message was appended or removed exactly if the
first report to `send_message` that is no interruption is a success and the message fits the queue
it finds, and the first report of all to `recv_message` is a success or `EBADF`. -/
theorem returnCodes_iff (hsent : SentHere Q mqs) (c : MqCall) (hc : c.Contract Q) :
    c.Truthful Q mqs ↔ c.Supported Q := by
  cases c with
  | send results queueId msg size pid => exact send_truthful_iff hsent hc
  | recv results queueId heap msg size => exact recv_truthful_iff hsent hc

end

/-! ### An interrupted call -/

/-- One queue with the thread it is registered for, and the message it holds. -/
def interruptedQueues : IpcQueues where
  queues := fun i =>
    if i = 0 then
      { queueId := 1
        messageSize := 1
        msgsAllow := Config.maxElementsOnQueue
        allocated := true
        opened := true }
    else {}
  queuesIds := fun i => if i = 0 then { queueId := 1, pid := 1 } else {}

/-- The message is the byte 7. -/
def oneWaiting : Fin Config.maxQueues → MqQueue := fun i =>
  { maxmsg := Config.maxElementsOnQueue
    msgsize := (interruptedQueues.queues i).messageSize + pidSize
    messages := if i = 0 then [outMsg 1 (fun _ => 7) 1] else [] }

theorem oneWaiting_sentHere : SentHere interruptedQueues oneWaiting := by
  refine ⟨fun _ => rfl, ?_⟩
  intro i m hm
  by_cases hi : i = 0
  · subst hi
    exact ⟨1, fun _ => 7, 1, le_rfl, List.mem_singleton.mp hm⟩
  · simp [oneWaiting, hi] at hm

theorem size_eq_messageSize (i : Fin Config.maxQueues) (h : 1 = (i : ℕ) + 1) :
    1 = (interruptedQueues.queues i).messageSize := by
  obtain rfl : i = 0 := Fin.ext (by simpa using h.symm)
  rfl

/-- A message that is sent after two interruptions is reported. -/
theorem returnCodes_interruptedSend :
    (MqCall.send [.failed .eintr, .failed .eagain, .done] 1 (fun _ => 8) 1 1).Truthful
      interruptedQueues oneWaiting := by
  refine (returnCodes_iff oneWaiting_sentHere
    (.send [.failed .eintr, .failed .eagain, .done] 1 (fun _ => 8) 1 1)
    ⟨size_eq_messageSize, .done, by decide, rfl⟩).mpr ?_
  intro q i hfinds _ _
  have hdest : queueOfPid interruptedQueues 1 = some 0 := by decide +kernel
  obtain rfl : i = 0 := Option.some.inj (hfinds.queueOfPid_eq.symm.trans hdest)
  exact ⟨le_rfl, by decide⟩

/-- A call of `mq_receive` that is interrupted once makes `recv_message` return 1 with the message
still in the queue. -/
theorem returnCodes_interruptedReceive :
    SentHere interruptedQueues oneWaiting ∧
      (MqCall.recv [.failed .eintr, .done] 1 (fun _ => 0) (fun _ => 0) 1).Contract
        interruptedQueues ∧
      (∃ r, recvMessageLinux [.failed .eintr, .done] 1 (fun _ => 0) (fun _ => 0) 1
        interruptedQueues oneWaiting = .ok r ∧ r.ret = 1 ∧ r.mqs = oneWaiting) ∧
      ¬ (MqCall.recv [.failed .eintr, .done] 1 (fun _ => 0) (fun _ => 0) 1).Truthful
        interruptedQueues oneWaiting := by
  have hrecv : recvMessageLinux [.failed .eintr, .done] 1 (fun _ => 0) (fun _ => 0) 1
      interruptedQueues oneWaiting =
        .ok (copyOut (Function.update oneWaiting 0 (oneWaiting 0)) (fun _ => 0) (fun _ => 0) 1) :=
    rfl
  refine ⟨oneWaiting_sentHere, ⟨size_eq_messageSize, .done, by decide, rfl⟩,
    ⟨_, hrecv, rfl, Function.update_eq_self _ _⟩, ?_⟩
  intro h
  have htruthful : RecvTruthful oneWaiting 1 (recvMessageLinux [.failed .eintr, .done] 1
      (fun _ => 0) (fun _ => 0) 1 interruptedQueues oneWaiting) := h
  rw [hrecv] at htruthful
  exact recv_untruthful _ htruthful

/-! ## The calls of the other modules -/

/-- The memory that holds a byte string. -/
def memory (b : ByteString) : ℕ → UInt8 := fun k => b (Fin.ofNat _ k)

/-- A message as the operating system holds it. -/
def MqMessage.out (m : MqMessage) : List UInt8 :=
  outMsg m.pid (memory m.bytes) m.size

/-- A queue as the operating system holds it. -/
def Queue.mq (q : Queue) : MqQueue where
  maxmsg := q.msgsAllow
  msgsize := q.messageSize + pidSize
  messages := q.messages.map MqMessage.out

/-- The queues of the operating system. -/
def mqsOf (Q : IpcQueues) : Fin Config.maxQueues → MqQueue := fun i => (Q.queues i).mq

section

variable {results : List MqResult} {caller pid : Pid} {queueId size : ℕ} {buf msg : ByteString}
  {Q : IpcQueues}

theorem mqsOf_update (Q : IpcQueues) (i : Fin Config.maxQueues) (q : Queue) :
    mqsOf { Q with queues := Function.update Q.queues i q } =
      Function.update (mqsOf Q) i q.mq := by
  funext j
  by_cases hj : j = i
  · subst hj
    simp [mqsOf]
  · simp [mqsOf, hj]

/-- Interruptions and a success send what `mqSend` sends. -/
theorem sendLoop_mqSend (q : Queue) (m : MqMessage) (hretried : ∀ r ∈ results, r.retried = true) :
    sendLoop m.out (results ++ [.done]) q.mq = Queue.mq <$> mqSend q m := by
  have hlength : m.out.length = m.size + pidSize := (length_outMsg _ _ _).trans (Nat.add_comm _ _)
  by_cases hlong : m.size > q.messageSize
  · rw [sendLoop_of_long (by rw [hlength]; exact Nat.add_lt_add_right hlong _) (by simp), mqSend,
      if_pos hlong]
    rfl
  · have hfind : (results ++ [MqResult.done]).find? (fun r => !r.retried) = some .done := by
      rw [List.find?_append, List.find?_eq_none.mpr fun r hr => by simp [hretried r hr]]
      rfl
    rw [sendLoop_eq (by rw [hlength]; exact Nat.add_le_add_right (not_lt.mp hlong) _), hfind,
      mqSend, if_neg hlong]
    by_cases hfull : q.messages.length ≥ q.msgsAllow
    · simp [hfull, Queue.mq]
    · simp [hfull, Queue.mq]

/-- **Sending refines**: `send_message` as the other modules see it is one whose calls of `mq_send`
are only ever interrupted. -/
theorem sendMessageLinux_refines (hretried : ∀ r ∈ results, r.retried = true) :
    sendMessageLinux (results ++ [.done]) queueId (memory msg) size pid Q (mqsOf Q) =
      (fun s => (mqsOf s.1, s.2)) <$> sendMessage .linux caller queueId msg size pid Q := by
  rcases finds_or_refused .linux caller queueId msg size pid Q with
    ⟨q, i, hfinds⟩ | ⟨hnone, hrefused⟩
  · have hloop := sendLoop_mqSend (Q.queues i)
      { sender := caller, pid := pid, size := size, bytes := msg } hretried
    rw [hfinds.sendMessageLinux_eq, hfinds.sendMessage_linux]
    simp only [map_bind]
    congr 1
    funext _
    congr 1
    funext _
    congr 1
    funext _
    rw [show outMsg pid (memory msg) size =
        MqMessage.out { sender := caller, pid := pid, size := size, bytes := msg } from rfl,
      show mqsOf Q i = (Q.queues i).mq from rfl, hloop, bind_map_left]
    congr 1
    funext recvQ
    rw [← mqsOf_update]
    rfl
  · rw [sendMessageLinux_of_refused hnone, hrefused]
    rfl

/-- What is copied out of a buffer that no message was written to. -/
theorem copyOut_error (mqs : Fin Config.maxQueues → MqQueue) (err : Errno) (size k : ℕ) :
    (copyOut mqs (received (fun k => memory buf (k - pidSize)) (.error err)) (memory buf) size).msg
      k = memory buf k := by
  show (if k < size then memory buf (k + pidSize - pidSize) else memory buf k) = _
  rw [Nat.add_sub_cancel, ite_self]

/-- What is copied out of a buffer with a message. -/
theorem copyOut_out (mqs : Fin Config.maxQueues → MqQueue) {m : MqMessage} (hm : m.size ≤ size)
    (k : Fin Config.packetSizeMac) :
    (copyOut mqs (received (fun k => memory buf (k - pidSize)) (.ok m.out)) (memory buf) size).msg
      k = if (k : ℕ) < m.size then m.bytes k else buf k := by
  have hk : Fin.ofNat Config.packetSizeMac k = k := Fin.ofNat_val_eq_self k
  by_cases hlt : (k : ℕ) < m.size
  · show (if (k : ℕ) < size then received _ (.ok (outMsg _ _ _)) (k + pidSize) else _) = _
    rw [if_pos (hlt.trans_le hm), received_outMsg _ _ _ hlt, if_pos hlt]
    exact congrArg m.bytes hk
  · have hbehind : m.out.length ≤ k + pidSize := by
      rw [MqMessage.out, length_outMsg, Nat.add_comm]
      exact Nat.add_le_add_right (not_lt.mp hlt) _
    show (if (k : ℕ) < size then m.out.getD (k + pidSize) (memory buf (k + pidSize - pidSize))
      else memory buf k) = _
    rw [List.getD_eq_default _ _ hbehind, Nat.add_sub_cancel, ite_self, if_neg hlt]
    exact congrArg buf hk

/-- **Receiving refines**: `recv_message` as the other modules see it is one whose call of
`mq_receive` succeeds, into a buffer that holds what that of the caller does. -/
theorem recvMessageLinux_refines
    (hfits : ∀ i, ∀ m ∈ (Q.queues i).messages, m.size ≤ (Q.queues i).messageSize) :
    (fun r : LinuxReceived => (r.mqs, (fun k : Fin Config.packetSizeMac => r.msg k), r.ret)) <$>
        recvMessageLinux [.done] queueId (fun k => memory buf (k - pidSize)) (memory buf) size Q
          (mqsOf Q) =
      (fun r => (mqsOf r.queues, r.msg, r.ret)) <$>
        recvMessage .linux caller queueId buf size Q := by
  have hbuf : (fun k : Fin Config.packetSizeMac => memory buf k) = buf := by
    funext k
    exact congrArg buf (Fin.ofNat_val_eq_self k)
  by_cases hqueue : ∃ i : Fin Config.maxQueues, queueId = i + 1 ∧ size ≠ 0
  swap
  · rw [recvMessageLinux_of_refused hqueue,
      (reads_or_refused .linux caller queueId buf size Q).resolve_left hqueue]
    exact congrArg Except.ok (Prod.ext rfl (Prod.ext hbuf rfl))
  obtain ⟨i, hid, hne⟩ := hqueue
  rw [recvMessageLinux_eq hid hne, recvMessage_linux hid hne]
  simp only [map_bind]
  congr 1
  funext _
  by_cases hsize : size < (Q.queues i).messageSize
  · -- the buffer is too short, and what it holds is copied
    rw [if_pos hsize, receive_of_short (Nat.add_lt_add_right hsize _)]
    show Except.ok _ = Except.ok _
    refine congrArg Except.ok (Prod.ext (Function.update_eq_self _ _) (Prod.ext ?_ rfl))
    funext k
    exact (copyOut_error (mqsOf Q) _ _ _).trans (congrFun hbuf k)
  · rw [if_neg hsize, receive_done (Nat.add_le_add_right (not_lt.mp hsize) _)]
    cases hmessages : (Q.queues i).messages with
    | nil =>
      have hnone : (mqsOf Q i).messages = [] := by simp [mqsOf, Queue.mq, hmessages]
      simp only [hnone]
      rfl
    | cons m rest =>
      have hsome : (mqsOf Q i).messages = m.out :: rest.map MqMessage.out := by
        simp [mqsOf, Queue.mq, hmessages]
      have hm : m.size ≤ size := (hfits i m (by simp [hmessages])).trans (not_lt.mp hsize)
      simp only [hsome]
      show Except.ok _ = Except.ok _
      refine congrArg Except.ok (Prod.ext ?_ (Prod.ext ?_ rfl))
      · exact (mqsOf_update Q i { Q.queues i with messages := rest }).symm
      · funext k
        exact copyOut_out (mqsOf Q) hm k

end

end WmnIot
