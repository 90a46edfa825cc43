import WmnIot.Foundations.Channels
import WmnIot.Queues.Calls

/-! # The storage ring that all queues share

On RIOT the bytes of every message are copied to one storage ring, and the message that travels to
the receiver says where. `recv_message` reads the bytes there, but clears and releases the place at
the start of the ring. A message that a thread sends to itself while its own message queue is full
is dropped by the operating system, and is not in flight.

* **`ThreadCall.sentFor`**, **`ThreadCall.receivedBy`** — the bytes a call puts in flight for a
  thread, and those it hands to it.
* **`Storage`** — every message in flight has a place of its own in the ring.
* **`InTurn`** — a call that leaves the messages in flight alone.
* **`sharedStorage_iff`** — the runs in which every message arrives as it was sent. -/

namespace WmnIot

open Runs Channels

/-! ## Messages in flight -/

/-- The bytes of a message, at its place in the storage ring. -/
def IpcQueues.contents (Q : IpcQueues) (m : Msg) : ByteString :=
  if h : m.ptr < storageSize then Q.msgStorage ⟨m.ptr, h⟩ else fun _ => 0

/-- The contents of the messages in flight for a thread. -/
def inFlight (thread : Pid) (Q : IpcQueues) : List ByteString :=
  (Q.mailbox thread).map Q.contents

/-- The bytes that a successful `send_message` puts in flight for a thread. -/
def ThreadCall.sentFor (thread : Pid) : ThreadCall → IpcQueues → Option ByteString
  | .send caller queueId msg size pid, Q =>
    match sendMessage .riot caller queueId msg size pid Q with
    | .ok (_, ret) =>
      if ret = 1 ∧ pid = thread ∧ (Q.mailbox pid).length < Q.mailboxSize pid then some msg else none
    | .error _ => none
  | .recv .., _ => none

/-- The bytes that a `recv_message` that returns 1 hands to a thread. -/
def ThreadCall.receivedBy (thread : Pid) : ThreadCall → IpcQueues → Option ByteString
  | .send .., _ => none
  | .recv caller queueId buf size, Q =>
    match recvMessage .riot caller queueId buf size Q with
    | .ok r => if r.ret = 1 ∧ caller = thread then some r.msg else none
    | .error _ => none

/-- Messages of full size. -/
def SetupCall.FullSize : SetupCall → Prop
  | .create _ messageSize _ => messageSize = Config.maxMessageSize
  | .opens .. => True

/-- Messages of full size. -/
def ThreadCall.FullSize : ThreadCall → Prop
  | .send _ _ _ size _ => size = Config.maxMessageSize
  | .recv _ _ _ size => size = Config.maxMessageSize

/-- In what the run has done, every message has arrived as it was sent or is in flight with the
bytes it was sent with. -/
def ContentsKept (Q : IpcQueues) (calls : List ThreadCall) : Prop :=
  ∀ thread, Conserved (ThreadCall.step .riot) (inFlight thread) (ThreadCall.sentFor thread)
    (ThreadCall.receivedBy thread) calls Q

/-- A sender finds a place inside the ring, if the ring is not full. A receiver takes the message at
the start of the ring, or no message in flight that is not all zeros is there. -/
def InTurn : ThreadCall → IpcQueues → Prop
  | .send _ queueId _ _ pid, Q =>
    ∀ q i, Finds Q queueId pid q i → (Q.queues q).allocated → Q.storedElements ≠ storageSize →
      Q.endStorage < storageSize
  | .recv caller queueId _ _, Q =>
    ∀ q : Fin Config.maxQueues, queueId = q + 1 → (Q.queues q).allocated → Q.storedElements ≠ 0 →
      ∀ m rest, Q.mailbox caller = m :: rest → m.ptr = Q.startStorage ∨
        ∀ thread, ∀ x ∈ Q.mailbox thread, x.ptr = Q.startStorage → Q.contents x = fun _ => 0

/-! ## Places in the ring -/

/-- Every message in flight has a place of its own, which has been used, and is of full size. -/
structure Storage (Q : IpcQueues) : Prop where
  messageSize_eq : ∀ q, (Q.queues q).allocated → (Q.queues q).messageSize = Config.maxMessageSize
  end_le : Q.endStorage ≤ storageSize
  start_lt : Q.startStorage < storageSize
  ptr_lt : ∀ thread, ∀ m ∈ Q.mailbox thread, m.ptr < Q.endStorage
  type_eq : ∀ thread, ∀ m ∈ Q.mailbox thread, m.type.toNat = Config.maxMessageSize
  nodup : ∀ thread, ((Q.mailbox thread).map Msg.ptr).Nodup
  apart : ∀ thread thread', thread ≠ thread' → ∀ m ∈ Q.mailbox thread, ∀ m' ∈ Q.mailbox thread',
    m.ptr ≠ m'.ptr

section

variable {caller pid : Pid} {queueId size : ℕ} {msg buf : ByteString} {Q Q' : IpcQueues}
  {q i : Fin Config.maxQueues}

theorem Storage.ptr_lt_size (h : Storage Q) {thread : Pid} {m : Msg} (hm : m ∈ Q.mailbox thread) :
    m.ptr < storageSize :=
  lt_of_lt_of_le (h.ptr_lt thread m hm) h.end_le

theorem contents_of_lt {m : Msg} (h : m.ptr < storageSize) :
    Q.contents m = Q.msgStorage ⟨m.ptr, h⟩ :=
  dif_pos h

/-! ### Storing -/

/-- Copying a message to the ring changes no message in flight. -/
theorem Storage.contents_stored (h : Storage Q) (hend : Q.endStorage < storageSize) {thread : Pid}
    {m : Msg} (hm : m ∈ Q.mailbox thread) : (stored msg Q hend).contents m = Q.contents m := by
  have hlt := h.ptr_lt thread m hm
  have hsize := h.ptr_lt_size hm
  have hne : (⟨m.ptr, hsize⟩ : Fin storageSize) ≠ ⟨Q.endStorage, hend⟩ := by
    intro heq
    exact absurd (Fin.mk.inj heq) (by omega)
  rw [contents_of_lt hsize, contents_of_lt hsize]
  exact Function.update_of_ne hne msg Q.msgStorage

theorem contents_storedMsg (hend : Q.endStorage < storageSize) :
    (stored msg Q hend).contents (storedMsg caller size Q) = msg := by
  have hptr : (storedMsg caller size Q).ptr < storageSize := hend
  rw [contents_of_lt hptr]
  exact Function.update_self _ _ _

/-- A message that is stored and not sent. -/
theorem Storage.store (h : Storage Q) (msg : ByteString) (hend : Q.endStorage < storageSize) :
    Storage (stored msg Q hend) where
  messageSize_eq := h.messageSize_eq
  end_le := hend
  start_lt := h.start_lt
  ptr_lt := fun thread m hm => Nat.lt_succ_of_lt (h.ptr_lt thread m hm)
  type_eq := h.type_eq
  nodup := h.nodup
  apart := h.apart

/-- A message that is stored and sent has a place of its own. -/
theorem Storage.send (h : Storage Q) (msg : ByteString) (hend : Q.endStorage < storageSize)
    (caller pid : Pid) :
    Storage { stored msg Q hend with
      mailbox := Function.update Q.mailbox pid
        (Q.mailbox pid ++ [storedMsg caller Config.maxMessageSize Q]) } := by
  -- a message in flight is an old one or the new one
  have hmem : ∀ thread, ∀ m ∈ Function.update Q.mailbox pid
      (Q.mailbox pid ++ [storedMsg caller Config.maxMessageSize Q]) thread,
      m ∈ Q.mailbox thread ∨ thread = pid ∧ m = storedMsg caller Config.maxMessageSize Q :=
    fun thread m hm => mem_update_append hm
  refine ⟨h.messageSize_eq, hend, h.start_lt, fun thread m hm => ?_, fun thread m hm => ?_,
    fun thread => ?_, fun thread thread' hne m hm m' hm' => ?_⟩
  · rcases hmem thread m hm with hm | ⟨-, rfl⟩
    · exact Nat.lt_succ_of_lt (h.ptr_lt thread m hm)
    · exact Nat.lt_succ_self _
  · rcases hmem thread m hm with hm | ⟨-, rfl⟩
    · exact h.type_eq thread m hm
    · show (UInt16.ofNat Config.maxMessageSize).toNat = Config.maxMessageSize
      decide
  · show ((Function.update Q.mailbox pid _ thread).map Msg.ptr).Nodup
    by_cases hthread : thread = pid
    · subst hthread
      rw [Function.update_self, List.map_append, List.nodup_append]
      refine ⟨h.nodup thread, List.nodup_singleton _, ?_⟩
      intro p hp p' hp'
      obtain ⟨m, hm, rfl⟩ := List.mem_map.mp hp
      obtain rfl : p' = Q.endStorage := List.mem_singleton.mp hp'
      exact Nat.ne_of_lt (h.ptr_lt thread m hm)
    · rw [Function.update_of_ne hthread]
      exact h.nodup thread
  · rcases hmem thread m hm with hm | ⟨hthread, rfl⟩
    · rcases hmem thread' m' hm' with hm' | ⟨-, rfl⟩
      · exact h.apart thread thread' hne m hm m' hm'
      · exact Nat.ne_of_lt (h.ptr_lt thread m hm)
    · rcases hmem thread' m' hm' with hm' | ⟨hthread', -⟩
      · exact (Nat.ne_of_lt (h.ptr_lt thread' m' hm')).symm
      · exact absurd (hthread.trans hthread'.symm) hne

/-! ### Receiving -/

/-- The queues after a thread's first message is taken out and the start of the ring released. -/
def released (caller : Pid) (rest : List Msg) (Q : IpcQueues) (h : Q.startStorage < storageSize) :
    IpcQueues :=
  { Q with
      mailbox := Function.update Q.mailbox caller rest
      msgStorage := Function.update Q.msgStorage ⟨Q.startStorage, h⟩ fun _ => 0
      startStorage := (Q.startStorage + 1) % storageSize
      storedElements := Q.storedElements - 1 }

/-- **`recv_message`** reads the bytes at the place the message names, and releases the place at
the start of the ring. -/
theorem Storage.recv_eq (h : Storage Q) (hid : queueId = q + 1)
    (hallocated : (Q.queues q).allocated = true) (hstored : Q.storedElements ≠ 0) {m : Msg}
    {rest : List Msg} (hmailbox : Q.mailbox caller = m :: rest) :
    recvMessage .riot caller queueId buf Config.maxMessageSize Q = .ok {
      queues := released caller rest Q h.start_lt
      msg := Q.contents m
      pid := some m.senderPid
      sender := some m.senderPid
      ret := 1 } := by
  have hm : m ∈ Q.mailbox caller := by
    rw [hmailbox]
    exact List.mem_cons_self
  have htype : m.type.toNat = (Q.queues q).messageSize :=
    (h.type_eq caller m hm).trans (h.messageSize_eq q hallocated).symm
  have hbytes : (fun k : Fin Config.packetSizeMac => if (k : ℕ) < Config.maxMessageSize then
      Q.msgStorage ⟨m.ptr, h.ptr_lt_size hm⟩ k else buf k) = Q.contents m := by
    funext k
    rw [if_pos k.isLt, contents_of_lt]
  rw [recvMessage_riot hid (by decide), hallocated, assert_true, ok_bind, if_neg hstored, hmailbox]
  dsimp only
  rw [if_neg (not_not.mpr htype), dif_pos ⟨h.ptr_lt_size hm, h.start_lt⟩, hbytes]
  rfl

/-- Taking a message out leaves the others their places. -/
theorem Storage.recv (h : Storage Q) {m : Msg} {rest : List Msg}
    (hmailbox : Q.mailbox caller = m :: rest) : Storage (released caller rest Q h.start_lt) := by
  have hsub : ∀ thread, ((released caller rest Q h.start_lt).mailbox thread).Sublist
      (Q.mailbox thread) := update_tail_sublist hmailbox
  refine ⟨h.messageSize_eq, h.end_le, Nat.mod_lt _ (by decide), fun thread m hm => ?_,
    fun thread m hm => ?_, fun thread => ?_, fun thread thread' hne m hm m' hm' => ?_⟩
  · exact h.ptr_lt thread m ((hsub thread).subset hm)
  · exact h.type_eq thread m ((hsub thread).subset hm)
  · exact (h.nodup thread).sublist ((hsub thread).map Msg.ptr)
  · exact h.apart thread thread' hne m ((hsub thread).subset hm) m' ((hsub thread').subset hm')

/-- Only the place at the start of the ring is cleared. -/
theorem contents_released {rest : List Msg} (hstart : Q.startStorage < storageSize) (x : Msg) :
    (released caller rest Q hstart).contents x =
      if x.ptr = Q.startStorage then fun _ => 0 else Q.contents x := by
  by_cases hx : x.ptr < storageSize
  · rw [contents_of_lt hx, contents_of_lt hx]
    by_cases hptr : x.ptr = Q.startStorage
    · have heq : (⟨x.ptr, hx⟩ : Fin storageSize) = ⟨Q.startStorage, hstart⟩ := Fin.ext hptr
      rw [if_pos hptr, heq]
      exact Function.update_self _ _ _
    · have hne : (⟨x.ptr, hx⟩ : Fin storageSize) ≠ ⟨Q.startStorage, hstart⟩ :=
        fun heq => hptr (Fin.mk.inj heq)
      rw [if_neg hptr]
      exact Function.update_of_ne hne _ _
  · have hptr : x.ptr ≠ Q.startStorage := by omega
    rw [if_neg hptr]
    unfold IpcQueues.contents
    rw [dif_neg hx, dif_neg hx]

/-! ### One call -/

/-- The call keeps what is in flight, and stays inside the ring. -/
def KeepsContents (c : ThreadCall) (Q : IpcQueues) : Prop :=
  (∀ thread, ∀ Q', c.step .riot Q = some Q' →
    inFlight thread Q ++ (c.sentFor thread Q).toList =
      (c.receivedBy thread Q).toList ++ inFlight thread Q') ∧
    c.exec .riot Q ≠ .error .outOfBounds

/-- A message of full size passes the checks of `send_message`. -/
theorem Storage.sendMessage_eq (h : Storage Q) (hfinds : Finds Q queueId pid q i)
    (hallocated : (Q.queues q).allocated = true) :
    sendMessage .riot caller queueId msg Config.maxMessageSize pid Q =
      storeAndSend caller msg Config.maxMessageSize pid Q := by
  rw [hfinds.sendMessage_riot, hallocated, h.messageSize_eq q hallocated]
  rfl

theorem sentFor_of_ok {ret : ℕ}
    (h : sendMessage .riot caller queueId msg size pid Q = .ok (Q', ret)) (thread : Pid) :
    (ThreadCall.send caller queueId msg size pid).sentFor thread Q =
      if ret = 1 ∧ pid = thread ∧ (Q.mailbox pid).length < Q.mailboxSize pid then some msg
      else none := by
  simp [ThreadCall.sentFor, h]

theorem receivedBy_of_ok {r : Received} (h : recvMessage .riot caller queueId buf size Q = .ok r)
    (thread : Pid) : (ThreadCall.recv caller queueId buf size).receivedBy thread Q =
      if r.ret = 1 ∧ caller = thread then some r.msg else none := by
  simp [ThreadCall.receivedBy, h]

/-- A `send_message` that is refused changes nothing. -/
theorem keepsContents_send_refused
    (h : sendMessage .riot caller queueId msg size pid Q = .ok (Q, 0)) :
    KeepsContents (.send caller queueId msg size pid) Q := by
  refine ⟨fun thread Q' hstep => ?_, ?_⟩
  · obtain ⟨ret, hsend⟩ := step_send.mp hstep
    obtain ⟨rfl, rfl⟩ := Prod.mk.inj (Except.ok.inj (h.symm.trans hsend))
    rw [sentFor_of_ok h, if_neg (by simp)]
    exact List.append_nil _
  · rw [Ne, exec_send_error, h]
    exact fun herr => nomatch herr

/-- A `send_message` that stores its message inside the ring keeps the messages in flight. -/
theorem Storage.keepsContents_store (h : Storage Q)
    (hsend : sendMessage .riot caller queueId msg Config.maxMessageSize pid Q =
      storeAndSend caller msg Config.maxMessageSize pid Q)
    (hfull : Q.storedElements ≠ storageSize) (hend : Q.endStorage < storageSize) :
    KeepsContents (.send caller queueId msg Config.maxMessageSize pid) Q ∧
      ∀ Q', (ThreadCall.send caller queueId msg Config.maxMessageSize pid).step .riot Q = some Q' →
        Storage Q' := by
  rw [storeAndSend_of_lt hfull hend] at hsend
  -- the old messages keep their contents wherever they are in flight
  have hold : ∀ thread, (Q.mailbox thread).map (stored msg Q hend).contents = inFlight thread Q :=
    fun thread => List.map_congr_left fun m hm => h.contents_stored hend hm
  have hcases : ∀ Q' ret, sendMessage .riot caller queueId msg Config.maxMessageSize pid Q =
      .ok (Q', ret) → ret = 1 ∧
        (((Q.mailbox pid).length < Q.mailboxSize pid ∧ Q' = { stored msg Q hend with
            mailbox := Function.update Q.mailbox pid
              (Q.mailbox pid ++ [storedMsg caller Config.maxMessageSize Q]) }) ∨
          ¬ (Q.mailbox pid).length < Q.mailboxSize pid ∧ Q' = stored msg Q hend) := by
    intro Q' ret heq
    rw [hsend] at heq
    obtain ⟨Q'', hmsg, heq⟩ := bind_eq_ok.mp heq
    obtain ⟨rfl, rfl⟩ := Prod.mk.inj (Except.ok.inj heq)
    exact ⟨rfl, msgSend_cases hmsg⟩
  refine ⟨⟨fun thread Q' hstep => ?_, ?_⟩, fun Q' hstep => ?_⟩
  · obtain ⟨ret, hok⟩ := step_send.mp hstep
    obtain ⟨rfl, ⟨hroom, rfl⟩ | ⟨hroom, rfl⟩⟩ := hcases Q' ret hok
    · rw [sentFor_of_ok hok]
      by_cases hthread : pid = thread
      · subst hthread
        rw [if_pos ⟨rfl, rfl, hroom⟩, ← hold pid]
        show _ = (Function.update Q.mailbox pid _ pid).map (stored msg Q hend).contents
        rw [Function.update_self, List.map_append, List.map_singleton, contents_storedMsg]
        rfl
      · rw [if_neg fun hc => hthread hc.2.1, ← hold thread]
        show _ = (Function.update Q.mailbox pid _ thread).map (stored msg Q hend).contents
        rw [Function.update_of_ne fun heq => hthread heq.symm]
        exact List.append_nil _
    · rw [sentFor_of_ok hok, if_neg fun hc => hroom hc.2.2]
      exact (List.append_nil _).trans (hold thread).symm
  · rw [Ne, exec_send_error, hsend]
    unfold msgSend
    split_ifs <;> exact fun herr => nomatch herr
  · obtain ⟨ret, hok⟩ := step_send.mp hstep
    obtain ⟨-, ⟨-, rfl⟩ | ⟨-, rfl⟩⟩ := hcases Q' ret hok
    · exact h.send msg hend caller pid
    · exact h.store msg hend

/-- **A send** keeps what is in flight exactly if it finds a place inside the ring. -/
theorem Storage.keepsContents_send_iff (h : Storage Q) :
    KeepsContents (.send caller queueId msg Config.maxMessageSize pid) Q ↔
      InTurn (.send caller queueId msg Config.maxMessageSize pid) Q := by
  rcases finds_or_refused .riot caller queueId msg Config.maxMessageSize pid Q with
    ⟨q, i, hfinds⟩ | ⟨hnone, hrefused⟩
  · cases hallocated : (Q.queues q).allocated with
    | false =>
      -- an assertion fails
      have herror : sendMessage .riot caller queueId msg Config.maxMessageSize pid Q =
          .error .assertFailed := by
        rw [hfinds.sendMessage_riot, hallocated]
        rfl
      refine iff_of_true ⟨fun thread Q' hstep => ?_, ?_⟩ fun q' i' hfinds' hallocated' => ?_
      · obtain ⟨ret, hok⟩ := step_send.mp hstep
        cases herror.symm.trans hok
      · rw [Ne, exec_send_error, herror]
        exact fun herr => nomatch herr
      · have hq : q' = q := Fin.ext (by
          have h₁ := hfinds.queueId_eq
          have h₂ := hfinds'.queueId_eq
          omega)
        rw [hq, hallocated] at hallocated'
        cases hallocated'
    | true =>
      have hsend : sendMessage .riot caller queueId msg Config.maxMessageSize pid Q =
          storeAndSend caller msg Config.maxMessageSize pid Q := h.sendMessage_eq hfinds hallocated
      by_cases hfull : Q.storedElements = storageSize
      · refine iff_of_true (keepsContents_send_refused ?_) fun _ _ _ _ hne => absurd hfull hne
        rw [hsend, storeAndSend, if_pos hfull]
        rfl
      · by_cases hend : Q.endStorage < storageSize
        · exact iff_of_true (h.keepsContents_store hsend hfull hend).1 fun _ _ _ _ _ => hend
        · refine iff_of_false (fun hkeeps => hkeeps.2 ?_) fun hturn =>
            hend (hturn q i hfinds hallocated hfull)
          rw [exec_send_error, hsend, storeAndSend_of_not_lt hfull hend]
  · exact iff_of_true (keepsContents_send_refused hrefused) fun q i hfinds =>
      absurd hfinds (hnone q i)

/-- A message stays the same when the start of the ring is cleared, or it is there. -/
theorem contents_released_eq_iff {rest : List Msg} (hstart : Q.startStorage < storageSize) (x : Msg) :
    (released caller rest Q hstart).contents x = Q.contents x ↔
      (x.ptr = Q.startStorage → Q.contents x = fun _ => 0) := by
  rw [contents_released]
  by_cases hptr : x.ptr = Q.startStorage
  · rw [if_pos hptr]
    exact ⟨fun heq _ => heq.symm, fun hzero => (hzero hptr).symm⟩
  · rw [if_neg hptr]
    exact iff_of_true rfl fun heq => absurd heq hptr

/-- What is in flight before a thread takes its first message out. -/
theorem inFlight_eq {m : Msg} {rest : List Msg} (hmailbox : Q.mailbox caller = m :: rest)
    (thread : Pid) : inFlight thread Q = (if caller = thread then [Q.contents m] else []) ++
      (Function.update Q.mailbox caller rest thread).map Q.contents := by
  unfold inFlight
  by_cases hthread : caller = thread
  · subst hthread
    rw [if_pos rfl, Function.update_self, hmailbox]
    rfl
  · rw [if_neg hthread, Function.update_of_ne fun heq => hthread heq.symm]
    rfl

/-- It is the turn of a message exactly if no other message in flight is at the start of the
ring, unless that is all zeros. -/
theorem Storage.turn_iff (h : Storage Q) {m : Msg} {rest : List Msg}
    (hmailbox : Q.mailbox caller = m :: rest) :
    (m.ptr = Q.startStorage ∨
        ∀ thread, ∀ x ∈ Q.mailbox thread, x.ptr = Q.startStorage → Q.contents x = fun _ => 0) ↔
      ∀ thread, ∀ x ∈ Function.update Q.mailbox caller rest thread,
        x.ptr = Q.startStorage → Q.contents x = fun _ => 0 := by
  have hm : m ∈ Q.mailbox caller := by
    rw [hmailbox]
    exact List.mem_cons_self
  constructor
  · intro hturn thread x hx hptr
    by_cases hthread : thread = caller
    · subst hthread
      rw [Function.update_self] at hx
      rcases hturn with hstart | hzero
      · -- no other message of the mailbox is stored at the same place
        have hnodup := h.nodup thread
        rw [hmailbox, List.map_cons, List.nodup_cons] at hnodup
        exact absurd (List.mem_map.mpr ⟨x, hx, hptr.trans hstart.symm⟩) hnodup.1
      · refine hzero thread x ?_ hptr
        rw [hmailbox]
        exact List.mem_cons_of_mem m hx
    · rw [Function.update_of_ne hthread] at hx
      rcases hturn with hstart | hzero
      · exact absurd (hptr.trans hstart.symm) (h.apart thread caller hthread x hx m hm)
      · exact hzero thread x hx hptr
  · intro hzero
    by_cases hstart : m.ptr = Q.startStorage
    · exact .inl hstart
    · refine .inr fun thread x hx hptr => hzero thread x ?_ hptr
      by_cases hthread : thread = caller
      · subst hthread
        rw [Function.update_self]
        rw [hmailbox] at hx
        rcases List.mem_cons.mp hx with rfl | hx
        · exact absurd hptr hstart
        · exact hx
      · rwa [Function.update_of_ne hthread]

/-- A `recv_message` that takes a message out keeps what is in flight exactly if no message that is
left waiting is at the start of the ring, unless that is all zeros. -/
theorem Storage.keepsContents_take_iff (h : Storage Q) (hid : queueId = q + 1)
    (hallocated : (Q.queues q).allocated = true) (hstored : Q.storedElements ≠ 0) {m : Msg}
    {rest : List Msg} (hmailbox : Q.mailbox caller = m :: rest) :
    KeepsContents (.recv caller queueId buf Config.maxMessageSize) Q ↔
      ∀ thread, ∀ x ∈ Function.update Q.mailbox caller rest thread,
        x.ptr = Q.startStorage → Q.contents x = fun _ => 0 := by
  have hrecv : recvMessage .riot caller queueId buf Config.maxMessageSize Q = .ok _ :=
    h.recv_eq hid hallocated hstored hmailbox
  have hstep := step_recv.mpr ⟨_, hrecv, rfl⟩
  -- what the thread had in flight is what it received and what is left
  have hlaw : ∀ thread, (inFlight thread Q ++ [] =
      ((ThreadCall.recv caller queueId buf Config.maxMessageSize).receivedBy thread Q).toList ++
        inFlight thread (released caller rest Q h.start_lt)) ↔
      ∀ x ∈ Function.update Q.mailbox caller rest thread,
        x.ptr = Q.startStorage → Q.contents x = fun _ => 0 := by
    intro thread
    have htaken : ((ThreadCall.recv caller queueId buf Config.maxMessageSize).receivedBy thread
        Q).toList = if caller = thread then [Q.contents m] else [] := by
      rw [receivedBy_of_ok hrecv]
      by_cases hthread : caller = thread
      · simp [hthread]
      · simp [hthread]
    rw [List.append_nil, htaken, inFlight_eq hmailbox, List.append_cancel_left_eq]
    show _ = (Function.update Q.mailbox caller rest thread).map
      (released caller rest Q h.start_lt).contents ↔ _
    rw [List.map_inj_left]
    exact forall₂_congr fun x _ => eq_comm.trans (contents_released_eq_iff h.start_lt x)
  constructor
  · intro hkeeps thread
    exact (hlaw thread).mp (hkeeps.1 thread _ hstep)
  · intro hzero
    refine ⟨fun thread Q' hstep' => ?_, ?_⟩
    · obtain rfl : released caller rest Q h.start_lt = Q' :=
        Option.some.inj (hstep.symm.trans hstep')
      exact (hlaw thread).mpr (hzero thread)
    · rw [Ne, exec_recv_error, hrecv]
      exact fun herr => nomatch herr

/-- A `recv_message` that takes no message out changes nothing. -/
theorem keepsContents_recv_idle {r : Received}
    (h : recvMessage .riot caller queueId buf size Q = .ok r) (hqueues : r.queues = Q)
    (hret : r.ret ≠ 1) : KeepsContents (.recv caller queueId buf size) Q := by
  refine ⟨fun thread Q' hstep => ?_, ?_⟩
  · obtain ⟨r', hrecv, rfl⟩ := step_recv.mp hstep
    obtain rfl : r = r' := Except.ok.inj (h.symm.trans hrecv)
    rw [receivedBy_of_ok h, if_neg fun hc => hret hc.1, hqueues]
    exact List.append_nil _
  · rw [Ne, exec_recv_error, h]
    exact fun herr => nomatch herr

/-- A `recv_message` that does not return changes nothing. -/
theorem keepsContents_recv_error {e : Halt}
    (h : recvMessage .riot caller queueId buf size Q = .error e) (he : e ≠ .outOfBounds) :
    KeepsContents (.recv caller queueId buf size) Q := by
  refine ⟨fun thread Q' hstep => ?_, ?_⟩
  · obtain ⟨r, hrecv, -⟩ := step_recv.mp hstep
    cases h.symm.trans hrecv
  · rw [Ne, exec_recv_error, h]
    exact fun herr => he (Except.error.inj herr)

/-- **A receive** keeps what is in flight exactly if it is its message's turn. -/
theorem Storage.keepsContents_recv_iff (h : Storage Q) :
    KeepsContents (.recv caller queueId buf Config.maxMessageSize) Q ↔
      InTurn (.recv caller queueId buf Config.maxMessageSize) Q := by
  by_cases hread : ∃ q : Fin Config.maxQueues, queueId = q + 1
  · obtain ⟨q, hid⟩ := hread
    have hq : ∀ q' : Fin Config.maxQueues, queueId = q' + 1 → q' = q :=
      fun q' hid' => Fin.ext (by omega)
    have heq : recvMessage .riot caller queueId buf Config.maxMessageSize Q = _ :=
      recvMessage_riot hid (by decide)
    -- each check of recv_message that fails leaves the contents alone
    cases hallocated : (Q.queues q).allocated with
    | false =>
      rw [hallocated, assert_false, error_bind] at heq
      refine iff_of_true (keepsContents_recv_error heq (by decide)) fun q' hid' hallocated' => ?_
      rw [hq q' hid', hallocated] at hallocated'
      cases hallocated'
    | true =>
      rw [hallocated, assert_true, ok_bind] at heq
      by_cases hstored : Q.storedElements = 0
      · rw [if_pos hstored] at heq
        exact iff_of_true (keepsContents_recv_idle heq rfl Nat.zero_ne_one) fun _ _ _ hne =>
          absurd hstored hne
      · cases hmailbox : Q.mailbox caller with
        | nil =>
          rw [if_neg hstored, hmailbox] at heq
          refine iff_of_true (keepsContents_recv_error heq (by decide)) fun _ _ _ _ m rest hcons => ?_
          rw [hmailbox] at hcons
          cases hcons
        | cons m rest =>
          have hturn : InTurn (.recv caller queueId buf Config.maxMessageSize) Q ↔
              (m.ptr = Q.startStorage ∨ ∀ thread, ∀ x ∈ Q.mailbox thread,
                x.ptr = Q.startStorage → Q.contents x = fun _ => 0) := by
            constructor
            · exact fun hall => hall q hid hallocated hstored m rest hmailbox
            · intro hall q' _ _ _ m' rest' hmailbox'
              obtain ⟨rfl, rfl⟩ := List.cons.inj (hmailbox.symm.trans hmailbox')
              exact hall
          rw [hturn, h.turn_iff hmailbox]
          exact h.keepsContents_take_iff hid hallocated hstored hmailbox
  · rcases reads_or_refused .riot caller queueId buf Config.maxMessageSize Q with
      ⟨q, hid, -⟩ | hrefused
    · exact absurd ⟨q, hid⟩ hread
    · exact iff_of_true (keepsContents_recv_idle hrefused rfl Nat.zero_ne_one) fun q hid =>
        absurd ⟨q, hid⟩ hread

/-- **Every call** of full size keeps the messages in flight in places of their own. -/
theorem Storage.step {c : ThreadCall} (h : Storage Q) (hsize : c.FullSize)
    (hstep : c.step .riot Q = some Q') : Storage Q' := by
  cases c with
  | send caller queueId msg size pid =>
    obtain rfl : size = Config.maxMessageSize := hsize
    obtain ⟨ret, hsend⟩ := step_send.mp hstep
    cases sendMessage_eq_ok_iff.mp hsend with
    | refused => exact h
    | full => exact h
    | stored hfinds halloc hfits hroom hend hmsg =>
      have heq : sendMessage .riot caller queueId msg Config.maxMessageSize pid Q =
          storeAndSend caller msg Config.maxMessageSize pid Q := h.sendMessage_eq hfinds halloc
      exact (h.keepsContents_store heq hroom hend).2 Q' hstep
  | recv caller queueId buf size =>
    obtain rfl : size = Config.maxMessageSize := hsize
    obtain ⟨r, hrecv, rfl⟩ := step_recv.mp hstep
    cases recvMessage_returns hrecv with
    | refused => exact h
    | empty => exact h
    | discarded hid hne halloc hstored hmailbox htype =>
      rw [h.recv_eq hid halloc hstored hmailbox] at hrecv
      obtain hr := Except.ok.inj hrecv
      rw [← hr]
      exact h.recv hmailbox
    | taken hid hne halloc hstored hmailbox htype hptr hstart =>
      rw [h.recv_eq hid halloc hstored hmailbox] at hrecv
      obtain hr := Except.ok.inj hrecv
      rw [← hr]
      exact h.recv hmailbox

end

/-! ## Runs -/

/-- Queues that are set up for messages of full size have them. -/
theorem messageSize_setUp {setup : List SetupCall} (hsize : ∀ c ∈ setup, c.FullSize) {Q : IpcQueues}
    (h : setUp .riot setup = some Q) :
    ∀ q, (Q.queues q).allocated → (Q.queues q).messageSize = Config.maxMessageSize := by
  refine run_inv_of_mem (fun Q => ∀ q, (Q.queues q).allocated →
    (Q.queues q).messageSize = Config.maxMessageSize) setup ?_ (fun q hq => nomatch hq) h
  intro c hc Q Q' hQ hstep q hq
  cases c with
  | create maxQueueSize messageSize msgsAllow =>
    obtain rfl : messageSize = Config.maxMessageSize := hsize _ hc
    obtain rfl := Option.some.inj hstep
    unfold createQueue at hq ⊢
    split_ifs at hq ⊢ with h₁ h₂ h₃
    · exact hQ q hq
    · exact hQ q hq
    · exact hQ q hq
    · split at hq
      · exact hQ q hq
      · next i _ =>
        by_cases hi : q = i
        · subst hi
          simp
        · simp only [Function.update_of_ne hi] at hq ⊢
          exact hQ q hq
  | opens caller queueId pid =>
    obtain ⟨⟨Q'', ret⟩, hopen, rfl⟩ := Option.map_eq_some_iff.mp hstep
    rcases openQueue_cases (toOption_eq_some.mp hopen) with rfl | ⟨i, rfl⟩
    · exact hQ q hq
    · exact hQ q hq

/-- Nothing is in flight at first. -/
theorem storage_setUp {setup : List SetupCall} (hsize : ∀ c ∈ setup, c.FullSize) {Q : IpcQueues}
    (h : setUp .riot setup = some Q) : Storage Q := by
  have hfresh := fresh_setUp h
  have hnil : ∀ thread, ∀ m, m ∉ Q.mailbox thread := by
    intro thread m hm
    rw [hfresh.mailbox_eq] at hm
    cases hm
  refine ⟨messageSize_setUp hsize h, ?_, ?_, fun thread m hm => absurd hm (hnil thread m),
    fun thread m hm => absurd hm (hnil thread m), fun thread => ?_,
    fun thread _ _ m hm => absurd hm (hnil thread m)⟩
  · rw [hfresh.endStorage_eq]
    exact Nat.zero_le _
  · rw [hfresh.startStorage_eq]
    decide
  · rw [hfresh.mailbox_eq]
    exact List.nodup_nil

/-- **Message contents survive** exactly in the runs whose calls are all made in turn: at every
point the messages sent to a thread are those it has received, followed by those in flight for it,
with the bytes they were sent with, and no call leaves the ring. -/
theorem sharedStorage_iff (setup : List SetupCall) (hsetupSize : ∀ c ∈ setup, c.FullSize)
    (Q : IpcQueues) (hsetup : setUp .riot setup = some Q) (calls : List ThreadCall)
    (hcallsSize : ∀ c ∈ calls, c.FullSize) :
    ((∀ pre, pre <+: calls → ContentsKept Q pre) ∧
        ∀ t ∈ attempted (ThreadCall.step .riot) calls Q,
          t.1.exec .riot t.2 ≠ .error .outOfBounds) ↔
      ∀ t ∈ attempted (ThreadCall.step .riot) calls Q, InTurn t.1 t.2 := by
  have hkeeps : (∀ t ∈ attempted (ThreadCall.step .riot) calls Q, KeepsContents t.1 t.2) ↔
      ∀ t ∈ attempted (ThreadCall.step .riot) calls Q, InTurn t.1 t.2 := by
    refine forall_attempted_iff Storage calls ?_ ?_ (storage_setUp hsetupSize hsetup)
    · intro c hc Q Q' hQ _ hstep
      exact hQ.step (hcallsSize c hc) hstep
    · intro c hc Q hQ
      have hsize := hcallsSize c hc
      cases c with
      | send caller queueId msg size pid =>
        obtain rfl : size = Config.maxMessageSize := hsize
        exact hQ.keepsContents_send_iff
      | recv caller queueId buf size =>
        obtain rfl : size = Config.maxMessageSize := hsize
        exact hQ.keepsContents_recv_iff
  rw [← hkeeps]
  constructor
  · rintro ⟨hkept, hbounds⟩ t ht
    refine ⟨fun thread Q' hstep => ?_, hbounds t ht⟩
    exact (conserved_iff calls).mp (fun pre hpre => hkept pre hpre thread) t ht Q' hstep
  · intro hall
    refine ⟨fun pre hpre thread => ?_, fun t ht => (hall t ht).2⟩
    exact (conserved_iff calls).mpr (fun t ht Q' hstep => (hall t ht).1 thread Q' hstep) pre hpre

/-! ### Two threads that receive in either order -/

/-- The message sent first is received first. -/
def inOrder : List ThreadCall :=
  [.send 1 2 (fun _ => 7) Config.maxMessageSize 2, .send 2 1 (fun _ => 8) Config.maxMessageSize 1,
    .recv 2 2 (fun _ => 0) Config.maxMessageSize, .recv 1 1 (fun _ => 0) Config.maxMessageSize]

/-- There is room in the ring, and the first message of a receiver is at its start. -/
def takesStart : ThreadCall → IpcQueues → Bool
  | .send .., Q => decide (Q.endStorage < storageSize)
  | .recv caller _ _ _, Q => (Q.mailbox caller).head?.all fun m => m.ptr == Q.startStorage

theorem inTurn_of_takesStart {c : ThreadCall} {Q : IpcQueues} (h : takesStart c Q = true) :
    InTurn c Q := by
  cases c with
  | send caller queueId msg size pid => exact fun _ _ _ _ _ => of_decide_eq_true h
  | recv caller queueId buf size =>
    intro q _ _ _ m rest hmailbox
    left
    simpa [takesStart, hmailbox] using h

/-- Messages that are received in the order of sending arrive as they were sent. -/
theorem sharedStorage_inOrder :
    ∃ Q, setUp .riot twoQueues = some Q ∧
      (taken (ThreadCall.step .riot) inOrder Q).length = 4 ∧
      (∀ pre, pre <+: inOrder → ContentsKept Q pre) ∧
      ∀ t ∈ attempted (ThreadCall.step .riot) inOrder Q, t.1.exec .riot t.2 ≠ .error .outOfBounds := by
  have heval : (setUp .riot twoQueues).map (fun Q => decide
      ((taken (ThreadCall.step .riot) inOrder Q).length = 4 ∧
        ∀ t ∈ attempted (ThreadCall.step .riot) inOrder Q, takesStart t.1 t.2 = true)) =
      some true := by
    decide +kernel
  obtain ⟨Q, hsetup, heval⟩ := Option.map_eq_some_iff.mp heval
  obtain ⟨hlength, hturn⟩ := of_decide_eq_true heval
  have hkept := (sharedStorage_iff twoQueues (by simp [twoQueues, SetupCall.FullSize]) Q hsetup
    inOrder (by simp [inOrder, ThreadCall.FullSize])).mpr
    fun t ht => inTurn_of_takesStart (hturn t ht)
  exact ⟨Q, hsetup, hlength, hkept⟩

/-- When thread 1 overtakes thread 2, the message for thread 2 is cleared before it is received. -/
theorem sharedStorage_overtaken :
    ∃ Q, setUp .riot twoQueues = some Q ∧
      emitted (ThreadCall.sentFor 2) (taken (ThreadCall.step .riot) exchange Q) = [fun _ => 7] ∧
      emitted (ThreadCall.receivedBy 2) (taken (ThreadCall.step .riot) exchange Q) = [fun _ => 0] ∧
      ¬ ContentsKept Q exchange := by
  have heval : (setUp .riot twoQueues).map (fun Q => decide
      (emitted (ThreadCall.sentFor 2) (taken (ThreadCall.step .riot) exchange Q) = [fun _ => 7] ∧
        emitted (ThreadCall.receivedBy 2) (taken (ThreadCall.step .riot) exchange Q) =
          [fun _ => 0])) = some true := by
    decide +kernel
  obtain ⟨Q, hsetup, heval⟩ := Option.map_eq_some_iff.mp heval
  obtain ⟨hsent, hreceived⟩ := of_decide_eq_true heval
  refine ⟨Q, hsetup, hsent, hreceived, fun hkept => ?_⟩
  have hthread : inFlight 2 Q ++ _ = _ := hkept 2
  rw [inFlight, (fresh_setUp hsetup).mailbox_eq, hsent, hreceived] at hthread
  -- the first byte of what was sent is not that of what was received
  have hhead := congrArg (fun l : List ByteString => l.head?.map fun b => b 0) hthread
  simp at hhead

end WmnIot
