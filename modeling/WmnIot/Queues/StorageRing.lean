import WmnIot.Queues.SharedStorage

/-! # The storage ring on RIOT

Messages between the threads are kept in a ring of `MAX_QUEUES * MAX_ELEMENTS_ON_QUEUE` places.
`send_message` advances its end with a post-increment that is compared before it is incremented, and
`recv_message` returns early when it has taken a message of another size.

* **`RingRun`** — the queues, with the messages that have been sent and taken so far.
* **`RingInvariant`** — the start, the end and the counter of the ring agree.
* **`sendMessage_ring`**, **`recvMessage_ring`** — what the calls do to the ring.
* **`storageRing_iff`** — the ring is kept exactly in the runs that do not use its last place and take
  no message of another size. -/

namespace WmnIot

open Runs

/-! ## Runs -/

/-- `send_message` accepts the message: it returns 1. -/
def ThreadCall.accepted : ThreadCall → IpcQueues → Bool
  | .send caller queueId msg size pid, Q =>
    match sendMessage .riot caller queueId msg size pid Q with
    | .ok (_, ret) => ret == 1
    | .error _ => false
  | .recv .., _ => false

/-- `recv_message` takes a message from the queue of the thread, and returns it or not. -/
def ThreadCall.takesMessage : ThreadCall → IpcQueues → Bool
  | .send .., _ => false
  | .recv caller queueId buf size, Q =>
    match recvMessage .riot caller queueId buf size Q with
    | .ok r => r.sender.isSome
    | .error _ => false

/-- The queues after some calls, the messages that `send_message` has accepted, and those that
`recv_message` has taken from the queue of a thread. -/
structure RingRun where
  queues : IpcQueues
  sent : ℕ := 0
  taken : ℕ := 0

/-- A call that returns. -/
def RingRun.step (c : ThreadCall) (s : RingRun) : Option RingRun :=
  (c.step .riot s.queues).map fun Q => {
    queues := Q
    sent := s.sent + (c.accepted s.queues).toNat
    taken := s.taken + (c.takesMessage s.queues).toNat }

/-- **The invariant of the ring**: the start and the end are places, they are as far apart as there
are elements, and these are the messages that were sent and not yet taken. -/
structure RingInvariant (s : RingRun) : Prop where
  start_lt : s.queues.startStorage < storageSize
  end_lt : s.queues.endStorage < storageSize
  distance_eq : ((s.queues.endStorage : ℤ) - s.queues.startStorage) % (storageSize : ℤ) =
    (s.queues.storedElements : ℤ) % (storageSize : ℤ)
  stored_eq : s.queues.storedElements + s.taken = s.sent

/-- The message is stored in the last place of the ring. -/
def LastPlace : ThreadCall → IpcQueues → Prop
  | .send _ queueId _ _ pid, Q =>
    (∃ q i, Finds Q queueId pid q i) ∧ Q.storedElements ≠ storageSize ∧
      Q.endStorage + 1 = storageSize
  | .recv .., _ => False

/-- The first message for the caller has another size than those of the queue it names. -/
def WrongSize : ThreadCall → IpcQueues → Prop
  | .send .., _ => False
  | .recv caller queueId _ size, Q =>
    size ≠ 0 ∧ Q.storedElements ≠ 0 ∧ ∃ q : Fin Config.maxQueues, queueId = q + 1 ∧
      ∃ m ∈ (Q.mailbox caller).head?, m.type.toNat ≠ (Q.queues q).messageSize

section

variable {caller pid : Pid} {queueId size ret : ℕ} {msg buf : ByteString} {Q Q' : IpcQueues}
  {c : ThreadCall} {s s' : RingRun}

/-! ## What the calls do to the ring -/

/-- **`send_message`** leaves the ring alone, or advances its end without ever going back to the
first place. -/
theorem sendMessage_ring (h : sendMessage .riot caller queueId msg size pid Q = .ok (Q', ret)) :
    (ret = 0 ∧ Q' = Q ∧ ¬ LastPlace (.send caller queueId msg size pid) Q) ∨
      (ret = 1 ∧ Q.endStorage < storageSize ∧ Q'.startStorage = Q.startStorage ∧
        Q'.endStorage = Q.endStorage + 1 ∧ Q'.storedElements = Q.storedElements + 1 ∧
        (LastPlace (.send caller queueId msg size pid) Q ↔ Q.endStorage + 1 = storageSize)) := by
  cases sendMessage_eq_ok_iff.mp h with
  | refused _ hnone => exact .inl ⟨rfl, rfl, fun ⟨⟨q, i, hfinds⟩, _⟩ => hnone q i hfinds⟩
  | full hfinds halloc hsize hfull => exact .inl ⟨rfl, rfl, fun hlast => hlast.2.1 hfull⟩
  | stored hfinds halloc hsize hroom hend hmsg =>
    have hring : Q'.startStorage = Q.startStorage ∧ Q'.endStorage = Q.endStorage + 1 ∧
        Q'.storedElements = Q.storedElements + 1 := by
      rcases msgSend_cases hmsg with ⟨-, rfl⟩ | ⟨-, rfl⟩
      · exact ⟨rfl, rfl, rfl⟩
      · exact ⟨rfl, rfl, rfl⟩
    obtain ⟨hstart, hend', hstored⟩ := hring
    exact .inr ⟨rfl, hend, hstart, hend', hstored, fun hlast => hlast.2.2,
      fun hlast => ⟨⟨_, _, hfinds⟩, hroom, hlast⟩⟩

/-- The first message for the caller has another size exactly if it has not that of the queue that
is named. -/
theorem wrongSize_recv_iff {q : Fin Config.maxQueues} {m : Msg} {rest : List Msg}
    (hid : queueId = q + 1) (hne : size ≠ 0) (hstored : Q.storedElements ≠ 0)
    (hmailbox : Q.mailbox caller = m :: rest) :
    WrongSize (.recv caller queueId buf size) Q ↔ m.type.toNat ≠ (Q.queues q).messageSize := by
  have hhead : m ∈ (Q.mailbox caller).head? := by
    rw [hmailbox]
    rfl
  constructor
  · rintro ⟨-, -, q', hid', m', hm', htype⟩
    obtain rfl : q = q' := Fin.ext (Nat.succ.inj (hid.symm.trans hid'))
    obtain rfl : m = m' := Option.mem_unique hhead hm'
    exact htype
  · exact fun htype => ⟨hne, hstored, q, hid, m, hhead, htype⟩

/-- **`recv_message`** takes no message, or takes one of another size and leaves the ring alone, or
takes one and advances the start of the ring. -/
theorem recvMessage_ring {r : Received}
    (h : recvMessage .riot caller queueId buf size Q = .ok r) :
    (r.sender.isSome = false ∧ r.queues = Q ∧ ¬ WrongSize (.recv caller queueId buf size) Q) ∨
      (r.sender.isSome = true ∧ r.queues.startStorage = Q.startStorage ∧
        r.queues.endStorage = Q.endStorage ∧ r.queues.storedElements = Q.storedElements ∧
        WrongSize (.recv caller queueId buf size) Q) ∨
      (r.sender.isSome = true ∧ Q.storedElements ≠ 0 ∧
        r.queues.startStorage = (Q.startStorage + 1) % storageSize ∧
        r.queues.endStorage = Q.endStorage ∧
        r.queues.storedElements = Q.storedElements - 1 ∧
        ¬ WrongSize (.recv caller queueId buf size) Q) := by
  cases recvMessage_returns h with
  | refused _ hnone =>
    exact .inl ⟨rfl, rfl, fun ⟨hne, _, q, hid, _⟩ => hnone q ⟨hid, hne⟩⟩
  | empty hid hne halloc hstored => exact .inl ⟨rfl, rfl, fun hwrong => hwrong.2.1 hstored⟩
  | discarded hid hne halloc hstored hmailbox htype =>
    exact .inr (.inl ⟨rfl, rfl, rfl, rfl, (wrongSize_recv_iff hid hne hstored hmailbox).mpr htype⟩)
  | taken hid hne halloc hstored hmailbox htype hptr hstart =>
    exact .inr (.inr ⟨rfl, hstored, rfl, rfl, rfl,
      fun hwrong => (wrongSize_recv_iff hid hne hstored hmailbox).mp hwrong htype⟩)

/-! ## One step -/

/-- **A step** does nothing to the ring, or stores a message, or releases one, or discards one. -/
theorem RingRun.step_cases (h : RingRun.step c s = some s') :
    (s'.queues = s.queues ∧ s'.sent = s.sent ∧ s'.taken = s.taken ∧
        ¬ LastPlace c s.queues ∧ ¬ WrongSize c s.queues) ∨
      (s'.queues.startStorage = s.queues.startStorage ∧
        s'.queues.endStorage = s.queues.endStorage + 1 ∧
        s'.queues.storedElements = s.queues.storedElements + 1 ∧ s'.sent = s.sent + 1 ∧
        s'.taken = s.taken ∧ s.queues.endStorage < storageSize ∧
        (LastPlace c s.queues ↔ s.queues.endStorage + 1 = storageSize) ∧
        ¬ WrongSize c s.queues) ∨
      (s'.queues.startStorage = (s.queues.startStorage + 1) % storageSize ∧
        s'.queues.endStorage = s.queues.endStorage ∧ s.queues.storedElements ≠ 0 ∧
        s'.queues.storedElements = s.queues.storedElements - 1 ∧ s'.sent = s.sent ∧
        s'.taken = s.taken + 1 ∧ ¬ LastPlace c s.queues ∧ ¬ WrongSize c s.queues) ∨
      (s'.queues.storedElements = s.queues.storedElements ∧ s'.sent = s.sent ∧
        s'.taken = s.taken + 1 ∧ WrongSize c s.queues) := by
  obtain ⟨Q', hstep, rfl⟩ := Option.map_eq_some_iff.mp h
  cases c with
  | send caller queueId msg size pid =>
    obtain ⟨ret, hsend⟩ := step_send.mp hstep
    have haccepted : (ThreadCall.send caller queueId msg size pid).accepted s.queues = (ret == 1) := by
      simp only [ThreadCall.accepted, hsend]
    -- refused, or stored at the end index
    rcases sendMessage_ring hsend with ⟨rfl, rfl, hlast⟩ | ⟨rfl, hend, hstart, hend', hstored, hlast⟩
    · left
      rw [haccepted]
      exact ⟨rfl, rfl, rfl, hlast, id⟩
    · right
      left
      rw [haccepted]
      exact ⟨hstart, hend', hstored, rfl, rfl, hend, hlast, id⟩
  | recv caller queueId buf size =>
    obtain ⟨r, hrecv, rfl⟩ := step_recv.mp hstep
    have htakes : (ThreadCall.recv caller queueId buf size).takesMessage s.queues =
        r.sender.isSome := by
      simp only [ThreadCall.takesMessage, hrecv]
    -- nothing taken, taken with a wrong size, or taken from the start index
    rcases recvMessage_ring hrecv with ⟨hsender, hqueues, hwrong⟩ |
      ⟨hsender, -, -, hstored, hwrong⟩ | ⟨hsender, hne, hstart, hend, hstored, hwrong⟩
    · left
      rw [htakes, hsender]
      exact ⟨hqueues, rfl, rfl, id, hwrong⟩
    · right
      right
      right
      rw [htakes, hsender]
      exact ⟨hstored, rfl, rfl, hwrong⟩
    · right
      right
      left
      rw [htakes, hsender]
      exact ⟨hstart, hend, hne, hstored, rfl, rfl, id, hwrong⟩

/-- A step that neither uses the last place nor takes a message of another size keeps the ring. -/
theorem RingInvariant.step (h : RingInvariant s) (hstep : RingRun.step c s = some s')
    (hlast : ¬ LastPlace c s.queues) (hwrong : ¬ WrongSize c s.queues) : RingInvariant s' := by
  obtain ⟨hstart, hend, hdistance, hstored⟩ := h
  have hsize : (storageSize : ℕ) = 100 := rfl
  rcases RingRun.step_cases hstep with ⟨hqueues, hsent, htaken, -, -⟩ |
    ⟨hstart', hend', hstored', hsent, htaken, hlt, hplace, -⟩ |
    ⟨hstart', hend', hne, hstored', hsent, htaken, -, -⟩ | ⟨-, -, -, hwrong'⟩
  · refine ⟨?_, ?_, ?_, ?_⟩
    · rwa [hqueues]
    · rwa [hqueues]
    · rwa [hqueues]
    · rw [hqueues, hsent, htaken]
      exact hstored
  · have hnext : s.queues.endStorage + 1 ≠ storageSize := mt hplace.mpr hlast
    refine ⟨?_, ?_, ?_, ?_⟩
    · rwa [hstart']
    · rw [hend']
      exact lt_of_le_of_ne hlt hnext
    · rw [hsize] at hdistance ⊢
      omega
    · omega
  · refine ⟨?_, ?_, ?_, ?_⟩
    · rw [hstart']
      exact Nat.mod_lt _ (by decide)
    · rwa [hend']
    · rw [hsize] at hdistance hstart' ⊢
      omega
    · omega
  · exact absurd hwrong' hwrong

/-- Any other step breaks it: the end leaves the ring, or a message is taken that is still counted. -/
theorem RingInvariant.not_step (h : RingInvariant s) (hstep : RingRun.step c s = some s')
    (hbad : LastPlace c s.queues ∨ WrongSize c s.queues) : ¬ RingInvariant s' := by
  intro h'
  rcases RingRun.step_cases hstep with ⟨-, -, -, hlast, hwrong⟩ |
    ⟨-, hend', -, -, -, -, hplace, hwrong⟩ | ⟨-, -, -, -, -, -, hlast, hwrong⟩ |
    ⟨hstored', hsent, htaken, -⟩
  · exact hbad.elim hlast hwrong
  · have hend := h'.end_lt
    rw [hend', hplace.mp (hbad.resolve_right hwrong)] at hend
    exact lt_irrefl _ hend
  · exact hbad.elim hlast hwrong
  · have hstored := h.stored_eq
    have hcount := h'.stored_eq
    omega

end

/-! ## Runs -/

/-- Before the first message the ring is empty. -/
theorem ringInvariant_setUp {setup : List SetupCall} {Q : IpcQueues}
    (h : setUp .riot setup = some Q) : RingInvariant ⟨Q, 0, 0⟩ := by
  obtain ⟨-, -, hstart, hend, hstored⟩ := fresh_setUp h
  refine ⟨?_, ?_, ?_, ?_⟩
  · show Q.startStorage < storageSize
    rw [hstart]
    decide
  · show Q.endStorage < storageSize
    rw [hend]
    decide
  · show ((Q.endStorage : ℤ) - Q.startStorage) % _ = (Q.storedElements : ℤ) % _
    rw [hstart, hend, hstored]
    rfl
  · exact hstored

/-- **The ring is kept** in every state of a run of calls exactly if no message is stored in its last
place and none of another size is taken. -/
theorem storageRing_iff (setup : List SetupCall) (Q : IpcQueues) (hsetup : setUp .riot setup = some Q)
    (calls : List ThreadCall) :
    (∀ s ∈ visited RingRun.step calls ⟨Q, 0, 0⟩, RingInvariant s) ↔
      ∀ t ∈ taken RingRun.step calls ⟨Q, 0, 0⟩,
        ¬ LastPlace t.1 t.2.queues ∧ ¬ WrongSize t.1 t.2.queues := by
  have hgood : ∀ c s s', RingInvariant s → RingRun.step c s = some s' →
      (¬ LastPlace c s.queues ∧ ¬ WrongSize c s.queues) → RingInvariant s' :=
    fun c s s' h hstep hgood => h.step hstep hgood.1 hgood.2
  have hbad : ∀ c s s', RingInvariant s → RingRun.step c s = some s' →
      ¬ (¬ LastPlace c s.queues ∧ ¬ WrongSize c s.queues) → ¬ RingInvariant s' := by
    intro c s s' h hstep hbad
    rw [← not_or, not_not] at hbad
    exact h.not_step hstep hbad
  exact forall_visited_iff RingInvariant (fun _ h => h) hgood hbad calls (ringInvariant_setUp hsetup)

/-- There is room behind the next place, and the first message for the caller is of full size. -/
def staysInRing : ThreadCall → IpcQueues → Bool
  | .send .., Q => Q.endStorage + 1 != storageSize
  | .recv caller queueId _ _, Q => (Q.mailbox caller).head?.all fun m =>
      (List.finRange Config.maxQueues).all fun q =>
        queueId != q + 1 || m.type.toNat == (Q.queues q).messageSize

theorem not_lastPlace_of_staysInRing {c : ThreadCall} {Q : IpcQueues} (h : staysInRing c Q = true) :
    ¬ LastPlace c Q ∧ ¬ WrongSize c Q := by
  cases c with
  | send caller queueId msg size pid =>
    refine ⟨fun hlast => ?_, id⟩
    simp [staysInRing, hlast.2.2] at h
  | recv caller queueId buf size =>
    refine ⟨id, ?_⟩
    rintro ⟨-, -, q, hid, m, hm, hne⟩
    simp only [staysInRing, Option.all_eq_true, List.all_eq_true] at h
    have hq := h m hm q (List.mem_finRange q)
    simp [hid, hne] at hq

/-- Two threads that exchange messages of full size. -/
theorem storageRing_exchange :
    ∃ Q, setUp .riot twoQueues = some Q ∧
      (taken RingRun.step exchange ⟨Q, 0, 0⟩).length = 4 ∧
      ∀ s ∈ visited RingRun.step exchange ⟨Q, 0, 0⟩, RingInvariant s := by
  have heval : (setUp .riot twoQueues).map (fun Q => decide
      ((taken RingRun.step exchange ⟨Q, 0, 0⟩).length = 4 ∧
        ∀ t ∈ taken RingRun.step exchange ⟨Q, 0, 0⟩, staysInRing t.1 t.2.queues = true)) =
      some true := by
    decide +kernel
  obtain ⟨Q, hsetup, heval⟩ := Option.map_eq_some_iff.mp heval
  obtain ⟨hlength, hstays⟩ := of_decide_eq_true heval
  refine ⟨Q, hsetup, hlength, (storageRing_iff twoQueues Q hsetup exchange).mpr fun t ht => ?_⟩
  exact not_lastPlace_of_staysInRing (hstays t ht)

/-- Thread 1 sends itself ten bytes, and does not get them. -/
def shortToSelf : List ThreadCall :=
  [.send 1 1 (fun _ => 7) 10 1, .recv 1 1 (fun _ => 0) Config.maxMessageSize]

/-- A message that is taken and not returned is still counted. -/
theorem storageRing_shortToSelf :
    ∃ Q, setUp .riot twoQueues = some Q ∧
      ∃ s ∈ visited RingRun.step shortToSelf ⟨Q, 0, 0⟩,
        s.sent = 1 ∧ s.taken = 1 ∧ s.queues.storedElements = 1 ∧ ¬ RingInvariant s := by
  have heval : (setUp .riot twoQueues).map (fun Q => decide
      ((lastVisited RingRun.step shortToSelf ⟨Q, 0, 0⟩).sent = 1 ∧
        (lastVisited RingRun.step shortToSelf ⟨Q, 0, 0⟩).taken = 1 ∧
        (lastVisited RingRun.step shortToSelf ⟨Q, 0, 0⟩).queues.storedElements = 1)) =
      some true := by
    decide +kernel
  obtain ⟨Q, hsetup, heval⟩ := Option.map_eq_some_iff.mp heval
  obtain ⟨hsent, htaken, hstored⟩ := of_decide_eq_true heval
  refine ⟨Q, hsetup, _, lastVisited_mem_visited _ _, hsent, htaken, hstored, fun h => ?_⟩
  have hcount := h.stored_eq
  rw [hsent, htaken, hstored] at hcount
  exact absurd hcount (by decide)

end WmnIot
