import WmnIot.Model.RadioFrames

/-! # Putting a control packet together

A control packet of `PACKET_SIZE_MAC` bytes comes in eight chunks. `_recv_first_32_bytes` gets the
pointers to the position and to the number of remaining bytes in each other's place, so that the
chunks behind the first one are copied from position −32 on.

* **`Delivered`** — what the driver announces while the chunks of a packet come in.
* **`Reassembles`** — the packet is put together.
* **`recvRemainingPacket_targets`** — the copies that were made are kept in the list.
* **`reassembles_iff`** — it is put together exactly if no second frame is copied. -/

namespace WmnIot

/-! ## The chunks of a packet -/

/-- The chunks a control packet is sent in. -/
abbrev Config.numberChunks : ℕ := 8

example : Config.numberChunks * Config.maxPayloadWidth = Config.packetSizeMac := by decide

/-- One chunk of a packet. -/
def chunk (sent : ByteString) (k : ℕ) : Frame32 := fun i =>
  sent (Fin.ofNat _ (Config.maxPayloadWidth * k + i))

/-- The polls while the packet comes in, when `k` chunks are there already: the radio is empty, and
then a read leaves the buffer as it was, or it has the next chunk. -/
inductive Delivered (sent : ByteString) : ℕ → List RadioPoll → Prop
  | nil {k : ℕ} : Delivered sent k []
  | empty {k : ℕ} {p : RadioPoll} {ps : List RadioPoll} (hlen : p.len = 0) (hbuf : p.buf = 0)
      (hps : Delivered sent k ps) : Delivered sent k (p :: ps)
  | chunk {k : ℕ} {p : RadioPoll} {ps : List RadioPoll} (hk : k < Config.numberChunks)
      (hlen : p.len = Config.maxPayloadWidth) (hret : p.ret = Config.maxPayloadWidth)
      (hbuf : p.buf = chunk sent k) (hps : Delivered sent (k + 1) ps) : Delivered sent k (p :: ps)

/-- The polls of a driver that has every chunk at once. -/
def chunkPolls (sent : ByteString) (k : ℕ) : List RadioPoll :=
  (List.range' k (Config.numberChunks - k)).map fun k =>
    ⟨Config.maxPayloadWidth, chunk sent k, Config.maxPayloadWidth, false, false⟩

/-- Such a driver delivers the packet. -/
theorem delivered_chunkPolls (sent : ByteString) {n k : ℕ} (h : k + n = Config.numberChunks) :
    Delivered sent k (chunkPolls sent k) := by
  induction n generalizing k with
  | zero =>
    have hnone : Config.numberChunks - k = 0 := by omega
    rw [chunkPolls, hnone]
    exact .nil
  | succ n ih =>
    have hsome : Config.numberChunks - k = Config.numberChunks - (k + 1) + 1 := by omega
    rw [chunkPolls, hsome, List.range'_succ, List.map_cons]
    exact .chunk (by omega) rfl rfl rfl (ih (by omega))

/-! ## What is expected -/

/-- The radio is empty. -/
def RadioPoll.Empty (p : RadioPoll) : Prop := p.len = 0

instance (p : RadioPoll) : Decidable p.Empty := inferInstanceAs (Decidable (_ = _))

/-- No timer has passed and there are retries left: the first chunk is not there and the timer of the
reception has not passed in an empty poll, or the first chunk is there, the slot timer has not passed
in an empty poll and there are at most `retransmissions` of them in a row. -/
structure StillWaiting (retransmissions : ℕ) (polls : List RadioPoll) : Prop where
  timer : ∀ p ∈ polls.takeWhile fun p => p.Empty, p.timerPassed = false
  slot : ∀ p ∈ polls.dropWhile fun p => p.Empty, p.Empty → p.slotPassed = false
  retries : ∀ before empties behind,
    (polls.dropWhile fun p => p.Empty) = before ++ empties ++ behind →
    (∀ p ∈ empties, p.Empty) → empties.length ≤ retransmissions

/-- The two calls put the packet together: every copy is within the array, the array is the packet
when both return true, and they go on only while no timer has passed and there are retries left. -/
structure Reassembles (retransmissions : ℕ) (timerSet : Bool) (sent : ByteString)
    (polls : List RadioPoll) : Prop where
  inBounds : ∀ t ∈ (receiveBytes retransmissions timerSet polls).state.targets,
    0 ≤ t ∧ t + Config.maxPayloadWidth ≤ Config.packetSizeMac
  exact : ∀ s rest, receiveBytes retransmissions timerSet polls = .returned true s rest →
    ∀ k : Fin Config.packetSizeMac, s.outBuf (k : ℕ) = sent k
  ends : ∀ s, receiveBytes retransmissions timerSet polls = .polling s →
    StillWaiting retransmissions polls

/-- The first chunk comes before the timer of the reception passes, and the read of the poll behind
it does not fail. -/
def SecondCopy : List RadioPoll → Prop
  | [] => False
  | p :: ps =>
    if p.Empty then p.timerPassed = false ∧ SecondCopy ps else ∃ q ∈ ps.head?, 0 ≤ q.ret

theorem secondCopy_cons_empty {p : RadioPoll} (ps : List RadioPoll) (hempty : p.Empty) :
    SecondCopy (p :: ps) ↔ p.timerPassed = false ∧ SecondCopy ps := by
  rw [SecondCopy, if_pos hempty]

theorem secondCopy_cons_chunk {p : RadioPoll} (ps : List RadioPoll) (hfull : ¬ p.Empty) :
    SecondCopy (p :: ps) ↔ ∃ q ∈ ps.head?, 0 ≤ q.ret := by
  rw [SecondCopy, if_neg hfull]

/-! ## The rest of the packet -/

/-- The number of announced bytes is not less than its minimum with another number. -/
theorem not_len_lt_min (remaining len : ℤ) : ¬ len < if remaining < len then remaining else len := by
  split <;> omega

/-- A frame is copied whatever the driver announces, unless it cannot be read: neither the slot timer
nor the retries matter. -/
theorem recvRemainingPacket_cons (retransmissions maxRecv : ℤ) (p : RadioPoll)
    (ps : List RadioPoll) (s : RecvState) :
    recvRemainingPacket retransmissions maxRecv (p :: ps) s =
      if p.ret < 0 then .returned false s ps
      else if (s.take s.pos p.buf).remainingBytes > 0 then
        recvRemainingPacket retransmissions retransmissions ps (s.take s.pos p.buf)
      else .returned true (s.take s.pos p.buf) ps :=
  if_neg (not_len_lt_min _ _)

/-- The copies that were made are kept in the list. -/
theorem recvRemainingPacket_targets (retransmissions maxRecv : ℤ) (polls : List RadioPoll)
    {s : RecvState} {t : ℤ} (ht : t ∈ s.targets) :
    t ∈ (recvRemainingPacket retransmissions maxRecv polls s).state.targets := by
  induction polls generalizing maxRecv s with
  | nil => exact ht
  | cons p ps ih =>
    rw [recvRemainingPacket_cons]
    have htake : t ∈ (s.take s.pos p.buf).targets := List.mem_append_left _ ht
    by_cases hret : p.ret < 0
    · rw [if_pos hret]
      exact ht
    · rw [if_neg hret]
      by_cases hmore : (s.take s.pos p.buf).remainingBytes > 0
      · rw [if_pos hmore]
        exact ih _ htake
      · rw [if_neg hmore]
        exact htake

/-- A frame that is read is copied to the current position, also when it is empty. -/
theorem recvRemainingPacket_copies (retransmissions maxRecv : ℤ) {p : RadioPoll}
    (ps : List RadioPoll) (s : RecvState) (hret : 0 ≤ p.ret) :
    s.pos ∈ (recvRemainingPacket retransmissions maxRecv (p :: ps) s).state.targets := by
  have htake : s.pos ∈ (s.take s.pos p.buf).targets :=
    List.mem_append_right _ (List.mem_singleton_self _)
  rw [recvRemainingPacket_cons, if_neg (not_lt.mpr hret)]
  by_cases hmore : (s.take s.pos p.buf).remainingBytes > 0
  · rw [if_pos hmore]
    exact recvRemainingPacket_targets _ _ _ htake
  · rw [if_neg hmore]
    exact htake

/-! ## The two calls -/

/-- What the second call makes of the result of the first. -/
def thenRemaining (retransmissions : ℤ) : RecvResult → RecvResult
  | .polling s => .polling s
  | .returned false s rest => .returned false s rest
  | .returned true s rest =>
    recvRemainingPacket retransmissions retransmissions rest
      { s with remainingBytes := s.pos, pos := s.remainingBytes }

/-- The state the first call starts in. -/
def firstState : RecvState where
  remainingBytes := 0
  pos := Config.packetSizeMac
  outBuf := fun _ => 0

/-- With a timer, the first call polls. -/
theorem receiveBytes_eq (retransmissions : ℤ) (polls : List RadioPoll) :
    receiveBytes retransmissions true polls =
      thenRemaining retransmissions (recvFirstLoop 1 polls firstState) := by
  show thenRemaining retransmissions (recvFirst32Bytes 1 true polls firstState) = _
  rfl

/-- Without one, it returns false at once. -/
theorem receiveBytes_unset (retransmissions : ℤ) (polls : List RadioPoll) :
    receiveBytes retransmissions false polls = .returned false firstState polls := rfl

/-- An empty poll is passed over until the timer has passed. -/
theorem receiveBytes_empty (retransmissions : ℤ) {p : RadioPoll} (ps : List RadioPoll)
    (hlen : p.len = 0) : receiveBytes retransmissions true (p :: ps) =
      if p.timerPassed then .returned false firstState ps
      else receiveBytes retransmissions true ps := by
  have hne : p.len ≠ Config.maxPayloadWidth := by
    rw [hlen]
    decide
  rw [receiveBytes_eq, receiveBytes_eq, recvFirstLoop, if_pos hne]
  by_cases hpassed : p.timerPassed
  · rw [if_pos hpassed, if_pos hpassed]
    rfl
  · rw [if_neg hpassed, if_neg hpassed]

/-- The first chunk is copied to the start, and then the two numbers are exchanged. -/
theorem receiveBytes_chunk (retransmissions : ℤ) {p : RadioPoll} (ps : List RadioPoll)
    (hlen : p.len = Config.maxPayloadWidth) (hret : 0 ≤ p.ret) (htype : p.buf 0 = 1) :
    ∃ outBuf, receiveBytes retransmissions true (p :: ps) =
      recvRemainingPacket retransmissions retransmissions ps ⟨288, -32, outBuf, [0]⟩ := by
  refine ⟨(firstState.take 0 p.buf).outBuf, ?_⟩
  rw [receiveBytes_eq, recvFirstLoop, if_neg (not_not.mpr hlen), if_neg (not_lt.mpr hret),
    if_neg (not_not.mpr htype)]
  rfl

/-! ## Putting it together -/

/-- The copies of a result are within the array. -/
def RecvResult.InBounds (r : RecvResult) : Prop :=
  ∀ t ∈ r.state.targets, 0 ≤ t ∧ t + Config.maxPayloadWidth ≤ Config.packetSizeMac

/-- The copies to the start alone are within the array. -/
theorem RecvResult.inBounds_of_start {r : RecvResult} (h : ∀ t ∈ r.state.targets, t = 0) :
    r.InBounds := by
  intro t ht
  rw [h t ht]
  decide

/-- Nothing is wrong with calls that give up before the second copy. -/
theorem Reassembles.of_returned {retransmissions : ℕ} {timerSet : Bool} {sent : ByteString}
    {polls rest : List RadioPoll} {s : RecvState}
    (h : receiveBytes retransmissions timerSet polls = .returned false s rest)
    (hstart : ∀ t ∈ s.targets, t = 0) : Reassembles retransmissions timerSet sent polls where
  inBounds := by
    rw [h]
    exact RecvResult.inBounds_of_start hstart
  exact s' rest' htrue := by
    rw [h] at htrue
    cases htrue
  ends s' hpolling := by
    rw [h] at hpolling
    cases hpolling

/-- Nothing is wrong with calls that still wait for the second frame. -/
theorem Reassembles.of_polling {retransmissions : ℕ} {timerSet : Bool} {sent : ByteString}
    {polls : List RadioPoll} {s : RecvState}
    (h : receiveBytes retransmissions timerSet polls = .polling s)
    (hstart : ∀ t ∈ s.targets, t = 0) (hwaiting : StillWaiting retransmissions polls) :
    Reassembles retransmissions timerSet sent polls where
  inBounds := by
    rw [h]
    exact RecvResult.inBounds_of_start hstart
  exact s' rest' htrue := by
    rw [h] at htrue
    cases htrue
  ends _ _ := hwaiting

/-- Before any poll, no timer has passed. -/
theorem StillWaiting.nil (retransmissions : ℕ) : StillWaiting retransmissions [] where
  timer p hp := absurd hp List.not_mem_nil
  slot p hp := absurd hp List.not_mem_nil
  retries before empties behind hsplit _ := by
    have hlength := congrArg List.length hsplit
    rw [List.dropWhile_nil, List.length_nil, List.length_append, List.length_append] at hlength
    omega

/-- Neither does one pass in the poll of the first chunk. -/
theorem StillWaiting.chunk (retransmissions : ℕ) {p : RadioPoll} (hp : ¬ p.Empty) :
    StillWaiting retransmissions [p] := by
  have hdrop : [p].dropWhile (fun p => p.Empty) = [p] := List.dropWhile_cons_of_neg (by simpa using hp)
  have htake : [p].takeWhile (fun p => p.Empty) = [] := List.takeWhile_cons_of_neg (by simpa using hp)
  refine ⟨?_, ?_, ?_⟩
  · intro q hq
    rw [htake] at hq
    exact absurd hq List.not_mem_nil
  · intro q hq hempty
    rw [hdrop, List.mem_singleton] at hq
    exact absurd (hq ▸ hempty) hp
  · intro before empties behind hsplit hempty
    rw [hdrop] at hsplit
    have hnone : empties = [] := by
      refine List.eq_nil_iff_forall_not_mem.mpr fun q hq => ?_
      have hmem : q ∈ [p] := by
        rw [hsplit]
        exact List.mem_append_left _ (List.mem_append_right _ hq)
      exact hp (List.mem_singleton.mp hmem ▸ hempty q hq)
    rw [hnone]
    exact Nat.zero_le _

/-- An empty poll before the first chunk in which the timer has not passed makes no difference. -/
theorem stillWaiting_cons {retransmissions : ℕ} {p : RadioPoll} {ps : List RadioPoll}
    (hempty : p.Empty) (hpassed : p.timerPassed = false) :
    StillWaiting retransmissions (p :: ps) ↔ StillWaiting retransmissions ps := by
  have hdrop : (p :: ps).dropWhile (fun p => p.Empty) = ps.dropWhile fun p => p.Empty :=
    List.dropWhile_cons_of_pos (by simpa using hempty)
  have htake : (p :: ps).takeWhile (fun p => p.Empty) = p :: ps.takeWhile fun p => p.Empty :=
    List.takeWhile_cons_of_pos (by simpa using hempty)
  constructor
  · rintro ⟨htimer, hslot, hretries⟩
    rw [htake] at htimer
    rw [hdrop] at hslot hretries
    exact ⟨fun q hq => htimer q (List.mem_cons_of_mem _ hq), hslot, hretries⟩
  · rintro ⟨htimer, hslot, hretries⟩
    refine ⟨?_, ?_, ?_⟩
    · rw [htake]
      exact List.forall_mem_cons.mpr ⟨hpassed, htimer⟩
    · rwa [hdrop]
    · rwa [hdrop]

/-- Neither is there a difference for the packet. -/
theorem reassembles_cons_empty {retransmissions : ℕ} {sent : ByteString} {p : RadioPoll}
    {ps : List RadioPoll} (hempty : p.Empty) (hpassed : p.timerPassed = false) :
    Reassembles retransmissions true sent (p :: ps) ↔ Reassembles retransmissions true sent ps := by
  have hcall := receiveBytes_empty retransmissions ps hempty
  rw [hpassed, if_neg (by decide)] at hcall
  constructor
  · rintro ⟨hbounds, hexact, hends⟩
    rw [hcall] at hbounds hexact hends
    exact ⟨hbounds, hexact, fun s hs => (stillWaiting_cons hempty hpassed).mp (hends s hs)⟩
  · rintro ⟨hbounds, hexact, hends⟩
    rw [← hcall] at hbounds hexact hends
    exact ⟨hbounds, hexact, fun s hs => (stillWaiting_cons hempty hpassed).mpr (hends s hs)⟩

/-- **A second copy** is made to position −32. -/
theorem not_reassembles_of_ret {retransmissions : ℕ} {sent : ByteString} {p q : RadioPoll}
    {qs : List RadioPoll} (hlen : p.len = Config.maxPayloadWidth) (hret : 0 ≤ p.ret)
    (htype : p.buf 0 = 1) (hsecond : 0 ≤ q.ret) :
    ¬ Reassembles retransmissions true sent (p :: q :: qs) := by
  intro h
  obtain ⟨outBuf, hcall⟩ := receiveBytes_chunk retransmissions (q :: qs) hlen hret htype
  have hbounds := h.inBounds
  rw [hcall] at hbounds
  have hneg := hbounds (-32) (recvRemainingPacket_copies _ _ qs ⟨288, -32, outBuf, [0]⟩ hsecond)
  omega

/-- **Putting a control packet together**: when every chunk is delivered once and in order, with any
number of empty polls between them, the two calls put the packet together exactly if they do not get
to a second copy. -/
theorem reassembles_iff (retransmissions : ℕ) (timerSet : Bool) {sent : ByteString}
    (htype : sent 0 = 1) {polls : List RadioPoll} (h : Delivered sent 0 polls) :
    Reassembles retransmissions timerSet sent polls ↔ ¬ (timerSet = true ∧ SecondCopy polls) := by
  cases timerSet with
  | false =>
    -- without the timer the call returns at once, and has stored nothing
    have hgood : Reassembles retransmissions false sent polls :=
      .of_returned (receiveBytes_unset _ polls) fun t ht => absurd ht List.not_mem_nil
    exact iff_of_true hgood (by simp)
  | true =>
    simp only [true_and]
    generalize hk0 : 0 = k at h
    induction h with
    | nil =>
      have hgood : Reassembles retransmissions true sent [] :=
        .of_polling (receiveBytes_eq _ []) (fun t ht => absurd ht List.not_mem_nil) (.nil _)
      exact iff_of_true hgood not_false
    | @empty k p ps hlen hbuf hps ih =>
      -- an empty poll ends the call if the timer has passed, and changes nothing otherwise
      cases hpassed : p.timerPassed with
      | true =>
        have hcall := receiveBytes_empty retransmissions ps hlen
        rw [hpassed, if_pos rfl] at hcall
        have hgood : Reassembles retransmissions true sent (p :: ps) :=
          .of_returned hcall fun t ht => absurd ht List.not_mem_nil
        refine iff_of_true hgood fun hsecond => ?_
        have hnot := ((secondCopy_cons_empty ps hlen).mp hsecond).1
        exact absurd (hpassed.symm.trans hnot) (by decide)
      | false =>
        rw [reassembles_cons_empty hlen hpassed, secondCopy_cons_empty ps hlen,
          and_iff_right hpassed]
        exact ih hk0
    | @chunk k p ps hk hlen hret hbuf hps ih =>
      have htype' : p.buf 0 = 1 := by
        rw [hbuf, ← hk0]
        exact htype
      have hret' : 0 ≤ p.ret := by
        rw [hret]
        decide
      have hfull : ¬ p.Empty := by
        rw [RadioPoll.Empty, hlen]
        decide
      -- the first chunk is copied, and the rest of the packet is waited for
      obtain ⟨outBuf, hcall⟩ := receiveBytes_chunk retransmissions ps hlen hret' htype'
      rw [secondCopy_cons_chunk ps hfull]
      cases ps with
      | nil =>
        have hgood : Reassembles retransmissions true sent [p] :=
          .of_polling hcall (fun t ht => List.mem_singleton.mp ht) (.chunk _ hfull)
        exact iff_of_true hgood (by simp)
      | cons q qs =>
        -- the next poll decides: a chunk is copied by the swapped arguments
        by_cases hsecond : 0 ≤ q.ret
        · refine iff_of_false (not_reassembles_of_ret hlen hret' htype' hsecond) ?_
          exact not_not.mpr ⟨q, rfl, hsecond⟩
        · rw [recvRemainingPacket_cons, if_pos (not_le.mp hsecond)] at hcall
          have hgood : Reassembles retransmissions true sent (p :: q :: qs) :=
            .of_returned hcall fun t ht => List.mem_singleton.mp ht
          refine iff_of_true hgood ?_
          rintro ⟨q', hq', hsecond'⟩
          exact hsecond (Option.some.inj hq' ▸ hsecond')

/-- A packet of zeros behind its type byte. -/
def zeroPacket : ByteString := fun k => if k = 0 then 1 else 0

/-- A poll with an empty radio behind the first chunk is copied, too. -/
theorem reassembles_iff_emptyPoll :
    Delivered zeroPacket 0
      [⟨32, chunk zeroPacket 0, 32, false, false⟩, ⟨0, 0, 0, false, false⟩] ∧
    (Reassembles 15 true zeroPacket
        [⟨32, chunk zeroPacket 0, 32, false, false⟩, ⟨0, 0, 0, false, false⟩] ↔
      ¬ (true = true ∧ SecondCopy
        [⟨32, chunk zeroPacket 0, 32, false, false⟩, ⟨0, 0, 0, false, false⟩])) := by
  have h : Delivered zeroPacket 0
      [⟨32, chunk zeroPacket 0, 32, false, false⟩, ⟨0, 0, 0, false, false⟩] :=
    .chunk (by decide) rfl rfl rfl (.empty rfl rfl .nil)
  exact ⟨h, reassembles_iff 15 true rfl h⟩

/-- When the eight chunks come at once, the second one is copied to position −32. -/
theorem not_reassembles_chunkPolls :
    zeroPacket 0 = 1 ∧ Delivered zeroPacket 0 (chunkPolls zeroPacket 0) ∧
      ¬ Reassembles 15 true zeroPacket (chunkPolls zeroPacket 0) :=
  ⟨rfl, delivered_chunkPolls zeroPacket (Nat.zero_add 8),
    not_reassembles_of_ret rfl (by decide) rfl (by decide)⟩

end WmnIot
