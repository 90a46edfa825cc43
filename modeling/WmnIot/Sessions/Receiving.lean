import WmnIot.PowerMode.Reception
import WmnIot.Queues.HandingUp
import WmnIot.Sessions.Sending

/-! # What a session hands up of what it receives

During a session of `MEDIUM_ACCESS` data packets are received in `RECEIVE` and handed up in
`PASSIVE`. As many wait as were received and not handed up. The first ten that are handed up are the
first ten that were received, in order. From the eleventh on the reader is ten entries off, and what
it hands up has been received in the session, or stood in the ring before, or is a cleared packet.

* **`dataReceived`** — the strings that the turns of the loop store as received packets.
* **`HandsUpInOrder`** — what was handed up, against what was received.
* **`session_handsUpInOrder`** — the sessions. -/

namespace WmnIot

open RingBuffer Runs

/-! ## Received packets -/

/-- The string that a turn of the loop of `RECEIVE` stores, if the slot has not ended. -/
def ReceivePoll.stored (p : ReceivePoll) (n : Node) : List ByteString :=
  if timeoutPassed (n.tick p.tick).timeouts n.mac.frame.slotTimer = 1 then [] else [p.byteString]

/-- The node that has heard a control packet goes on to receive data packets: the packet passes the
checks, and there is room. -/
def EntersData (heard : Node × Bool) : Prop :=
  heard.2 = true ∧ ¬ NamesOwnPlace heard.1 ∧
    (SameSlot heard.1 ∧ notOnTime heard.1.networkTime heard.1.mac.ctrlpktRecv.networkTime = false) ∧
    heard.1.mac.received.numberPacketsReceived.toNat < receivedCapacity

instance (heard : Node × Bool) : Decidable (EntersData heard) :=
  inferInstanceAs (Decidable (_ ∧ _ ∧ _ ∧ _))

/-- The strings that a turn of the loop of `MEDIUM_ACCESS` stores as received packets. -/
def dataReceived (build : Build) (inp : PmInput) (n : Node) : List ByteString :=
  let heard := mclmacReceiveControlPacket build inp.attempt₁ n
  if n.powerMode.currentState = .receive ∧ EntersData heard then
    loopRecorded ReceivePoll.stored (receivePoll build) inp.receive heard.1
  else []

/-- The strings that were handed up from the first state to the second. -/
def handedSince (n₀ n : Node) : List ByteString := n.handedUp.drop n₀.handedUp.length

/-- The received packets, what was handed up of them, and what uninitialised variables hold. -/
def Node.reception (n : Node) : ReceivedQueue × List ByteString × (ℕ → UInt8) :=
  (n.mac.received, n.handedUp, n.junk)

/-- A packet that is not one received since the first state: a cleared one, or one that was in the
ring then. -/
def Stale (n₀ : Node) (b : ByteString) : Prop :=
  b = datapacketBytes n₀.junk datapacketClear ∨
    ∃ entry, b = datapacketBytes n₀.junk (n₀.mac.received.packetsReceived entry)

variable {build : Build} {n₀ n n' m : Node} {strings : List ByteString} {ret : PmExecution}

theorem handedSince_of_append {handed : List ByteString} (h : n.handedUp = n₀.handedUp ++ handed) :
    handedSince n₀ n = handed := by
  rw [handedSince, h, List.drop_left]

/-! ## The invariant -/

/-- Since the first state the strings were received, and some of them handed up. -/
structure HandsUpInOrder (n₀ n : Node) (strings : List ByteString) : Prop where
  handedUp : n₀.handedUp <+: n.handedUp
  junk : n.junk = n₀.junk
  number : n.mac.received.numberPacketsReceived.toNat + (handedSince n₀ n).length = strings.length
  number_le : n.mac.received.numberPacketsReceived.toNat ≤ receivedCapacity
  last : n.mac.received.lastReceived.toNat = strings.length % receivedCapacity
  first : n.mac.received.firstReceived.toNat =
    (handedSince n₀ n).length % Config.maxNumberDataPackets
  entries : ∀ k (hk : k < strings.length), (handedSince n₀ n).length ≤ k →
    k < Config.maxNumberDataPackets →
    n.mac.received.packetsReceived (Fin.ofNat _ k) = datapacketOfBytes (strings.get ⟨k, hk⟩)
  inOrder : (handedSince n₀ n).take Config.maxNumberDataPackets =
    (strings.map recoded).take (min Config.maxNumberDataPackets (handedSince n₀ n).length)
  known : ∀ b ∈ handedSince n₀ n, b ∈ strings.map recoded ∨ Stale n₀ b
  entries_known : ∀ entry, datapacketBytes n₀.junk (n.mac.received.packetsReceived entry) ∈
    strings.map recoded ∨ Stale n₀ (datapacketBytes n₀.junk (n.mac.received.packetsReceived entry))

namespace HandsUpInOrder

/-- With a ring that has just been reset nothing was received. -/
theorem start (hreceived : ∃ q, n.mac.received = ReceivedQueue.reset q) : HandsUpInOrder n n [] := by
  obtain ⟨q, hq⟩ := hreceived
  have hnone : handedSince n n = [] := by simp [handedSince]
  refine ⟨List.prefix_rfl, rfl, ?_, ?_, ?_, ?_, fun k hk => absurd hk (Nat.not_lt_zero k),
    by simp [hnone], by simp [hnone], fun entry => .inr (.inr ⟨entry, rfl⟩)⟩
  · rw [hq, hnone]
    rfl
  · rw [hq]
    exact Nat.zero_le _
  · rw [hq]
    rfl
  · rw [hq, hnone]
    rfl

theorem congr (h : HandsUpInOrder n₀ n strings) (hsame : n'.reception = n.reception) :
    HandsUpInOrder n₀ n' strings := by
  have hreceived : n'.mac.received = n.mac.received := congrArg Prod.fst hsame
  have hhanded : n'.handedUp = n.handedUp := congrArg (fun r => r.2.1) hsame
  have hjunk : n'.junk = n.junk := congrArg (fun r => r.2.2) hsame
  have hsince : handedSince n₀ n' = handedSince n₀ n := by rw [handedSince, hhanded, handedSince]
  obtain ⟨hsofar, hstill, hnumber, hle, hlast, hfirst, hentries, horder, hknown, hall⟩ := h
  rw [← hsince, ← hreceived] at hnumber hfirst
  rw [← hreceived] at hle hlast
  rw [← hsince] at horder hknown
  exact ⟨hhanded ▸ hsofar, hjunk.trans hstill, hnumber, hle, hlast, hfirst,
    by rwa [hsince, hreceived], horder, hknown, by rwa [hreceived]⟩

/-- **Storing** a packet while there is room. -/
theorem store (h : HandsUpInOrder n₀ n strings) {b : ByteString}
    (hroom : n.mac.received.numberPacketsReceived.toNat < receivedCapacity)
    (hreceived : n'.mac.received = n.mac.received.stored b) (hhanded : n'.handedUp = n.handedUp)
    (hjunk : n'.junk = n.junk) :
    HandsUpInOrder n₀ n' (strings ++ [b]) := by
  have hsame : handedSince n₀ n' = handedSince n₀ n := by rw [handedSince, hhanded, handedSince]
  have hnumber := h.number
  have hlast : n.mac.received.lastReceived.toNat < receivedCapacity := by
    rw [h.last]
    exact Nat.mod_lt _ (by decide)
  -- the ring goes on where the next string of all belongs, modulo twenty
  have hentry : Fin.ofNat receivedCapacity n.mac.received.lastReceived.toNat =
      Fin.ofNat _ strings.length := ofNat_eq_of_mod_eq (by rw [h.last, Nat.mod_mod])
  have hpackets : n'.mac.received.packetsReceived = Function.update n.mac.received.packetsReceived
      (Fin.ofNat _ strings.length) (datapacketOfBytes b) := by
    rw [hreceived, ReceivedQueue.stored, hentry]
  refine ⟨hhanded ▸ h.handedUp, hjunk.trans h.junk, ?_, ?_, ?_, ?_, fun k hk hle hlt => ?_, ?_,
    fun b' hb' => ?_, fun entry => ?_⟩
  · rw [hreceived, ReceivedQueue.stored_number, number_succ hroom, hsame, List.length_append,
      List.length_singleton]
    omega
  · rw [hreceived, ReceivedQueue.stored_number, number_succ hroom]
    exact hroom
  · rw [hreceived, ReceivedQueue.stored_last b hlast, h.last, Nat.mod_add_mod, List.length_append,
      List.length_singleton]
  · rw [hreceived, hsame]
    exact h.first
  · rw [hsame] at hle
    rw [hpackets, List.get_eq_getElem]
    rw [List.length_append, List.length_singleton] at hk
    rcases Nat.lt_or_ge k strings.length with hold | hnew
    · -- the entries are fewer than twenty apart
      have hne : Fin.ofNat receivedCapacity k ≠ Fin.ofNat _ strings.length :=
        ofNat_ne_of_lt hold (by omega)
      rw [Function.update_of_ne hne, List.getElem_append_left hold]
      exact h.entries k hold hle hlt
    · -- the new string is in the entry that was written
      obtain rfl : k = strings.length := by omega
      rw [Function.update_self, List.getElem_append_right le_rfl]
      simp
  · rw [hsame, List.map_append, List.take_append_of_le_length (by rw [List.length_map]; omega)]
    exact h.inOrder
  · rw [hsame] at hb'
    rw [List.map_append, List.mem_append]
    exact (h.known b' hb').imp_left .inl
  · rw [hpackets, List.map_append, List.mem_append]
    -- an entry is the one that was written, or what it was before
    by_cases he : entry = Fin.ofNat _ strings.length
    · rw [he, Function.update_self]
      exact .inl (.inr (List.mem_singleton.mpr (datapacketBytes_eq_recoded _ b)))
    · rw [Function.update_of_ne he]
      exact (h.entries_known entry).imp_left .inl

/-- **Handing up** the oldest packet. -/
theorem handUp (h : HandsUpInOrder n₀ n strings) (hpos : n.mac.received.numberPacketsReceived ≠ 0)
    (hreceived : n'.mac.received = ReceivedRing.afterHandingUp n.mac.received)
    (hhanded : n'.handedUp = n.handedUp ++ [datapacketBytes n.junk n.mac.received.oldest])
    (hjunk : n'.junk = n.junk) :
    HandsUpInOrder n₀ n' strings := by
  obtain ⟨before, hbefore⟩ := h.handedUp
  rw [h.junk] at hhanded
  -- what was handed up since the first state grows by the oldest packet
  have hmore : handedSince n₀ n' =
      handedSince n₀ n ++ [datapacketBytes n₀.junk n.mac.received.oldest] := by
    rw [handedSince_of_append hbefore.symm, handedSince_of_append
      (hhanded.trans (by rw [← hbefore, List.append_assoc]))]
  have hnumber := h.number
  have hcount : 0 < n.mac.received.numberPacketsReceived.toNat :=
    Nat.pos_of_ne_zero fun h0 => hpos (UInt16.toNat_inj.mp h0)
  have hnumber' : (n.mac.received.numberPacketsReceived - 1).toNat =
      n.mac.received.numberPacketsReceived.toNat - 1 := by
    rw [UInt16.toNat_sub_of_le _ _ (UInt16.le_iff_toNat_le.mpr (by rw [UInt16.toNat_one]; omega)),
      UInt16.toNat_one]
  have hfirst : n.mac.received.firstReceived.toNat < Config.maxNumberDataPackets := by
    rw [h.first]
    exact Nat.mod_lt _ (by decide)
  have hpackets : n'.mac.received.packetsReceived = Function.update n.mac.received.packetsReceived
      (Fin.ofNat _ n.mac.received.firstReceived.toNat) datapacketClear := by
    rw [hreceived]
    rfl
  have hlength : (handedSince n₀ n').length = (handedSince n₀ n).length + 1 := by
    rw [hmore, List.length_append, List.length_singleton]
  refine ⟨hhanded ▸ h.handedUp.trans (List.prefix_append _ _), hjunk.trans h.junk, ?_, ?_, ?_, ?_,
    fun k hk hle hlt => ?_, ?_, fun b hb => ?_, fun entry => ?_⟩
  · rw [hreceived, hlength]
    show (n.mac.received.numberPacketsReceived - 1).toNat + _ = _
    omega
  · rw [hreceived]
    show (n.mac.received.numberPacketsReceived - 1).toNat ≤ _
    have := h.number_le
    omega
  · rw [hreceived]
    exact h.last
  · rw [hreceived, hlength]
    show ((n.mac.received.firstReceived + 1) % 10).toNat = _
    rw [firstSend_next hfirst, h.first, Nat.mod_add_mod]
  · -- the entry that is cleared lies before the others
    rw [hlength] at hle
    have hfirst' : n.mac.received.firstReceived.toNat = (handedSince n₀ n).length := by
      rw [h.first, Nat.mod_eq_of_lt (by omega)]
    have hround : Config.maxNumberDataPackets ≤ receivedCapacity := by decide
    have hne : Fin.ofNat receivedCapacity (handedSince n₀ n).length ≠ Fin.ofNat _ k :=
      ofNat_ne_of_lt (by omega) (by omega)
    rw [hpackets, hfirst', Function.update_of_ne hne.symm]
    exact h.entries k hk (by omega) hlt
  · have horder := h.inOrder
    rw [hlength, hmore]
    rcases Nat.lt_or_ge (handedSince n₀ n).length Config.maxNumberDataPackets with hten | hten
    · -- one of the first ten: the entry holds the string received in its place
      have hk : (handedSince n₀ n).length < strings.length := by omega
      have holdest : n.mac.received.oldest = datapacketOfBytes (strings.get ⟨_, hk⟩) := by
        rw [ReceivedQueue.oldest, h.first, Nat.mod_eq_of_lt hten]
        exact h.entries _ hk le_rfl hten
      rw [List.take_of_length_le hten.le, min_eq_right hten.le] at horder
      rw [List.take_of_length_le (by rw [List.length_append, List.length_singleton]; exact hten),
        min_eq_right hten, List.take_succ_eq_append_getElem (by rwa [List.length_map]), ← horder,
        holdest, List.getElem_map, datapacketBytes_eq_recoded]
      rfl
    · -- behind the tenth the first ten stay as they are
      rw [min_eq_left hten] at horder
      rw [List.take_append_of_le_length hten, min_eq_left (Nat.le_succ_of_le hten)]
      exact horder
  · rw [hmore, List.mem_append, List.mem_singleton] at hb
    rcases hb with hb | rfl
    · exact h.known b hb
    · exact h.entries_known _
  · rw [hpackets]
    -- the entry that is cleared holds a cleared packet then
    by_cases he : entry = Fin.ofNat _ n.mac.received.firstReceived.toNat
    · rw [he, Function.update_self]
      exact .inr (.inl rfl)
    · rw [Function.update_of_ne he]
      exact h.entries_known entry

end HandsUpInOrder

/-! ## The states -/

/-- What `mclmac_write_queue_element` does: it hands the oldest packet up, or nothing. -/
theorem mclmacWriteQueueElement_hands {ret : ℕ}
    (h : mclmacWriteQueueElement build n = .ok (n', ret)) :
    n'.reception = n.reception ∨ n.mac.received.numberPacketsReceived ≠ 0 ∧
      n'.mac.received = ReceivedRing.afterHandingUp n.mac.received ∧
      n'.handedUp = n.handedUp ++ [datapacketBytes n.junk n.mac.received.oldest] ∧
      n'.junk = n.junk := by
  unfold mclmacWriteQueueElement at h
  dsimp only at h
  split at h
  · cases h
    exact .inl rfl
  next hnumber =>
  split at h
  · cases h
    exact .inl rfl
  obtain ⟨elements, -, h⟩ := bind_eq_ok.mp h
  split at h
  · cases h
    exact .inl rfl
  split at h
  · cases h
    exact .inl rfl
  split at h
  · next hfirst =>
    obtain ⟨bytes, hbytes, h⟩ := bind_eq_ok.mp h
    obtain ⟨⟨queues, accepted⟩, -, h⟩ := bind_eq_ok.mp h
    have hentry : (⟨n.mac.received.firstReceived.toNat, hfirst⟩ : Fin receivedCapacity) =
        Fin.ofNat _ n.mac.received.firstReceived.toNat := (ofNat_of_lt hfirst).symm
    -- the entry `_first_received` is the oldest one
    have holdest : bytes = datapacketBytes n.junk n.mac.received.oldest := by
      unfold datapacketGetPacketBytestring at hbytes
      split_ifs at hbytes
      rw [ReceivedQueue.oldest, ← hentry]
      exact (Except.ok.inj hbytes).symm
    dsimp only at h
    -- `send_message` returns 0, and the packet stays, or 1
    split at h
    · cases h
      exact .inl rfl
    · cases h
      refine .inr ⟨hnumber, ?_, by rw [← holdest], rfl⟩
      rw [ReceivedRing.afterHandingUp, ← hentry]
      rfl
  · cases h

theorem pollSlotTimer_reception (tick : Tick) (n : Node) :
    (pollSlotTimer tick n).1.reception = n.reception := by
  unfold pollSlotTimer
  dsimp only
  split <;> rfl

theorem reading_reception {p : PassivePoll} (h : p.reading build n = some m) :
    m.reception = n.reception := by
  unfold PassivePoll.reading at h
  dsimp only at h
  split at h
  · split_ifs at h
    obtain rfl := Option.some.inj h
    exact pollSlotTimer_reception p.tick n
  · cases h

theorem writing_reception {p : PassivePoll} (h : p.writing build n = some m) :
    m.reception = n.reception := by
  obtain ⟨m₁, hreading, h⟩ := Option.bind_eq_some_iff.mp h
  obtain ⟨⟨m₂, ret⟩, hread, rfl⟩ := Option.map_eq_some_iff.mp h
  obtain ⟨_, _, _, hm₂, -⟩ := mclmacReadQueueElement_frame (toOption_eq_some.mp hread)
  rw [← reading_reception hreading, hm₂]
  rfl

theorem passivePoll_handsUpInOrder {p : PassivePoll} {go : Bool}
    (hn : HandsUpInOrder n₀ n strings) (h : passivePoll build p n = .ok (n', go)) :
    HandsUpInOrder n₀ n' strings := by
  rcases passivePoll_ends h with rfl | ⟨m, ret, hwriting, hwrite⟩
  · have hpolled := pollSlotTimer_reception p.tick n
    exact hn.congr hpolled
  · have hm := hn.congr (writing_reception hwriting)
    rcases mclmacWriteQueueElement_hands hwrite with hsame | ⟨hpos, hreceived, hhanded, hjunk⟩
    · exact hm.congr hsame
    · exact hm.handUp hpos hreceived hhanded hjunk

/-- **`PASSIVE`** hands up in order. -/
theorem executePassive_handsUpInOrder {polls : List PassivePoll}
    (hn : HandsUpInOrder n₀ n strings) (h : executePassive build polls n = .ok n') :
    HandsUpInOrder n₀ n' strings := by
  obtain ⟨m, hloop, -, rfl⟩ := executePassive_cases h
  have hstart : HandsUpInOrder n₀ { n with mac.frame.currentCfSlot := 0 } strings := hn.congr rfl
  have hm : HandsUpInOrder n₀ m strings :=
    pollLoop_inv (fun k => HandsUpInOrder n₀ k strings) (fun k => HandsUpInOrder n₀ k strings)
      (fun _ _ _ hk hpoll => passivePoll_handsUpInOrder hk hpoll)
      (fun _ _ _ hk hpoll => passivePoll_handsUpInOrder hk hpoll) polls hstart hloop
  exact hm.congr rfl

theorem activePoll_reception {freq : UInt32} {p : ActivePoll} {s s' : Node × ActiveLocals} {go : Bool}
    (h : activePoll build freq p s = .ok (s', go)) : s'.1.reception = s.1.reception := by
  obtain ⟨channel, -, ⟨-, rfl, -⟩ | ⟨-, -, rfl, -⟩ | ⟨-, -, rfl, -⟩⟩ := activePoll_cases h
  · obtain ⟨_, _, _, _, _, _, hturn⟩ := cfTurn_frame freq channel p.cf (s.1.tick p.tick) s.2
    rw [hturn]
    rfl
  · obtain ⟨_, _, _, _, _, _, hturn⟩ :=
      cfTurn_frame freq channel p.cf (setCfTimer build (nextCfSlot (s.1.tick p.tick))) s.2
    rw [hturn]
    rfl
  · rfl

theorem executeActive_reception {polls : List ActivePoll}
    (h : executeActive build polls n = .ok (n', ret)) : n'.reception = n.reception := by
  obtain ⟨m, l, hloop, hout⟩ := executeActive_cases h
  have hm : m.reception = n.reception :=
    (pollLoop_frame (f := fun s : Node × ActiveLocals => s.1.reception)
      (fun _ _ _ _ => activePoll_reception) polls hloop).trans rfl
  rw [← hm, show n' = (activeOutcome m l).1 from (congrArg Prod.fst hout).symm]
  simp only [activeOutcome]
  split_ifs <;> rfl

theorem transmitPoll_reception {tick : Tick} {go : Bool} (h : transmitPoll build tick n = .ok (n', go)) :
    n'.reception = n.reception := by
  have hpolled := pollSlotTimer_reception tick n
  unfold transmitPoll at h
  dsimp only at h
  split at h
  · cases h
    exact hpolled
  · obtain ⟨m, hsend, h⟩ := bind_eq_ok.mp h
    cases h
    obtain ⟨_, _, _, rfl⟩ := mclmacSendDataPacket_frame hsend
    exact hpolled

theorem executeTransmit_reception {ticks : List Tick}
    (h : executeTransmit build ticks n = .ok (n', ret)) : n'.reception = n.reception := by
  rcases executeTransmit_cases h with ⟨-, -, -, rfl⟩ | ⟨-, -, -, rfl⟩ | ⟨-, -, m, hloop, rfl⟩
  · rfl
  · rfl
  · exact (pollLoop_frame (f := Node.reception) (fun _ _ _ _ => transmitPoll_reception) ticks
      hloop).trans rfl

theorem mclmacReceiveControlPacket_reception (build : Build) (radio : CtrlRadio) (n : Node) :
    (mclmacReceiveControlPacket build radio n).1.reception = n.reception := by
  obtain ⟨_, _, h⟩ := mclmacReceiveControlPacket_frame build radio n
  rw [h]
  rfl

/-- A turn of the loop of `RECEIVE` stores what is on the air, unless the slot has ended. -/
theorem receivePoll_handsUpInOrder {p : ReceivePoll} {go : Bool}
    (hn : HandsUpInOrder n₀ n strings)
    (hroom : n.mac.received.numberPacketsReceived.toNat < receivedCapacity)
    (h : receivePoll build p n = .ok (n', go)) :
    HandsUpInOrder n₀ n' (strings ++ p.stored n) ∧
      (go = true → n'.mac.received.numberPacketsReceived.toNat < receivedCapacity) := by
  by_cases hpassed : timeoutPassed (n.tick p.tick).timeouts n.mac.frame.slotTimer = 1
  · rw [receivePoll_passed hpassed] at h
    cases h
    rw [ReceivePoll.stored, if_pos hpassed, List.append_nil]
    exact ⟨hn.congr rfl, fun hgo => (nomatch hgo)⟩
  · rw [ReceivePoll.stored, if_neg hpassed]
    by_cases hfits : n.mac.received.lastReceived.toNat < receivedCapacity ∧
        SizeFits build.os p.byteString
    · rw [receivePoll_stored hpassed hfits.1 hfits.2] at h
      cases h
      exact ⟨hn.store hroom rfl rfl rfl, fun hgo => of_decide_eq_true hgo⟩
    · rw [receivePoll_outOfBounds hpassed hfits] at h
      cases h

/-- The data phase of `RECEIVE` stores what its loop records. -/
theorem receiveData_handsUpInOrder {polls : List ReceivePoll} (hn : HandsUpInOrder n₀ n strings)
    (h : receiveData build polls n = .ok (n', ret)) :
    HandsUpInOrder n₀ n' (strings ++
      if n.mac.received.numberPacketsReceived.toNat < receivedCapacity then
        loopRecorded ReceivePoll.stored (receivePoll build) polls n
      else []) := by
  unfold receiveData at h
  by_cases hroom : n.mac.received.numberPacketsReceived.toNat < receivedCapacity
  · rw [if_pos hroom] at h ⊢
    obtain ⟨m, hloop, h⟩ := bind_eq_ok.mp h
    cases h
    have hm :
        HandsUpInOrder n₀ m (strings ++ loopRecorded ReceivePoll.stored (receivePoll build) polls n) :=
      pollLoop_recorded
        (fun k l => HandsUpInOrder n₀ k l ∧
          k.mac.received.numberPacketsReceived.toNat < receivedCapacity)
        (HandsUpInOrder n₀)
        (fun _ _ _ _ hk hpoll => by
          have hk' := receivePoll_handsUpInOrder hk.1 hk.2 hpoll
          exact ⟨hk'.1, hk'.2 rfl⟩)
        (fun _ _ _ _ hk hpoll => (receivePoll_handsUpInOrder hk.1 hk.2 hpoll).1) polls ⟨hn, hroom⟩ hloop
    exact hm.congr rfl
  · rw [if_neg hroom] at h
    rw [if_neg hroom, List.append_nil]
    cases h
    exact hn.congr rfl

/-- **`RECEIVE`** stores what arrives in its data phase. -/
theorem executeReceive_handsUpInOrder {inp : PmInput} (hmode : n.powerMode.currentState = .receive)
    (hn : HandsUpInOrder n₀ n strings)
    (h : executeReceive build inp.attempt₁ inp.attempt₂ inp.receive n = .ok (n', ret)) :
    HandsUpInOrder n₀ n' (strings ++ dataReceived build inp n) := by
  have hheard := mclmacReceiveControlPacket_reception build inp.attempt₁ n
  unfold dataReceived
  generalize hfirst : mclmacReceiveControlPacket build inp.attempt₁ n = heard at hheard ⊢
  obtain ⟨m, first⟩ := heard
  have hm : HandsUpInOrder n₀ m strings := hn.congr hheard
  -- a turn that does not reach the data phase stores nothing
  have hskip : ¬ EntersData (m, first) → n'.reception = m.reception →
      HandsUpInOrder n₀ n' (strings ++ if n.powerMode.currentState = .receive ∧ EntersData (m, first)
        then loopRecorded ReceivePoll.stored (receivePoll build) inp.receive m else []) := by
    intro hnot hsame
    rw [if_neg fun hboth => hnot hboth.2, List.append_nil]
    exact hm.congr hsame
  cases first with
  | false =>
    rw [executeReceive_lost hfirst] at h
    cases h
    exact hskip (fun henters => Bool.noConfusion henters.1)
      (mclmacReceiveControlPacket_reception build inp.attempt₂ m)
  | true =>
    rw [executeReceive_heard hfirst] at h
    split at h
    · next hplace =>
      cases h
      exact hskip (fun henters => henters.2.1 hplace) rfl
    next hplace =>
    split at h
    · next hpass =>
      have hdata := receiveData_handsUpInOrder hm h
      by_cases hroom : m.mac.received.numberPacketsReceived.toNat < receivedCapacity
      · rw [if_pos hroom] at hdata
        rw [if_pos ⟨hmode, rfl, hplace, hpass, hroom⟩]
        exact hdata
      · rw [if_neg hroom] at hdata
        rw [if_neg fun hboth => hroom hboth.2.2.2.2]
        exact hdata
    · next hfails =>
      cases h
      exact hskip (fun henters => hfails henters.2.2.1) rfl

/-! ## Sessions -/

/-- **A turn of the loop of `MEDIUM_ACCESS`** keeps the order. -/
theorem Session.handsUpInOrder {inp : PmInput} (h : Session build inp n n')
    (hn : HandsUpInOrder n₀ n strings) :
    HandsUpInOrder n₀ n' (strings ++ dataReceived build inp n) := by
  have hother : n.powerMode.currentState ≠ .receive → dataReceived build inp n = [] :=
    fun hne => if_neg fun hboth => hne hboth.1
  cases h with
  | @passive m hmode h =>
    rw [hother (by rw [hmode]; decide), List.append_nil]
    exact (executePassive_handsUpInOrder hn h).congr rfl
  | @active m hmode h hnext =>
    rw [hother (by rw [hmode]; decide), List.append_nil]
    exact (hn.congr (executeActive_reception h)).congr rfl
  | @collision m hmode h =>
    rw [hother (by rw [hmode]; decide), List.append_nil]
    exact (hn.congr (executeActive_reception h)).congr rfl
  | @transmit m hmode h =>
    rw [hother (by rw [hmode]; decide), List.append_nil]
    exact (hn.congr (executeTransmit_reception h)).congr rfl
  | @receive m hmode h => exact (executeReceive_handsUpInOrder hmode hn h).congr rfl

/-- A node whose thread has opened queue 1 and names it as the routing queue. -/
def relay : Node :=
  { firstNode with
    queues := emptyQueue
    routingQueueId := 1
    selfPid := 1 }

/-- A message for all is heard in slot 1, then a control packet of that slot and a data packet. -/
def relaying : List PmInput :=
  [{ passive := [{ tick := ⟨80000, true⟩ }] },
    { active := (List.range' 1 8).map fun j => { tick := ⟨80000 + j * 500, true⟩,
                                                 cf := if j = 1 then some {} else none } },
    { attempt₁ := .heard (controlpacketGetPacketBytestring
        { currentFrame := 2, currentSlot := 1, networkTime := 1 } 0)
      receive := [{ tick := ⟨84500, true⟩, byteString := emptyMessage },
        { tick := ⟨160000, true⟩, byteString := emptyMessage }] },
    { passive := [{ tick := ⟨160000, true⟩ }] }]

end WmnIot
