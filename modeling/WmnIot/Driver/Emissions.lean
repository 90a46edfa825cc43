import WmnIot.Driver.CollisionReports
import WmnIot.Driver.Destinations
import WmnIot.PowerMode.Announcements

/-! # What a node gives to the radio

Each state of the power-mode machine gives the radio frames of its own kind: `ACTIVE` announcements,
`TRANSMIT` one control packet and then data packets, and the others nothing. The states in which a
node joins send nothing either.

* **`Emits`** — what is sent from one state of a node to another, and the rules for it.
* **`Session.emits`** — what a turn of the loop of `MEDIUM_ACCESS` sends.
* **`MacTurn.sent`** — the other turns of the driver. -/

namespace WmnIot

open Runs

/-! ## Sending -/

/-- From the first state to the second, the radio is given frames that meet `p`, and no others. -/
def Emits (p : Transmission → Prop) (n n' : Node) : Prop :=
  ∃ out, n'.sent = n.sent ++ out ∧ ∀ t ∈ out, p t

variable {build : Build} {n n' m : Node} {p q : Transmission → Prop}

theorem Emits.of_eq (h : n'.sent = n.sent) : Emits p n n' :=
  ⟨[], by rw [h, List.append_nil], fun t ht => nomatch ht⟩

theorem Emits.trans (h : Emits p n m) (h' : Emits p m n') : Emits p n n' := by
  obtain ⟨out, hm, hout⟩ := h
  obtain ⟨out', hn', hout'⟩ := h'
  refine ⟨out ++ out', by rw [hn', hm, List.append_assoc], fun t ht => ?_⟩
  rcases List.mem_append.mp ht with ht | ht
  · exact hout t ht
  · exact hout' t ht

theorem Emits.mono (h : Emits p n n') (hpq : ∀ t, p t → q t) : Emits q n n' := by
  obtain ⟨out, hn', hout⟩ := h
  exact ⟨out, hn', fun t ht => hpq t (hout t ht)⟩

/-- One frame is sent. -/
theorem Emits.single {t : Transmission} (h : n'.sent = n.sent ++ [t]) (ht : p t) : Emits p n n' :=
  ⟨[t], h, fun _ ht' => List.mem_singleton.mp ht' ▸ ht⟩

/-- What is on the air afterwards was so before, or is one of the frames. -/
theorem Emits.mem (h : Emits p n n') {t : Transmission} (ht : t ∈ n'.sent) : t ∈ n.sent ∨ p t := by
  obtain ⟨out, hn', hout⟩ := h
  rw [hn'] at ht
  exact (List.mem_append.mp ht).imp_right (hout t)

/-- An announcement of the node. -/
def IsAnnouncement (nodeId : NodeId) (t : Transmission) : Prop :=
  ∃ destinationId, t = .cf (cfpacketCreate nodeId destinationId)

/-- A data packet. -/
def IsData (t : Transmission) : Prop :=
  ∃ bytes, t = .data bytes

/-! ## The states of the power-mode machine -/

theorem announce_emits (n : Node) (l : ActiveLocals) :
    Emits (IsAnnouncement n.nodeId) n (announce n l).1 := by
  have hsend : ∀ m : Node, ∀ destinationId, m.nodeId = n.nodeId →
      Emits (IsAnnouncement n.nodeId) m (mclmacSendCfMessage m destinationId) :=
    fun m destinationId hid => .single rfl ⟨destinationId, by rw [hid]⟩
  simp only [announce]
  split_ifs
  · exact (hsend _ _ rfl).trans (hsend _ _ rfl)
  · exact hsend _ _ rfl
  · exact hsend _ _ rfl
  · exact .of_eq rfl

theorem cfTurn_emits (selectedFreq channel : UInt32) (cf : Option CFPacket) (n : Node)
    (l : ActiveLocals) :
    Emits (IsAnnouncement n.nodeId) n (cfTurn selectedFreq channel cf n l).1 := by
  unfold cfTurn
  split
  · exact announce_emits n l
  · exact .of_eq (listenCf_sent channel cf n l).1

theorem activePoll_emits {freq : UInt32} {p : ActivePoll} {s s' : Node × ActiveLocals} {go : Bool}
    (h : activePoll build freq p s = .ok (s', go)) :
    Emits (IsAnnouncement s.1.nodeId) s.1 s'.1 := by
  obtain ⟨channel, -, ⟨-, rfl, -⟩ | ⟨-, -, rfl, -⟩ | ⟨-, -, rfl, -⟩⟩ := activePoll_cases h
  · exact cfTurn_emits freq channel p.cf (s.1.tick p.tick) s.2
  · exact cfTurn_emits freq channel p.cf (setCfTimer build (nextCfSlot (s.1.tick p.tick))) s.2
  · exact .of_eq rfl

/-- **`ACTIVE`** sends announcements. -/
theorem executeActive_emits {polls : List ActivePoll} {ret : PmExecution}
    (h : executeActive build polls n = .ok (n', ret)) : Emits (IsAnnouncement n.nodeId) n n' := by
  obtain ⟨m, l, hloop, hout⟩ := executeActive_cases h
  have hturn : ∀ p (s s' : Node × ActiveLocals) go,
      (s.1.nodeId = n.nodeId ∧ Emits (IsAnnouncement n.nodeId) n s.1) →
      activePoll build n.mac.transmitChannel p s = .ok (s', go) →
      s'.1.nodeId = n.nodeId ∧ Emits (IsAnnouncement n.nodeId) n s'.1 := by
    rintro p s s' go ⟨hid, hs⟩ hpoll
    have hkept := congrArg (fun k => k.1.nodeId) (activePoll_kept hpoll)
    have hemits := activePoll_emits hpoll
    rw [hid] at hemits
    exact ⟨hkept.trans hid, hs.trans hemits⟩
  have hm := pollLoop_inv
    (fun s : Node × ActiveLocals => s.1.nodeId = n.nodeId ∧ Emits (IsAnnouncement n.nodeId) n s.1)
    (fun s => s.1.nodeId = n.nodeId ∧ Emits (IsAnnouncement n.nodeId) n s.1)
    (fun p s s' => hturn p s s' true) (fun p s s' => hturn p s s' false) polls
    ⟨rfl, .of_eq rfl⟩ hloop
  refine hm.2.trans (.of_eq ?_)
  rw [← activeOutcome_sent m l, hout]

theorem transmitPoll_emits {tick : Tick} {go : Bool} (h : transmitPoll build tick n = .ok (n', go)) :
    Emits IsData n n' := by
  have hpoll := (pollSlotTimer_sent tick n).1
  unfold transmitPoll at h
  dsimp only at h
  split at h
  · cases h
    exact .of_eq hpoll
  · obtain ⟨m, hsend, h⟩ := bind_eq_ok.mp h
    cases h
    refine (Emits.of_eq hpoll).trans ?_
    rcases mclmacSendDataPacket_sent hsend with rfl | ⟨-, bytes, -, -, hsent⟩
    · exact .of_eq rfl
    · exact .single hsent ⟨bytes, rfl⟩

/-- **`TRANSMIT`** sends a control packet and then data packets. -/
theorem executeTransmit_emits {ticks : List Tick} {ret : PmExecution}
    (h : executeTransmit build ticks n = .ok (n', ret)) :
    ∃ m, m.sent = n.sent ++ [.control (reportOf n)] ∧ Emits IsData m n' := by
  refine ⟨afterControlPacket n, rfl, ?_⟩
  rcases executeTransmit_cases h with ⟨-, -, -, rfl⟩ | ⟨-, -, -, rfl⟩ | ⟨-, -, m, hloop, rfl⟩
  · exact .of_eq rfl
  · exact .of_eq rfl
  · have hm : Emits IsData (afterControlPacket n) m :=
      pollLoop_inv (Emits IsData (afterControlPacket n)) (Emits IsData (afterControlPacket n))
        (fun _ _ _ hs hpoll => hs.trans (transmitPoll_emits hpoll))
        (fun _ _ _ hs hpoll => hs.trans (transmitPoll_emits hpoll)) ticks (.of_eq rfl) hloop
    exact hm

theorem passivePoll_sent {p : PassivePoll} {sleep : Bool}
    (h : passivePoll build p n = .ok (n', sleep)) : n'.sent = n.sent := by
  obtain ⟨-, _, _, _, _, _, rfl, -, -⟩ := passivePoll_frame h
  exact (pollSlotTimer_sent p.tick n).1

/-- **`PASSIVE`** sends nothing. -/
theorem executePassive_sent {polls : List PassivePoll} (h : executePassive build polls n = .ok n') :
    n'.sent = n.sent := by
  obtain ⟨m, hloop, -, rfl⟩ := executePassive_cases h
  exact (pollLoop_frame (f := fun m : Node => m.sent) (fun _ _ _ _ => passivePoll_sent) polls
    hloop).trans rfl

theorem mclmacReceiveControlPacket_sent (build : Build) (radio : CtrlRadio) (n : Node) :
    (mclmacReceiveControlPacket build radio n).1.sent = n.sent := by
  obtain ⟨_, _, h⟩ := mclmacReceiveControlPacket_frame build radio n
  rw [h]

theorem receivePoll_sent {p : ReceivePoll} {go : Bool} (h : receivePoll build p n = .ok (n', go)) :
    n'.sent = n.sent := by
  obtain ⟨_, rfl⟩ := receivePoll_frame h
  rfl

/-- **`RECEIVE`** sends nothing. -/
theorem executeReceive_sent {attempt₁ attempt₂ : CtrlRadio} {polls : List ReceivePoll}
    {ret : PmExecution} (h : executeReceive build attempt₁ attempt₂ polls n = .ok (n', ret)) :
    n'.sent = n.sent := by
  have hfirst := mclmacReceiveControlPacket_sent build attempt₁ n
  rcases executeReceive_cases h with ⟨-, rfl⟩ | ⟨-, rfl⟩ | ⟨-, m, rfl, rfl | hloop⟩
  · exact (mclmacReceiveControlPacket_sent build attempt₂ _).trans hfirst
  · exact hfirst
  · exact hfirst
  · exact (pollLoop_frame (f := fun m : Node => m.sent) (fun _ _ _ _ => receivePoll_sent) polls
      hloop).trans hfirst

/-- What a member of the network sends in a turn of the loop. -/
def IsMemberFrame (n : Node) (t : Transmission) : Prop :=
  IsAnnouncement n.nodeId t ∨ t = .control (reportOf n) ∨ IsData t

theorem executeTransmit_memberFrames {ticks : List Tick} {ret : PmExecution}
    (h : executeTransmit build ticks n = .ok (n', ret)) : Emits (IsMemberFrame n) n n' := by
  obtain ⟨m, hm, hdata⟩ := executeTransmit_emits h
  exact (Emits.single hm (.inr (.inl rfl))).trans (hdata.mono fun t ht => .inr (.inr ht))

/-- **What a turn of the loop sends.** -/
theorem Session.emits {inp : PmInput} (h : Session build inp n n') :
    Emits (IsMemberFrame n) n n' := by
  cases h with
  | @passive m hmode h =>
    have hsent := executePassive_sent h
    exact .of_eq hsent
  | @active m hmode h hnext | @collision m hmode h =>
    have hm : Emits (IsMemberFrame n) n m := (executeActive_emits h).mono fun t ht => .inl ht
    exact hm
  | @transmit m hmode h =>
    have hm := executeTransmit_memberFrames h
    exact hm
  | @receive m hmode h =>
    have hsent := executeReceive_sent h
    exact .of_eq hsent

/-- **What the last turn of the loop sends.** -/
theorem SessionEnd.emits {inp : PmInput} {err : PmExecution} (h : SessionEnd build inp n err n') :
    Emits (IsMemberFrame n) n n' := by
  cases h with
  | @transmit m hmode h =>
    have hm := executeTransmit_memberFrames h
    exact hm
  | @collision m hmode h | @synchronization m hmode h =>
    have hsent := executeReceive_sent h
    exact .of_eq hsent

/-! ## The joining states -/

theorem pollSyncSlot_sent (build : Build) (tick : Tick) (n : Node) (l : SyncLocals) :
    (pollSyncSlot build tick n l).1.sent = n.sent := by
  unfold pollSyncSlot
  dsimp only
  split <;> rfl

theorem pollSyncFrame_sent (build : Build) (tick : Tick) (n : Node) (l : SyncLocals) :
    (pollSyncFrame build tick n l).1.sent = n.sent := by
  unfold pollSyncFrame
  dsimp only
  split <;> rfl

theorem mclmacReceiveCtrlpktSync_sent (build : Build) (radio : CtrlRadio) (n : Node) :
    (mclmacReceiveCtrlpktSync build radio n).1.sent = n.sent := by
  obtain ⟨_, h⟩ := mclmacReceiveCtrlpktSync_frame build radio n
  rw [h]

theorem syncPoll_sent {p : SyncPoll} {s s' : Node × SyncLocals} {go : Bool}
    (h : syncPoll build p s = .ok (s', go)) : s'.1.sent = s.1.sent := by
  obtain ⟨n, l⟩ := s
  obtain ⟨m, hm, rfl, -⟩ := syncPoll_cases h
  have hheard := mclmacReceiveCtrlpktSync_sent build p.radio n
  rw [pollSyncFrame_sent, pollSyncSlot_sent]
  rcases hm with hm | ⟨n₁, b, hm, hmark⟩
  · rwa [hm] at hheard
  · rw [hm] at hheard
    obtain ⟨_, rfl⟩ := markSelectedSlot_frame hmark
    exact hheard

theorem joinFrom_sent {polls : List SyncPoll} {pkt : ControlPacket} {ret : MacExecution}
    (h : joinFrom build polls pkt n = .ok (n', ret)) : n'.sent = n.sent := by
  obtain ⟨m, s, hadopt, harm, hcases⟩ := joinFrom_cases h
  obtain ⟨m', hmark, hadopt⟩ := bind_eq_ok.mp hadopt
  cases hadopt
  obtain ⟨_, rfl⟩ := markSelectedSlot_frame hmark
  have hs : s.1.sent = n.sent := by
    rw [← harm]
    rfl
  rcases hcases with ⟨-, -, rfl⟩ | ⟨-, -, -, s', hlisten, rfl⟩
  · exact hs
  · refine Eq.trans ?_ hs
    show s'.1.sent = s.1.sent
    unfold listenOn at hlisten
    split at hlisten
    · exact pollLoop_frame (f := fun s : Node × SyncLocals => s.1.sent)
        (fun _ _ _ _ => syncPoll_sent) polls hlisten
    · cases hlisten
      rfl

/-- **`SYNCHRONIZATION`** sends nothing. -/
theorem executeSynchronization_sent {time : UInt32} {attempts : List CtrlRadio}
    {polls : List SyncPoll} {ret : MacExecution}
    (h : executeSynchronization build time attempts polls n = .ok (n', ret)) :
    n'.sent = n.sent := by
  cases hfirst : n.isFirstNode with
  | true =>
    unfold executeSynchronization at h
    rw [if_pos hfirst] at h
    cases h
    rfl
  | false =>
    rcases executeSynchronization_cases hfirst h with ⟨hlisten, -⟩ | ⟨n₁, b, hlisten, hjoin⟩
    · obtain ⟨_, rfl⟩ := listenCtrlpkt_frame hlisten
      rfl
    · obtain ⟨_, rfl⟩ := listenCtrlpkt_frame hlisten
      have hsent := joinFrom_sent hjoin
      exact hsent

/-- **A turn of the driver outside `MEDIUM_ACCESS`** sends nothing. -/
theorem MacTurn.sent {inp : MacInput} (h : MacTurn build inp n n')
    (hstate : n.macState.currentState ≠ .mediumAccess) : n'.sent = n.sent := by
  cases h with
  | start _ h =>
    obtain ⟨-, _, rfl⟩ := executeStart_cases h
    rfl
  | initialization _ h =>
    obtain ⟨-, _, _, _, rfl⟩ := executeInitialization_cases h
    rfl
  | synchronization _ h | unsynchronized _ h =>
    have hsent := executeSynchronization_sent h
    exact hsent
  | selection _ h | noFrameTimer _ h =>
    rcases executeTimeslotAndChannelSelection_cases h with ⟨-, -, rfl⟩ | ⟨-, -, _, rfl⟩ |
      ⟨-, -, _, _, _, _, _, -, rfl⟩ | ⟨-, -, -, _, _, rfl⟩ <;> rfl
  | mediumAccess hmedium _ => exact absurd hmedium hstate

end WmnIot
