import WmnIot.PowerMode.Frames
import WmnIot.Queues.SendQueues

/-! # The slot timer of `PASSIVE`

`PASSIVE` is left when the slot timer passes, which a released timer never does. `STARTP` and
`PASSIVE` itself arm it, `RECEIVE` only polls it, and `TRANSMIT` releases it when it passes there.

* **`live_iff_can_pass`** — the timers that can still pass.
* **`executePassive_live`**, **`executeActive_live`**, **`executeReceive_live`** — the states that
  leave the slot timer armed.
* **`transmitLoop_live_iff`** — when `TRANSMIT` does.
* **`passive_slotTimer_live_iff`** — the sessions in which `PASSIVE` never waits on a dead timer. -/

namespace WmnIot

open Runs

/-! ## Live timers of a node -/

/-- A timer is live exactly if the handler can make it pass. -/
theorem live_iff_can_pass {t : Timeouts} {id : ℕ} :
    Live t id ↔ ∃ now, timeoutPassed (timeoutSignalHandler now t) id = 1 := by
  constructor
  · rintro ⟨h, hu, ha⟩
    refine ⟨(t ⟨id, h⟩).time, timeoutPassed_eq_one.mpr ⟨h, ?_⟩⟩
    unfold timeoutSignalHandler
    cases hp : (t ⟨id, h⟩).passed <;> simp [hu, ha, hp]
  · rintro ⟨now, h⟩
    exact live_timeoutSignalHandler.mp (live_of_passed h)

theorem live_tick {n : Node} {t : Tick} {id : ℕ} :
    Live (n.tick t).timeouts id ↔ Live n.timeouts id := by
  unfold Node.tick
  dsimp only
  split
  · exact live_timeoutSignalHandler
  · exact Iff.rfl

theorem live_setTimeout {build : Build} {n : Node} {seconds id : ℕ} (h : Live n.timeouts id) :
    Live (n.setTimeout build seconds).1.timeouts id :=
  live_timeoutSet_of_live h

theorem live_unsetTimeout {n : Node} {timeout id : ℕ} (hne : id ≠ timeout) :
    Live (n.unsetTimeout timeout).timeouts id ↔ Live n.timeouts id :=
  live_timeoutUnset_of_ne hne

/-- The slot timer set in a table with an unused entry is live. -/
theorem live_setSlotTimer {build : Build} {n : Node} (hduration : n.mac.frame.slotDuration ≠ 0)
    {i : Fin Config.timeouts} (hi : (n.timeouts i).used = false) :
    Live (setSlotTimer build n).timeouts (setSlotTimer build n).mac.frame.slotTimer :=
  live_timeoutSet hduration hi

/-- Entering `MEDIUM_ACCESS` with an unused entry in the table arms the slot timer. -/
theorem enterMediumAccess_live {build : Build} {n n' : Node} (hfree : 0 < freeEntries n.timeouts)
    (h : enterMediumAccess build n = .ok n') : Live n'.timeouts n'.mac.frame.slotTimer := by
  rw [enterMediumAccess_cases h]
  obtain ⟨i, hi⟩ := exists_unused_of_freeEntries hfree
  have hduration : Config.slotDuration.toNat ≠ 0 := by decide
  exact live_setSlotTimer (n := startSession _) hduration hi

/-! ## `PASSIVE` -/

/-- When the slot timer passes, its entry is free again. -/
theorem pollSlotTimer_unused {tick : Tick} {n : Node} (h : (pollSlotTimer tick n).2 = false) :
    ∃ i, ((pollSlotTimer tick n).1.timeouts i).used = false := by
  unfold pollSlotTimer at h ⊢
  dsimp only at h ⊢
  split at h
  · next hpassed =>
    obtain ⟨hlt, -⟩ := timeoutPassed_eq_one.mp hpassed
    refine ⟨⟨_, hlt⟩, ?_⟩
    rw [if_pos hpassed]
    simp only [Node.unsetTimeout, timeoutUnset, dif_pos hlt, Function.update_self]
  · cases h

/-- **`PASSIVE`** leaves the slot timer armed: the entry it has released is there to be set. -/
theorem executePassive_live {build : Build} {polls : List PassivePoll} {n n' : Node}
    (hduration : n.mac.frame.slotDuration ≠ 0) (h : executePassive build polls n = .ok n') :
    Live n'.timeouts n'.mac.frame.slotTimer := by
  obtain ⟨m, hloop, hm, rfl⟩ := executePassive_cases h
  have hdm : (slotEnded m).mac.frame.slotDuration = n.mac.frame.slotDuration := by
    have hended := congrArg Schedule.slotDuration (slotEnded_schedule m)
    rwa [Schedule.slotDuration_advance, hm] at hended
  have hfree : ∃ i, (m.timeouts i).used = false := by
    refine pollLoop_inv (fun _ => True) (fun m => ∃ i, (m.timeouts i).used = false)
      (fun _ _ _ _ _ => trivial) ?_ polls trivial hloop
    intro p s s' _ hpoll
    obtain ⟨hsleep, _, _, _, _, _, rfl, -, -⟩ := passivePoll_frame hpoll
    exact pollSlotTimer_unused hsleep.symm
  obtain ⟨i, hi⟩ := hfree
  rw [← hdm] at hduration
  exact live_setSlotTimer (n := slotEnded m) hduration hi

/-! ## `ACTIVE` -/

/-- The slot timer is live and is not the timer of the CF slot. -/
structure SlotTimerApart (slotTimer : ℕ) (n : Node) : Prop where
  live : Live n.timeouts slotTimer
  apart : slotTimer ≠ n.mac.frame.cfTimer

namespace SlotTimerApart

variable {slotTimer : ℕ} {n : Node}

theorem tick (h : SlotTimerApart slotTimer n) (t : Tick) : SlotTimerApart slotTimer (n.tick t) :=
  ⟨live_tick.mpr h.live, h.apart⟩

/-- The entry that is found for the CF slot was not used. -/
theorem set (build : Build) (h : Live n.timeouts slotTimer) :
    SlotTimerApart slotTimer (setCfTimer build n) :=
  ⟨live_setTimeout h, (timeoutSet_ne_of_live h).symm⟩

theorem next (h : SlotTimerApart slotTimer n) : Live (nextCfSlot n).timeouts slotTimer :=
  (live_unsetTimeout h.apart).mpr h.live

theorem turn (h : SlotTimerApart slotTimer n) (selectedFreq channel : UInt32)
    (cf : Option CFPacket) (l : ActiveLocals) :
    SlotTimerApart slotTimer (cfTurn selectedFreq channel cf n l).1 := by
  obtain ⟨_, _, _, _, _, _, hturn⟩ := cfTurn_frame selectedFreq channel cf n l
  rw [hturn]
  exact ⟨h.live, h.apart⟩

end SlotTimerApart

theorem activeOutcome_timeouts (n : Node) (l : ActiveLocals) :
    (activeOutcome n l).1.timeouts = n.timeouts := by
  simp only [activeOutcome]
  split_ifs <;> rfl

/-- **`ACTIVE`** leaves the slot timer armed. -/
theorem executeActive_live {build : Build} {polls : List ActivePoll} {n n' : Node}
    {ret : PmExecution} (hlive : Live n.timeouts n.mac.frame.slotTimer)
    (h : executeActive build polls n = .ok (n', ret)) :
    Live n'.timeouts n'.mac.frame.slotTimer := by
  have hn' : n'.mac.frame.slotTimer = n.mac.frame.slotTimer :=
    congrArg Schedule.slotTimer (executeActive_schedule h)
  obtain ⟨m, l, hloop, hout⟩ := executeActive_cases h
  have hm : Live m.timeouts n.mac.frame.slotTimer := by
    refine pollLoop_inv (fun s : Node × ActiveLocals => SlotTimerApart n.mac.frame.slotTimer s.1)
      (fun s => Live s.1.timeouts n.mac.frame.slotTimer) ?_ ?_ polls ?_ hloop
    · rintro p ⟨s, ls⟩ s' hs hpoll
      obtain ⟨channel, -, ⟨-, rfl, -⟩ | ⟨-, -, rfl, -⟩ | ⟨-, -, -, hgo⟩⟩ := activePoll_cases hpoll
      · exact (hs.tick p.tick).turn _ _ _ _
      · exact (SlotTimerApart.set build (hs.tick p.tick).next).turn _ _ _ _
      · cases hgo
    · rintro p ⟨s, ls⟩ s' hs hpoll
      obtain ⟨channel, -, ⟨-, -, hgo⟩ | ⟨-, -, -, hgo⟩ | ⟨-, -, rfl, -⟩⟩ := activePoll_cases hpoll
      · cases hgo
      · cases hgo
      · exact (hs.tick p.tick).next
    · exact SlotTimerApart.set build hlive
  rw [hn', ← show (activeOutcome m l).1 = n' from congrArg Prod.fst hout, activeOutcome_timeouts]
  exact hm

/-! ## `RECEIVE` -/

theorem live_receiveWithin {build : Build} {radio : CtrlRadio} {n : Node} {id : ℕ}
    (h : Live n.timeouts id) : Live (receiveWithin build radio n).1.timeouts id := by
  unfold receiveWithin
  dsimp only
  split
  · exact live_setTimeout h
  · split
    · exact (live_unsetTimeout (timeoutSet_ne_of_live h).symm).mpr (live_setTimeout h)
    · exact live_setTimeout h
    · exact live_setTimeout h

theorem mclmacReceiveControlPacket_live {build : Build} {radio : CtrlRadio} {n : Node} {id : ℕ}
    (h : Live n.timeouts id) : Live (mclmacReceiveControlPacket build radio n).1.timeouts id := by
  have hwithin : Live (receiveWithin build radio n).1.timeouts id := live_receiveWithin h
  unfold mclmacReceiveControlPacket
  by_cases hradio : (!build.native && build.os == .riot) = true
  · rw [if_pos hradio]
    generalize receiveWithin build radio n = heard at hwithin ⊢
    obtain ⟨m, _ | b⟩ := heard <;> exact hwithin
  · rw [if_neg hradio]
    cases radio <;> exact h

theorem receivePoll_live {p : ReceivePoll} {n n' : Node} {go : Bool} {id : ℕ}
    (hlive : Live n.timeouts id) (h : receivePoll build p n = .ok (n', go)) : Live n'.timeouts id := by
  obtain ⟨_, rfl⟩ := receivePoll_frame h
  exact live_tick.mpr hlive

/-- **`RECEIVE`** leaves the slot timer armed, also when it passes there. -/
theorem executeReceive_live {build : Build} {attempt₁ attempt₂ : CtrlRadio}
    {polls : List ReceivePoll} {n n' : Node} {ret : PmExecution}
    (hlive : Live n.timeouts n.mac.frame.slotTimer)
    (h : executeReceive build attempt₁ attempt₂ polls n = .ok (n', ret)) :
    Live n'.timeouts n'.mac.frame.slotTimer := by
  have hn' : n'.mac.frame.slotTimer = n.mac.frame.slotTimer :=
    congrArg Schedule.slotTimer (executeReceive_schedule h)
  have hfirst : Live (mclmacReceiveControlPacket build attempt₁ n).1.timeouts
      n.mac.frame.slotTimer := mclmacReceiveControlPacket_live hlive
  rw [hn']
  obtain ⟨-, rfl⟩ | ⟨-, rfl⟩ | ⟨-, m, rfl, rfl | hloop⟩ := executeReceive_cases h
  · exact mclmacReceiveControlPacket_live hfirst
  · exact hfirst
  · exact hfirst
  · have hm : Live m.timeouts n.mac.frame.slotTimer :=
      pollLoop_inv (fun m => Live m.timeouts n.mac.frame.slotTimer)
        (fun m => Live m.timeouts n.mac.frame.slotTimer)
        (fun _ _ _ hs hpoll => receivePoll_live hs hpoll)
        (fun _ _ _ hs hpoll => receivePoll_live hs hpoll) polls hfirst hloop
    exact hm

/-! ## `TRANSMIT` -/

/-- The slot timer passes, or has passed, when it is polled at this moment. -/
def SlotPassesAt (n : Node) (tick : Tick) : Prop :=
  timeoutPassed (n.tick tick).timeouts n.mac.frame.slotTimer = 1

instance (n : Node) (tick : Tick) : Decidable (SlotPassesAt n tick) :=
  inferInstanceAs (Decidable (_ = _))

/-- A moment at which the slot timer does not pass leaves its entry alone. -/
theorem tick_entry {n : Node} {tick : Tick} (h : ¬ SlotPassesAt n tick)
    (hlt : n.mac.frame.slotTimer < Config.timeouts) :
    (n.tick tick).timeouts ⟨_, hlt⟩ = n.timeouts ⟨_, hlt⟩ := by
  unfold SlotPassesAt Node.tick at h
  unfold Node.tick
  dsimp only at h ⊢
  split at h
  · next hhandler =>
    rw [if_pos hhandler]
    exact timeoutSignalHandler_of_not_passed h hlt
  · next hhandler => rw [if_neg hhandler]

/-- When the slot timer passes depends on its entry only. -/
theorem slotPassesAt_congr {n n' : Node} (htimer : n'.mac.frame.slotTimer = n.mac.frame.slotTimer)
    (hentry : ∀ hlt : n.mac.frame.slotTimer < Config.timeouts,
      n'.timeouts ⟨_, hlt⟩ = n.timeouts ⟨_, hlt⟩) (tick : Tick) :
    SlotPassesAt n' tick ↔ SlotPassesAt n tick := by
  unfold SlotPassesAt
  rw [htimer, timeoutPassed_congr]
  intro hlt
  unfold Node.tick
  dsimp only
  split
  · simp only [timeoutSignalHandler, hentry hlt]
  · exact hentry hlt

/-- The first packets of the send queues are inside the arrays. -/
structure SendIndices (n : Node) : Prop where
  message : n.mac.message.firstSend.toNat < Config.maxNumberDataPackets
  control : n.mac.control.firstSend.toNat < Config.maxNumberDataPackets

theorem SendIndices.sendQueue {n : Node} (h : SendIndices n) (c : SendClass) :
    (n.sendQueue c).firstSend.toNat < Config.maxNumberDataPackets := by
  cases c with
  | message => exact h.message
  | control => exact h.control

theorem SendQueue.take_cases {os : OS} {junk : ℕ → UInt8} {q q' : SendQueue} {b : ByteString}
    (h : q.take os junk = .ok (q', b)) : q'.packetsToSend = q.packetsToSend - 1 ∧
      q'.firstSend.toNat < Config.maxNumberDataPackets := by
  unfold SendQueue.take at h
  split at h
  · next hfirst =>
    obtain ⟨b', -, h⟩ := bind_eq_ok.mp h
    cases h
    exact ⟨rfl, (firstSend_next hfirst).trans_lt (Nat.mod_lt _ (by decide))⟩
  · cases h

/-- Sending from the queue of a class takes one packet. -/
theorem sendFrom_available {os : OS} {n n' : Node} {c : SendClass} (hindices : SendIndices n)
    (hpos : (n.sendQueue c).packetsToSend ≠ 0) (h : n.sendFrom os c = .ok n') :
    SendIndices n' ∧
      mclmacAvailableDataPackets n'.toMCLMAC = mclmacAvailableDataPackets n.toMCLMAC - 1 := by
  obtain ⟨⟨q, b⟩, htake, h⟩ := bind_eq_ok.mp h
  cases h
  obtain ⟨hcount, hfirst⟩ := SendQueue.take_cases htake
  have hcount' : q.packetsToSend.toNat = (n.sendQueue c).packetsToSend.toNat - 1 := by
    rw [hcount]
    exact packetsToSend_sub_one hpos
  have hnumber : 0 < (n.sendQueue c).packetsToSend.toNat :=
    Nat.pos_of_ne_zero fun h0 => hpos (UInt8.toNat_inj.mp h0)
  cases c with
  | message =>
    refine ⟨⟨hfirst, hindices.control⟩, ?_⟩
    show q.packetsToSend.toNat + n.mac.control.packetsToSend.toNat =
      (n.sendQueue .message).packetsToSend.toNat + n.mac.control.packetsToSend.toNat - 1
    omega
  | control =>
    refine ⟨⟨hindices.message, hfirst⟩, ?_⟩
    show n.mac.message.packetsToSend.toNat + q.packetsToSend.toNat =
      n.mac.message.packetsToSend.toNat + (n.sendQueue .control).packetsToSend.toNat - 1
    omega

/-- A turn of sending takes one packet, if there is one. -/
theorem mclmacSendDataPacket_available {build : Build} {n n' : Node} (hindices : SendIndices n)
    (h : mclmacSendDataPacket build n = .ok n') :
    SendIndices n' ∧
      mclmacAvailableDataPackets n'.toMCLMAC = mclmacAvailableDataPackets n.toMCLMAC - 1 := by
  rw [mclmacSendDataPacket_eq hindices.sendQueue] at h
  split_ifs at h with hcontrol hmessage
  · exact sendFrom_available hindices hcontrol h
  · exact sendFrom_available hindices hmessage h
  · -- both queues are empty
    cases h
    refine ⟨hindices, ?_⟩
    have hnone : mclmacAvailableDataPackets n.toMCLMAC = 0 := by
      show (n.sendQueue .message).packetsToSend.toNat +
        (n.sendQueue .control).packetsToSend.toNat = 0
      rw [not_not.mp hcontrol, not_not.mp hmessage]
      rfl
    rw [hnone]

/-- A turn in which the slot timer passes. -/
theorem transmitPoll_passed {build : Build} {n : Node} {tick : Tick} (h : SlotPassesAt n tick) :
    transmitPoll build tick n =
      .ok ((n.tick tick).unsetTimeout n.mac.frame.slotTimer, false) := by
  unfold transmitPoll pollSlotTimer
  simp only [show timeoutPassed (n.tick tick).timeouts (n.tick tick).mac.frame.slotTimer = 1 from h,
    if_true]
  rfl

/-- A turn that sends. -/
theorem transmitPoll_pending {build : Build} {n : Node} {tick : Tick} (h : ¬ SlotPassesAt n tick) :
    transmitPoll build tick n = mclmacSendDataPacket build (n.tick tick) >>= fun n' =>
      .ok (n', decide (mclmacAvailableDataPackets n'.toMCLMAC ≠ 0)) := by
  unfold transmitPoll pollSlotTimer
  simp only [if_neg (show ¬ timeoutPassed (n.tick tick).timeouts
    (n.tick tick).mac.frame.slotTimer = 1 from h)]
  rfl

/-- The moments at which the loop of `TRANSMIT` polls the slot timer, if it does not pass: one for
each packet to send, and at least one. -/
def transmitTicks (ticks : List Tick) (n : Node) : List Tick :=
  ticks.take (max 1 (mclmacAvailableDataPackets n.toMCLMAC))

/-- **The loop of `TRANSMIT`** leaves the slot timer armed exactly if it passes at none of the
moments at which it is polled. -/
theorem transmitLoop_live_iff {build : Build} {ticks : List Tick} {n m : Node}
    (hindices : SendIndices n)
    (hlive : Live n.timeouts n.mac.frame.slotTimer)
    (h : pollLoop .polling (transmitPoll build) ticks n = .ok m) :
    SendIndices m ∧ (Live m.timeouts m.mac.frame.slotTimer ↔
      ∀ tick ∈ transmitTicks ticks n, ¬ SlotPassesAt n tick) := by
  induction ticks generalizing n with
  | nil => cases h
  | cons tick ticks ih =>
    rw [pollLoop] at h
    by_cases hpass : SlotPassesAt n tick
    · -- the timer is released and the loop ends
      rw [transmitPoll_passed hpass] at h
      cases h
      refine ⟨⟨hindices.1, hindices.2⟩, iff_of_false (not_live_timeoutUnset _ _) fun hnone => ?_⟩
      refine hnone tick ?_ hpass
      obtain ⟨k, hk⟩ : ∃ k, max 1 (mclmacAvailableDataPackets n.toMCLMAC) = k + 1 :=
        ⟨max 1 (mclmacAvailableDataPackets n.toMCLMAC) - 1, by omega⟩
      simp [transmitTicks, hk]
    · rw [transmitPoll_pending hpass] at h
      cases hsend : mclmacSendDataPacket build (n.tick tick) with
      | error e => simp [hsend] at h
      | ok n' =>
        obtain ⟨hindices', havailable⟩ :=
          mclmacSendDataPacket_available (n := n.tick tick) ⟨hindices.1, hindices.2⟩ hsend
        have htimer : n'.mac.frame.slotTimer = n.mac.frame.slotTimer ∧
            n'.timeouts = (n.tick tick).timeouts := by
          obtain ⟨_, _, _, rfl⟩ := mclmacSendDataPacket_frame hsend
          exact ⟨rfl, rfl⟩
        have hlive' : Live n'.timeouts n'.mac.frame.slotTimer := by
          rw [htimer.1, htimer.2]
          exact live_tick.mpr hlive
        have hcongr := slotPassesAt_congr htimer.1
          (fun hlt => (congrFun htimer.2 _).trans (tick_entry hpass hlt))
        change _ = mclmacAvailableDataPackets n.toMCLMAC - 1 at havailable
        by_cases hzero : mclmacAvailableDataPackets n'.toMCLMAC = 0
        · -- nothing is left to send
          simp only [hsend, ok_bind, hzero, ne_eq, not_true, decide_false] at h
          cases h
          have hone : max 1 (mclmacAvailableDataPackets n.toMCLMAC) = 1 := by omega
          refine ⟨hindices', iff_of_true hlive' ?_⟩
          simpa [transmitTicks, hone] using hpass
        · simp only [hsend, ok_bind, hzero, ne_eq, not_false_eq_true, decide_true] at h
          obtain ⟨hindicesm, hiff⟩ := ih hindices' hlive' h
          have hmax : max 1 (mclmacAvailableDataPackets n.toMCLMAC) =
              max 1 (mclmacAvailableDataPackets n'.toMCLMAC) + 1 := by omega
          refine ⟨hindicesm, hiff.trans ?_⟩
          simp only [transmitTicks, hmax, List.take_succ_cons, List.forall_mem_cons, hcongr]
          exact ⟨fun hall => ⟨hpass, hall⟩, fun hall => hall.2⟩

/-! ## The send queues of the other states -/

/-- `PASSIVE` stores behind the packets that are there. -/
theorem executePassive_indices {build : Build} {polls : List PassivePoll} {n n' : Node}
    (hindices : SendIndices n) (h : executePassive build polls n = .ok n') : SendIndices n' := by
  obtain ⟨m, hloop, -, rfl⟩ := executePassive_cases h
  have hpolled (tick : Tick) (s : Node) :
      (pollSlotTimer tick s).1.mac.message = s.mac.message ∧
        (pollSlotTimer tick s).1.mac.control = s.mac.control := by
    unfold pollSlotTimer
    dsimp only
    split <;> exact ⟨rfl, rfl⟩
  have hpoll (p : PassivePoll) (s s' : Node) (go : Bool) (hs : SendIndices s)
      (h : passivePoll build p s = .ok (s', go)) : SendIndices s' := by
    obtain ⟨-, _, _, _, _, _, rfl, hmessage, hcontrol⟩ := passivePoll_frame h
    rw [(hpolled p.tick s).1] at hmessage
    rw [(hpolled p.tick s).2] at hcontrol
    exact ⟨(congrArg UInt8.toNat hmessage).trans_lt hs.1,
      (congrArg UInt8.toNat hcontrol).trans_lt hs.2⟩
  have hstart : SendIndices { n with mac.frame.currentCfSlot := 0 } := ⟨hindices.1, hindices.2⟩
  have hm : SendIndices m :=
    pollLoop_inv SendIndices SendIndices (fun p s s' => hpoll p s s' true)
      (fun p s s' => hpoll p s s' false) polls hstart hloop
  exact ⟨hm.1, hm.2⟩

/-- The packets to send. -/
def Node.sendQueues (n : Node) : SendQueue × SendQueue :=
  (n.mac.message, n.mac.control)

theorem SendIndices.of_sendQueues {n n' : Node} (h : SendIndices n)
    (hqueues : n'.sendQueues = n.sendQueues) : SendIndices n' := by
  obtain ⟨hmessage, hcontrol⟩ := Prod.mk.inj hqueues
  exact ⟨by rw [hmessage]; exact h.1, by rw [hcontrol]; exact h.2⟩

theorem cfTurn_sendQueues (selectedFreq channel : UInt32) (cf : Option CFPacket) (n : Node)
    (l : ActiveLocals) : (cfTurn selectedFreq channel cf n l).1.sendQueues = n.sendQueues := by
  obtain ⟨_, _, _, _, _, _, h⟩ := cfTurn_frame selectedFreq channel cf n l
  rw [h]
  rfl

/-- `ACTIVE` leaves the packets to send alone. -/
theorem executeActive_sendQueues {build : Build} {polls : List ActivePoll} {n n' : Node}
    {ret : PmExecution} (h : executeActive build polls n = .ok (n', ret)) :
    n'.sendQueues = n.sendQueues := by
  obtain ⟨m, l, hloop, hout⟩ := executeActive_cases h
  have hpoll (p : ActivePoll) (s s' : Node × ActiveLocals) (go : Bool)
      (h : activePoll build n.mac.transmitChannel p s = .ok (s', go)) :
      s'.1.sendQueues = s.1.sendQueues := by
    obtain ⟨channel, -, ⟨-, rfl, -⟩ | ⟨-, -, rfl, -⟩ | ⟨-, -, rfl, -⟩⟩ := activePoll_cases h
    · exact cfTurn_sendQueues _ _ _ _ _
    · exact cfTurn_sendQueues _ _ _ _ _
    · rfl
  have hm := pollLoop_frame (f := fun s : Node × ActiveLocals => s.1.sendQueues) hpoll polls hloop
  have hm' : (activeOutcome m l).1.sendQueues = m.sendQueues := by
    simp only [activeOutcome]
    split_ifs <;> rfl
  rw [hout] at hm'
  exact hm'.trans hm

theorem executeActive_indices {build : Build} {polls : List ActivePoll} {n n' : Node}
    {ret : PmExecution} (hindices : SendIndices n)
    (h : executeActive build polls n = .ok (n', ret)) : SendIndices n' :=
  hindices.of_sendQueues (executeActive_sendQueues h)

/-- `RECEIVE` leaves the packets to send alone. -/
theorem executeReceive_indices {build : Build} {attempt₁ attempt₂ : CtrlRadio}
    {polls : List ReceivePoll} {n n' : Node} {ret : PmExecution} (hindices : SendIndices n)
    (h : executeReceive build attempt₁ attempt₂ polls n = .ok (n', ret)) : SendIndices n' := by
  have hattempt (radio : CtrlRadio) (m : Node) :
      (mclmacReceiveControlPacket build radio m).1.sendQueues = m.sendQueues := by
    obtain ⟨_, _, h⟩ := mclmacReceiveControlPacket_frame build radio m
    rw [h]
    rfl
  have hpoll (p : ReceivePoll) (s s' : Node) (go : Bool) (h : receivePoll build p s = .ok (s', go)) :
      s'.sendQueues = s.sendQueues := by
    obtain ⟨_, rfl⟩ := receivePoll_frame h
    rfl
  obtain ⟨-, rfl⟩ | ⟨-, rfl⟩ | ⟨-, m, rfl, rfl | hloop⟩ := executeReceive_cases h
  · exact hindices.of_sendQueues ((hattempt attempt₂ _).trans (hattempt attempt₁ n))
  · exact hindices.of_sendQueues (hattempt attempt₁ n)
  · exact hindices.of_sendQueues (hattempt attempt₁ n)
  · have hm := pollLoop_frame (f := Node.sendQueues) hpoll polls hloop
    exact hindices.of_sendQueues (hm.trans (hattempt attempt₁ n))

/-! ## Sessions -/

/-- When `PASSIVE` starts executing, the slot timer is used and armed. -/
def PassiveTimerLive (n : Node) : Prop :=
  n.powerMode.currentState = .passive → Live n.timeouts n.mac.frame.slotTimer

instance (n : Node) : Decidable (PassiveTimerLive n) := inferInstanceAs (Decidable (_ → _))

/-- The slot ends while `TRANSMIT` is sending data packets. -/
def SlotEndsInTransmit (inp : PmInput) (n : Node) : Prop :=
  n.powerMode.currentState = .transmit ∧ n.mac.collisionDetected = false ∧
    ∃ tick ∈ transmitTicks inp.transmit n, SlotPassesAt n tick

instance (inp : PmInput) (n : Node) : Decidable (SlotEndsInTransmit inp n) :=
  inferInstanceAs (Decidable (_ ∧ _ ∧ _))

/-- The invariant of a session. -/
structure TimerInv (n : Node) : Prop where
  session : InSession n.powerMode.currentState
  live : Live n.timeouts n.mac.frame.slotTimer
  duration : n.mac.frame.slotDuration ≠ 0
  indices : SendIndices n

theorem enterMediumAccess_timerInv {build : Build} {n n' : Node}
    (hfree : 0 < freeEntries n.timeouts) (h : enterMediumAccess build n = .ok n') :
    TimerInv n' := by
  have hlive := enterMediumAccess_live hfree h
  rw [enterMediumAccess_cases h] at hlive ⊢
  have hduration : Config.slotDuration.toNat ≠ 0 := by decide
  have hfirst : (0 : UInt8).toNat < Config.maxNumberDataPackets := by decide
  exact ⟨.inl rfl, hlive, hduration, hfirst, hfirst⟩

/-- A turn of the session that does not end its slot in `TRANSMIT` keeps the invariant. -/
theorem Session.timerInv {build : Build} {inp : PmInput} {n n' : Node} (hinv : TimerInv n)
    (h : Session build inp n n') (hgood : ¬ SlotEndsInTransmit inp n) : TimerInv n' := by
  have hsession := h.inSession
  cases h with
  | passive hmode h =>
    obtain ⟨hmessage, hcontrol⟩ := executePassive_indices hinv.indices h
    have hlive := executePassive_live hinv.duration h
    refine ⟨hsession, hlive, ?_, hmessage, hcontrol⟩
    have hduration := congrArg Schedule.slotDuration (executePassive_schedule h)
    rw [Schedule.slotDuration_advance] at hduration
    exact ne_of_eq_of_ne hduration hinv.duration
  | active hmode h hnext =>
    obtain ⟨hmessage, hcontrol⟩ := executeActive_indices hinv.indices h
    have hlive := executeActive_live hinv.live h
    refine ⟨hsession, hlive, ?_, hmessage, hcontrol⟩
    exact ne_of_eq_of_ne (congrArg Schedule.slotDuration (executeActive_schedule h)) hinv.duration
  | collision hmode h =>
    obtain ⟨hmessage, hcontrol⟩ := executeActive_indices hinv.indices h
    have hlive := executeActive_live hinv.live h
    refine ⟨hsession, hlive, ?_, hmessage, hcontrol⟩
    exact ne_of_eq_of_ne (congrArg Schedule.slotDuration (executeActive_schedule h)) hinv.duration
  | transmit hmode h =>
    have hduration := ne_of_eq_of_ne (congrArg Schedule.slotDuration (executeTransmit_schedule h))
      hinv.duration
    obtain ⟨-, -, hret, -⟩ | ⟨-, -, -, rfl⟩ | ⟨hcollision, -, m, hloop, rfl⟩ :=
      executeTransmit_cases h
    · cases hret
    · exact ⟨hsession, hinv.live, hduration, hinv.indices.1, hinv.indices.2⟩
    · obtain ⟨hindices, hlive⟩ := transmitLoop_live_iff (n := afterControlPacket n)
        ⟨hinv.indices.1, hinv.indices.2⟩ hinv.live hloop
      -- the one way to lose the timer is that the slot ends here
      refine ⟨hsession, hlive.mpr fun tick htick hpass => ?_, hduration, hindices.1, hindices.2⟩
      exact hgood ⟨hmode, hcollision, tick, htick, hpass⟩
  | receive hmode h =>
    obtain ⟨hmessage, hcontrol⟩ := executeReceive_indices hinv.indices h
    have hlive := executeReceive_live hinv.live h
    refine ⟨hsession, hlive, ?_, hmessage, hcontrol⟩
    exact ne_of_eq_of_ne (congrArg Schedule.slotDuration (executeReceive_schedule h)) hinv.duration

/-- A turn that ends its slot in `TRANSMIT` leaves `PASSIVE` with a dead timer. -/
theorem Session.not_passiveTimerLive {build : Build} {inp : PmInput} {n n' : Node}
    (hinv : TimerInv n) (h : Session build inp n n') (hbad : SlotEndsInTransmit inp n) :
    ¬ PassiveTimerLive n' := by
  obtain ⟨htransmit, hcollision, tick, htick, hpass⟩ := hbad
  cases h with
  | transmit hmode h =>
    obtain ⟨hc, -⟩ | ⟨hc, -⟩ | ⟨-, -, m, hloop, rfl⟩ := executeTransmit_cases h
    · rw [hcollision] at hc
      cases hc
    · rw [hcollision] at hc
      cases hc
    · obtain ⟨-, hlive⟩ := transmitLoop_live_iff (n := afterControlPacket n)
        ⟨hinv.indices.1, hinv.indices.2⟩ hinv.live hloop
      exact fun h => hlive.mp (h rfl) tick htick hpass
  | passive hmode h | active hmode h hnext | collision hmode h | receive hmode h =>
    rw [hmode] at htransmit
    cases htransmit

/-- **`PASSIVE` never waits on a dead timer**: in a session entered with two free entries in the
table, the slot timer is used and armed whenever `PASSIVE` starts executing exactly if in no
completed turn the slot ends while `TRANSMIT` is sending data packets. -/
theorem passive_slotTimer_live_iff (build : Build) (inputs : List PmInput) (n₀ n : Node)
    (hfree : 2 ≤ freeEntries n₀.timeouts) (henter : enterMediumAccess build n₀ = .ok n) :
    (∀ x ∈ visited (sessionStep build) inputs n, PassiveTimerLive x) ↔
      ∀ t ∈ taken (sessionStep build) inputs n, ¬ SlotEndsInTransmit t.1 t.2 := by
  have hlive (s : Node) (hinv : TimerInv s) : PassiveTimerLive s := fun _ => hinv.live
  have hgood (inp : PmInput) (s s' : Node) (hinv : TimerInv s)
      (hstep : sessionStep build inp s = some s') (hends : ¬ SlotEndsInTransmit inp s) :
      TimerInv s' :=
    (sessionStep_cases hinv.session hstep).timerInv hinv hends
  have hbad (inp : PmInput) (s s' : Node) (hinv : TimerInv s)
      (hstep : sessionStep build inp s = some s') (hends : ¬ ¬ SlotEndsInTransmit inp s) :
      ¬ PassiveTimerLive s' :=
    (sessionStep_cases hinv.session hstep).not_passiveTimerLive hinv (not_not.mp hends)
  exact forall_visited_iff TimerInv hlive hgood hbad inputs
    (enterMediumAccess_timerInv (by omega) henter)

/-! ### A slot that ends in `TRANSMIT` -/

/-- The first node goes through its first frame. -/
theorem passive_slotTimer_live_quietFrame :
    2 ≤ freeEntries firstNode.timeouts ∧
    ∀ x ∈ visited (sessionStep ⟨.linux, true⟩) quietFrame firstNodeEntered, PassiveTimerLive x :=
  ⟨by decide, (passive_slotTimer_live_iff ⟨.linux, true⟩ quietFrame firstNode firstNodeEntered
    (by decide) rfl).mpr (by decide +kernel)⟩

/-- In its own slot the first node transmits; when the slot ends there, `PASSIVE` waits forever. -/
theorem passive_slotTimer_dead :
    2 ≤ freeEntries firstNode.timeouts ∧
    enterMediumAccess ⟨.linux, true⟩ firstNode = .ok firstNodeEntered ∧
    ¬ ∀ x ∈ visited (sessionStep ⟨.linux, true⟩)
      (quietFrame ++ [{ transmit := [⟨17 * 80000, true⟩] }]) firstNodeEntered,
        PassiveTimerLive x :=
  ⟨by decide, rfl, by decide +kernel⟩

end WmnIot
