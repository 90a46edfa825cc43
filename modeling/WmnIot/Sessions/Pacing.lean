import WmnIot.PowerMode.SlotTimer

/-! # The pace of a session

A session polls its timers at moments of its own choosing, and the handler that makes them pass may
run late. Neither makes a slot or a CF slot shorter than it should be: a timer passes no earlier than
at its deadline, and only a timer that passed ends a slot.

* **`Due`** — a timer that does not pass before its deadline.
* **`SlotBegun`** — the invariant of a slot.
* **`session_paced`** — the slots of a session, and its phases on the common frequency. -/

namespace WmnIot

open Runs

variable {build : Build} {n n' : Node} {id deadline begun : ℕ}

/-! ## Deadlines -/

/-- The timer has no earlier deadline than this, and if it has passed its deadline is over. -/
def Due (n : Node) (id deadline : ℕ) : Prop :=
  ∀ h : id < Config.timeouts, (n.timeouts ⟨id, h⟩).used → (n.timeouts ⟨id, h⟩).armed →
    deadline ≤ (n.timeouts ⟨id, h⟩).time ∧
      ((n.timeouts ⟨id, h⟩).passed → (n.timeouts ⟨id, h⟩).time ≤ n.clock)

namespace Due

/-- **A timer does not pass early.** -/
theorem le_clock (h : Due n id deadline) (hpassed : timeoutPassed n.timeouts id = 1) :
    deadline ≤ n.clock := by
  obtain ⟨hlt, hused, harmed, hp⟩ := timeoutPassed_eq_one.mp hpassed
  obtain ⟨hle, htime⟩ := h hlt hused harmed
  exact hle.trans (htime hp)

theorem congr (h : Due n id deadline) (hclock : n'.clock = n.clock)
    (hentry : ∀ hlt : id < Config.timeouts, n'.timeouts ⟨id, hlt⟩ = n.timeouts ⟨id, hlt⟩) :
    Due n' id deadline := by
  intro hlt
  rw [hentry hlt, hclock]
  exact h hlt

/-- The handler makes a timer pass when its deadline is over. -/
theorem tick (h : Due n id deadline) {t : Tick} (hle : n.clock ≤ t.now) :
    Due (n.tick t) id deadline := by
  intro hlt hused harmed
  unfold Node.tick at hused harmed ⊢
  dsimp only at hused harmed ⊢
  have hlater : (n.timeouts ⟨id, hlt⟩).used → (n.timeouts ⟨id, hlt⟩).armed →
      deadline ≤ (n.timeouts ⟨id, hlt⟩).time ∧
        ((n.timeouts ⟨id, hlt⟩).passed → (n.timeouts ⟨id, hlt⟩).time ≤ t.now) :=
    fun hused harmed => ⟨(h hlt hused harmed).1, fun hp => ((h hlt hused harmed).2 hp).trans hle⟩
  split at hused
  · next hhandler =>
    rw [if_pos hhandler] at harmed ⊢
    unfold timeoutSignalHandler at hused harmed ⊢
    split at hused
    · next hcond =>
      rw [if_pos hcond] at harmed ⊢
      simp only [Bool.and_eq_true, decide_eq_true_eq] at hcond
      exact ⟨(hlater hused harmed).1, fun _ => hcond.2⟩
    · next hcond =>
      rw [if_neg hcond] at harmed ⊢
      exact hlater hused harmed
  · next hhandler =>
    rw [if_neg hhandler] at harmed ⊢
    exact hlater hused harmed

/-- A released timer does not pass at all. -/
theorem unset (h : Due n id deadline) (timeout : ℕ) : Due (n.unsetTimeout timeout) id deadline := by
  by_cases hid : id = timeout
  · subst hid
    exact fun hlt hused harmed => (not_live_timeoutUnset n.timeouts id ⟨hlt, hused, harmed⟩).elim
  · exact h.congr rfl fun _ => timeoutUnset_of_ne hid

/-- Setting another timer. -/
theorem set (h : Due n id deadline) (hlive : id < Config.timeouts → Live n.timeouts id)
    (build : Build) (seconds : ℕ) : Due (n.setTimeout build seconds).1 id deadline := by
  intro hlt
  obtain ⟨_, hused, -⟩ := hlive hlt
  have hentry : (n.setTimeout build seconds).1.timeouts ⟨id, hlt⟩ = n.timeouts ⟨id, hlt⟩ :=
    timeoutSet_of_used hused
  rw [hentry]
  exact h hlt

/-- A timer that is set passes when the given time has gone by. -/
theorem ofSet (build : Build) (n : Node) (seconds : ℕ) :
    Due (n.setTimeout build seconds).1 (n.setTimeout build seconds).2
      (timespecAdd build.os n.clock seconds) := by
  intro hlt hused harmed
  have hset : (timeoutSet build.os n.clock n.timeouts seconds).2 ≠ Config.timeoutSetError := by
    intro herror
    exact absurd (herror ▸ hlt : Config.timeoutSetError < Config.timeouts) (by decide)
  obtain ⟨_, hentry⟩ := timeoutSet_entry hset
  have hentry' : (n.setTimeout build seconds).1.timeouts ⟨_, hlt⟩ = _ := hentry
  rw [hentry']
  exact ⟨le_rfl, fun hp => nomatch hp⟩

end Due

/-- A short time is added as it is, on either system. -/
theorem timespecAdd_of_lt (os : OS) (now : ℕ) {seconds : ℕ} (h : seconds < 2 ^ 31) :
    timespecAdd os now seconds = now + seconds := by
  cases os with
  | linux => rfl
  | riot => exact if_pos h

/-! ## Moments -/

/-- The moments at which a turn of the loop of `MEDIUM_ACCESS` polls a timer, in order. -/
def PmInput.moments (inp : PmInput) : PowerMode → List ℕ
  | .passive => inp.passive.map fun p => p.tick.now
  | .active => inp.active.map fun p => p.tick.now
  | .transmit => inp.transmit.map Tick.now
  | .receive => inp.receive.map fun p => p.tick.now
  | .nonep | .startp | .finishp | .idlep => []

/-- The clock does not go back during a turn. -/
def ClockAdvances (inp : PmInput) (n : Node) : Prop :=
  (n.clock :: inp.moments n.powerMode.currentState).IsChain (· ≤ ·)

/-! ## A slot -/

/-- The slot that began at this moment is not over before its time. -/
structure SlotBegun (begun : ℕ) (n : Node) : Prop where
  slotDuration : n.mac.frame.slotDuration = Config.slotDuration.toNat
  cfDuration : n.mac.frame.cfDuration = Config.cfSlotDuration
  begun_le : begun ≤ n.clock
  due : Due n n.mac.frame.slotTimer (begun + Config.slotDuration.toNat)

/-- The slot timer is pending, if there was an entry for it. -/
def SlotTimerKept (n : Node) : Prop :=
  n.mac.frame.slotTimer < Config.timeouts → Live n.timeouts n.mac.frame.slotTimer

namespace SlotBegun

theorem tick (h : SlotBegun begun n) {t : Tick} (hle : n.clock ≤ t.now) :
    SlotBegun begun (n.tick t) :=
  ⟨h.slotDuration, h.cfDuration, h.begun_le.trans hle, h.due.tick hle⟩

theorem congr (h : SlotBegun begun n) (hclock : n'.clock = n.clock)
    (hframe : n'.mac.frame = n.mac.frame) (htimeouts : n'.timeouts = n.timeouts) :
    SlotBegun begun n' := by
  have hdue := h.due.congr hclock fun _ => by rw [htimeouts]
  refine ⟨?_, ?_, hclock ▸ h.begun_le, ?_⟩
  · rw [hframe, h.slotDuration]
  · rw [hframe, h.cfDuration]
  · rwa [hframe]

theorem unset (h : SlotBegun begun n) (timeout : ℕ) : SlotBegun begun (n.unsetTimeout timeout) :=
  ⟨h.slotDuration, h.cfDuration, h.begun_le, h.due.unset timeout⟩

theorem set (h : SlotBegun begun n) (hkept : SlotTimerKept n) (build : Build) (seconds : ℕ) :
    SlotBegun begun (n.setTimeout build seconds).1 :=
  ⟨h.slotDuration, h.cfDuration, h.begun_le, h.due.set hkept build seconds⟩

/-- Polling the slot timer: if it passed, the slot has had its time. -/
theorem poll (h : SlotBegun begun n) {t : Tick} (hle : n.clock ≤ t.now) :
    SlotBegun begun (pollSlotTimer t n).1 ∧
      ((pollSlotTimer t n).2 = false → begun + Config.slotDuration.toNat ≤ t.now) := by
  have ht := h.tick hle
  unfold pollSlotTimer
  dsimp only
  split
  · next hpassed => exact ⟨ht.unset _, fun _ => ht.due.le_clock hpassed⟩
  · exact ⟨ht, fun hsleep => nomatch hsleep⟩

/-- **The next slot begins** when the slot timer is set. -/
theorem start (build : Build) (hslot : n.mac.frame.slotDuration = Config.slotDuration.toNat)
    (hcf : n.mac.frame.cfDuration = Config.cfSlotDuration) :
    SlotBegun n.clock (setSlotTimer build n) := by
  have hdeadline : timespecAdd build.os n.clock n.mac.frame.slotDuration =
      n.clock + Config.slotDuration.toNat := by
    rw [hslot]
    exact timespecAdd_of_lt build.os n.clock (by decide)
  refine ⟨hslot, hcf, le_rfl, ?_⟩
  rw [← hdeadline]
  exact Due.ofSet build n n.mac.frame.slotDuration

end SlotBegun

theorem pollSlotTimer_clock (t : Tick) (n : Node) : (pollSlotTimer t n).1.clock = t.now := by
  unfold pollSlotTimer
  dsimp only
  split <;> rfl

/-- The slot timer that is set is pending. -/
theorem slotTimerKept_set (build : Build) (n : Node) : SlotTimerKept (setSlotTimer build n) := by
  intro hlt
  have hset : (timeoutSet build.os n.clock n.timeouts n.mac.frame.slotDuration).2 ≠
      Config.timeoutSetError := by
    intro herror
    exact absurd (herror ▸ hlt : Config.timeoutSetError < Config.timeouts) (by decide)
  obtain ⟨hs, i, hi⟩ := timeoutSet_ne_error_iff.mp hset
  exact live_setSlotTimer hs hi

/-! ### `PASSIVE` -/

theorem passivePoll_clock {p : PassivePoll} {go : Bool} (h : passivePoll build p n = .ok (n', go)) :
    n'.clock = p.tick.now := by
  obtain ⟨-, _, _, _, _, _, rfl, -, -⟩ := passivePoll_frame h
  exact pollSlotTimer_clock p.tick n

theorem passivePoll_slotBegun {p : PassivePoll} {go : Bool} (hn : SlotBegun begun n)
    (hle : n.clock ≤ p.tick.now) (h : passivePoll build p n = .ok (n', go)) :
    SlotBegun begun n' ∧ (go = false → begun + Config.slotDuration.toNat ≤ n'.clock) := by
  obtain ⟨hpolled, hends⟩ := hn.poll hle
  have hclock := passivePoll_clock h
  obtain ⟨rfl, _, _, _, _, _, rfl, -, -⟩ := passivePoll_frame h
  exact ⟨hpolled.congr rfl rfl rfl, fun hgo => (hends hgo).trans hclock.ge⟩

/-- **`PASSIVE`** returns when the slot has had its time, and the next one begins. -/
theorem executePassive_slotBegun {polls : List PassivePoll} (hn : SlotBegun begun n)
    (htime : (n.clock :: polls.map fun p => p.tick.now).IsChain (· ≤ ·))
    (h : executePassive build polls n = .ok n') :
    SlotBegun n'.clock n' ∧ SlotTimerKept n' ∧ begun + Config.slotDuration.toNat ≤ n'.clock := by
  obtain ⟨m, hloop, -, rfl⟩ := executePassive_cases h
  have hstart : SlotBegun begun { n with mac.frame.currentCfSlot := 0 } :=
    ⟨hn.slotDuration, hn.cfDuration, hn.begun_le, hn.due⟩
  have htime' : (Node.clock { n with mac.frame.currentCfSlot := 0 } ::
      polls.map fun p => p.tick.now).IsChain (· ≤ ·) := htime
  have hm : SlotBegun begun m ∧ begun + Config.slotDuration.toNat ≤ m.clock := by
    refine pollLoop_clocked Node.clock (fun p : PassivePoll => p.tick.now) (SlotBegun begun)
      (fun k => SlotBegun begun k ∧ begun + Config.slotDuration.toNat ≤ k.clock) ?_ ?_ ?_ polls
      htime' hstart hloop
    · exact fun p k k' hpoll => passivePoll_clock hpoll
    · exact fun p k k' hk hle hpoll => (passivePoll_slotBegun hk hle hpoll).1
    · intro p k k' hk hle hpoll
      obtain ⟨hk', hends⟩ := passivePoll_slotBegun hk hle hpoll
      exact ⟨hk', hends rfl⟩
  have hframe : (slotEnded m).mac.frame.slotDuration = m.mac.frame.slotDuration ∧
      (slotEnded m).mac.frame.cfDuration = m.mac.frame.cfDuration := by
    unfold slotEnded advanceSlot
    dsimp only
    split <;> exact ⟨rfl, rfl⟩
  have hbegun := SlotBegun.start build (n := slotEnded m) (hframe.1.trans hm.1.slotDuration)
    (hframe.2.trans hm.1.cfDuration)
  exact ⟨hbegun.congr rfl rfl rfl, slotTimerKept_set build (slotEnded m), hm.2⟩

/-! ### `ACTIVE` -/

/-- The CF slot is not over before its time either, and those before it have had theirs. -/
structure CfSlotBegun (start : ℕ) (n : Node) : Prop where
  currentCfSlot : n.mac.frame.currentCfSlot.toNat < Config.maxNumberFreqs
  begun : ∃ begun, start + n.mac.frame.currentCfSlot.toNat * Config.cfSlotDuration ≤ begun ∧
    begun ≤ n.clock ∧ Due n n.mac.frame.cfTimer (begun + Config.cfSlotDuration)

/-- What the loop of `ACTIVE` keeps. -/
structure CfPhase (begun start : ℕ) (n : Node) : Prop where
  slot : SlotBegun begun n
  cfSlot : CfSlotBegun start n
  apart : n.mac.frame.slotTimer < Config.timeouts → SlotTimerApart n.mac.frame.slotTimer n

namespace CfPhase

variable {start : ℕ}

theorem kept (h : CfPhase begun start n) : SlotTimerKept n := fun hlt => (h.apart hlt).live

theorem tick (h : CfPhase begun start n) {t : Tick} (hle : n.clock ≤ t.now) :
    CfPhase begun start (n.tick t) := by
  obtain ⟨b, hb, hbegun, hdue⟩ := h.cfSlot.begun
  exact ⟨h.slot.tick hle, ⟨h.cfSlot.currentCfSlot, b, hb, hbegun.trans hle, hdue.tick hle⟩,
    fun hlt => (h.apart hlt).tick t⟩

theorem turn (h : CfPhase begun start n) (selectedFreq channel : UInt32) (cf : Option CFPacket)
    (l : ActiveLocals) : CfPhase begun start (cfTurn selectedFreq channel cf n l).1 := by
  obtain ⟨b, hb, hbegun, hdue⟩ := h.cfSlot.begun
  have hapart := fun hlt => (h.apart hlt).turn selectedFreq channel cf l
  obtain ⟨_, _, _, _, _, _, hturn⟩ := cfTurn_frame selectedFreq channel cf n l
  rw [hturn] at hapart ⊢
  exact ⟨h.slot.congr rfl rfl rfl,
    ⟨h.cfSlot.currentCfSlot, b, hb, hbegun, hdue.congr rfl fun _ => rfl⟩, hapart⟩

/-- **A CF slot begins** when its timer is set. -/
theorem begin (build : Build) (hslot : SlotBegun begun n) (hkept : SlotTimerKept n)
    (hlt : n.mac.frame.currentCfSlot.toNat < Config.maxNumberFreqs)
    (hle : start + n.mac.frame.currentCfSlot.toNat * Config.cfSlotDuration ≤ n.clock) :
    CfPhase begun start (setCfTimer build n) := by
  have hdeadline : timespecAdd build.os n.clock n.mac.frame.cfDuration =
      n.clock + Config.cfSlotDuration := by
    rw [hslot.cfDuration]
    exact timespecAdd_of_lt build.os n.clock (by decide)
  have hset := hslot.set hkept build n.mac.frame.cfDuration
  refine ⟨⟨hset.slotDuration, hset.cfDuration, hset.begun_le, hset.due⟩,
    ⟨hlt, n.clock, hle, le_rfl, ?_⟩, fun hid => SlotTimerApart.set build (hkept hid)⟩
  rw [← hdeadline]
  exact Due.ofSet build n n.mac.frame.cfDuration

/-- When the timer of the CF slot passes, the slot has had its time. -/
theorem next (h : CfPhase begun start n)
    (hpassed : timeoutPassed n.timeouts n.mac.frame.cfTimer = 1) :
    SlotBegun begun (nextCfSlot n) ∧ SlotTimerKept (nextCfSlot n) ∧
      (nextCfSlot n).mac.frame.currentCfSlot.toNat ≤ Config.maxNumberFreqs ∧
      start + (nextCfSlot n).mac.frame.currentCfSlot.toNat * Config.cfSlotDuration ≤
        (nextCfSlot n).clock := by
  obtain ⟨b, hb, -, hdue⟩ := h.cfSlot.begun
  have hover := hdue.le_clock hpassed
  have hunset := h.slot.unset n.mac.frame.cfTimer
  have hlt := h.cfSlot.currentCfSlot
  have hsucc : (nextCfSlot n).mac.frame.currentCfSlot.toNat =
      n.mac.frame.currentCfSlot.toNat + 1 := by
    show (n.mac.frame.currentCfSlot + 1).toNat = _
    rw [UInt8.toNat_add, UInt8.toNat_one]
    simp only [Config.maxNumberFreqs] at hlt
    omega
  refine ⟨⟨hunset.slotDuration, hunset.cfDuration, hunset.begun_le, hunset.due⟩,
    fun hid => (h.apart hid).next, hsucc ▸ hlt, ?_⟩
  calc start + (nextCfSlot n).mac.frame.currentCfSlot.toNat * Config.cfSlotDuration
      = start + n.mac.frame.currentCfSlot.toNat * Config.cfSlotDuration + Config.cfSlotDuration := by
        rw [hsucc, Nat.add_mul, Nat.one_mul, Nat.add_assoc]
    _ ≤ b + Config.cfSlotDuration := Nat.add_le_add_right hb _
    _ ≤ n.clock := hover

end CfPhase

theorem activePoll_clock {freq : UInt32} {p : ActivePoll} {s s' : Node × ActiveLocals} {go : Bool}
    (h : activePoll build freq p s = .ok (s', go)) : s'.1.clock = p.tick.now := by
  have hturn (m : Node) (channel : UInt32) :
      (cfTurn freq channel p.cf m s.2).1.clock = m.clock := by
    obtain ⟨_, _, _, _, _, _, hturn⟩ := cfTurn_frame freq channel p.cf m s.2
    rw [hturn]
  obtain ⟨channel, -, ⟨-, rfl, -⟩ | ⟨-, -, rfl, -⟩ | ⟨-, -, rfl, -⟩⟩ := activePoll_cases h
  · rw [hturn]
    rfl
  · rw [hturn]
    rfl
  · rfl

theorem activePoll_cfPhase {start : ℕ} {freq : UInt32} {p : ActivePoll}
    {s s' : Node × ActiveLocals} (hs : CfPhase begun start s.1) (hle : s.1.clock ≤ p.tick.now)
    (h : activePoll build freq p s = .ok (s', true)) : CfPhase begun start s'.1 := by
  have ht := hs.tick hle
  obtain ⟨channel, -, ⟨-, rfl, -⟩ | ⟨hpassed, hnot, rfl, -⟩ | ⟨-, -, -, hgo⟩⟩ := activePoll_cases h
  · exact ht.turn _ _ _ _
  · obtain ⟨hslot, hkept, hcfSlot, hover⟩ := ht.next hpassed
    -- the slot after this one is not the ninth
    have hne : (nextCfSlot (s.1.tick p.tick)).mac.frame.currentCfSlot.toNat ≠
      Config.maxNumberFreqs := fun heq => hnot (UInt8.toNat_inj.mp heq)
    exact (CfPhase.begin build hslot hkept (lt_of_le_of_ne hcfSlot hne) hover).turn _ _ _ _
  · cases hgo

theorem activeOutcome_frame (n : Node) (l : ActiveLocals) :
    ∃ nextState isInternalCollision, (activeOutcome n l).1 = { n with
      powerMode.nextState := nextState
      mac.isInternalCollision := isInternalCollision } := by
  simp only [activeOutcome]
  split_ifs <;> exact ⟨_, _, rfl⟩

/-- **`ACTIVE`** returns when all CF slots have had their time, in the slot in which it began. -/
theorem executeActive_slotBegun {polls : List ActivePoll} {ret : PmExecution}
    (hn : SlotBegun begun n) (hkept : SlotTimerKept n)
    (htime : (n.clock :: polls.map fun p => p.tick.now).IsChain (· ≤ ·))
    (h : executeActive build polls n = .ok (n', ret)) :
    SlotBegun begun n' ∧ SlotTimerKept n' ∧
      n.clock + Config.maxNumberFreqs * Config.cfSlotDuration ≤ n'.clock := by
  obtain ⟨m, l, hloop, hout⟩ := executeActive_cases h
  have hfirst : CfPhase begun n.clock (setCfTimer build { n with mac.frame.currentCfSlot := 0 }) := by
    refine CfPhase.begin build ⟨hn.slotDuration, hn.cfDuration, hn.begun_le, hn.due⟩ hkept ?_ ?_
    · show (0 : UInt8).toNat < Config.maxNumberFreqs
      decide
    · show n.clock + (0 : UInt8).toNat * Config.cfSlotDuration ≤ n.clock
      rw [UInt8.toNat_zero, Nat.zero_mul, Nat.add_zero]
  -- the loop ends behind the last CF slot, each of them a full duration later
  have hm : SlotBegun begun m ∧ SlotTimerKept m ∧
      n.clock + Config.maxNumberFreqs * Config.cfSlotDuration ≤ m.clock := by
    refine pollLoop_clocked (fun s : Node × ActiveLocals => s.1.clock)
      (fun p : ActivePoll => p.tick.now) (fun s => CfPhase begun n.clock s.1)
      (fun s => SlotBegun begun s.1 ∧ SlotTimerKept s.1 ∧
        n.clock + Config.maxNumberFreqs * Config.cfSlotDuration ≤ s.1.clock)
      (fun _ _ _ => activePoll_clock) (fun _ _ _ => activePoll_cfPhase) ?_ polls ?_ hfirst hloop
    · intro p s s' hs hle hpoll
      have ht := hs.tick hle
      obtain ⟨channel, -, ⟨-, -, hgo⟩ | ⟨-, -, -, hgo⟩ | ⟨hpassed, hlast, rfl, -⟩⟩ :=
        activePoll_cases hpoll
      · cases hgo
      · cases hgo
      · obtain ⟨hslot, hkept, -, hover⟩ := ht.next hpassed
        have height : (nextCfSlot (s.1.tick p.tick)).mac.frame.currentCfSlot.toNat =
          Config.maxNumberFreqs := congrArg UInt8.toNat hlast
        exact ⟨hslot, hkept, height ▸ hover⟩
    · exact htime
  obtain ⟨_, _, hframe⟩ := activeOutcome_frame m l
  rw [hout] at hframe
  obtain rfl : n' = _ := hframe
  exact ⟨hm.1.congr rfl rfl rfl, hm.2⟩

/-! ### `TRANSMIT` and `RECEIVE` -/

theorem transmitPoll_cases {t : Tick} {go : Bool} (h : transmitPoll build t n = .ok (n', go)) :
    ∃ message control sent, n' = { (pollSlotTimer t n).1 with
      mac.message := message, mac.control := control, sent := sent } := by
  unfold transmitPoll at h
  dsimp only at h
  split at h
  · cases h
    exact ⟨_, _, _, rfl⟩
  · obtain ⟨m, hsend, h⟩ := bind_eq_ok.mp h
    cases h
    exact mclmacSendDataPacket_frame hsend

/-- **`TRANSMIT`** stays in the slot. -/
theorem executeTransmit_slotBegun {ticks : List Tick} {ret : PmExecution} (hn : SlotBegun begun n)
    (htime : (n.clock :: ticks.map Tick.now).IsChain (· ≤ ·))
    (h : executeTransmit build ticks n = .ok (n', ret)) : SlotBegun begun n' := by
  have hcontrol : SlotBegun begun (afterControlPacket n) := hn.congr rfl rfl rfl
  obtain ⟨-, -, -, rfl⟩ | ⟨-, -, -, rfl⟩ | ⟨-, -, m, hloop, rfl⟩ := executeTransmit_cases h
  · exact hcontrol.congr rfl rfl rfl
  · exact hcontrol.congr rfl rfl rfl
  · have htime' : ((afterControlPacket n).clock :: ticks.map Tick.now).IsChain (· ≤ ·) := htime
    have hpoll (t : Tick) (k k' : Node) (go : Bool) (hk : SlotBegun begun k) (hle : k.clock ≤ t.now)
        (hpoll : transmitPoll build t k = .ok (k', go)) : SlotBegun begun k' := by
      obtain ⟨_, _, _, rfl⟩ := transmitPoll_cases hpoll
      exact (hk.poll hle).1.congr rfl rfl rfl
    have hclock (t : Tick) (k k' : Node) (hpoll : transmitPoll build t k = .ok (k', true)) :
        k'.clock = t.now := by
      obtain ⟨_, _, _, rfl⟩ := transmitPoll_cases hpoll
      exact pollSlotTimer_clock t k
    have hm : SlotBegun begun m :=
      pollLoop_clocked Node.clock Tick.now (SlotBegun begun) (SlotBegun begun) hclock
        (fun t k k' => hpoll t k k' true) (fun t k k' => hpoll t k k' false) ticks htime' hcontrol hloop
    exact hm.congr rfl rfl rfl

/-- Hearing a control packet: its timer is not the slot timer. -/
theorem mclmacReceiveControlPacket_slotBegun (build : Build) (radio : CtrlRadio)
    (hn : SlotBegun begun n) (hkept : SlotTimerKept n) :
    SlotBegun begun (mclmacReceiveControlPacket build radio n).1 ∧
      SlotTimerKept (mclmacReceiveControlPacket build radio n).1 ∧
      (mclmacReceiveControlPacket build radio n).1.clock = n.clock := by
  have hwithin : SlotBegun begun (receiveWithin build radio n).1 := by
    have hset := hn.set hkept build (n.mac.frame.slotDuration / 20)
    unfold receiveWithin
    dsimp only
    split
    · exact hset
    · split
      · exact hset.unset _
      · exact hset
      · exact hset
  have hslot : SlotBegun begun (mclmacReceiveControlPacket build radio n).1 := by
    unfold mclmacReceiveControlPacket
    by_cases hradio : (!build.native && build.os == .riot) = true
    · rw [if_pos hradio]
      generalize receiveWithin build radio n = heard at hwithin ⊢
      obtain ⟨m, _ | b⟩ := heard
      · exact hwithin
      · exact hwithin.congr rfl rfl rfl
    · rw [if_neg hradio]
      cases radio with
      | lost _ => exact hn
      | heard _ => exact hn.congr rfl rfl rfl
  have hlive (hlt : n.mac.frame.slotTimer < Config.timeouts) :
      Live (mclmacReceiveControlPacket build radio n).1.timeouts n.mac.frame.slotTimer :=
    mclmacReceiveControlPacket_live (hkept hlt)
  obtain ⟨_, _, hframe⟩ := mclmacReceiveControlPacket_frame build radio n
  rw [hframe] at hslot hlive ⊢
  exact ⟨hslot, hlive, rfl⟩

/-- **`RECEIVE`** stays in the slot. -/
theorem executeReceive_slotBegun {attempt₁ attempt₂ : CtrlRadio} {polls : List ReceivePoll}
    {ret : PmExecution} (hn : SlotBegun begun n) (hkept : SlotTimerKept n)
    (htime : (n.clock :: polls.map fun p => p.tick.now).IsChain (· ≤ ·))
    (h : executeReceive build attempt₁ attempt₂ polls n = .ok (n', ret)) : SlotBegun begun n' := by
  obtain ⟨hfirst, hkept, hclock⟩ := mclmacReceiveControlPacket_slotBegun build attempt₁ hn hkept
  obtain ⟨-, rfl⟩ | ⟨-, rfl⟩ | ⟨-, m, rfl, rfl | hloop⟩ := executeReceive_cases h
  · exact (mclmacReceiveControlPacket_slotBegun build attempt₂ hfirst hkept).1.congr rfl rfl rfl
  · exact hfirst.congr rfl rfl rfl
  · exact hfirst.congr rfl rfl rfl
  · have hpoll (p : ReceivePoll) (k k' : Node) (go : Bool) (hk : SlotBegun begun k)
        (hle : k.clock ≤ p.tick.now) (hpoll : receivePoll build p k = .ok (k', go)) :
        SlotBegun begun k' := by
      obtain ⟨_, rfl⟩ := receivePoll_frame hpoll
      exact (hk.tick hle).congr rfl rfl rfl
    have hmoment (p : ReceivePoll) (k k' : Node) (hpoll : receivePoll build p k = .ok (k', true)) :
        k'.clock = p.tick.now := by
      obtain ⟨_, rfl⟩ := receivePoll_frame hpoll
      rfl
    rw [← hclock] at htime
    have hm : SlotBegun begun m :=
      pollLoop_clocked Node.clock (fun p : ReceivePoll => p.tick.now) (SlotBegun begun)
        (SlotBegun begun) hmoment (fun p k k' => hpoll p k k' true)
        (fun p k k' => hpoll p k k' false) polls htime hfirst hloop
    exact hm.congr rfl rfl rfl

/-! ## Sessions -/

/-- The moment at which a slot begins in a turn of the loop: when `PASSIVE` has returned. -/
def slotsBegun (build : Build) (inp : PmInput) (n : Node) : List ℕ :=
  if n.powerMode.currentState = .passive then ((sessionStep build inp n).map Node.clock).toList else []

/-- The invariant of a session. -/
structure Paced (begun : ℕ) (n : Node) : Prop where
  session : InSession n.powerMode.currentState
  slot : SlotBegun begun n
  kept : n.powerMode.currentState ≠ .passive → SlotTimerKept n

/-- **A turn of the loop**: the slot goes on, or it has had its time and the next one begins. -/
theorem sessionStep_paced {inp : PmInput} (hn : Paced begun n) (htime : ClockAdvances inp n)
    (h : sessionStep build inp n = some n') :
    (n.powerMode.currentState = .passive ∧ begun + Config.slotDuration.toNat ≤ n'.clock ∧
        Paced n'.clock n') ∨
      (n.powerMode.currentState ≠ .passive ∧ Paced begun n' ∧ (n.powerMode.currentState = .active →
        n.clock + Config.maxNumberFreqs * Config.cfSlotDuration ≤ n'.clock)) := by
  have hcases := sessionStep_cases hn.session h
  have hsession := hcases.inSession
  unfold ClockAdvances PmInput.moments at htime
  cases hcases with
  | @passive m hmode hexec =>
    rw [hmode] at htime
    obtain ⟨hslot, hkept, hover⟩ := executePassive_slotBegun hn.slot htime hexec
    exact .inl ⟨hmode, hover, hsession, hslot.congr rfl rfl rfl, fun _ => hkept⟩
  | @active m hmode hexec hnext =>
    have hne : n.powerMode.currentState ≠ .passive := by rw [hmode]; decide
    have hkept := hn.kept hne
    rw [hmode] at htime
    obtain ⟨hslot, hkept, hover⟩ := executeActive_slotBegun hn.slot hkept htime hexec
    exact .inr ⟨hne, ⟨hsession, hslot.congr rfl rfl rfl, fun _ => hkept⟩, fun _ => hover⟩
  | @collision m hmode hexec =>
    have hne : n.powerMode.currentState ≠ .passive := by rw [hmode]; decide
    have hkept := hn.kept hne
    rw [hmode] at htime
    obtain ⟨hslot, hkept, hover⟩ := executeActive_slotBegun hn.slot hkept htime hexec
    exact .inr ⟨hne, ⟨hsession, hslot.congr rfl rfl rfl, fun _ => hkept⟩, fun _ => hover⟩
  | @transmit m hmode hexec =>
    rw [hmode] at htime ⊢
    have hslot := executeTransmit_slotBegun hn.slot htime hexec
    exact .inr ⟨by decide, ⟨hsession, hslot.congr rfl rfl rfl, fun hne => absurd rfl hne⟩,
      fun hactive => nomatch hactive⟩
  | @receive m hmode hexec =>
    have hkept := hn.kept (by rw [hmode]; decide)
    rw [hmode] at htime ⊢
    have hslot := executeReceive_slotBegun hn.slot hkept htime hexec
    exact .inr ⟨by decide, ⟨hsession, hslot.congr rfl rfl rfl, fun hne => absurd rfl hne⟩,
      fun hactive => nomatch hactive⟩

theorem enterMediumAccess_paced (h : enterMediumAccess build n = .ok n') : Paced n'.clock n' := by
  rw [enterMediumAccess_cases h]
  have hslot := SlotBegun.start build (n := startSession
    { n with toMCLMAC := mclmacInitPowermodeStateMachine n.toMCLMAC }) rfl rfl
  exact ⟨.inl rfl, hslot.congr rfl rfl rfl, fun hne => absurd rfl hne⟩

/-- The slots that have begun at these moments had their time, but for the last one. -/
def SlotsApart (l : List ℕ) (n : Node) : Prop :=
  ∃ begun before, l = before ++ [begun] ∧
    l.IsChain (fun a b => a + Config.slotDuration.toNat ≤ b) ∧ Paced begun n

theorem SlotsApart.step {inp : PmInput} {l : List ℕ} (h : SlotsApart l n) (htime : ClockAdvances inp n)
    (hstep : sessionStep build inp n = some n') :
    SlotsApart (l ++ slotsBegun build inp n) n' := by
  obtain ⟨begun, before, rfl, hchain, hn⟩ := h
  rcases sessionStep_paced hn htime hstep with ⟨hmode, hover, hn'⟩ | ⟨hmode, hn', -⟩
  · rw [slotsBegun, if_pos hmode, hstep]
    refine ⟨n'.clock, before ++ [begun], rfl, ?_, hn'⟩
    rw [List.append_assoc]
    exact List.isChain_append_cons_cons.mpr ⟨hchain, hover, List.isChain_singleton _⟩
  · rw [slotsBegun, if_neg hmode, List.append_nil]
    exact ⟨begun, before, rfl, hchain, hn'⟩

/-- **A session keeps its pace**: as long as the clock does not go back, each slot of a session begins
a slot duration after the one before, or later, and each execution of `ACTIVE` lasts for the eight CF
slots at least. -/
theorem session_paced (build : Build) (inputs : List PmInput) (n n₀ n' : Node)
    (henter : enterMediumAccess build n = .ok n₀)
    (htime : ∀ t ∈ taken (sessionStep build) inputs n₀, ClockAdvances t.1 t.2)
    (hrun : inputs.foldlM (fun m inp => sessionStep build inp m) n₀ = some n') :
    (n₀.clock :: recorded (slotsBegun build) (sessionStep build) inputs n₀).IsChain
        (fun a b => a + Config.slotDuration.toNat ≤ b) ∧
      ∀ t ∈ taken (sessionStep build) inputs n₀, t.2.powerMode.currentState = .active →
        ∃ m, sessionStep build t.1 t.2 = some m ∧
          t.2.clock + Config.maxNumberFreqs * Config.cfSlotDuration ≤ m.clock := by
  constructor
  · have hstart : SlotsApart [n₀.clock] n₀ :=
      ⟨n₀.clock, [], rfl, List.isChain_singleton _, enterMediumAccess_paced henter⟩
    have hend := run_recorded_good ClockAdvances (fun m l => SlotsApart l m)
      (fun _ _ _ _ hm hin hstep => hm.step hin hstep) inputs hstart htime hrun
    obtain ⟨_, _, -, hchain, -⟩ := hend
    exact hchain
  · intro t ht hmode
    have hstep (inp : PmInput) (m m' : Node) (hm : ∃ begun, Paced begun m) (hin : ClockAdvances inp m)
        (h : sessionStep build inp m = some m') : ∃ begun, Paced begun m' := by
      obtain ⟨begun, hm⟩ := hm
      rcases sessionStep_paced hm hin h with ⟨-, -, hm'⟩ | ⟨-, hm', -⟩
      · exact ⟨_, hm'⟩
      · exact ⟨_, hm'⟩
    obtain ⟨⟨begun, hm⟩, m', hstep'⟩ := forall_taken_good ClockAdvances (fun m => ∃ begun, Paced begun m)
      hstep inputs ⟨n₀.clock, enterMediumAccess_paced henter⟩ htime t ht
    rcases sessionStep_paced hm (htime t ht) hstep' with ⟨hpassive, -⟩ | ⟨-, -, hover⟩
    · rw [hmode] at hpassive
      cases hpassive
    · exact ⟨m', hstep', hover hmode⟩

instance (inp : PmInput) (n : Node) : Decidable (ClockAdvances inp n) :=
  inferInstanceAs (Decidable (List.IsChain _ _))

/-- The first node in its first frame. -/
theorem session_paced_quietFrame :
    ∃ n', quietFrame.foldlM (fun m inp => sessionStep ⟨.linux, true⟩ inp m) firstNodeEntered =
        some n' ∧
      (firstNodeEntered.clock :: recorded (slotsBegun ⟨.linux, true⟩) (sessionStep ⟨.linux, true⟩)
        quietFrame firstNodeEntered).IsChain (fun a b => a + Config.slotDuration.toNat ≤ b) := by
  obtain ⟨n', hrun⟩ : ∃ n', quietFrame.foldlM (fun m inp => sessionStep ⟨.linux, true⟩ inp m)
      firstNodeEntered = some n' := Option.isSome_iff_exists.mp (by decide +kernel)
  exact ⟨n', hrun, (session_paced ⟨.linux, true⟩ quietFrame firstNode firstNodeEntered n' rfl
    (by decide +kernel) hrun).1⟩

end WmnIot
