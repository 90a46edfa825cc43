import WmnIot.PowerMode.CommonFrequency

/-! # Announcements in `ACTIVE`

A node announces itself on the common frequency in the turns of its own slot and channel. The
channel of a turn is read when it starts; when the timer of the CF slot passes in the turn, the next
CF slot begins before the announcement is sent.

* **`CfStep`**, **`activeSteps`** — the turns of an execution of `ACTIVE`, which may not end.
* **`AnnouncesOnceInPlace`** — at most one announcement is sent, at the place of the node.
* **`AnnouncingSlot`**, **`AnnouncingSlot.step`** — where the loop stands, and what a turn does.
* **`AnnouncesFrom`** — the rest of the loop, turn by turn.
* **`announcesOnceInPlace_iff`** — the executions that announce once and in place. -/

namespace WmnIot

open Runs

/-! ## The turns -/

/-- A turn of the loop: whether it starts in the slot and on the channel of the node, whether it
moves on to a CF slot with another channel, and whether a message is on the air. -/
structure CfStep where
  own : Bool
  moves : Bool
  heard : Bool

/-- A turn that starts in the CF slot `slot` and ends in `slot'`. -/
def cfStepOn (n : Node) (slot slot' : Fin Config.maxNumberFreqs) (cf : Option CFPacket) : CfStep where
  own := n.mac.frame.currentSlot == n.mac.selectedSlot && n.mac.transmitChannel == n.frequencies slot
  moves := n.frequencies slot' != n.frequencies slot
  heard := cf.isSome

/-- The handler runs past the deadline of the CF slot; one whose timer could not be set has none. -/
def CfSlotEnds (deadline : Option ℕ) (tick : Tick) : Prop :=
  tick.handler = true ∧ ∃ d ∈ deadline, d ≤ tick.now

instance (deadline : Option ℕ) (tick : Tick) : Decidable (CfSlotEnds deadline tick) :=
  inferInstanceAs (Decidable (_ ∧ _))

/-- The turns from a CF slot on. The phase ends with the last slot. -/
def cfSteps (os : OS) (n : Node) (slot : Fin Config.maxNumberFreqs) (deadline : Option ℕ) :
    List ActivePoll → List CfStep
  | [] => []
  | p :: polls =>
    if CfSlotEnds deadline p.tick then
      if h : slot + 1 < Config.maxNumberFreqs then
        cfStepOn n slot ⟨slot + 1, h⟩ p.cf ::
          cfSteps os n ⟨slot + 1, h⟩ (some (timespecAdd os p.tick.now n.mac.frame.cfDuration)) polls
      else []
    else cfStepOn n slot slot p.cf :: cfSteps os n slot deadline polls

/-- The timer of the CF slots can be set: it has a duration and the table has a free entry. -/
def CanSetCfTimer (n : Node) : Prop :=
  n.mac.frame.cfDuration ≠ 0 ∧ ∃ i, (n.timeouts i).used = false

instance (n : Node) : Decidable (CanSetCfTimer n) :=
  inferInstanceAs (Decidable (_ ∧ _))

/-- The deadline of the first CF slot, if its timer can be set. -/
def firstDeadline (os : OS) (n : Node) : Option ℕ :=
  if CanSetCfTimer n then
    some (timespecAdd os n.clock n.mac.frame.cfDuration)
  else none

/-- The turns of an execution of `ACTIVE`. -/
def activeSteps (os : OS) (polls : List ActivePoll) (n : Node) : List CfStep :=
  cfSteps os n 0 (firstDeadline os n) polls

/-- In the first turn of its own the node has one reason to announce itself at most, and if it has
one the turn does not move on to another channel. -/
def AnnouncesWell (busy first : Bool) (steps : List CfStep) : Prop :=
  ∀ s ∈ steps.find? CfStep.own,
    let alone := first && (steps.takeWhile fun t => !t.own).all fun t => !t.heard
    (busy || alone) = true → (busy && alone) = false ∧ s.moves = false

instance (busy first : Bool) (steps : List CfStep) : Decidable (AnnouncesWell busy first steps) :=
  inferInstanceAs (Decidable (∀ s ∈ steps.find? CfStep.own, _))

@[simp]
theorem announcesWell_nil (busy first : Bool) : AnnouncesWell busy first [] := by
  simp [AnnouncesWell]

/-- A node with no reason to announce itself does not. -/
theorem announcesWell_of_idle (steps : List CfStep) : AnnouncesWell false false steps := by
  simp [AnnouncesWell]

theorem announcesWell_cons_own {busy first : Bool} {s : CfStep} (steps : List CfStep)
    (h : s.own = true) :
    AnnouncesWell busy first (s :: steps) ↔
      ((busy || first) = true → (busy && first) = false ∧ s.moves = false) := by
  simp [AnnouncesWell, h]

theorem announcesWell_cons_other {busy first : Bool} {s : CfStep} (steps : List CfStep)
    (h : s.own = false) :
    AnnouncesWell busy first (s :: steps) ↔ AnnouncesWell busy (first && !s.heard) steps := by
  simp [AnnouncesWell, h, Bool.and_assoc]

/-! ## An execution -/

/-- The loop of `ACTIVE` begins. -/
def activeStart (build : Build) (n : Node) : Node × ActiveLocals :=
  (setCfTimer build { n with mac.frame.currentCfSlot := 0 },
    { isCurrent := n.mac.frame.currentSlot == n.mac.selectedSlot })

/-- The node is in its own slot, and the current CF slot is the one of its channel. -/
def InOwnPlace (n : Node) : Prop :=
  n.mac.frame.currentSlot = n.mac.selectedSlot ∧
    mclmacGetFrequency n.toMCLMAC n.mac.frame.currentCfSlot = .ok n.mac.transmitChannel

/-- The execution of `ACTIVE` has sent one CF message at most in each state of its loop and when it
returns, and the turns that send one end where the node should announce itself. -/
def AnnouncesOnceInPlace (build : Build) (polls : List ActivePoll) (n : Node) : Prop :=
  let turn := loopStep (activePoll build n.mac.transmitChannel)
  (∀ s ∈ visited turn polls (activeStart build n), s.1.sent.length ≤ n.sent.length + 1) ∧
    (∀ t ∈ taken turn polls (activeStart build n), ∀ s', turn t.1 t.2 = some s' →
      s'.1.sent ≠ t.2.1.sent → InOwnPlace s'.1) ∧
    ∀ n' ret, executeActive build polls n = .ok (n', ret) → n'.sent.length ≤ n.sent.length + 1

section Turns

variable {build : Build} {n m : Node} {slot : Fin Config.maxNumberFreqs} {deadline : Option ℕ}
  {l : ActiveLocals}

/-- What an announcement sends: a message for each reason. -/
theorem announce_sent (m : Node) (l : ActiveLocals) :
    (announce m l).1.sent.length = m.sent.length + (cfBusy m).toNat + m.isFirstNode.toNat := by
  unfold announce cfBusy
  by_cases hbusy : m.mac.message.packetsToSend > 0 ∨ m.mac.control.packetsToSend > 0 ∨
      m.mac.collisionDetected = true
  · cases hfirst : m.isFirstNode <;>
      simp [hbusy, hfirst, mclmacSendCfMessage]
  · cases hfirst : m.isFirstNode <;>
      simp [hbusy, hfirst, mclmacSendCfMessage]

theorem announce_sent_ne (hreason : (cfBusy m || m.isFirstNode) = true) :
    (announce m l).1.sent ≠ m.sent := by
  intro heq
  have hmore := announce_sent m l
  rw [heq] at hmore
  rcases Bool.or_eq_true _ _ ▸ hreason with h | h <;> rw [h, Bool.toNat_true] at hmore <;> omega

/-- A node with no reason to announce itself changes nothing in a turn of its own. -/
theorem announce_of_idle (hbusy : cfBusy m = false) (hfirst : m.isFirstNode = false) :
    announce m l = (m, l) := by
  have hidle : ¬ (m.mac.message.packetsToSend > 0 ∨ m.mac.control.packetsToSend > 0 ∨
      m.mac.collisionDetected = true) := decide_eq_false_iff_not.mp hbusy
  simp [announce, hidle, hfirst]

/-- A turn of listening sends nothing. -/
theorem listenCf_sent (channel : UInt32) (cf : Option CFPacket) (m : Node) (l : ActiveLocals) :
    (listenCf channel cf m l).1.sent = m.sent ∧
      (listenCf channel cf m l).1.isFirstNode = (m.isFirstNode && !cf.isSome) ∧
      (listenCf channel cf m l).2.isCurrent = l.isCurrent := by
  cases cf with
  | none => simp [listenCf, mclmacReceiveCfMessage]
  | some pkt =>
    by_cases h : Addressed m pkt
    · rw [listenCf_of_addressed channel l h]
      simp [Node.afterCf]
    · rw [listenCf_of_not_addressed channel l h]
      simp [Node.afterCf]

/-- The loop of `ACTIVE` is in the given CF slot of the execution that began in `n`, with the timer
of the slot pending or not set. -/
structure AnnouncingSlot (n : Node) (slot : Fin Config.maxNumberFreqs) (deadline : Option ℕ)
    (m : Node) : Prop where
  frequencies : m.frequencies = n.frequencies
  busy : cfBusy m = cfBusy n
  currentSlot : m.mac.frame.currentSlot = n.mac.frame.currentSlot
  selectedSlot : m.mac.selectedSlot = n.mac.selectedSlot
  transmitChannel : m.mac.transmitChannel = n.mac.transmitChannel
  cfSlot : m.mac.frame.currentCfSlot.toNat = slot
  timer : ∀ d ∈ deadline, InCfSlot n slot d m ∧ n.mac.frame.cfDuration ≠ 0
  noTimer : deadline = none → m.mac.frame.cfTimer = Config.timeoutSetError

theorem AnnouncingSlot.frequency (h : AnnouncingSlot n slot deadline m) :
    mclmacGetFrequency m.toMCLMAC m.mac.frame.currentCfSlot = .ok (n.frequencies slot) := by
  have hlt : m.mac.frame.currentCfSlot.toNat < Config.maxNumberFreqs := by
    rw [h.cfSlot]
    exact slot.isLt
  rw [mclmacGetFrequency, dif_pos hlt, h.frequencies]
  exact congrArg (fun i => Except.ok (n.frequencies i)) (Fin.ext h.cfSlot)

/-- The loop stands at the place of the node exactly in its slot and on its channel. -/
theorem AnnouncingSlot.inOwnPlace_iff (h : AnnouncingSlot n slot deadline m) :
    InOwnPlace m ↔ n.mac.frame.currentSlot = n.mac.selectedSlot ∧
      n.frequencies slot = n.mac.transmitChannel := by
  rw [InOwnPlace, h.frequency, h.currentSlot, h.selectedSlot, h.transmitChannel, Except.ok.injEq]

/-- The timer of the slot passes when the slot ends. -/
theorem AnnouncingSlot.passed_iff (h : AnnouncingSlot n slot deadline m) (tick : Tick) :
    timeoutPassed (m.tick tick).timeouts m.mac.frame.cfTimer = 1 ↔ CfSlotEnds deadline tick := by
  cases hdeadline : deadline with
  | none =>
    rw [h.noTimer hdeadline, timeoutPassed, dif_neg (by decide)]
    simp [CfSlotEnds]
  | some d =>
    rw [(h.timer d hdeadline).1.passed_iff]
    simp [CfSlotEnds]

/-- What concerns the CF messages does not matter for where the loop stands. -/
theorem AnnouncingSlot.turn (h : AnnouncingSlot n slot deadline m) (channel : UInt32)
    (cf : Option CFPacket) (l : ActiveLocals) :
    AnnouncingSlot n slot deadline (cfTurn n.mac.transmitChannel channel cf m l).1 := by
  have htimer : ∀ d ∈ deadline,
      InCfSlot n slot d (cfTurn n.mac.transmitChannel channel cf m l).1 ∧
        n.mac.frame.cfDuration ≠ 0 :=
    fun d hd => ⟨(h.timer d hd).1.turn _ _ _ _, (h.timer d hd).2⟩
  obtain ⟨_, _, _, _, _, _, hturn⟩ := cfTurn_frame n.mac.transmitChannel channel cf m l
  rw [hturn] at htimer ⊢
  exact ⟨h.frequencies, h.busy, h.currentSlot, h.selectedSlot, h.transmitChannel, h.cfSlot, htimer,
    h.noTimer⟩

theorem AnnouncingSlot.tick (h : AnnouncingSlot n slot deadline m) {tick : Tick}
    (hgoes : ¬ CfSlotEnds deadline tick) : AnnouncingSlot n slot deadline (m.tick tick) where
  frequencies := h.frequencies
  busy := h.busy
  currentSlot := h.currentSlot
  selectedSlot := h.selectedSlot
  transmitChannel := h.transmitChannel
  cfSlot := h.cfSlot
  timer := by
    intro d hd
    obtain ⟨hslot, hduration⟩ := h.timer d hd
    refine ⟨hslot.tick ?_, hduration⟩
    rintro ⟨hhandler, hle⟩
    exact hgoes ⟨hhandler, d, hd, hle⟩
  noTimer := h.noTimer

theorem AnnouncingSlot.next (build : Build) (h : AnnouncingSlot n slot deadline m) {tick : Tick}
    (hends : CfSlotEnds deadline tick) (hlt : (slot : ℕ) + 1 < Config.maxNumberFreqs) :
    AnnouncingSlot n ⟨slot + 1, hlt⟩
      (some (timespecAdd build.os tick.now n.mac.frame.cfDuration))
      (setCfTimer build (nextCfSlot (m.tick tick))) := by
  obtain ⟨hhandler, d, hd, hle⟩ := hends
  obtain ⟨hslot, hduration⟩ := h.timer d hd
  have hnext := hslot.next build ⟨hhandler, hle⟩ hlt hduration
  refine ⟨h.frequencies, h.busy, h.currentSlot, h.selectedSlot, h.transmitChannel, hnext.cfSlot, ?_,
    nofun⟩
  intro d' hd'
  rw [← Option.some.inj hd']
  exact ⟨hnext, hduration⟩

/-- **A turn of the loop** ends the phase, or takes place in a CF slot and is followed by the turns
from there on. -/
theorem AnnouncingSlot.step (build : Build) (h : AnnouncingSlot n slot deadline m) (p : ActivePoll)
    (l : ActiveLocals) :
    (loopStep (activePoll build n.mac.transmitChannel) p (m, l) = none ∧
        ∀ polls, cfSteps build.os n slot deadline (p :: polls) = []) ∨
      ∃ slot' deadline' m₁, AnnouncingSlot n slot' deadline' m₁ ∧ m₁.sent = m.sent ∧
        m₁.isFirstNode = m.isFirstNode ∧
        loopStep (activePoll build n.mac.transmitChannel) p (m, l) =
          some (cfTurn n.mac.transmitChannel (n.frequencies slot) p.cf m₁ l) ∧
        ∀ polls, cfSteps build.os n slot deadline (p :: polls) =
          cfStepOn n slot slot' p.cf :: cfSteps build.os n slot' deadline' polls := by
  by_cases hends : CfSlotEnds deadline p.tick
  · have hpassed := (h.passed_iff p.tick).mpr hends
    obtain ⟨d, hd, -⟩ := hends.2
    have hlast := (h.timer d hd).1.next_eq_last
    -- the next CF slot, or the end of the phase
    by_cases hlt : (slot : ℕ) + 1 < Config.maxNumberFreqs
    · refine .inr ⟨⟨slot + 1, hlt⟩, _, _, h.next build hends hlt, rfl, rfl, ?_, ?_⟩
      · rw [loopStep_eq_some, activePoll_of_passed h.frequency hpassed,
          if_neg (mt hlast.mp (Nat.ne_of_lt hlt))]
      · intro polls
        rw [cfSteps, if_pos hends, dif_pos hlt]
    · refine .inl ⟨?_, ?_⟩
      · have hend : (slot : ℕ) + 1 = Config.maxNumberFreqs := by
          have := slot.isLt
          omega
        rw [loopStep, activePoll_of_passed h.frequency hpassed, if_pos (hlast.mpr hend)]
      · intro polls
        rw [cfSteps, if_pos hends, dif_neg hlt]
  · refine .inr ⟨slot, deadline, _, h.tick hends, rfl, rfl, ?_, ?_⟩
    · rw [loopStep_eq_some,
        activePoll_of_pending h.frequency (mt (h.passed_iff p.tick).mp hends)]
    · intro polls
      rw [cfSteps, if_neg hends]

/-- From a state of the loop on, no state has sent more than one message since `n`, and the turns
that send one end where the node should announce itself. -/
def AnnouncesFrom (build : Build) (n : Node) (polls : List ActivePoll) (s : Node × ActiveLocals) :
    Prop :=
  (∀ s' ∈ visited (loopStep (activePoll build n.mac.transmitChannel)) polls s,
      s'.1.sent.length ≤ n.sent.length + 1) ∧
    ∀ t ∈ taken (loopStep (activePoll build n.mac.transmitChannel)) polls s, ∀ s',
      loopStep (activePoll build n.mac.transmitChannel) t.1 t.2 = some s' →
        s'.1.sent ≠ t.2.1.sent → InOwnPlace s'.1

/-- The loop that has stopped has announced what it has sent. -/
theorem announcesFrom_nil (s : Node × ActiveLocals) :
    AnnouncesFrom build n [] s ↔ s.1.sent.length ≤ n.sent.length + 1 := by
  simp [AnnouncesFrom, visited, taken]

theorem announcesFrom_of_stops {p : ActivePoll} {s : Node × ActiveLocals}
    (hstop : loopStep (activePoll build n.mac.transmitChannel) p s = none)
    (polls : List ActivePoll) :
    AnnouncesFrom build n (p :: polls) s ↔ s.1.sent.length ≤ n.sent.length + 1 := by
  simp [AnnouncesFrom, visited, taken, hstop]

theorem announcesFrom_cons {p : ActivePoll} {s s' : Node × ActiveLocals}
    (hstep : loopStep (activePoll build n.mac.transmitChannel) p s = some s')
    (polls : List ActivePoll) :
    AnnouncesFrom build n (p :: polls) s ↔ s.1.sent.length ≤ n.sent.length + 1 ∧
      (s'.1.sent ≠ s.1.sent → InOwnPlace s'.1) ∧ AnnouncesFrom build n polls s' := by
  simp only [AnnouncesFrom, visited, taken, hstep, Option.elim_some, List.forall_mem_cons,
    Option.some.injEq, forall_eq']
  constructor
  · rintro ⟨⟨hone, hvisited⟩, hplace, htaken⟩
    exact ⟨hone, hplace, hvisited, htaken⟩
  · rintro ⟨hone, hplace, hvisited, htaken⟩
    exact ⟨⟨hone, hvisited⟩, hplace, htaken⟩

/-- A turn that sends nothing leaves it to the rest. -/
theorem announcesFrom_cons_of_silent {p : ActivePoll} {s s' : Node × ActiveLocals}
    (hstep : loopStep (activePoll build n.mac.transmitChannel) p s = some s')
    (hone : s.1.sent.length ≤ n.sent.length + 1) (hsilent : s'.1.sent = s.1.sent)
    (polls : List ActivePoll) :
    AnnouncesFrom build n (p :: polls) s ↔ AnnouncesFrom build n polls s' := by
  rw [announcesFrom_cons hstep, and_iff_right hone,
    and_iff_right fun hne => absurd hsilent hne]

/-- **After the announcement** nothing more is sent. -/
theorem AnnouncingSlot.announcesFrom_iff_of_announced (build : Build)
    (h : AnnouncingSlot n slot deadline m) (hcurrent : l.isCurrent = false)
    (polls : List ActivePoll) :
    AnnouncesFrom build n polls (m, l) ↔ m.sent.length ≤ n.sent.length + 1 := by
  induction polls generalizing slot deadline m l with
  | nil => exact announcesFrom_nil (m, l)
  | cons p polls ih =>
    obtain ⟨hstop, -⟩ | ⟨slot', deadline', m₁, hslot, hsent, -, hstep, -⟩ := h.step build p l
    · exact announcesFrom_of_stops hstop polls
    · have hturn : cfTurn n.mac.transmitChannel (n.frequencies slot) p.cf m₁ l =
          listenCf (n.frequencies slot) p.cf m₁ l := by
        simp [cfTurn, hcurrent]
      have hnext := hslot.turn (n.frequencies slot) p.cf l
      rw [hturn] at hstep hnext
      obtain ⟨hlisten, -, hstays⟩ := listenCf_sent (n.frequencies slot) p.cf m₁ l
      have hkept := hlisten.trans hsent
      rw [announcesFrom_cons hstep, ih hnext (hstays.trans hcurrent), hkept]
      constructor
      · exact fun hall => hall.1
      · exact fun hone => ⟨hone, fun hne => absurd rfl hne, hone⟩

/-- The announcement of a turn of the node's own: it is the only one exactly if the node has one
reason for it, and it is in place exactly if the turn did not move on to another channel. -/
theorem AnnouncingSlot.announce_iff {slot' : Fin Config.maxNumberFreqs}
    (h : AnnouncingSlot n slot' deadline m) (hsent : m.sent = n.sent)
    (hnext : AnnouncingSlot n slot' deadline (announce m l).1) (cf : Option CFPacket)
    (hown : (cfStepOn n slot slot' cf).own = true)
    (hreason : (cfBusy n || m.isFirstNode) = true) :
    ((announce m l).1.sent.length ≤ n.sent.length + 1 ∧ InOwnPlace (announce m l).1) ↔
      (cfBusy n && m.isFirstNode) = false ∧ (cfStepOn n slot slot' cf).moves = false := by
  obtain ⟨hplace, hchannel⟩ : n.mac.frame.currentSlot = n.mac.selectedSlot ∧
      n.mac.transmitChannel = n.frequencies slot := by
    simpa [cfStepOn] using hown
  rw [hnext.inOwnPlace_iff, announce_sent, h.busy, hsent]
  have hmoves : (cfStepOn n slot slot' cf).moves = false ↔
      n.frequencies slot' = n.mac.transmitChannel := by
    rw [hchannel]
    simp [cfStepOn]
  rw [hmoves]
  refine and_congr ?_ (and_iff_right hplace)
  revert hreason
  cases cfBusy n <;> cases m.isFirstNode <;> simp

/-- **The loop of `ACTIVE`** announces once and in place exactly if its turns are such. -/
theorem AnnouncingSlot.announces_iff (build : Build) (h : AnnouncingSlot n slot deadline m)
    (hcurrent : l.isCurrent = (n.mac.frame.currentSlot == n.mac.selectedSlot))
    (hsent : m.sent = n.sent) (polls : List ActivePoll) :
    AnnouncesFrom build n polls (m, l) ↔
      AnnouncesWell (cfBusy n) m.isFirstNode (cfSteps build.os n slot deadline polls) := by
  induction polls generalizing slot deadline m l with
  | nil => simp [announcesFrom_nil, cfSteps, hsent]
  | cons p polls ih =>
    obtain ⟨hstop, hsteps⟩ | ⟨slot', deadline', m₁, hslot, hsent₁, hfirst, hstep, hsteps⟩ :=
      h.step build p l
    · simp [hsteps, announcesFrom_of_stops hstop, hsent]
    rw [hsteps]
    replace hsent₁ := hsent₁.trans hsent
    have hlength : m.sent.length ≤ n.sent.length + 1 := by simp [hsent]
    have howns : (l.isCurrent && n.mac.transmitChannel == n.frequencies slot) =
        (cfStepOn n slot slot' p.cf).own := by rw [hcurrent, cfStepOn]
    by_cases hown : (cfStepOn n slot slot' p.cf).own = true
    · have hturn : cfTurn n.mac.transmitChannel (n.frequencies slot) p.cf m₁ l =
          announce m₁ l := by
        rw [cfTurn, howns, if_pos hown]
      rw [hturn] at hstep
      rw [announcesWell_cons_own _ hown]
      by_cases hreason : (cfBusy n || m.isFirstNode) = true
      · -- the announcement is sent now, and nothing after it
        have hnext : AnnouncingSlot n slot' deadline' (announce m₁ l).1 := by
          rw [← hturn]
          exact hslot.turn _ _ _
        have hlocals : (announce m₁ l).2.isCurrent = false := by
          rw [(announce_eq m₁ l).2, hslot.busy, hfirst, if_pos hreason]
          rfl
        have hsends : (announce m₁ l).1.sent ≠ m.sent := by
          rw [hsent, ← hsent₁]
          apply announce_sent_ne
          rwa [hslot.busy, hfirst]
        have hrest : AnnouncesFrom build n polls (announce m₁ l) ↔
            (announce m₁ l).1.sent.length ≤ n.sent.length + 1 :=
          hnext.announcesFrom_iff_of_announced build hlocals polls
        rw [← hfirst] at hreason ⊢
        rw [forall_prop_of_true hreason, ← hslot.announce_iff hsent₁ hnext p.cf hown hreason,
          announcesFrom_cons hstep, and_iff_right hlength, forall_prop_of_true hsends, hrest]
        exact and_comm
      · -- there is nothing to announce, and there will not be
        obtain ⟨hbusy, hnot⟩ : cfBusy n = false ∧ m.isFirstNode = false := by simpa using hreason
        rw [announce_of_idle (hslot.busy.trans hbusy) (hfirst.trans hnot)] at hstep
        have hrest := ih hslot hcurrent hsent₁
        rw [hbusy, hfirst.trans hnot] at hrest
        rw [announcesFrom_cons_of_silent hstep hlength (hsent₁.trans hsent.symm)]
        exact iff_of_true (hrest.mpr (announcesWell_of_idle _)) fun hr => absurd hr hreason
    · -- a turn of listening: what it hears may be another node's announcement
      have hturn : cfTurn n.mac.transmitChannel (n.frequencies slot) p.cf m₁ l =
          listenCf (n.frequencies slot) p.cf m₁ l := by
        rw [cfTurn, howns, if_neg hown]
      have hnext := hslot.turn (n.frequencies slot) p.cf l
      rw [hturn] at hstep hnext
      obtain ⟨hlisten, hheard, hstays⟩ := listenCf_sent (n.frequencies slot) p.cf m₁ l
      have hkept := hlisten.trans hsent₁
      have hrest := ih hnext (hstays.trans hcurrent) hkept
      rw [hheard, hfirst] at hrest
      rw [announcesWell_cons_other _ (Bool.not_eq_true _ ▸ hown),
        announcesFrom_cons_of_silent hstep hlength (hkept.trans hsent.symm)]
      exact hrest

/-- The first CF slot. -/
theorem announcingSlot_activeStart (build : Build) (n : Node) :
    AnnouncingSlot n 0 (firstDeadline build.os n) (activeStart build n).1 := by
  have hset : (activeStart build n).1.mac.frame.cfTimer ≠ Config.timeoutSetError ↔
      CanSetCfTimer n := timeoutSet_ne_error_iff
  refine ⟨rfl, rfl, rfl, rfl, rfl, rfl, ?_, ?_⟩
  · intro d hd
    unfold firstDeadline at hd
    split at hd
    · next hcan =>
      obtain rfl := Option.some.inj hd
      exact ⟨inCfSlot_setCfTimer build (m := { n with mac.frame.currentCfSlot := 0 }) rfl rfl rfl rfl
        rfl (hset.mpr hcan), hcan.1⟩
    · cases hd
  · intro hnone
    unfold firstDeadline at hnone
    split at hnone
    · cases hnone
    · next hcannot => exact not_not.mp (mt hset.mp hcannot)

theorem activeOutcome_sent (m : Node) (l : ActiveLocals) : (activeOutcome m l).1.sent = m.sent := by
  simp only [activeOutcome]
  split_ifs <;> rfl

/-- The last turn of `ACTIVE` and its outcome send nothing. -/
theorem executeActive_sent {polls : List ActivePoll} {n' : Node} {ret : PmExecution}
    (h : executeActive build polls n = .ok (n', ret)) :
    ∃ s ∈ visited (loopStep (activePoll build n.mac.transmitChannel)) polls (activeStart build n),
      n'.sent = s.1.sent := by
  obtain ⟨m, l, hloop, hout⟩ := executeActive_cases h
  obtain ⟨p, -, hlast⟩ := pollLoop_last (fun _ _ _ => loopStep_eq_some) polls hloop
  refine ⟨_, lastVisited_mem_visited polls _, ?_⟩
  have hsent := activeOutcome_sent m l
  rw [hout] at hsent
  refine hsent.trans ?_
  obtain ⟨channel, -, ⟨-, -, hgo⟩ | ⟨-, -, -, hgo⟩ | ⟨-, -, hm, -⟩⟩ := activePoll_cases hlast
  · cases hgo
  · cases hgo
  · rw [show m = (nextCfSlot _, _).1 from congrArg Prod.fst hm]
    rfl

/-- **`ACTIVE` announces once and in place** exactly if in its first turn of its own the node has
one reason at most to announce itself, and then the CF slot does not end in that turn or the next
one has the same channel. -/
theorem announcesOnceInPlace_iff (build : Build) (polls : List ActivePoll) (n : Node) :
    AnnouncesOnceInPlace build polls n ↔
      AnnouncesWell (cfBusy n) n.isFirstNode (activeSteps build.os polls n) := by
  have hloop := (announcingSlot_activeStart build n).announces_iff build
    (l := (activeStart build n).2) rfl rfl polls
  refine Iff.trans ⟨fun h => ⟨h.1, h.2.1⟩, fun h => ⟨h.1, h.2, ?_⟩⟩ hloop
  intro n' ret hexec
  obtain ⟨s, hs, hsent⟩ := executeActive_sent hexec
  rw [hsent]
  exact h.1 s hs

end Turns

/-! ### One reason too many, and one turn too late -/

/-- A node that is not the first one, in its own slot and with a collision to report. -/
def reportingNode : Node :=
  { mclmacInit (fun _ => {}) 0 initQueues with
    isFirstNode := false
    mac.collisionDetected := true
    mac.frame.cfDuration := 500
    mac.transmitChannel := Config.frequencies 0 }

/-- The eight CF slots, with one turn in each. -/
def eightTurns : List ActivePoll :=
  (List.range' 1 8).map fun j => { tick := ⟨j * 500, true⟩ }

/-- The first node of a network announces itself twice when it has something to send. A node whose
CF slot ends in the turn of its announcement sends it in the next one. -/
theorem announcesOnceInPlace_late :
    ¬ AnnouncesOnceInPlace ⟨.linux, true⟩ ({ tick := ⟨0, false⟩ } :: eightTurns)
        { reportingNode with isFirstNode := true } ∧
      ¬ AnnouncesOnceInPlace ⟨.linux, true⟩ eightTurns reportingNode := by
  constructor
  · -- a first node sends when the CF slots begin, and again in its own
    rintro ⟨-, -, hlast⟩
    have hsent : (executeActive ⟨.linux, true⟩ ({ tick := ⟨0, false⟩ } :: eightTurns)
        { reportingNode with isFirstNode := true }).toOption.map (fun r => r.1.sent.length) =
          some 2 := by
      decide +kernel
    obtain ⟨⟨n', ret⟩, hexec, hlength⟩ := Option.map_eq_some_iff.mp hsent
    have hone := hlast n' ret (toOption_eq_some.mp hexec)
    rw [show n'.sent.length = 2 from hlength] at hone
    exact absurd hone (by decide)
  · -- after a late turn the CF slot and the channel have moved on
    rintro ⟨-, hplace, -⟩
    have hsecond : (loopStep (activePoll ⟨.linux, true⟩ reportingNode.mac.transmitChannel)
        { tick := ⟨500, true⟩ } (activeStart ⟨.linux, true⟩ reportingNode)).map
          (fun s => (s.1.sent.length, s.1.mac.frame.currentCfSlot,
            s.1.frequencies 1 == s.1.mac.transmitChannel)) = some (1, 1, false) := by
      decide +kernel
    obtain ⟨s', hturn, hs'⟩ := Option.map_eq_some_iff.mp hsecond
    obtain ⟨hsent, hslot, hchannel⟩ : s'.1.sent.length = 1 ∧ s'.1.mac.frame.currentCfSlot = 1 ∧
        (s'.1.frequencies 1 == s'.1.mac.transmitChannel) = false := by simpa using hs'
    have htaken : ({ tick := ⟨500, true⟩ }, activeStart ⟨.linux, true⟩ reportingNode) ∈
        taken (loopStep (activePoll ⟨.linux, true⟩ reportingNode.mac.transmitChannel)) eightTurns
          (activeStart ⟨.linux, true⟩ reportingNode) := by
      rw [show eightTurns = { tick := ⟨500, true⟩ } :: eightTurns.tail from rfl, taken, hturn]
      exact List.mem_cons_self
    have hchanged : s'.1.sent ≠ (activeStart ⟨.linux, true⟩ reportingNode).1.sent := by
      intro heq
      rw [heq] at hsent
      cases hsent
    obtain ⟨-, hfrequency⟩ := hplace _ htaken s' hturn hchanged
    rw [hslot] at hfrequency
    exact absurd (Except.ok.inj hfrequency) (beq_eq_false_iff_ne.mp hchannel)

end WmnIot
