import WmnIot.PowerMode.Frames

/-! # The common-frequency phase

In `ACTIVE` the nodes announce on the common frequency what they are going to send. The phase is a
list of turns, each on the channel of a CF slot; a node announces itself once, in the turns of its
own slot and channel, and listens in the others.

* **`CfTurn`**, **`announces`**, **`listened`** — what a node does in the turns of a phase.
* **`cfTurns`** — the turns of an execution of `ACTIVE`.
* **`executeActive_collision_iff`** — when `ACTIVE` reports a collision.
* **`onePassiveBetween_iff`** — when `PASSIVE` separates the executions of `ACTIVE`.
* **`onePhasePerSlot_iff`** — the sessions with one common-frequency phase per slot. -/

namespace WmnIot

open Runs

/-! ## A phase -/

/-- A turn of the phase: whether it is the node's own, and whether a message is on the air, for
this node or all or not. -/
structure CfTurn where
  own : Bool
  message : Option Bool

/-- The node announces itself in a turn of its own if it has something to send, or is the first one
and has heard nobody before. -/
def announces (busy first : Bool) (turns : List CfTurn) : Bool :=
  turns.any CfTurn.own &&
    (busy || (first && (turns.takeWhile fun t => !t.own).all fun t => t.message.isNone))

/-- The turns in which the node listens: all but the one in which it announces itself, or else all
that are not its own. -/
def listened (busy first : Bool) (turns : List CfTurn) : List CfTurn :=
  if announces busy first turns then turns.eraseP CfTurn.own else turns.filter fun t => !t.own

/-- The messages for this node or all in the given turns. -/
def addressedMessages (turns : List CfTurn) : ℕ :=
  turns.countP fun t => t.message == some true

/-- What the node knows in the course of a phase: whether it has announced itself, whether it takes
itself for the first node, and the number of messages it has heard. -/
structure Phase where
  sent : Bool
  alone : Bool
  heard : ℕ

/-- The node takes a turn. -/
def Phase.turn (busy : Bool) (s : Phase) (t : CfTurn) : Phase :=
  if t.own && !s.sent then
    if busy || s.alone then { s with sent := true } else s
  else
    match t.message with
    | none => s
    | some b => { s with alone := false, heard := s.heard + b.toNat }

/-- After announcing itself the node listens. -/
theorem foldl_turn_of_sent (busy : Bool) (turns : List CfTurn) {s : Phase} (hs : s.sent = true) :
    (turns.foldl (Phase.turn busy) s).sent = true ∧
      (turns.foldl (Phase.turn busy) s).heard = s.heard + addressedMessages turns := by
  induction turns generalizing s with
  | nil => exact ⟨hs, rfl⟩
  | cons t turns ih =>
    obtain ⟨own, message⟩ := t
    rw [List.foldl_cons]
    cases message with
    | none =>
      have hturn : s.turn busy ⟨own, none⟩ = s := by simp [Phase.turn, hs]
      rw [hturn]
      obtain ⟨hsent, hheard⟩ := ih hs
      exact ⟨hsent, by simpa [addressedMessages] using hheard⟩
    | some b =>
      have hturn : s.turn busy ⟨own, some b⟩ =
          { s with alone := false, heard := s.heard + b.toNat } := by simp [Phase.turn, hs]
      rw [hturn]
      obtain ⟨hsent, hheard⟩ := ih (s := { s with alone := false, heard := s.heard + b.toNat }) hs
      refine ⟨hsent, ?_⟩
      rw [hheard]
      cases b <;> simp [addressedMessages]
      omega

/-- **A phase**, turn by turn: the node announces itself and listens as it should. -/
theorem foldl_turn (busy : Bool) (turns : List CfTurn) {s : Phase} (hs : s.sent = false) :
    (turns.foldl (Phase.turn busy) s).sent = announces busy s.alone turns ∧
      (turns.foldl (Phase.turn busy) s).heard =
        s.heard + addressedMessages (listened busy s.alone turns) := by
  induction turns generalizing s with
  | nil => simp [announces, listened, addressedMessages, hs]
  | cons t turns ih =>
    obtain ⟨own, message⟩ := t
    rw [List.foldl_cons]
    cases own with
    | true =>
      -- the own turn: the node announces itself if it is busy or alone
      by_cases hannounce : (busy || s.alone) = true
      · have hturn : s.turn busy ⟨true, message⟩ = { s with sent := true } := by
          simp [Phase.turn, hs, hannounce]
        have hannounces : announces busy s.alone (⟨true, message⟩ :: turns) = true := by
          simpa [announces] using hannounce
        rw [hturn, listened, hannounces]
        simpa using foldl_turn_of_sent busy turns (s := { s with sent := true }) rfl
      · have hturn : s.turn busy ⟨true, message⟩ = s := by simp [Phase.turn, hs, hannounce]
        obtain ⟨rfl, halone⟩ : busy = false ∧ s.alone = false := by simpa using hannounce
        rw [hturn]
        simpa [announces, listened, halone] using ih hs
    | false =>
      -- a turn of another node: it is silent, or sends for this node or for another one
      cases message with
      | none =>
        have hturn : s.turn busy ⟨false, none⟩ = s := by simp [Phase.turn]
        have hannounces : announces busy s.alone (⟨false, none⟩ :: turns) =
            announces busy s.alone turns := by simp [announces]
        rw [hturn, listened, hannounces]
        obtain ⟨hsent, hheard⟩ := ih hs
        refine ⟨hsent, hheard.trans ?_⟩
        unfold listened
        split <;> simp [addressedMessages]
      | some b =>
        have hturn : s.turn busy ⟨false, some b⟩ =
            { s with alone := false, heard := s.heard + b.toNat } := by simp [Phase.turn]
        have hannounces : announces busy s.alone (⟨false, some b⟩ :: turns) =
            announces busy false turns := by simp [announces]
        rw [hturn, listened, hannounces]
        obtain ⟨hsent, hheard⟩ := ih (s := { s with alone := false, heard := s.heard + b.toNat }) hs
        refine ⟨hsent, hheard.trans ?_⟩
        unfold listened
        cases b <;> split <;> simp [addressedMessages] <;> omega

/-! ## The turns of `ACTIVE` -/

/-- Something waits to be sent, or a collision is to be reported. -/
def cfBusy (n : Node) : Bool :=
  n.mac.message.packetsToSend > 0 ∨ n.mac.control.packetsToSend > 0 ∨ n.mac.collisionDetected = true

/-- A turn of the node on a channel. -/
def turnOn (n : Node) (channel : UInt32) (cf : Option CFPacket) : CfTurn where
  own := n.mac.frame.currentSlot == n.mac.selectedSlot && n.mac.transmitChannel == channel
  message := cf.map fun pkt => decide (Addressed n pkt)

/-- The turns from a CF slot on, the timer of which has the given deadline: a turn is on the channel
of the slot it starts in, and the phase ends with the last slot. -/
def cfTurns (os : OS) (n : Node) (slot : Fin Config.maxNumberFreqs) (deadline : ℕ) :
    List ActivePoll → List CfTurn
  | [] => []
  | p :: polls =>
    if p.tick.handler = true ∧ deadline ≤ p.tick.now then
      if h : slot + 1 < Config.maxNumberFreqs then
        turnOn n (n.frequencies slot) p.cf ::
          cfTurns os n ⟨slot + 1, h⟩ (timespecAdd os p.tick.now n.mac.frame.cfDuration) polls
      else []
    else turnOn n (n.frequencies slot) p.cf :: cfTurns os n slot deadline polls

/-- The turns of an execution of `ACTIVE`. -/
def activeTurns (os : OS) (polls : List ActivePoll) (n : Node) : List CfTurn :=
  cfTurns os n 0 (timespecAdd os n.clock n.mac.frame.cfDuration) polls

/-- The loop of `ACTIVE` is in the given CF slot of the execution that began in `n`, and the timer
of the slot is pending. -/
structure InCfSlot (n : Node) (slot : Fin Config.maxNumberFreqs) (deadline : ℕ) (m : Node) :
    Prop where
  nodeId : m.nodeId = n.nodeId
  frequencies : m.frequencies = n.frequencies
  busy : cfBusy m = cfBusy n
  duration : m.mac.frame.cfDuration = n.mac.frame.cfDuration
  cfSlot : m.mac.frame.currentCfSlot.toNat = slot
  timer : ∃ h : m.mac.frame.cfTimer < Config.timeouts, m.timeouts ⟨_, h⟩ =
    { used := true, armed := true, passed := false, time := deadline }

/-- The loop of `ACTIVE` knows what the node knows in the phase. -/
structure Knows (n : Node) (s : Phase) (m : Node) (l : ActiveLocals) : Prop where
  alone : m.isFirstNode = s.alone
  isCurrent : l.isCurrent = (n.mac.frame.currentSlot == n.mac.selectedSlot && !s.sent)
  send : l.send = s.sent
  receive : l.receive = decide (0 < s.heard)
  packets : l.packets = UInt8.ofNat s.heard

section Simulation

variable {build : Build} {n m : Node} {slot : Fin Config.maxNumberFreqs} {deadline : ℕ} {s : Phase}
  {l : ActiveLocals}

theorem InCfSlot.frequency (h : InCfSlot n slot deadline m) :
    mclmacGetFrequency m.toMCLMAC m.mac.frame.currentCfSlot = .ok (n.frequencies slot) := by
  have hlt : m.mac.frame.currentCfSlot.toNat < Config.maxNumberFreqs := by
    rw [h.cfSlot]
    exact slot.isLt
  rw [mclmacGetFrequency, dif_pos hlt, h.frequencies]
  exact congrArg (fun i => Except.ok (n.frequencies i)) (Fin.ext h.cfSlot)

/-- The timer of the slot passes when the handler runs past its deadline. -/
theorem InCfSlot.passed_iff (h : InCfSlot n slot deadline m) (tick : Tick) :
    timeoutPassed (m.tick tick).timeouts m.mac.frame.cfTimer = 1 ↔
      tick.handler = true ∧ deadline ≤ tick.now := by
  obtain ⟨hlt, htimer⟩ := h.timer
  rw [timeoutPassed_eq_one]
  unfold Node.tick
  cases hhandler : tick.handler with
  | false => simp [hlt, htimer]
  | true =>
    by_cases hdeadline : deadline ≤ tick.now <;>
      simp [hlt, timeoutSignalHandler, htimer, hdeadline]

theorem InCfSlot.tick (h : InCfSlot n slot deadline m) {tick : Tick}
    (hpending : ¬ (tick.handler = true ∧ deadline ≤ tick.now)) :
    InCfSlot n slot deadline (m.tick tick) := by
  have hpassed := mt (h.passed_iff tick).mp hpending
  obtain ⟨hlt, htimer⟩ := h.timer
  refine ⟨h.nodeId, h.frequencies, h.busy, h.duration, h.cfSlot, hlt, ?_⟩
  unfold Node.tick at hpassed ⊢
  dsimp only at hpassed ⊢
  split at hpassed
  · next hhandler =>
    rw [if_pos hhandler]
    exact (timeoutSignalHandler_of_not_passed hpassed hlt).trans htimer
  · next hhandler =>
    rw [if_neg hhandler]
    exact htimer

/-- The CF slot `currentCfSlot` begins, if its timer can be set. -/
theorem inCfSlot_setCfTimer (build : Build) (hnodeId : m.nodeId = n.nodeId)
    (hfrequencies : m.frequencies = n.frequencies) (hbusy : cfBusy m = cfBusy n)
    (hduration : m.mac.frame.cfDuration = n.mac.frame.cfDuration)
    (hslot : m.mac.frame.currentCfSlot.toNat = slot)
    (hset : (setCfTimer build m).mac.frame.cfTimer ≠ Config.timeoutSetError) :
    InCfSlot n slot (timespecAdd build.os m.clock n.mac.frame.cfDuration)
      (setCfTimer build m) := by
  rw [← hduration]
  exact ⟨hnodeId, hfrequencies, hbusy, hduration, hslot, timeoutSet_entry hset⟩

/-- The next CF slot begins: its timer can be set, as the entry of the last one is free. -/
theorem InCfSlot.next (build : Build) (h : InCfSlot n slot deadline m) {tick : Tick}
    (hpassed : tick.handler = true ∧ deadline ≤ tick.now)
    (hlt : (slot : ℕ) + 1 < Config.maxNumberFreqs) (hduration : n.mac.frame.cfDuration ≠ 0) :
    InCfSlot n ⟨slot + 1, hlt⟩ (timespecAdd build.os tick.now n.mac.frame.cfDuration)
      (setCfTimer build (nextCfSlot (m.tick tick))) := by
  obtain ⟨htimer, -⟩ := timeoutPassed_eq_one.mp ((h.passed_iff tick).mpr hpassed)
  have hfree : ((nextCfSlot (m.tick tick)).timeouts ⟨_, htimer⟩).used = false := by
    simp [nextCfSlot, Node.unsetTimeout, timeoutUnset, htimer, Node.tick]
  have hslot : (nextCfSlot (m.tick tick)).mac.frame.currentCfSlot.toNat = slot + 1 := by
    show (m.mac.frame.currentCfSlot + 1).toNat = slot + 1
    rw [UInt8.toNat_add, h.cfSlot, UInt8.toNat_one]
    simp only [Config.maxNumberFreqs] at hlt
    omega
  refine inCfSlot_setCfTimer build (m := nextCfSlot (m.tick tick)) h.nodeId h.frequencies h.busy
    h.duration hslot ?_
  refine timeoutSet_ne_error_iff.mpr ⟨?_, _, hfree⟩
  rw [← h.duration] at hduration
  exact hduration

theorem InCfSlot.next_eq_last (h : InCfSlot n slot deadline m) :
    m.mac.frame.currentCfSlot + 1 = UInt8.ofNat Config.maxNumberFreqs ↔
      (slot : ℕ) + 1 = Config.maxNumberFreqs := by
  have hlt := slot.isLt
  have h8 : (UInt8.ofNat Config.maxNumberFreqs).toNat = 8 := rfl
  rw [← UInt8.toNat_inj, UInt8.toNat_add, h.cfSlot, UInt8.toNat_one, h8]
  simp only [Config.maxNumberFreqs] at hlt ⊢
  omega

/-- A turn stays in the CF slot. -/
theorem InCfSlot.turn (h : InCfSlot n slot deadline m) (selectedFreq channel : UInt32)
    (cf : Option CFPacket) (l : ActiveLocals) :
    InCfSlot n slot deadline (cfTurn selectedFreq channel cf m l).1 := by
  obtain ⟨_, _, _, _, _, _, hturn⟩ := cfTurn_frame selectedFreq channel cf m l
  rw [hturn]
  exact ⟨h.nodeId, h.frequencies, h.busy, h.duration, h.cfSlot, h.timer⟩

/-- A turn in which the CF slot goes on. -/
theorem InCfSlot.poll_pending (build : Build) (h : InCfSlot n slot deadline m) {p : ActivePoll}
    (hpending : ¬ (p.tick.handler = true ∧ deadline ≤ p.tick.now)) (l : ActiveLocals) :
    activePoll build n.mac.transmitChannel p (m, l) =
      .ok (cfTurn n.mac.transmitChannel (n.frequencies slot) p.cf (m.tick p.tick) l, true) := by
  rw [activePoll_of_pending h.frequency (mt (h.passed_iff p.tick).mp hpending)]

/-- A turn in which the next CF slot begins. -/
theorem InCfSlot.poll_next (build : Build) (h : InCfSlot n slot deadline m) {p : ActivePoll}
    (hends : p.tick.handler = true ∧ deadline ≤ p.tick.now)
    (hlt : (slot : ℕ) + 1 < Config.maxNumberFreqs) (l : ActiveLocals) :
    activePoll build n.mac.transmitChannel p (m, l) =
      .ok (cfTurn n.mac.transmitChannel (n.frequencies slot) p.cf
        (setCfTimer build (nextCfSlot (m.tick p.tick))) l, true) := by
  rw [activePoll_of_passed h.frequency ((h.passed_iff p.tick).mpr hends),
    if_neg (mt h.next_eq_last.mp (Nat.ne_of_lt hlt))]

/-- The turn in which the last CF slot ends. -/
theorem InCfSlot.poll_last (build : Build) (h : InCfSlot n slot deadline m) {p : ActivePoll}
    (hends : p.tick.handler = true ∧ deadline ≤ p.tick.now)
    (hlast : ¬ (slot : ℕ) + 1 < Config.maxNumberFreqs) (l : ActiveLocals) :
    activePoll build n.mac.transmitChannel p (m, l) =
      .ok ((nextCfSlot (m.tick p.tick), l), false) := by
  have hend : (slot : ℕ) + 1 = Config.maxNumberFreqs := by
    have hle := slot.isLt
    omega
  rw [activePoll_of_passed h.frequency ((h.passed_iff p.tick).mpr hends),
    if_pos (h.next_eq_last.mpr hend)]

/-- What announcing does. -/
theorem announce_eq (m : Node) (l : ActiveLocals) :
    (announce m l).1.isFirstNode = m.isFirstNode ∧
      (announce m l).2 = if cfBusy m || m.isFirstNode then l.announced else l := by
  unfold announce cfBusy
  by_cases hbusy : m.mac.message.packetsToSend > 0 ∨ m.mac.control.packetsToSend > 0 ∨
      m.mac.collisionDetected = true
  · cases hfirst : m.isFirstNode <;>
      simp [hbusy, hfirst, mclmacSendCfMessage, ActiveLocals.announced]
  · cases hfirst : m.isFirstNode <;>
      simp [hbusy, hfirst, mclmacSendCfMessage, ActiveLocals.announced]

/-- **A turn of the loop** is a turn of the phase. -/
theorem Knows.turn (hslot : InCfSlot n slot deadline m) (h : Knows n s m l) (channel : UInt32)
    (cf : Option CFPacket) :
    Knows n (s.turn (cfBusy n) (turnOn n channel cf))
      (cfTurn n.mac.transmitChannel channel cf m l).1
      (cfTurn n.mac.transmitChannel channel cf m l).2 := by
  obtain ⟨halone, hcurrent, hsend, hreceive, hpackets⟩ := h
  -- the own turn comes up while nothing was sent
  have hown : (l.isCurrent && n.mac.transmitChannel == channel) =
      ((turnOn n channel cf).own && !s.sent) := by
    rw [hcurrent, turnOn]
    cases s.sent <;> simp
  unfold cfTurn Phase.turn
  rw [hown]
  by_cases hturn : ((turnOn n channel cf).own && !s.sent) = true
  · rw [if_pos hturn, if_pos hturn]
    obtain ⟨hfirst, hlocals⟩ := announce_eq m l
    rw [hslot.busy, halone] at hlocals
    by_cases hannounce : (cfBusy n || s.alone) = true
    · rw [if_pos hannounce] at hlocals ⊢
      rw [hlocals]
      exact ⟨hfirst.trans halone, by simp [ActiveLocals.announced], rfl, hreceive, hpackets⟩
    · rw [if_neg hannounce] at hlocals ⊢
      rw [hlocals]
      exact ⟨hfirst.trans halone, hcurrent, hsend, hreceive, hpackets⟩
  · rw [if_neg hturn, if_neg hturn]
    cases cf with
    | none => exact ⟨halone, hcurrent, hsend, hreceive, hpackets⟩
    | some pkt =>
      -- whether a message is for the node does not change in the phase
      have haddressed : Addressed m pkt ↔ Addressed n pkt := by
        unfold Addressed
        rw [hslot.nodeId]
      by_cases hpkt : Addressed n pkt
      · rw [listenCf_of_addressed channel l (haddressed.mpr hpkt)]
        simp only [turnOn, Option.map_some, hpkt, decide_true, Bool.toNat_true]
        refine ⟨rfl, hcurrent, hsend, by simp, ?_⟩
        simp [hpackets, UInt8.ofNat_add]
      · rw [listenCf_of_not_addressed channel l (mt haddressed.mp hpkt)]
        simp only [turnOn, Option.map_some, hpkt, decide_false, Bool.toNat_false]
        exact ⟨rfl, hcurrent, hsend, hreceive, hpackets⟩

/-- **The loop of `ACTIVE`** goes through the phase. -/
theorem activeLoop_knows (hduration : n.mac.frame.cfDuration ≠ 0) {polls : List ActivePoll}
    (hslot : InCfSlot n slot deadline m) (hknows : Knows n s m l) {m' : Node} {l' : ActiveLocals}
    (h : pollLoop .polling (activePoll build n.mac.transmitChannel) polls (m, l) =
      .ok (m', l')) :
    Knows n ((cfTurns build.os n slot deadline polls).foldl (Phase.turn (cfBusy n)) s) m' l' := by
  induction polls generalizing m l slot deadline s with
  | nil => cases h
  | cons p polls ih =>
    rw [pollLoop] at h
    by_cases hends : p.tick.handler = true ∧ deadline ≤ p.tick.now
    · by_cases hlt : (slot : ℕ) + 1 < Config.maxNumberFreqs
      · -- the next slot begins
        rw [hslot.poll_next build hends hlt] at h
        have hnext := hslot.next build hends hlt hduration
        have htick : Knows n s (setCfTimer build (nextCfSlot (m.tick p.tick))) l :=
          ⟨hknows.1, hknows.2, hknows.3, hknows.4, hknows.5⟩
        rw [cfTurns, if_pos hends, dif_pos hlt, List.foldl_cons]
        exact ih (hnext.turn _ _ _ _) (htick.turn hnext _ _) h
      · -- the last slot has ended
        rw [hslot.poll_last build hends hlt] at h
        cases h
        rw [cfTurns, if_pos hends, dif_neg hlt]
        exact ⟨hknows.1, hknows.2, hknows.3, hknows.4, hknows.5⟩
    · -- the slot goes on
      rw [hslot.poll_pending build hends] at h
      have htick : Knows n s (m.tick p.tick) l := ⟨hknows.1, hknows.2, hknows.3, hknows.4, hknows.5⟩
      rw [cfTurns, if_neg hends, List.foldl_cons]
      exact ih ((hslot.tick hends).turn _ _ _ _) (htick.turn (hslot.tick hends) _ _) h

/-- A CF slot whose timer cannot be set does not end. -/
theorem activeLoop_of_error {polls : List ActivePoll} {freq : UInt32}
    (herror : m.mac.frame.cfTimer = Config.timeoutSetError) (s' : Node × ActiveLocals) :
    pollLoop .polling (activePoll build freq) polls (m, l) ≠ .ok s' := by
  intro h
  have hpassed (m : Node) (herror : m.mac.frame.cfTimer = Config.timeoutSetError) (tick : Tick) :
      timeoutPassed (m.tick tick).timeouts m.mac.frame.cfTimer ≠ 1 := by
    rw [herror, timeoutPassed, dif_neg (by decide)]
    decide
  refine pollLoop_inv
    (fun s : Node × ActiveLocals => s.1.mac.frame.cfTimer = Config.timeoutSetError)
    (fun _ => False) ?_ ?_ polls herror h
  · rintro p ⟨s, ls⟩ s' hs hpoll
    obtain ⟨channel, -, ⟨-, rfl, -⟩ | ⟨hp, -, -, -⟩ | ⟨hp, -, -, -⟩⟩ := activePoll_cases hpoll
    · obtain ⟨_, _, _, _, _, _, hturn⟩ := cfTurn_frame freq channel p.cf (s.tick p.tick) ls
      rw [hturn]
      exact hs
    · exact absurd hp (hpassed s hs p.tick)
    · exact absurd hp (hpassed s hs p.tick)
  · rintro p ⟨s, ls⟩ s' hs hpoll
    obtain ⟨channel, -, ⟨-, -, hgo⟩ | ⟨hp, -, -, -⟩ | ⟨hp, -, -, -⟩⟩ := activePoll_cases hpoll
    · cases hgo
    · exact hpassed s hs p.tick hp
    · exact hpassed s hs p.tick hp

end Simulation

/-- The node announces itself and hears a message, or it hears several; their number is kept in a
byte. -/
def CfCollision (os : OS) (polls : List ActivePoll) (n : Node) : Prop :=
  let turns := activeTurns os polls n
  let heard := addressedMessages (listened (cfBusy n) n.isFirstNode turns)
  (announces (cfBusy n) n.isFirstNode turns = true ∧ 0 < heard) ∨ 1 < heard % 2 ^ 8

instance (os : OS) (polls : List ActivePoll) (n : Node) : Decidable (CfCollision os polls n) :=
  inferInstanceAs (Decidable (_ ∨ _))

/-- **`ACTIVE` reports a collision** exactly if there is one in the phase. -/
theorem executeActive_collision_iff {build : Build} {polls : List ActivePoll} {n n' : Node}
    {ret : PmExecution} (h : executeActive build polls n = .ok (n', ret)) :
    ret = .collisionDetected ↔ CfCollision build.os polls n := by
  obtain ⟨m, l, hloop, hout⟩ := executeActive_cases h
  have hset : (setCfTimer build { n with mac.frame.currentCfSlot := 0 }).mac.frame.cfTimer ≠
      Config.timeoutSetError := fun herror => activeLoop_of_error herror _ hloop
  have hduration : n.mac.frame.cfDuration ≠ 0 := (timeoutSet_ne_error_iff.mp hset).1
  have hslot : InCfSlot n 0 (timespecAdd build.os n.clock n.mac.frame.cfDuration)
      (setCfTimer build { n with mac.frame.currentCfSlot := 0 }) :=
    inCfSlot_setCfTimer build (n := n) (m := { n with mac.frame.currentCfSlot := 0 })
      rfl rfl rfl rfl rfl hset
  have hstart : Knows n ⟨false, n.isFirstNode, 0⟩
      (setCfTimer build { n with mac.frame.currentCfSlot := 0 })
      { isCurrent := n.mac.frame.currentSlot == n.mac.selectedSlot } :=
    ⟨rfl, by simp, rfl, rfl, rfl⟩
  have hknows : Knows n ((activeTurns build.os polls n).foldl (Phase.turn (cfBusy n))
      ⟨false, n.isFirstNode, 0⟩) m l := activeLoop_knows hduration hslot hstart hloop
  obtain ⟨hsent, hheard⟩ := foldl_turn (cfBusy n) (activeTurns build.os polls n)
    (s := ⟨false, n.isFirstNode, 0⟩) rfl
  -- the locals at the end are the summary of the turns
  have hcollides : ((l.send = true ∧ l.receive = true) ∨ l.packets > 1) ↔
      CfCollision build.os polls n := by
    rw [hknows.send, hknows.receive, hknows.packets, gt_iff_lt, UInt8.lt_iff_toNat_lt,
      UInt8.toNat_ofNat', UInt8.toNat_one, decide_eq_true_iff, hsent, hheard, Nat.zero_add]
    rfl
  have hcases := activeOutcome_cases m l
  rw [hout, hcollides] at hcases
  obtain ⟨hc, hret, -⟩ | ⟨hc, hret, -⟩ := hcases
  · exact iff_of_true hret hc
  · refine iff_of_false (fun hcollision => ?_) hc
    rw [hcollision] at hret
    cases hret

/-! ## Sessions -/

/-- Between two executions of `ACTIVE` there is one of `PASSIVE`. -/
def OnePassiveBetween (modes : List PowerMode) : Prop :=
  ∀ i j : ℕ, i < j → modes[i]? = some PowerMode.active → modes[j]? = some PowerMode.active →
    ∃ k, i < k ∧ k < j ∧ modes[k]? = some PowerMode.passive

/-- The order of the states of a session. -/
def Follows (mode next : PowerMode) : Prop :=
  (mode = .active ∧ InSession next) ∨
    ((mode = .passive ∧ next = .active) ∨ ((mode = .transmit ∨ mode = .receive) ∧ next = .passive))

/-- In the order of a session, `PASSIVE` separates the executions of `ACTIVE` exactly if none of
them follows another at once. -/
theorem onePassiveBetween_iff {modes : List PowerMode} (h : modes.IsChain Follows) :
    OnePassiveBetween modes ↔
      modes.IsChain fun mode next => ¬ (mode = .active ∧ next = .active) := by
  rw [List.isChain_iff_getElem] at h ⊢
  constructor
  · rintro hbetween i hi ⟨hactive, hactive'⟩
    obtain ⟨k, hk, hk', -⟩ := hbetween i (i + 1) (Nat.lt_succ_self i)
      (List.getElem?_eq_some_iff.mpr ⟨by omega, hactive⟩)
      (List.getElem?_eq_some_iff.mpr ⟨hi, hactive'⟩)
    omega
  · intro hapart i j hij hi hj
    obtain ⟨hilt, hi⟩ := List.getElem?_eq_some_iff.mp hi
    obtain ⟨hjlt, hj⟩ := List.getElem?_eq_some_iff.mp hj
    have hnext : ∀ k (hk : k < modes.length), modes[k] ≠ .active → k ≠ j := by
      rintro k hk hne rfl
      exact hne hj
    have hne : modes[i + 1] ≠ .active := fun hactive => hapart i (by omega) ⟨hi, hactive⟩
    have hij' := hnext (i + 1) (by omega) hne
    rcases h i (by omega) with ⟨-, hp | ha | hsplit⟩ | hother
    · exact ⟨i + 1, by omega, by omega, List.getElem?_eq_some_iff.mpr ⟨by omega, hp⟩⟩
    · exact absurd ha hne
    · -- `TRANSMIT` and `RECEIVE` are followed by `PASSIVE`
      have hpassive : modes[i + 2] = .passive := by
        rcases h (i + 1) (by omega) with ⟨ha, -⟩ | ⟨hp, -⟩ | ⟨-, hp⟩
        · exact absurd ha hne
        · rw [hp] at hsplit
          simp at hsplit
        · exact hp
      have hij'' := hnext (i + 2) (by omega) (by rw [hpassive]; decide)
      exact ⟨i + 2, by omega, by omega, List.getElem?_eq_some_iff.mpr ⟨by omega, hpassive⟩⟩
    · rcases hother with ⟨hp, -⟩ | ⟨hp | hp, -⟩ <;> rw [hi] at hp <;> cases hp

/-- The node executes `ACTIVE` and there is a collision in the phase. -/
def CollidesInActive (os : OS) (inp : PmInput) (n : Node) : Prop :=
  n.powerMode.currentState = .active ∧ CfCollision os inp.active n

instance (os : OS) (inp : PmInput) (n : Node) : Decidable (CollidesInActive os inp n) :=
  inferInstanceAs (Decidable (_ ∧ _))

/-- A turn of the session keeps to the order of the states, and executes `ACTIVE` again exactly
after a collision. -/
theorem Session.follows {build : Build} {inp : PmInput} {n n' : Node}
    (h : Session build inp n n') :
    Follows n.powerMode.currentState n'.powerMode.currentState ∧
      ((n.powerMode.currentState = .active ∧ n'.powerMode.currentState = .active) ↔
        CollidesInActive build.os inp n) := by
  have hsession := h.inSession
  cases h with
  | passive hmode h =>
    refine ⟨.inr (.inl ⟨hmode, rfl⟩), iff_of_false ?_ ?_⟩
    · rintro ⟨hactive, -⟩
      rw [hmode] at hactive
      cases hactive
    · rintro ⟨hactive, -⟩
      rw [hmode] at hactive
      cases hactive
  | active hmode h hnext =>
    refine ⟨.inl ⟨hmode, hsession⟩, iff_of_false ?_ ?_⟩
    · rintro ⟨-, hactive⟩
      obtain hnext | hnext | hnext := hnext <;> cases hnext.symm.trans hactive
    · rintro ⟨-, hcollision⟩
      cases (executeActive_collision_iff h).mpr hcollision
  | collision hmode h =>
    -- a collision is the one way to stay in `ACTIVE`
    have hactive := (currentState_of_schedule (executeActive_schedule h)).trans hmode
    exact ⟨.inl ⟨hmode, hsession⟩,
      iff_of_true ⟨hmode, hactive⟩ ⟨hmode, (executeActive_collision_iff h).mp rfl⟩⟩
  | transmit hmode h =>
    refine ⟨.inr (.inr ⟨.inl hmode, rfl⟩), iff_of_false ?_ ?_⟩
    · rintro ⟨-, hactive⟩
      cases hactive
    · rintro ⟨hactive, -⟩
      rw [hmode] at hactive
      cases hactive
  | receive hmode h =>
    refine ⟨.inr (.inr ⟨.inr hmode, rfl⟩), iff_of_false ?_ ?_⟩
    · rintro ⟨-, hactive⟩
      cases hactive
    · rintro ⟨hactive, -⟩
      rw [hmode] at hactive
      cases hactive

/-- Only `ACTIVE` reports a detected collision. -/
theorem executePowermode_collisionDetected {build : Build} {inp : PmInput} {n m : Node}
    (hsession : InSession n.powerMode.currentState)
    (h : mclmacExecutePowermodeState build inp n = .ok (m, .collisionDetected)) :
    CollidesInActive build.os inp n := by
  obtain ⟨-, -, h⟩ := bind_eq_ok.mp h
  obtain hmode | hmode | hmode | hmode := hsession
  · simp only [hmode] at h
    obtain ⟨m', -, h⟩ := bind_eq_ok.mp h
    cases h
  · simp only [hmode] at h
    exact ⟨hmode, (executeActive_collision_iff h).mp rfl⟩
  · simp only [hmode] at h
    obtain ⟨hret, -⟩ | hret := executeTransmit_ret h <;> cases hret
  · simp only [hmode] at h
    obtain ⟨hret, -⟩ | hret | hret := executeReceive_ret h <;> cases hret

/-- **One common-frequency phase per slot**: in a session, `PASSIVE` is executed between any two
executions of `ACTIVE`, and right after one that detects a collision, exactly if in no completed
turn the node executes `ACTIVE` with a collision in the phase. -/
theorem onePhasePerSlot_iff (build : Build) (inputs : List PmInput) (n₀ n : Node)
    (henter : enterMediumAccess build n₀ = .ok n) :
    (OnePassiveBetween ((visited (sessionStep build) inputs n).map
        fun x => x.powerMode.currentState) ∧
      ∀ t ∈ taken (sessionStep build) inputs n, ∀ m n',
        mclmacExecutePowermodeState build t.1 t.2 = .ok (m, .collisionDetected) →
        sessionStep build t.1 t.2 = some n' → n'.powerMode.currentState = .passive) ↔
      ∀ t ∈ taken (sessionStep build) inputs n, ¬ CollidesInActive build.os t.1 t.2 := by
  have hsession : InSession n.powerMode.currentState := by
    rw [enterMediumAccess_cases henter]
    exact .inl rfl
  have hstep (inp : PmInput) (s s' : Node) (hs : InSession s.powerMode.currentState)
      (h : sessionStep build inp s = some s') : InSession s'.powerMode.currentState :=
    (sessionStep_cases hs h).inSession
  have hfollows (inp : PmInput) (s s' : Node) (hs : InSession s.powerMode.currentState)
      (h : sessionStep build inp s = some s') (_ : True) :
      Follows s.powerMode.currentState s'.powerMode.currentState ∧
        InSession s'.powerMode.currentState :=
    ⟨(sessionStep_cases hs h).follows.1, hstep inp s s' hs h⟩
  -- the states follow each other as in the machine, in every run
  have hchain := (isChain_visited_iff (fun s : Node => InSession s.powerMode.currentState) hfollows
    (fun _ _ _ _ _ h => absurd trivial h) inputs hsession).mpr (fun _ _ => trivial)
  have hgood (inp : PmInput) (s s' : Node) (hs : InSession s.powerMode.currentState)
      (h : sessionStep build inp s = some s') (hnone : ¬ CollidesInActive build.os inp s) :
      ¬ (s.powerMode.currentState = .active ∧ s'.powerMode.currentState = .active) ∧
        InSession s'.powerMode.currentState :=
    ⟨mt (sessionStep_cases hs h).follows.2.mp hnone, hstep inp s s' hs h⟩
  have hbad (inp : PmInput) (s s' : Node) (hs : InSession s.powerMode.currentState)
      (h : sessionStep build inp s = some s') (hsome : ¬ ¬ CollidesInActive build.os inp s) :
      ¬ ¬ (s.powerMode.currentState = .active ∧ s'.powerMode.currentState = .active) :=
    not_not.mpr ((sessionStep_cases hs h).follows.2.mpr (not_not.mp hsome))
  -- two executions of `ACTIVE` in a row are those of a collision
  have hapart := isChain_visited_iff (fun s : Node => InSession s.powerMode.currentState) hgood hbad
    inputs hsession
  have hmodes := onePassiveBetween_iff
    ((List.isChain_map fun x : Node => x.powerMode.currentState).mpr hchain)
  rw [List.isChain_map, hapart] at hmodes
  rw [hmodes]
  refine ⟨fun h => h.1, fun h => ⟨h, ?_⟩⟩
  intro t ht m n' hexec _
  obtain ⟨hs, -⟩ := forall_taken _ hstep inputs hsession t ht
  exact absurd (executePowermode_collisionDetected hs hexec) (h t ht)

/-! ### Two messages in one phase -/

/-- A node that hears nothing has one phase in every slot. -/
theorem onePhasePerSlot_quietFrame :
    OnePassiveBetween ((visited (sessionStep ⟨.linux, true⟩) quietFrame firstNodeEntered).map
        fun x => x.powerMode.currentState) ∧
      ∀ t ∈ taken (sessionStep ⟨.linux, true⟩) quietFrame firstNodeEntered, ∀ m n',
        mclmacExecutePowermodeState ⟨.linux, true⟩ t.1 t.2 = .ok (m, .collisionDetected) →
        sessionStep ⟨.linux, true⟩ t.1 t.2 = some n' → n'.powerMode.currentState = .passive :=
  (onePhasePerSlot_iff ⟨.linux, true⟩ quietFrame firstNode firstNodeEntered rfl).mpr
    (by decide +kernel)

/-- The first slot of a node that hears two messages for all in its phase. -/
def twoMessages : List PmInput :=
  [{ passive := [{ tick := ⟨80000, true⟩ }] },
    { active := (List.range' 1 8).map fun j =>
        { tick := ⟨80000 + j * 500, true⟩
          cf := if j ≤ 2 then some { nodeId := (1, 1), destinationId := (0, 0) } else none } }]

/-- After the collision the node executes `ACTIVE` again. -/
theorem onePhasePerSlot_twoMessages :
    enterMediumAccess ⟨.linux, true⟩ firstNode = .ok firstNodeEntered ∧
    ¬ OnePassiveBetween ((visited (sessionStep ⟨.linux, true⟩) twoMessages firstNodeEntered).map
      fun x => x.powerMode.currentState) := by
  refine ⟨rfl, fun h => ?_⟩
  have hmodes : (visited (sessionStep ⟨.linux, true⟩) twoMessages firstNodeEntered).map
      (fun x => x.powerMode.currentState) = [.passive, .active, .active] := by
    decide +kernel
  rw [hmodes] at h
  obtain ⟨k, hk, hk', -⟩ := h 1 2 (by decide) rfl rfl
  omega

end WmnIot
