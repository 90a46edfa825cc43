import WmnIot.PowerMode.Announcements

/-! # The outcome of `ACTIVE`

At the end of the common-frequency phase the node knows whether it announced itself and how many
messages for it or for all it heard, and chooses what to do in the slot. The number of messages is
kept in a byte.

* **`PhaseEnds`** — the timer of the CF slots expires eight times.
* **`activeLoop_returns_iff`** — then the loop of `ACTIVE` returns, and only then.
* **`OthersApart`**, **`activeLoop_others`** — messages for other nodes.
* **`ClassifiesSlot`** — what the node should make of the phase.
* **`classifiesSlot_iff`** — when it does. -/

namespace WmnIot

open Runs

/-! ## The end of the phase -/

/-- The phase ends within the turns from a CF slot on, the timer of which has the given deadline. -/
def cfPhaseEnds (os : OS) (n : Node) (slot : Fin Config.maxNumberFreqs) (deadline : ℕ) :
    List ActivePoll → Bool
  | [] => false
  | p :: polls =>
    if p.tick.handler = true ∧ deadline ≤ p.tick.now then
      if h : slot + 1 < Config.maxNumberFreqs then
        cfPhaseEnds os n ⟨slot + 1, h⟩ (timespecAdd os p.tick.now n.mac.frame.cfDuration) polls
      else true
    else cfPhaseEnds os n slot deadline polls

/-- The timer of the CF slots, set when `ACTIVE` begins and each time it expires, expires as often
as there are CF slots. -/
def PhaseEnds (os : OS) (polls : List ActivePoll) (n : Node) : Prop :=
  cfPhaseEnds os n 0 (timespecAdd os n.clock n.mac.frame.cfDuration) polls = true

instance (os : OS) (polls : List ActivePoll) (n : Node) : Decidable (PhaseEnds os polls n) :=
  inferInstanceAs (Decidable (_ = true))

/-! ## Messages for other nodes -/

/-- The message of a turn, if it is for the node or for all. -/
def ActivePoll.addressed (n : Node) (p : ActivePoll) : Option CFPacket :=
  p.cf.filter fun pkt => decide (Addressed n pkt)

/-- Two turns that differ in messages for other nodes at most. -/
def SameForNode (n : Node) (p q : ActivePoll) : Prop :=
  p.tick = q.tick ∧ p.addressed n = q.addressed n

/-- A node without what messages for other nodes may change: whether it takes itself for the first
one, what it therefore sent, and the CF messages it keeps. -/
def Node.ownView (n : Node) : Node :=
  { n with
    isFirstNode := false
    sent := []
    mac.cfMessageReceived := false
    mac.cfMessages := fun _ => cfpacketClear }

section Simulation

variable {build : Build} {n m m₂ : Node} {slot : Fin Config.maxNumberFreqs} {deadline : ℕ}
  {s s₂ : Phase} {l : ActiveLocals}

/-- **The loop of `ACTIVE` returns** exactly if the phase ends. -/
theorem activeLoop_returns_iff (hduration : n.mac.frame.cfDuration ≠ 0)
    (hslot : InCfSlot n slot deadline m) (l : ActiveLocals) (polls : List ActivePoll) :
    (∃ s', pollLoop .polling (activePoll build n.mac.transmitChannel) polls (m, l) = .ok s') ↔
      cfPhaseEnds build.os n slot deadline polls = true := by
  induction polls generalizing slot deadline m l with
  | nil => simp [pollLoop, cfPhaseEnds]
  | cons p polls ih =>
    rw [pollLoop, cfPhaseEnds]
    by_cases hends : p.tick.handler = true ∧ deadline ≤ p.tick.now
    · rw [if_pos hends]
      by_cases hlt : (slot : ℕ) + 1 < Config.maxNumberFreqs
      · rw [hslot.poll_next build hends hlt, dif_pos hlt]
        exact ih ((hslot.next build hends hlt hduration).turn _ _ _ _) _
      · rw [hslot.poll_last build hends hlt, dif_neg hlt]
        simp
    · rw [hslot.poll_pending build hends, if_neg hends]
      exact ih ((hslot.tick hends).turn _ _ _ _) _

/-- An announcement does not change what the node sees of itself. -/
theorem announce_ownView (m : Node) (l : ActiveLocals) : (announce m l).1.ownView = m.ownView := by
  simp only [announce]
  split_ifs <;> rfl

/-- Listening depends on the messages for the node alone. -/
theorem listenCf_ownView (channel : UInt32) (p : ActivePoll) (hm : m.nodeId = n.nodeId)
    (l : ActiveLocals) :
    ((listenCf channel p.cf m l).1.ownView, (listenCf channel p.cf m l).2) =
      match p.addressed n with
      | none => (m.ownView, l)
      | some pkt =>
        ({ m.ownView with mac.transmitterId := pkt.nodeId, mac.receiveChannel := channel },
          { l with packets := l.packets + 1, receive := true }) := by
  unfold ActivePoll.addressed
  cases p.cf with
  | none => rfl
  | some pkt =>
    have haddressed : Addressed m pkt ↔ Addressed n pkt := by
      unfold Addressed
      rw [hm]
    by_cases hpkt : Addressed n pkt
    · have hfilter : (some pkt).filter (fun pkt => decide (Addressed n pkt)) = some pkt := by
        simp [hpkt]
      rw [listenCf_of_addressed channel l (haddressed.mpr hpkt), hfilter]
      rfl
    · have hfilter : (some pkt).filter (fun pkt => decide (Addressed n pkt)) = none := by
        simp [hpkt]
      rw [listenCf_of_not_addressed channel l (mt haddressed.mp hpkt), hfilter]
      rfl

/-- A turn of two executions that differ in messages for other nodes. -/
theorem cfTurn_ownView {p q : ActivePoll} (channel : UInt32) (hsame : SameForNode n p q)
    (hm : m.nodeId = n.nodeId) (hm₂ : m₂.nodeId = n.nodeId) (hview : m.ownView = m₂.ownView)
    (hannounce : (l.isCurrent && n.mac.transmitChannel == channel) = true →
      (cfBusy m || m.isFirstNode) = (cfBusy m₂ || m₂.isFirstNode)) :
    (cfTurn n.mac.transmitChannel channel p.cf m l).1.ownView =
        (cfTurn n.mac.transmitChannel channel q.cf m₂ l).1.ownView ∧
      (cfTurn n.mac.transmitChannel channel p.cf m l).2 =
        (cfTurn n.mac.transmitChannel channel q.cf m₂ l).2 := by
  unfold cfTurn
  by_cases hown : (l.isCurrent && n.mac.transmitChannel == channel) = true
  · rw [if_pos hown, if_pos hown, announce_ownView, announce_ownView, (announce_eq m l).2,
      (announce_eq m₂ l).2, hannounce hown]
    exact ⟨hview, rfl⟩
  · rw [if_neg hown, if_neg hown]
    have hp := listenCf_ownView channel p hm l
    have hq := listenCf_ownView channel q hm₂ l
    rw [← hsame.2, ← hview, ← hp] at hq
    obtain ⟨hfst, hsnd⟩ := Prod.mk.inj hq
    exact ⟨hfst.symm, hsnd.symm⟩

@[simp]
theorem Phase.turn_sent (busy : Bool) (s : Phase) (t : CfTurn) :
    (s.turn busy t).sent = (s.sent || (t.own && (busy || s.alone))) := by
  unfold Phase.turn
  cases hown : t.own <;> cases hsent : s.sent <;> cases hreason : busy || s.alone <;>
    cases hmessage : t.message <;> simp_all

/-- Of two phases, the one in which the node announces itself in a turn of its own differs from the
one in which it has no reason to. -/
theorem foldl_turn_sent_ne {busy : Bool} {t t₂ : CfTurn} (turns turns₂ : List CfTurn)
    (hown : t.own = true) (hown₂ : t₂.own = true) (hsent₂ : s₂.sent = false)
    (hreason : (busy || s.alone) = true) (hnone : (busy || s₂.alone) = false) :
    (turns.foldl (Phase.turn busy) (s.turn busy t)).sent ≠
      (turns₂.foldl (Phase.turn busy) (s₂.turn busy t₂)).sent := by
  obtain ⟨rfl, halone₂⟩ : busy = false ∧ s₂.alone = false := by simpa using hnone
  have hsent : (s.turn false t).sent = true := by simp [hown, hreason]
  have hturn₂ : s₂.turn false t₂ = s₂ := by simp [Phase.turn, hown₂, hsent₂, halone₂]
  rw [(foldl_turn_of_sent false turns hsent).1, hturn₂, (foldl_turn false turns₂ hsent₂).1,
    halone₂]
  simp [announces]

/-- Two phases that announce the node alike have done so after each turn. -/
theorem turn_sent_congr {busy : Bool} {t t₂ : CfTurn} {turns turns₂ : List CfTurn}
    (hs : s.sent = s₂.sent) (hown : t.own = t₂.own)
    (hfinal : (turns.foldl (Phase.turn busy) (s.turn busy t)).sent =
      (turns₂.foldl (Phase.turn busy) (s₂.turn busy t₂)).sent) :
    (s.turn busy t).sent = (s₂.turn busy t₂).sent := by
  rw [Phase.turn_sent, Phase.turn_sent, ← hs, ← hown]
  cases hsent : s.sent with
  | true => rfl
  | false =>
    have hsent₂ := hs.symm.trans hsent
    cases hturn : t.own with
    | false => rfl
    | true =>
      have hturn₂ := hown.symm.trans hturn
      cases hreason : (busy || s.alone) <;> cases hreason₂ : (busy || s₂.alone)
      · rfl
      · exact absurd hfinal.symm (foldl_turn_sent_ne turns₂ turns hturn₂ hturn hsent hreason₂ hreason)
      · exact absurd hfinal (foldl_turn_sent_ne turns turns₂ hturn hturn₂ hsent₂ hreason hreason₂)
      · rfl

/-- **Messages for other nodes**: two executions that announce the node alike and differ in such
messages at most end alike. -/
theorem activeLoop_others (hduration : n.mac.frame.cfDuration ≠ 0) {polls polls₂ : List ActivePoll}
    (hsame : List.Forall₂ (SameForNode n) polls polls₂) (hslot : InCfSlot n slot deadline m)
    (hslot₂ : InCfSlot n slot deadline m₂) (hknows : Knows n s m l) (hknows₂ : Knows n s₂ m₂ l)
    (hview : m.ownView = m₂.ownView)
    (hfinal : ((cfTurns build.os n slot deadline polls).foldl (Phase.turn (cfBusy n)) s).sent =
      ((cfTurns build.os n slot deadline polls₂).foldl (Phase.turn (cfBusy n)) s₂).sent)
    {m' : Node} {l' : ActiveLocals}
    (h : pollLoop .polling (activePoll build n.mac.transmitChannel) polls (m, l) =
      .ok (m', l')) :
    ∃ m₂', pollLoop .polling (activePoll build n.mac.transmitChannel) polls₂ (m₂, l) =
      .ok (m₂', l') ∧ m'.ownView = m₂'.ownView := by
  induction hsame generalizing m m₂ l slot deadline s s₂ with
  | nil => cases h
  | @cons p q polls polls₂ hpq hsame ih =>
    have hsent : s.sent = s₂.sent := hknows.send.symm.trans hknows₂.send
    -- a turn of both executions, from states in the same CF slot
    have hturn {slot' : Fin Config.maxNumberFreqs} {deadline' : ℕ} {k k₂ : Node}
        (hk : InCfSlot n slot' deadline' k) (hk₂ : InCfSlot n slot' deadline' k₂)
        (hkn : Knows n s k l) (hkn₂ : Knows n s₂ k₂ l) (hkv : k.ownView = k₂.ownView)
        (hfinal : ((cfTurns build.os n slot' deadline' polls).foldl (Phase.turn (cfBusy n))
            (s.turn (cfBusy n) (turnOn n (n.frequencies slot) p.cf))).sent =
          ((cfTurns build.os n slot' deadline' polls₂).foldl (Phase.turn (cfBusy n))
            (s₂.turn (cfBusy n) (turnOn n (n.frequencies slot) q.cf))).sent)
        (h : pollLoop .polling (activePoll build n.mac.transmitChannel) polls
          (cfTurn n.mac.transmitChannel (n.frequencies slot) p.cf k l) = .ok (m', l')) :
        ∃ m₂', pollLoop .polling (activePoll build n.mac.transmitChannel) polls₂
            (cfTurn n.mac.transmitChannel (n.frequencies slot) q.cf k₂ l) = .ok (m₂', l') ∧
          m'.ownView = m₂'.ownView := by
      have hown : (turnOn n (n.frequencies slot) p.cf).own =
          (turnOn n (n.frequencies slot) q.cf).own := rfl
      have hnow := turn_sent_congr hsent hown hfinal
      have hannounce : (l.isCurrent && n.mac.transmitChannel == n.frequencies slot) = true →
          (cfBusy k || k.isFirstNode) = (cfBusy k₂ || k₂.isFirstNode) := by
        intro hown
        rw [hkn.isCurrent] at hown
        obtain ⟨⟨hplace, hnone⟩, hchannel⟩ : (n.mac.frame.currentSlot = n.mac.selectedSlot ∧
            s.sent = false) ∧ n.mac.transmitChannel = n.frequencies slot := by simpa using hown
        rw [hk.busy, hk₂.busy, hkn.alone, hkn₂.alone]
        simpa [turnOn, hplace, hchannel, ← hsent, hnone] using hnow
      obtain ⟨hview', hlocals⟩ := cfTurn_ownView (n.frequencies slot) hpq hk.nodeId hk₂.nodeId hkv
        hannounce
      have hkn' := hkn.turn hk (n.frequencies slot) p.cf
      have hkn₂' := hkn₂.turn hk₂ (n.frequencies slot) q.cf
      rw [← hlocals] at hkn₂'
      have hrest := ih (hk.turn _ _ _ _) (hk₂.turn _ _ q.cf l) hkn' hkn₂' hview' hfinal h
      rwa [hlocals] at hrest
    rw [pollLoop] at h ⊢
    -- both see the timer of the CF slot pass, since they poll it at the same moment
    by_cases hends : p.tick.handler = true ∧ deadline ≤ p.tick.now
    · have hends₂ := hends
      rw [hpq.1] at hends₂
      by_cases hlt : (slot : ℕ) + 1 < Config.maxNumberFreqs
      · rw [hslot.poll_next build hends hlt] at h
        rw [hslot₂.poll_next build hends₂ hlt]
        rw [cfTurns, cfTurns, if_pos hends, if_pos hends₂, dif_pos hlt, dif_pos hlt, ← hpq.1] at hfinal
        have hnext₂ := hslot₂.next build hends₂ hlt hduration
        rw [← hpq.1] at hnext₂ ⊢
        refine hturn (hslot.next build hends hlt hduration) hnext₂ ?_ ?_ ?_ hfinal h
        · exact ⟨hknows.1, hknows.2, hknows.3, hknows.4, hknows.5⟩
        · exact ⟨hknows₂.1, hknows₂.2, hknows₂.3, hknows₂.4, hknows₂.5⟩
        · exact congrArg (fun k : Node => setCfTimer build (nextCfSlot (k.tick p.tick))) hview
      · rw [hslot.poll_last build hends hlt] at h
        rw [hslot₂.poll_last build hends₂ hlt]
        cases h
        rw [← hpq.1]
        exact ⟨_, rfl, congrArg (fun k : Node => nextCfSlot (k.tick p.tick)) hview⟩
    · have hends₂ := hends
      rw [hpq.1] at hends₂
      rw [hslot.poll_pending build hends] at h
      rw [hslot₂.poll_pending build hends₂]
      rw [cfTurns, cfTurns, if_neg hends, if_neg hends₂] at hfinal
      have hnext₂ := hslot₂.tick hends₂
      rw [← hpq.1] at hnext₂ ⊢
      refine hturn (hslot.tick hends) hnext₂ ?_ ?_ ?_ hfinal h
      · exact ⟨hknows.1, hknows.2, hknows.3, hknows.4, hknows.5⟩
      · exact ⟨hknows₂.1, hknows₂.2, hknows₂.3, hknows₂.4, hknows₂.5⟩
      · exact congrArg (fun k : Node => k.tick p.tick) hview

/-- A node with something to send, or which is not the first one, announces itself whatever messages
for other nodes there are. -/
theorem announced_others_iff {os : OS} {polls polls' : List ActivePoll}
    (hsame : List.Forall₂ (SameForNode n) polls polls')
    (hreason : cfBusy n = true ∨ n.isFirstNode = false) :
    announces (cfBusy n) n.isFirstNode (cfTurns os n slot deadline polls') =
      announces (cfBusy n) n.isFirstNode (cfTurns os n slot deadline polls) := by
  have hany : (cfTurns os n slot deadline polls').any CfTurn.own =
      (cfTurns os n slot deadline polls).any CfTurn.own := by
    clear hreason
    induction hsame generalizing slot deadline with
    | nil => rfl
    | @cons p q polls polls' hpq hsame ih =>
      rw [cfTurns, cfTurns, ← hpq.1]
      split_ifs
      · simp [List.any_cons, ih, turnOn]
      · rfl
      · simp [List.any_cons, ih, turnOn]
  unfold announces
  rw [hany]
  obtain hreason | hreason := hreason <;> simp [hreason]

/-- The loop of `ACTIVE` knows whether the node has sent something. -/
def SendKnown (n : Node) (s : Node × ActiveLocals) : Prop :=
  if s.2.send then n.sent.length < s.1.sent.length else s.1.sent = n.sent

theorem SendKnown.turn (h : SendKnown n (m, l)) (freq channel : UInt32) (cf : Option CFPacket) :
    SendKnown n (cfTurn freq channel cf m l) := by
  unfold cfTurn
  by_cases hown : (l.isCurrent && freq == channel) = true
  · rw [if_pos hown]
    by_cases hreason : (cfBusy m || m.isFirstNode) = true
    · have hle : n.sent.length ≤ m.sent.length := by
        unfold SendKnown at h
        split at h
        · exact h.le
        · exact (congrArg List.length h).ge
      have hsent := announce_sent m l
      unfold SendKnown
      rw [(announce_eq m l).2, if_pos hreason, ActiveLocals.announced, if_pos rfl, hsent]
      rcases Bool.or_eq_true _ _ ▸ hreason with hb | hb <;> rw [hb, Bool.toNat_true] <;> omega
    · obtain ⟨hbusy, hfirst⟩ : cfBusy m = false ∧ m.isFirstNode = false := by simpa using hreason
      rw [announce_of_idle hbusy hfirst]
      exact h
  · rw [if_neg hown]
    have hsend : (listenCf channel cf m l).2.send = l.send := by
      simp only [listenCf]
      split_ifs <;> rfl
    unfold SendKnown
    rw [hsend, (listenCf_sent channel cf m l).1]
    exact h

/-- What a turn keeps of the node and of what is known of its announcement. -/
theorem activePoll_keeps {p : ActivePoll} {freq : UInt32} {s₁ s₁' : Node × ActiveLocals} {go : Bool}
    (h : SendKnown n s₁ ∧ s₁.1.mac.isInternalCollision = n.mac.isInternalCollision)
    (hpoll : activePoll build freq p s₁ = .ok (s₁', go)) :
    SendKnown n s₁' ∧ s₁'.1.mac.isInternalCollision = n.mac.isInternalCollision := by
  have hframe (channel : UInt32) (k : Node) (hk : k.mac.isInternalCollision = n.mac.isInternalCollision) :
      (cfTurn freq channel p.cf k s₁.2).1.mac.isInternalCollision = n.mac.isInternalCollision := by
    obtain ⟨_, _, _, _, _, _, hturn⟩ := cfTurn_frame freq channel p.cf k s₁.2
    rw [hturn]
    exact hk
  obtain ⟨channel, -, ⟨-, rfl, -⟩ | ⟨-, -, rfl, -⟩ | ⟨-, -, rfl, -⟩⟩ := activePoll_cases hpoll
  · exact ⟨SendKnown.turn (m := s₁.1.tick p.tick) h.1 _ _ _, hframe _ _ h.2⟩
  · exact ⟨SendKnown.turn (m := setCfTimer build (nextCfSlot (s₁.1.tick p.tick))) h.1 _ _ _,
      hframe _ _ h.2⟩
  · exact h

end Simulation

/-! ## The outcome -/

/-- The node announces itself in the phase. -/
def Announced (os : OS) (polls : List ActivePoll) (n : Node) : Prop :=
  announces (cfBusy n) n.isFirstNode (activeTurns os polls n) = true

instance (os : OS) (polls : List ActivePoll) (n : Node) : Decidable (Announced os polls n) :=
  inferInstanceAs (Decidable (_ = true))

/-- The number of messages for the node or for all that it hears in the phase. -/
def messagesHeard (os : OS) (polls : List ActivePoll) (n : Node) : ℕ :=
  addressedMessages (listened (cfBusy n) n.isFirstNode (activeTurns os polls n))

/-- An execution of `ACTIVE` in `n`, which returns `ret` and leaves the node as `n'`, makes of the
phase what it should: it reports a collision if several messages are heard, or one besides the own
announcement, and else chooses the state by which of them there is. In a phase with other messages
for other nodes, in which the node announces itself alike, it does the same. -/
structure ClassifiesSlot (build : Build) (polls : List ActivePoll) (n n' : Node)
    (ret : PmExecution) : Prop where
  announced : n'.sent ≠ n.sent ↔ Announced build.os polls n
  collision : (ret = .collisionDetected ∧ n'.powerMode.nextState = .passive) ↔
    2 ≤ messagesHeard build.os polls n ∨
      (Announced build.os polls n ∧ 1 ≤ messagesHeard build.os polls n)
  internal : n'.mac.isInternalCollision = (n.mac.isInternalCollision ||
    decide (Announced build.os polls n ∧ 1 ≤ messagesHeard build.os polls n))
  success : ¬ (2 ≤ messagesHeard build.os polls n ∨
      (Announced build.os polls n ∧ 1 ≤ messagesHeard build.os polls n)) →
    ret = .success ∧ (n'.powerMode.nextState = .transmit ↔ Announced build.os polls n) ∧
      (n'.powerMode.nextState = .receive ↔ messagesHeard build.os polls n = 1) ∧
      (n'.powerMode.nextState = .passive ↔
        ¬ Announced build.os polls n ∧ messagesHeard build.os polls n ≠ 1)
  others : ∀ polls', List.Forall₂ (SameForNode n) polls polls' →
    (Announced build.os polls' n ↔ Announced build.os polls n) →
    ∃ n'', executeActive build polls' n = .ok (n'', ret) ∧
      n''.powerMode.nextState = n'.powerMode.nextState ∧
      n''.mac.isInternalCollision = n'.mac.isInternalCollision ∧
      n''.mac.transmitterId = n'.mac.transmitterId ∧
      n''.mac.receiveChannel = n'.mac.receiveChannel

section Outcome

variable {build : Build} {polls : List ActivePoll} {n m m₂ : Node} {l : ActiveLocals}

theorem activeOutcome_of_collision (m : Node)
    (h : (l.send = true ∧ l.receive = true) ∨ l.packets > 1) :
    activeOutcome m l =
      ({ m with
          powerMode.nextState := .passive
          mac.isInternalCollision := m.mac.isInternalCollision || (l.send && l.receive) },
        .collisionDetected) := by
  rw [activeOutcome, if_pos h]
  by_cases hboth : l.send = true ∧ l.receive = true
  · simp [hboth, mclmacSetNextPowermodeState]
  · have hnot : (l.send && l.receive) = false := by simpa using hboth
    simp [hboth, hnot, mclmacSetNextPowermodeState]

theorem activeOutcome_of_no_collision (m : Node)
    (h : ¬ ((l.send = true ∧ l.receive = true) ∨ l.packets > 1)) :
    activeOutcome m l =
      ({ m with
          powerMode.nextState := if l.receive then .receive else if l.send then .transmit else .passive },
        .success) := by
  rw [activeOutcome, if_neg h]
  have hboth := (not_or.mp h).1
  cases hs : l.send <;> cases hr : l.receive
  · rfl
  · rfl
  · rfl
  · exact absurd ⟨hs, hr⟩ hboth

theorem activeOutcome_ownView (hview : m.ownView = m₂.ownView) (l : ActiveLocals) :
    (activeOutcome m l).1.ownView = (activeOutcome m₂ l).1.ownView ∧
      (activeOutcome m l).2 = (activeOutcome m₂ l).2 := by
  by_cases h : (l.send = true ∧ l.receive = true) ∨ l.packets > 1
  · rw [activeOutcome_of_collision m h, activeOutcome_of_collision m₂ h]
    refine ⟨?_, rfl⟩
    exact congrArg (fun k : Node => { k with
      powerMode.nextState := .passive
      mac.isInternalCollision := k.mac.isInternalCollision || (l.send && l.receive) }) hview
  · rw [activeOutcome_of_no_collision m h, activeOutcome_of_no_collision m₂ h]
    refine ⟨?_, rfl⟩
    exact congrArg (fun k : Node => { k with powerMode.nextState :=
      if l.receive then .receive else if l.send then .transmit else .passive }) hview

/-- The loop begins in the first CF slot. -/
theorem inCfSlot_activeStart (build : Build) (hset : CanSetCfTimer n) :
    InCfSlot n 0 (timespecAdd build.os n.clock n.mac.frame.cfDuration) (activeStart build n).1 :=
  inCfSlot_setCfTimer build (n := n) (m := { n with mac.frame.currentCfSlot := 0 })
    rfl rfl rfl rfl rfl (timeoutSet_ne_error_iff.mpr hset)

theorem knows_activeStart (build : Build) (n : Node) :
    Knows n ⟨false, n.isFirstNode, 0⟩ (activeStart build n).1 (activeStart build n).2 :=
  ⟨rfl, by simp [activeStart], rfl, rfl, rfl⟩

/-- **An execution of `ACTIVE`** in which the phase ends: what the node knows then. -/
theorem executeActive_ends (hset : CanSetCfTimer n) (hends : PhaseEnds build.os polls n) :
    ∃ m l, pollLoop .polling (activePoll build n.mac.transmitChannel) polls (activeStart build n) =
        .ok (m, l) ∧
      l.send = decide (Announced build.os polls n) ∧
      l.receive = decide (0 < messagesHeard build.os polls n) ∧
      l.packets = UInt8.ofNat (messagesHeard build.os polls n) ∧
      (m.sent ≠ n.sent ↔ Announced build.os polls n) ∧
      m.mac.isInternalCollision = n.mac.isInternalCollision := by
  have hslot := inCfSlot_activeStart build hset
  obtain ⟨⟨m, l⟩, hloop⟩ := (activeLoop_returns_iff hset.1 hslot _ polls).mpr hends
  obtain ⟨-, -, hsend, hreceive, hpackets⟩ :=
    activeLoop_knows hset.1 hslot (knows_activeStart build n) hloop
  obtain ⟨hsent, hheard⟩ := foldl_turn (cfBusy n) (activeTurns build.os polls n)
    (s := ⟨false, n.isFirstNode, 0⟩) rfl
  have hstart : SendKnown n (activeStart build n) := rfl
  obtain ⟨hknown, hinternal⟩ : SendKnown n (m, l) ∧
      m.mac.isInternalCollision = n.mac.isInternalCollision :=
    pollLoop_inv (fun s => SendKnown n s ∧ s.1.mac.isInternalCollision = n.mac.isInternalCollision)
      (fun s => SendKnown n s ∧ s.1.mac.isInternalCollision = n.mac.isInternalCollision)
      (fun _ _ _ => activePoll_keeps) (fun _ _ _ => activePoll_keeps) polls ⟨hstart, rfl⟩ hloop
  -- the loop has started with nothing sent and nothing heard
  have hannounced : l.send = decide (Announced build.os polls n) := by
    rw [hsend]
    exact hsent.trans Bool.decide_eq_true.symm
  rw [show cfTurns build.os n 0 _ polls = activeTurns build.os polls n from rfl, hheard,
    Nat.zero_add] at hreceive hpackets
  refine ⟨m, l, hloop, hannounced, hreceive, hpackets, ?_, hinternal⟩
  unfold SendKnown at hknown
  by_cases hann : Announced build.os polls n
  · rw [hannounced, decide_eq_true hann, if_pos rfl] at hknown
    refine iff_of_true (fun heq => ?_) hann
    rw [show m.sent = n.sent from heq] at hknown
    exact absurd hknown (lt_irrefl _)
  · rw [hannounced, decide_eq_false hann, if_neg Bool.false_ne_true] at hknown
    exact iff_of_false (not_not.mpr hknown) hann

/-- Messages for other nodes do not change what an execution of `ACTIVE` does, if the node announces
itself alike. -/
theorem executeActive_others (hset : CanSetCfTimer n) {polls' : List ActivePoll}
    (hsame : List.Forall₂ (SameForNode n) polls polls')
    (hannounced : Announced build.os polls' n ↔ Announced build.os polls n) {n' : Node}
    {ret : PmExecution} (h : executeActive build polls n = .ok (n', ret)) :
    ∃ n'', executeActive build polls' n = .ok (n'', ret) ∧
      n''.powerMode.nextState = n'.powerMode.nextState ∧
      n''.mac.isInternalCollision = n'.mac.isInternalCollision ∧
      n''.mac.transmitterId = n'.mac.transmitterId ∧
      n''.mac.receiveChannel = n'.mac.receiveChannel := by
  obtain ⟨m, l, hloop, hout⟩ := executeActive_cases h
  have hslot := inCfSlot_activeStart build hset
  have hknows := knows_activeStart build n
  -- whether the node has announced itself is the same in both runs
  have hfinal : ((activeTurns build.os polls n).foldl (Phase.turn (cfBusy n))
        ⟨false, n.isFirstNode, 0⟩).sent =
      ((activeTurns build.os polls' n).foldl (Phase.turn (cfBusy n))
        ⟨false, n.isFirstNode, 0⟩).sent := by
    rw [(foldl_turn (cfBusy n) _ (s := ⟨false, n.isFirstNode, 0⟩) rfl).1,
      (foldl_turn (cfBusy n) _ (s := ⟨false, n.isFirstNode, 0⟩) rfl).1]
    exact Bool.eq_iff_iff.mpr hannounced.symm
  obtain ⟨m₂, hloop₂, hview⟩ :=
    activeLoop_others hset.1 hsame hslot hslot hknows hknows rfl hfinal hloop
  obtain ⟨hview', hret⟩ := activeOutcome_ownView hview l
  rw [hout] at hview' hret
  have hexec : executeActive build polls' n = .ok (activeOutcome m₂ l) :=
    bind_eq_ok.mpr ⟨(m₂, l), hloop₂, rfl⟩
  have hnext := congrArg (fun k : Node => k.powerMode.nextState) hview'
  have hinternal := congrArg (fun k : Node => k.mac.isInternalCollision) hview'
  have htransmitter := congrArg (fun k : Node => k.mac.transmitterId) hview'
  have hchannel := congrArg (fun k : Node => k.mac.receiveChannel) hview'
  refine ⟨(activeOutcome m₂ l).1, ?_, hnext.symm, hinternal.symm, htransmitter.symm, hchannel.symm⟩
  rw [hexec, show ret = (activeOutcome m₂ l).2 from hret]

/-- The collision that `ACTIVE` sees: the count of the messages is a byte. -/
theorem collides_iff {l : ActiveLocals} (hsend : l.send = decide (Announced build.os polls n))
    (hreceive : l.receive = decide (0 < messagesHeard build.os polls n))
    (hpackets : l.packets = UInt8.ofNat (messagesHeard build.os polls n)) :
    ((l.send = true ∧ l.receive = true) ∨ l.packets > 1) ↔
      (Announced build.os polls n ∧ 1 ≤ messagesHeard build.os polls n) ∨
        2 ≤ messagesHeard build.os polls n % 2 ^ 8 := by
  rw [hsend, hreceive, hpackets, gt_iff_lt, UInt8.lt_iff_toNat_lt, UInt8.toNat_ofNat',
    UInt8.toNat_one, decide_eq_true_iff, decide_eq_true_iff]
  rfl

/-- If `ACTIVE` sees a collision exactly where there is one, it classifies the slot. -/
theorem classifiesSlot_of_exact {m : Node} {l : ActiveLocals} (hset : CanSetCfTimer n)
    (hexec : executeActive build polls n = .ok (activeOutcome m l))
    (hsend : l.send = decide (Announced build.os polls n))
    (hreceive : l.receive = decide (0 < messagesHeard build.os polls n))
    (hsent : m.sent ≠ n.sent ↔ Announced build.os polls n)
    (hinternal : m.mac.isInternalCollision = n.mac.isInternalCollision)
    (hexact : ((l.send = true ∧ l.receive = true) ∨ l.packets > 1) ↔
      2 ≤ messagesHeard build.os polls n ∨
        (Announced build.os polls n ∧ 1 ≤ messagesHeard build.os polls n)) :
    ClassifiesSlot build polls n (activeOutcome m l).1 (activeOutcome m l).2 := by
  generalize hheard : messagesHeard build.os polls n = heard at *
  refine ⟨?_, ?_, ?_, ?_, ?_⟩
  · rw [activeOutcome_sent, hsent]
  · -- a collision is told of
    rw [hheard, ← hexact]
    by_cases hcol : (l.send = true ∧ l.receive = true) ∨ l.packets > 1
    · rw [activeOutcome_of_collision m hcol]
      exact iff_of_true ⟨rfl, rfl⟩ hcol
    · rw [activeOutcome_of_no_collision m hcol]
      exact iff_of_false (fun h => nomatch h.1) hcol
  · -- it is the node's own if the node has announced itself
    rw [hheard]
    by_cases hcol : (l.send = true ∧ l.receive = true) ∨ l.packets > 1
    · rw [activeOutcome_of_collision m hcol]
      show (m.mac.isInternalCollision || (l.send && l.receive)) = _
      rw [hinternal, hsend, hreceive, Bool.decide_and]
      rfl
    · have hnot : ¬ (Announced build.os polls n ∧ 1 ≤ heard) := fun h =>
        hcol (hexact.mpr (.inr h))
      rw [activeOutcome_of_no_collision m hcol, decide_eq_false hnot, Bool.or_false]
      exact hinternal
  · -- without a collision one message has been heard at most, and none after an announcement
    rw [hheard, ← hexact]
    intro hcol
    rw [activeOutcome_of_no_collision m hcol]
    have hquiet := mt hexact.mpr hcol
    show _ ∧ ((if l.receive then PowerMode.receive else if l.send then .transmit else .passive) =
      .transmit ↔ _) ∧ (_ ↔ _) ∧ (_ ↔ _)
    rw [hsend, hreceive]
    by_cases hann : Announced build.os polls n
    · obtain rfl : heard = 0 := by
        by_contra hne
        exact hquiet (.inr ⟨hann, by omega⟩)
      simp [hann]
    · obtain rfl | rfl : heard = 0 ∨ heard = 1 := by omega
      · simp [hann]
      · simp [hann]
  · intro polls' hsame hann
    exact executeActive_others hset hsame hann hexec

/-- **`ACTIVE` classifies the slot** exactly if the timer of the CF slots can be set, and the node
announces itself, hears less than two messages, or hears a number of them that two or more are left
of in a byte. -/
theorem classifiesSlot_iff (build : Build) (polls : List ActivePoll) (n : Node)
    (hends : PhaseEnds build.os polls n) :
    (∃ n' ret, executeActive build polls n = .ok (n', ret) ∧
        ClassifiesSlot build polls n n' ret) ↔
      CanSetCfTimer n ∧ (Announced build.os polls n ∨ messagesHeard build.os polls n < 2 ∨
        2 ≤ messagesHeard build.os polls n % 2 ^ 8) := by
  by_cases hset : CanSetCfTimer n
  · rw [and_iff_right hset]
    obtain ⟨m, l, hloop, hsend, hreceive, hpackets, hsent, hinternal⟩ :=
      executeActive_ends hset hends
    have hexec : executeActive build polls n = .ok (activeOutcome m l) :=
      bind_eq_ok.mpr ⟨(m, l), hloop, rfl⟩
    have hcollides := collides_iff hsend hreceive hpackets
    have hmod := Nat.mod_le (messagesHeard build.os polls n) (2 ^ 8)
    constructor
    · rintro ⟨n', ret, h, hclass⟩
      by_contra hwraps
      obtain ⟨hnot, htwo, hone⟩ : ¬ Announced build.os polls n ∧
          2 ≤ messagesHeard build.os polls n ∧ messagesHeard build.os polls n % 2 ^ 8 < 2 := by
        push Not at hwraps
        exact hwraps
      -- the byte has wrapped round, and the collision is not seen
      have hno : ¬ ((l.send = true ∧ l.receive = true) ∨ l.packets > 1) := by
        rw [hcollides]
        rintro (⟨hann, -⟩ | hmany)
        · exact hnot hann
        · omega
      rw [hexec, activeOutcome_of_no_collision m hno] at h
      obtain ⟨-, hret⟩ := Prod.mk.inj (Except.ok.inj h)
      have hcollision := hclass.collision.mpr (.inl htwo)
      rw [← hret] at hcollision
      cases hcollision.1
    · intro hcount
      refine ⟨_, _, hexec,
        classifiesSlot_of_exact hset hexec hsend hreceive hsent hinternal (hcollides.trans ?_)⟩
      by_cases hann : Announced build.os polls n
      · simp only [hann, true_and]
        omega
      · simp only [hann, false_and, false_or, or_false] at hcount ⊢
        omega
  · refine iff_of_false ?_ (fun h => hset h.1)
    rintro ⟨n', ret, h, -⟩
    obtain ⟨m, l, hloop, -⟩ := executeActive_cases h
    exact activeLoop_of_error (not_not.mp (mt timeoutSet_ne_error_iff.mp hset)) _ hloop

end Outcome

/-! ### A crowded phase -/

/-- A node that is not the first one, in a slot that is not its own and with nothing to send. -/
def listeningNode : Node :=
  { reportingNode with
    mac.collisionDetected := false
    mac.selectedSlot := 1 }

/-- A phase in which so many messages for all are heard in the first CF slot. -/
def crowdedPhase (messages : ℕ) : List ActivePoll :=
  List.replicate messages
    { tick := ⟨0, false⟩, cf := some { nodeId := (1, 1), destinationId := (0, 0) } } ++ eightTurns

/-- Two messages are a collision. -/
theorem classifiesSlot_two :
    ∃ n' ret, executeActive ⟨.linux, true⟩ (crowdedPhase 2) listeningNode = .ok (n', ret) ∧
      ClassifiesSlot ⟨.linux, true⟩ (crowdedPhase 2) listeningNode n' ret :=
  (classifiesSlot_iff ⟨.linux, true⟩ (crowdedPhase 2) listeningNode (by decide +kernel)).mpr
    (by decide +kernel)

/-- As many messages as there are values of a byte are not. -/
theorem classifiesSlot_crowded :
    PhaseEnds .linux (crowdedPhase 256) listeningNode ∧
      ¬ ∃ n' ret, executeActive ⟨.linux, true⟩ (crowdedPhase 256) listeningNode = .ok (n', ret) ∧
        ClassifiesSlot ⟨.linux, true⟩ (crowdedPhase 256) listeningNode n' ret := by
  refine ⟨by decide +kernel, ?_⟩
  rintro ⟨n', ret, hexec, hclass⟩
  have hmany : 2 ≤ messagesHeard .linux (crowdedPhase 256) listeningNode := by decide +kernel
  have hnone : ¬ CfCollision .linux (crowdedPhase 256) listeningNode := by decide +kernel
  exact hnone ((executeActive_collision_iff hexec).mp (hclass.collision.mpr (.inl hmany)).1)

end WmnIot
