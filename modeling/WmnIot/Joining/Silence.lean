import WmnIot.Joining.Frames
import WmnIot.Joining.SyncTimers

/-! # Silence before a network is founded

`INITIALIZATION` declares the node the first one when its detection timer has passed. It takes any
answer of the timer but 0 for that, also the one that there is no timer, and does not look at what
is detected in the turn in which the timer has passed.

* **`answers`**, **`EndsWith`** — what the turns of the loop find, and the turn that ends it.
* **`AfterSilence`** — what is to come before a node declares itself first.
* **`declaredFirst_afterSilence_iff`** — when it does. -/

namespace WmnIot

open Runs

/-! ## The turns of the loop -/

/-- The answer of the timer and what is detected, in each turn of the loop. -/
def answers (timer : ℕ) : List InitPoll → Timeouts → List (ℕ × Bool)
  | [], _ => []
  | p :: polls, t =>
    let t := if p.tick.handler then timeoutSignalHandler p.tick.now t else t
    (timeoutPassed t timer, p.detected) :: answers timer polls t

/-- The loop goes on as long as the timer is pending and nothing is detected. -/
def decisive (turn : ℕ × Bool) : Bool := turn != (0, false)

/-- The given turn is the one that ends the loop. -/
def EndsWith (turn : ℕ × Bool) (turns : List (ℕ × Bool)) : Prop :=
  ∃ before after, turns = before ++ turn :: after ∧ ∀ t ∈ before, t = (0, false)

theorem endsWith_iff {turn : ℕ × Bool} {turns : List (ℕ × Bool)} (h : turn ≠ (0, false)) :
    EndsWith turn turns ↔ turns.find? decisive = some turn := by
  rw [List.find?_eq_some_iff_append]
  have hturn : decisive turn = true := by simpa [decisive] using h
  constructor
  · rintro ⟨before, after, rfl, hbefore⟩
    refine ⟨hturn, before, after, rfl, fun t ht => ?_⟩
    rw [hbefore t ht]
    rfl
  · rintro ⟨-, before, after, rfl, hbefore⟩
    refine ⟨before, after, rfl, fun t ht => ?_⟩
    simpa [decisive] using hbefore t ht

/-- **The loop of `INITIALIZATION`** returns what its last turn has found, which is nothing if the
timer is not pending then. -/
theorem initLoop_iff {timer : ℕ} {polls : List InitPoll} {n : Node} {found : Bool} :
    (∃ m, pollLoop .polling (initPoll timer) polls (n, false) = .ok (m, found)) ↔
      ∃ turn, (answers timer polls n.timeouts).find? decisive = some turn ∧
        found = decide (turn.1 = 0) := by
  induction polls generalizing n with
  | nil => simp [pollLoop, answers]
  | cons p polls ih =>
    have hanswers : answers timer (p :: polls) n.timeouts =
        (timeoutPassed (n.tick p.tick).timeouts timer, p.detected) ::
          answers timer polls (n.tick p.tick).timeouts := rfl
    rw [pollLoop, initPoll, hanswers]
    dsimp only
    generalize hpassed : timeoutPassed (n.tick p.tick).timeouts timer = passed
    by_cases hzero : passed = 0
    · cases hdetected : p.detected with
      | true =>
        rw [if_neg (not_not.mpr hzero), if_pos rfl, List.find?_cons_of_pos (by simp [decisive])]
        simp [hzero, eq_comm]
      | false =>
        rw [if_neg (not_not.mpr hzero), if_neg Bool.false_ne_true,
          List.find?_cons_of_neg (by simp [decisive, hzero])]
        exact ih
    · rw [if_pos hzero, List.find?_cons_of_pos (by simp [decisive, hzero])]
      simp [hzero, eq_comm]

/-- The node with its detection timer set. -/
def listening (build : Build) (n : Node) : Node × ℕ :=
  n.setTimeout build Config.detectionTime

/-- The turns of the loop in an execution of `INITIALIZATION`. -/
def detectionTurns (build : Build) (polls : List InitPoll) (n : Node) : List (ℕ × Bool) :=
  answers (listening build n).2 polls (listening build n).1.timeouts

/-- The loop leaves the flag of the first node alone. -/
theorem initLoop_isFirstNode {timer : ℕ} {polls : List InitPoll} {s s' : Node × Bool}
    (h : pollLoop .polling (initPoll timer) polls s = .ok s') :
    s'.1.isFirstNode = s.1.isFirstNode := by
  refine pollLoop_frame (f := fun s : Node × Bool => s.1.isFirstNode) ?_ polls h
  intro p t t' go hpoll
  show t'.1.isFirstNode = t.1.isFirstNode
  rw [initPoll_frame hpoll]
  rfl

/-- **`INITIALIZATION`** sets the flag of the first node exactly if the timer is not pending in the
turn that ends the loop. The flag is cleared before, so that it shows whether the state sets it. -/
theorem setsFirst_iff {build : Build} {polls : List InitPoll} {n : Node} :
    (∃ n' ret, executeInitialization build polls { n with isFirstNode := false } = .ok (n', ret) ∧
        n'.isFirstNode = true) ↔
      ∃ turn, (detectionTurns build polls n).find? decisive = some turn ∧ turn.1 ≠ 0 := by
  have hloop : (∃ m, pollLoop .polling (initPoll (listening build n).2) polls
      ({ (listening build n).1 with isFirstNode := false }, false) = .ok (m, false)) ↔ _ :=
    initLoop_iff
  have hturn : (∃ turn, (detectionTurns build polls n).find? decisive = some turn ∧
      false = decide (turn.1 = 0)) ↔
        ∃ turn, (detectionTurns build polls n).find? decisive = some turn ∧ turn.1 ≠ 0 := by
    refine exists_congr fun turn => and_congr_right fun _ => ?_
    rw [eq_comm, decide_eq_false_iff_not]
  refine Iff.trans ?_ (hloop.trans hturn)
  constructor
  · rintro ⟨n', ret, h, hfirst⟩
    obtain ⟨⟨m, found⟩, hm, h⟩ := bind_eq_ok.mp h
    cases found with
    | false => exact ⟨m, hm⟩
    | true =>
      cases h
      have hkept : m.isFirstNode = false := initLoop_isFirstNode hm
      exact absurd (hkept.symm.trans hfirst) Bool.false_ne_true
  · rintro ⟨m, hm⟩
    exact ⟨_, _, bind_eq_ok.mpr ⟨_, hm, rfl⟩, rfl⟩

/-! ## Silence -/

/-- **Before a node declares itself first**, its detection timer is armed for `DETECTION_TIME` and
passes, and up to the turn in which it has passed nothing is detected. -/
structure AfterSilence (build : Build) (polls : List InitPoll) (n : Node) : Prop where
  armed : ArmedFor (listening build n).1 (listening build n).2 Config.detectionTime
  passed : EndsWith (1, false) (detectionTurns build polls n)

/-- The timer that is armed is pending or has passed in every turn. -/
theorem answer_le_one {timer : ℕ} {polls : List InitPoll} {t : Timeouts} (hlive : Live t timer) :
    ∀ turn ∈ answers timer polls t, turn.1 ≤ 1 := by
  induction polls generalizing t with
  | nil => simp [answers]
  | cons p polls ih =>
    have hlive' : Live (if p.tick.handler then timeoutSignalHandler p.tick.now t else t) timer := by
      split
      · exact live_timeoutSignalHandler.mpr hlive
      · exact hlive
    rw [answers]
    generalize (if p.tick.handler then timeoutSignalHandler p.tick.now t else t) = t' at hlive'
    refine List.forall_mem_cons.mpr ⟨?_, ih hlive'⟩
    obtain ⟨h, hu, ha⟩ := hlive'
    show timeoutPassed t' timer ≤ 1
    rw [timeoutPassed, dif_pos h, TimeoutEntry.answer, hu, ha]
    cases (t' ⟨timer, h⟩).passed <;> decide

theorem timeoutPassed_error (t : Timeouts) : timeoutPassed t Config.timeoutSetError = 2 :=
  dif_neg (by decide)

/-- Without a timer every turn finds that there is none. -/
theorem answer_of_error {polls : List InitPoll} {t : Timeouts} :
    ∀ turn ∈ answers Config.timeoutSetError polls t, turn.1 = 2 := by
  induction polls generalizing t with
  | nil => simp [answers]
  | cons p polls ih =>
    rw [answers]
    refine List.forall_mem_cons.mpr ⟨?_, ih⟩
    dsimp only
    rw [timeoutPassed_error]

/-- **A node declares itself first only after silence** exactly if an entry of the timeout table is
there for its detection timer, and nothing is detected in the very turn in which the timer has
passed. -/
theorem setsFirst_afterSilence_iff (build : Build) (polls : List InitPoll) (n : Node) :
    ((∃ n' ret, executeInitialization build polls { n with isFirstNode := false } =
        .ok (n', ret) ∧ n'.isFirstNode = true) → AfterSilence build polls n) ↔
      (polls ≠ [] → 0 < freeEntries n.timeouts ∧
        ¬ EndsWith (1, true) (detectionTurns build polls n)) := by
  rw [setsFirst_iff]
  by_cases hfree : 0 < freeEntries n.timeouts
  · -- the timer is armed, and each turn finds it pending or passed
    have harmed : ArmedFor (listening build n).1 (listening build n).2 Config.detectionTime :=
      armedFor_set build (by decide) (by decide) hfree
    have hle : ∀ turn ∈ detectionTurns build polls n, turn.1 ≤ 1 := by
      obtain ⟨h, hentry⟩ := harmed
      exact answer_le_one ⟨h, by rw [hentry]; exact ⟨rfl, rfl⟩⟩
    rw [endsWith_iff (by decide)]
    constructor
    · intro hsilence _
      refine ⟨hfree, fun hclash => ?_⟩
      have hpassed := (endsWith_iff (by decide)).mp (hsilence ⟨_, hclash, by decide⟩).passed
      rw [hclash] at hpassed
      cases hpassed
    · rintro hgood ⟨⟨answer, detected⟩, hturn, hne⟩
      refine ⟨harmed, (endsWith_iff (by decide)).mpr ?_⟩
      have hanswer : answer = 1 := by
        have := hle _ (List.mem_of_find?_eq_some hturn)
        dsimp only at this hne
        omega
      rw [hanswer] at hturn
      cases detected with
      | false => exact hturn
      | true =>
        have hpolls : polls ≠ [] := by
          rintro rfl
          cases hturn
        exact absurd hturn (hgood hpolls).2
  · -- no timer is armed, and the first turn takes the answer for silence
    have herror : (listening build n).2 = Config.timeoutSetError := by
      by_contra hset
      obtain ⟨-, i, hi⟩ := timeoutSet_ne_error_iff.mp hset
      exact hfree (freeEntries_pos_iff.mpr ⟨i, hi⟩)
    cases polls with
    | nil =>
      refine iff_of_true ?_ fun h => absurd rfl h
      rintro ⟨turn, hturn, -⟩
      cases hturn
    | cons p polls =>
      refine iff_of_false (fun hsilence => ?_) fun h => hfree (h (List.cons_ne_nil _ _)).1
      have htwo : ∀ turn ∈ detectionTurns build (p :: polls) n, turn.1 = 2 := by
        unfold detectionTurns
        rw [herror]
        exact answer_of_error
      obtain ⟨turn, turns, hturns⟩ : ∃ turn turns,
          detectionTurns build (p :: polls) n = turn :: turns := ⟨_, _, rfl⟩
      have hanswer : turn.1 = 2 := htwo turn (by rw [hturns]; exact List.mem_cons_self)
      have hhead : (detectionTurns build (p :: polls) n).find? decisive = some turn := by
        rw [hturns]
        refine List.find?_cons_of_pos ?_
        rw [decisive, bne_iff_ne]
        rintro rfl
        cases hanswer
      obtain ⟨h, -⟩ := (hsilence ⟨turn, hhead, by rw [hanswer]; decide⟩).armed
      rw [herror] at h
      exact absurd h (by decide)

/-- A node whose timeout table is full. -/
def crowdedNode : Node where
  timeouts := fun _ => { used := true, armed := true, time := 500 }

/-- With the table full, a node that detects another one declares itself first at once. -/
theorem setsFirst_noTimer :
    (∃ n' ret, executeInitialization ⟨.linux, true⟩ [{ detected := true, tick := ⟨0, false⟩ }]
        crowdedNode = .ok (n', ret) ∧ n'.isFirstNode = true) ∧
      ¬ AfterSilence ⟨.linux, true⟩ [{ detected := true, tick := ⟨0, false⟩ }] crowdedNode := by
  have herror : (listening ⟨.linux, true⟩ crowdedNode).2 = Config.timeoutSetError := by
    decide +kernel
  constructor
  · show ∃ n' ret, executeInitialization _ _ { crowdedNode with isFirstNode := false } =
      .ok (n', ret) ∧ _
    refine setsFirst_iff.mpr ⟨(2, true), ?_, by decide⟩
    unfold detectionTurns
    rw [herror]
    rfl
  · intro h
    obtain ⟨hlt, -⟩ := h.armed
    rw [herror] at hlt
    exact absurd hlt (by decide)

end WmnIot
