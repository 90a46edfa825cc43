import WmnIot.Foundations.FirstFit
import WmnIot.Model.QueueTable

/-! # The lifecycle of the queues

An entry of the table of queues is live from the call that creates its queue to the one that closes
it, and cleared the rest of the time. The two tables, the names and the places in the static arrays
agree on that after any calls.

* **`queueStep`** — the calls of a run.
* **`Cleared`**, **`IsLive`**, **`Sound`** — the invariant of the table.
* **`Lifecycle`** — what it gives: live queues are kept apart, the first free id is taken, and a
  closed one can be taken again.
* **`queueTable_lifecycle`** — in every run. -/

namespace WmnIot

open Runs

/-- The calls of a run. -/
inductive QueueCall where
  | create (args : QueueArgs) (stack : Option ℕ)
  | openCreated (queueId : ℕ) (pid : Pid) (mq : MqOpen)
  | close (queueId : ℕ)
  | restart

namespace QueueTable

/-! ## Runs -/

/-- The entry is marked as taken. -/
def Live (T : QueueTable) (i : Fin Config.maxQueues) : Prop :=
  (T.queuesIds i).queueId = 1

instance (T : QueueTable) (i : Fin Config.maxQueues) : Decidable (T.Live i) :=
  inferInstanceAs (Decidable (_ = _))

/-- A call. Only created queues are opened, and `end_queues` is followed by `init_queues`. -/
def queueStep (os : OS) (stackSize : ℕ) (call : QueueCall) (T : QueueTable) : Option QueueTable :=
  match call with
  | .create args stack => (createQueue os stackSize args stack T).toOption.map Prod.fst
  | .openCreated queueId pid mq =>
    if ∃ i : Fin Config.maxQueues, queueId = i + 1 ∧ T.Live i then
      (openQueue os queueId pid mq T).toOption.map Prod.fst
    else none
  | .close queueId => (closeQueue os queueId T).toOption
  | .restart => some (initQueues os (endQueues os T))

/-! ## The invariant -/

/-- The entry is entirely cleared. -/
structure Cleared (os : OS) (T : QueueTable) (i : Fin Config.maxQueues) : Prop where
  queueId : (T.queues i).queueId = 0
  queueSize : (T.queues i).queueSize = 0
  messageSize : (T.queues i).messageSize = 0
  msgsAllow : (T.queues i).msgsAllow = 0
  linux : os = .linux → (T.queues i).descriptor = -1 ∧ (T.queues i).qName = none
  riot : os = .riot → (T.queues i).stack = none ∧ (T.queues i).queue = none
  pid : (T.queuesIds i).pid = 0

/-- The entry holds the queue with its id, and the resources of it. -/
structure IsLive (os : OS) (stackSize : ℕ) (T : QueueTable) (i : Fin Config.maxQueues) : Prop where
  live : T.Live i
  queueId : (T.queues i).queueId = i + 1
  linux : os = .linux → (T.queues i).qName = some (queueName (i + 1))
  riot : os = .riot → (T.queues i).stack = some (i * stackSize) ∧
    (T.queues i).queue = some (i * Config.queueSize)

/-- **The invariant**: every entry is free and cleared, or live. -/
structure Sound (os : OS) (stackSize : ℕ) (T : QueueTable) : Prop where
  arrays : os = .riot → T.freeStack = some 0 ∧ T.freeQueue = some 0
  entry : ∀ i, ((T.queuesIds i).queueId = 0 ∧ Cleared os T i) ∨ IsLive os stackSize T i

section Invariant

variable {os : OS} {stackSize : ℕ} {args : QueueArgs} {stack : Option ℕ} {T T' : QueueTable}
  {i : Fin Config.maxQueues}

theorem Sound.hasArrays (h : Sound os stackSize T) : hasArrays os T = true := by
  cases os with
  | linux => rfl
  | riot =>
    obtain ⟨hstack, hqueue⟩ := h.arrays rfl
    simp [QueueTable.hasArrays, hstack, hqueue]

/-- A table in which the entries other than `i` are as before. -/
theorem Sound.update (h : Sound os stackSize T) (hstack : T'.freeStack = T.freeStack)
    (hqueue : T'.freeQueue = T.freeQueue)
    (hothers : ∀ j, j ≠ i → T'.queues j = T.queues j ∧ T'.queuesIds j = T.queuesIds j)
    (hi : ((T'.queuesIds i).queueId = 0 ∧ Cleared os T' i) ∨ IsLive os stackSize T' i) :
    Sound os stackSize T' := by
  refine ⟨fun hos => ?_, fun j => ?_⟩
  · rw [hstack, hqueue]
    exact h.arrays hos
  · by_cases hj : j = i
    · exact hj ▸ hi
    · obtain ⟨hentry, hids⟩ := hothers j hj
      rcases h.entry j with ⟨hfree, hcleared⟩ | hlive
      · refine .inl ⟨hids ▸ hfree, ?_⟩
        constructor
        · rw [hentry]; exact hcleared.queueId
        · rw [hentry]; exact hcleared.queueSize
        · rw [hentry]; exact hcleared.messageSize
        · rw [hentry]; exact hcleared.msgsAllow
        · rw [hentry]; exact hcleared.linux
        · rw [hentry]; exact hcleared.riot
        · rw [hids]; exact hcleared.pid
      · refine .inr ⟨?_, ?_, ?_, ?_⟩
        · show (T'.queuesIds j).queueId = 1
          rw [hids]
          exact hlive.live
        · rw [hentry]; exact hlive.queueId
        · rw [hentry]; exact hlive.linux
        · rw [hentry]; exact hlive.riot

/-- `init_queues` clears all entries. -/
theorem sound_initQueues (os : OS) (stackSize : ℕ) (T : QueueTable) :
    Sound os stackSize (initQueues os T) := by
  cases os with
  | linux =>
    refine ⟨nofun, fun i => .inl ⟨rfl, rfl, rfl, rfl, rfl, fun _ => ⟨rfl, rfl⟩, nofun, rfl⟩⟩
  | riot =>
    refine ⟨fun _ => ⟨rfl, rfl⟩, fun i => .inl ⟨rfl, rfl, rfl, rfl, rfl, nofun,
      fun _ => ⟨rfl, rfl⟩, rfl⟩⟩

/-- The queue that `create_queue` makes. -/
theorem Sound.takeEntry (h : Sound os stackSize T) (args : QueueArgs) (i : Fin Config.maxQueues) :
    Sound os stackSize (created os stackSize args i T) := by
  refine h.update (i := i) rfl rfl (fun j hj => ⟨?_, ?_⟩) (.inr ⟨?_, ?_, ?_, ?_⟩)
  · exact Function.update_of_ne hj _ _
  · exact Function.update_of_ne hj _ _
  · show (Function.update T.queuesIds i _ i).queueId = 1
    rw [Function.update_self]
  · show (Function.update T.queues i _ i).queueId = i + 1
    rw [Function.update_self]
    cases os <;> rfl
  · rintro rfl
    show (Function.update T.queues i _ i).qName = _
    rw [Function.update_self]
    rfl
  · rintro rfl
    obtain ⟨hstack, hqueue⟩ := h.arrays rfl
    show (Function.update T.queues i _ i).stack = _ ∧ (Function.update T.queues i _ i).queue = _
    rw [Function.update_self]
    simp [setResources, hstack, hqueue]

/-- **What `create_queue` does** to a sound table: it fails and changes nothing, or takes the first
free entry. -/
theorem Sound.createQueue_cases (h : Sound os stackSize T) (args : QueueArgs) (stack : Option ℕ) :
    ((¬ args.Within ∨ ∀ i, T.Live i) ∧
        ∃ stack', createQueue os stackSize args stack T = .ok (T, 0, stack')) ∨
      (args.Within ∧ ∃ i, IsLeast {j | (T.queuesIds j).queueId = 0} i ∧
        ∃ stack', createQueue os stackSize args stack T =
          .ok (created os stackSize args i T, i + 1, stack')) := by
  by_cases hwithin : args.Within
  · rw [createQueue_of_within h.hasArrays hwithin]
    cases hfind : (List.finRange Config.maxQueues).find? fun i => (T.queuesIds i).queueId == 0 with
    | none =>
      refine .inl ⟨.inr fun i => ?_, _, rfl⟩
      have hnot := FirstFit.find?_finRange_eq_none_iff.mp hfind i
      rcases h.entry i with ⟨hfree, -⟩ | hlive
      · simp [hfree] at hnot
      · exact hlive.live
    | some i =>
      have hleast := FirstFit.find?_finRange_eq_some_iff.mp hfind
      simp only [beq_iff_eq] at hleast
      exact .inr ⟨hwithin, i, hleast, _, rfl⟩
  · exact .inl ⟨.inl hwithin, stack, createQueue_of_exceeds h.hasArrays hwithin⟩

/-- The entry that `close_queue` leaves behind. -/
theorem Sound.closeQueue (h : Sound os stackSize T) (i : Fin Config.maxQueues) :
    ∃ T', closeQueue os (i + 1) T = .ok T' ∧ Sound os stackSize T' ∧
      (T'.queuesIds i).queueId = 0 := by
  have hrange : 1 ≤ (i : ℕ) + 1 ∧ (i : ℕ) + 1 ≤ Config.maxQueues := ⟨by omega, i.isLt⟩
  refine ⟨{ T with
      queues := Function.update T.queues i (closeEntry os (T.queues i))
      queuesIds := Function.update T.queuesIds i { queueId := 0, pid := 0 } }, ?_, ?_, ?_⟩
  · rw [QueueTable.closeQueue, dif_pos hrange]
    rfl
  · refine h.update (i := i) rfl rfl (fun j hj => ⟨?_, ?_⟩) (.inl ⟨?_, ?_⟩)
    · exact Function.update_of_ne hj _ _
    · exact Function.update_of_ne hj _ _
    · simp
    · cases os with
      | linux =>
        constructor <;> simp [closeEntry, clearEntry]
      | riot =>
        constructor <;> simp [closeEntry, clearEntry]
  · simp

/-- Opening a created queue returns, and registers the thread. -/
theorem Sound.openQueue (h : Sound os stackSize T) (hlive : T.Live i) (pid : Pid) (mq : MqOpen) :
    ∃ T', openQueue os (i + 1) pid mq T = .ok (T', 1) ∧ Sound os stackSize T' := by
  have hrange : 1 ≤ (i : ℕ) + 1 ∧ (i : ℕ) + 1 ≤ Config.maxQueues := ⟨by omega, i.isLt⟩
  have hid : ((i : ℕ) + 1 != 0) = true := by simp
  have hentry : IsLive os stackSize T i := by
    rcases h.entry i with ⟨hfree, -⟩ | hentry
    · rw [Live, hfree] at hlive
      cases hlive
    · exact hentry
  -- opening writes the pid and, on Linux, the descriptor; all else stays
  have hregistered (T' : QueueTable) (hstack : T'.freeStack = T.freeStack)
      (hqueue : T'.freeQueue = T.freeQueue)
      (hothers : ∀ j, j ≠ i → T'.queues j = T.queues j)
      (hids : T'.queuesIds = Function.update T.queuesIds i { T.queuesIds i with pid := pid })
      (hqueueId : (T'.queues i).queueId = (T.queues i).queueId)
      (hqName : (T'.queues i).qName = (T.queues i).qName)
      (hplaces : (T'.queues i).stack = (T.queues i).stack ∧
        (T'.queues i).queue = (T.queues i).queue) : Sound os stackSize T' := by
    refine h.update (i := i) hstack hqueue (fun j hj => ⟨hothers j hj, ?_⟩) (.inr ⟨?_, ?_, ?_, ?_⟩)
    · rw [hids, Function.update_of_ne hj]
    · rw [Live, hids, Function.update_self]
      exact hentry.live
    · exact hqueueId.trans hentry.queueId
    · exact fun hos => hqName.trans (hentry.linux hos)
    · exact fun hos => ⟨hplaces.1.trans (hentry.riot hos).1, hplaces.2.trans (hentry.riot hos).2⟩
  rw [QueueTable.openQueue, hid, assert_true, ok_bind, dif_pos hrange]
  cases os with
  | linux =>
    have hname : assert (T.queues i).qName.isSome = .ok () := by
      rw [hentry.linux rfl]
      rfl
    show ∃ T', (assert (T.queues i).qName.isSome >>= fun _ => _) = .ok (T', 1) ∧ _
    rw [hname, ok_bind]
    refine ⟨_, rfl, hregistered _ rfl rfl (fun j hj => ?_) rfl ?_ ?_ ⟨?_, ?_⟩⟩
    · exact Function.update_of_ne hj _ _
    · show (Function.update T.queues i _ i).queueId = _
      rw [Function.update_self]
      rfl
    · show (Function.update T.queues i _ i).qName = _
      rw [Function.update_self]
      rfl
    · show (Function.update T.queues i _ i).stack = _
      rw [Function.update_self]
      rfl
    · show (Function.update T.queues i _ i).queue = _
      rw [Function.update_self]
      rfl
  | riot =>
    obtain ⟨hstack, hqueue⟩ := hentry.riot rfl
    have hplaces : assert (T.queues i).stack.isSome = .ok () ∧
        assert (T.queues i).queue.isSome = .ok () := by
      rw [hstack, hqueue]
      exact ⟨rfl, rfl⟩
    show ∃ T', (assert (T.queues i).stack.isSome >>= fun _ =>
      assert (T.queues i).queue.isSome >>= fun _ => _) = .ok (T', 1) ∧ _
    rw [hplaces.1, ok_bind, hplaces.2, ok_bind]
    exact ⟨_, rfl, hregistered _ rfl rfl (fun j _ => rfl) rfl rfl rfl ⟨rfl, rfl⟩⟩

/-! ## Creating again -/

/-- The table after `create_queue`. -/
def createNext (os : OS) (stackSize : ℕ) (args : QueueArgs) (stack : Option ℕ) (T : QueueTable) :
    QueueTable :=
  match createQueue os stackSize args stack T with
  | .ok (T', _) => T'
  | .error _ => T

/-- The free entries before `i`. -/
def freeBefore (T : QueueTable) (i : Fin Config.maxQueues) : Finset (Fin Config.maxQueues) :=
  Finset.univ.filter fun j => j < i ∧ (T.queuesIds j).queueId = 0

/-- **A free id is created again** after those before it. -/
theorem Sound.create_again (h : Sound os stackSize T) (hwithin : args.Within)
    (hfree : (T.queuesIds i).queueId = 0) :
    ∃ k T' stack', createQueue os stackSize args stack
      ((createNext os stackSize args stack)^[k] T) = .ok (T', i + 1, stack') := by
  induction hcard : (T.freeBefore i).card using Nat.strong_induction_on generalizing T with
  | _ n ih =>
  obtain ⟨-, j, hleast, stack', hcreate⟩ : args.Within ∧ ∃ j,
      IsLeast {j | (T.queuesIds j).queueId = 0} j ∧ ∃ stack',
        createQueue os stackSize args stack T =
          .ok (created os stackSize args j T, j + 1, stack') := by
    rcases h.createQueue_cases args stack with ⟨hfail | hfull, -⟩ | htaken
    · exact absurd hwithin hfail
    · have hlive := hfull i
      rw [Live, hfree] at hlive
      cases hlive
    · exact htaken
  -- the call takes the lowest free entry: that one, or one before it
  by_cases hij : j = i
  · subst hij
    exact ⟨0, _, _, hcreate⟩
  · have hlt : j < i := lt_of_le_of_ne (hleast.2 hfree) hij
    have hnext : createNext os stackSize args stack T = created os stackSize args j T := by
      rw [createNext, hcreate]
    have hfree' : ((created os stackSize args j T).queuesIds i).queueId = 0 := by
      show (Function.update T.queuesIds j _ i).queueId = 0
      rw [Function.update_of_ne (Ne.symm hij)]
      exact hfree
    -- an entry before it was taken, so fewer are free there
    have hfewer : ((created os stackSize args j T).freeBefore i).card < (T.freeBefore i).card := by
      have hids (k : Fin Config.maxQueues) (hk : k ≠ j) :
          ((created os stackSize args j T).queuesIds k).queueId = (T.queuesIds k).queueId :=
        congrArg QueueThread.queueId (Function.update_of_ne hk _ T.queuesIds)
      have htaken : ((created os stackSize args j T).queuesIds j).queueId = 1 :=
        congrArg QueueThread.queueId (Function.update_self j _ T.queuesIds)
      refine Finset.card_lt_card ⟨fun k hk => ?_, fun hsub => ?_⟩
      · obtain ⟨hki, hkfree⟩ := (Finset.mem_filter.mp hk).2
        have hkj : k ≠ j := by
          rintro rfl
          rw [htaken] at hkfree
          cases hkfree
        rw [hids k hkj] at hkfree
        exact Finset.mem_filter.mpr ⟨Finset.mem_univ k, hki, hkfree⟩
      · have hj := hsub (Finset.mem_filter.mpr ⟨Finset.mem_univ j, hlt, hleast.1⟩)
        have hjfree := (Finset.mem_filter.mp hj).2.2
        rw [htaken] at hjfree
        cases hjfree
    obtain ⟨k, T', stack'', hk⟩ := ih _ (hcard ▸ hfewer) (h.takeEntry args j) hfree' rfl
    exact ⟨k + 1, T', stack'', by rw [Function.iterate_succ_apply, hnext, hk]⟩

/-- **A call** keeps the invariant. -/
theorem Sound.step (h : Sound os stackSize T) {call : QueueCall}
    (hstep : queueStep os stackSize call T = some T') : Sound os stackSize T' := by
  cases call with
  | create args stack =>
    obtain ⟨r, hr, rfl⟩ := Option.map_eq_some_iff.mp hstep
    have hr := toOption_eq_some.mp hr
    rcases h.createQueue_cases args stack with ⟨-, stack', heq⟩ | ⟨-, i, -, stack', heq⟩
    · rw [heq] at hr
      rw [← Except.ok.inj hr]
      exact h
    · rw [heq] at hr
      rw [← Except.ok.inj hr]
      exact h.takeEntry args i
  | openCreated queueId pid mq =>
    -- an id that createQueue did not give ends the run
    by_cases hcreated : ∃ i : Fin Config.maxQueues, queueId = i + 1 ∧ T.Live i
    · simp only [queueStep, if_pos hcreated] at hstep
      obtain ⟨i, rfl, hlive⟩ := hcreated
      obtain ⟨r, hr, rfl⟩ := Option.map_eq_some_iff.mp hstep
      obtain ⟨T₁, heq, hT₁⟩ := h.openQueue hlive pid mq
      rw [toOption_eq_some, heq] at hr
      rw [← Except.ok.inj hr]
      exact hT₁
    · simp only [queueStep, if_neg hcreated] at hstep
      cases hstep
  | close queueId =>
    have hclose := toOption_eq_some.mp hstep
    by_cases hrange : 1 ≤ queueId ∧ queueId ≤ Config.maxQueues
    · obtain ⟨T₁, heq, hT₁, -⟩ := h.closeQueue ⟨queueId - 1, by omega⟩
      rw [show ((⟨queueId - 1, by omega⟩ : Fin Config.maxQueues) : ℕ) + 1 = queueId from
        Nat.sub_add_cancel hrange.1, hclose] at heq
      rw [Except.ok.inj heq]
      exact hT₁
    · rw [QueueTable.closeQueue, dif_neg hrange] at hclose
      cases hclose
  | restart =>
    rw [← Option.some.inj hstep]
    exact sound_initQueues os stackSize _

end Invariant

/-! ## The lifecycle -/

/-- The bytes of the static array `stack` that a stack takes. -/
def stackSegment (stackSize place : ℕ) : Set ℕ :=
  Set.Ico place (place + stackSize)

/-- The elements of the static array `queue` that a message buffer takes. -/
def queueSegment (place : ℕ) : Set ℕ :=
  Set.Ico place (place + Config.queueSize)

/-- The two tables agree, live queues are kept apart, the first free id is taken by `create_queue`,
which else returns 0 and changes nothing, and a closed id can be created again. -/
structure Lifecycle (os : OS) (stackSize : ℕ) (T : QueueTable) : Prop where
  live : ∀ i, (T.queuesIds i).queueId = 1 ↔ (T.queues i).queueId = i + 1
  free : ∀ i, (T.queuesIds i).queueId = 0 ↔ Cleared os T i
  ids : ∀ i j, T.Live i → T.Live j → i ≠ j → (T.queues i).queueId ≠ (T.queues j).queueId
  names : os = .linux → ∀ i, T.Live i → (T.queues i).qName.isSome ∧
    ∀ j, T.Live j → i ≠ j → (T.queues i).qName ≠ (T.queues j).qName
  segments : os = .riot → ∀ i, T.Live i →
    ∃ place buffer, (T.queues i).stack = some place ∧ (T.queues i).queue = some buffer ∧
      stackSegment stackSize place ⊆ Set.Iio (Config.maxQueues * stackSize) ∧
      queueSegment buffer ⊆ Set.Iio (Config.maxQueues * Config.queueSize) ∧
      ∀ j, T.Live j → i ≠ j → ∃ place' buffer', (T.queues j).stack = some place' ∧
        (T.queues j).queue = some buffer' ∧
        Disjoint (stackSegment stackSize place) (stackSegment stackSize place') ∧
        Disjoint (queueSegment buffer) (queueSegment buffer')
  create : ∀ args : QueueArgs, args.Within → ∀ i, IsLeast {j | ¬ T.Live j} i → ∀ stack,
    ∃ T' stack', createQueue os stackSize args stack T = .ok (T', i + 1, stack') ∧ T'.Live i
  fail : ∀ args stack, (∃ stack', createQueue os stackSize args stack T = .ok (T, 0, stack')) ↔
    ¬ args.Within ∨ ∀ i, T.Live i
  again : ∀ i : Fin Config.maxQueues, ∃ T₁, closeQueue os (i + 1) T = .ok T₁ ∧
    ∀ args : QueueArgs, args.Within → ∀ stack, ∃ k T' stack', createQueue os stackSize args stack
      ((createNext os stackSize args stack)^[k] T₁) = .ok (T', i + 1, stack')

/-- Segments of `size` at different multiples of `size` are disjoint. -/
theorem disjoint_segments {size i j : ℕ} (h : i ≠ j) :
    Disjoint (Set.Ico (i * size) (i * size + size)) (Set.Ico (j * size) (j * size + size)) := by
  rw [Set.disjoint_left]
  rintro x ⟨hi, hi'⟩ ⟨hj, hj'⟩
  rcases Nat.lt_or_gt_of_ne h with hlt | hlt
  · have hle := Nat.mul_le_mul_right size (Nat.succ_le_of_lt hlt)
    rw [Nat.succ_mul] at hle
    omega
  · have hle := Nat.mul_le_mul_right size (Nat.succ_le_of_lt hlt)
    rw [Nat.succ_mul] at hle
    omega

/-- The segment at a multiple of `size` lies in an array of more. -/
theorem segment_subset {size n i : ℕ} (h : i < n) :
    Set.Ico (i * size) (i * size + size) ⊆ Set.Iio (n * size) := by
  rintro x ⟨-, hx⟩
  have hle := Nat.mul_le_mul_right size (Nat.succ_le_of_lt h)
  rw [Nat.succ_mul] at hle
  exact lt_of_lt_of_le hx hle

/-- The names of the queues are different. -/
theorem queueName_ne (i j : Fin Config.maxQueues) (h : i ≠ j) :
    queueName (i + 1) ≠ queueName (j + 1) := by
  revert i j
  decide +kernel

section

variable {os : OS} {stackSize : ℕ} {T : QueueTable}

theorem Sound.isLive (h : Sound os stackSize T) {i : Fin Config.maxQueues} (hlive : T.Live i) :
    IsLive os stackSize T i := by
  rcases h.entry i with ⟨hfree, -⟩ | hentry
  · rw [Live, hfree] at hlive
    cases hlive
  · exact hentry

theorem Sound.not_live_iff (h : Sound os stackSize T) {i : Fin Config.maxQueues} :
    ¬ T.Live i ↔ (T.queuesIds i).queueId = 0 := by
  rcases h.entry i with ⟨hfree, -⟩ | hentry
  · refine iff_of_true ?_ hfree
    rw [Live, hfree]
    exact Nat.zero_ne_one
  · refine iff_of_false (not_not.mpr hentry.live) ?_
    rw [show (T.queuesIds i).queueId = 1 from hentry.live]
    exact Nat.one_ne_zero

theorem Sound.lifecycle (h : Sound os stackSize T) : Lifecycle os stackSize T where
  live i := by
    rcases h.entry i with ⟨hfree, hcleared⟩ | hentry
    · rw [hfree, hcleared.queueId]
      omega
    · exact iff_of_true hentry.live hentry.queueId
  free i := by
    rcases h.entry i with ⟨hfree, hcleared⟩ | hentry
    · exact iff_of_true hfree hcleared
    · refine iff_of_false ?_ (fun hcleared => ?_)
      · exact mt h.not_live_iff.mpr (not_not.mpr hentry.live)
      · have hid := hentry.queueId
        rw [hcleared.queueId] at hid
        omega
  ids i j hi hj hij := by
    rw [(h.isLive hi).queueId, (h.isLive hj).queueId]
    exact fun heq => hij (Fin.ext (Nat.succ.inj heq))
  names hos i hi := by
    rw [(h.isLive hi).linux hos]
    refine ⟨rfl, fun j hj hij => ?_⟩
    rw [(h.isLive hj).linux hos]
    exact fun heq => queueName_ne i j hij (Option.some.inj heq)
  segments hos i hi := by
    obtain ⟨hstack, hqueue⟩ := (h.isLive hi).riot hos
    refine ⟨_, _, hstack, hqueue, segment_subset i.isLt, segment_subset i.isLt, ?_⟩
    intro j hj hij
    obtain ⟨hstack', hqueue'⟩ := (h.isLive hj).riot hos
    have hne : (i : ℕ) ≠ j := fun heq => hij (Fin.ext heq)
    exact ⟨_, _, hstack', hqueue', disjoint_segments hne, disjoint_segments hne⟩
  create args hwithin i hleast stack := by
    rcases h.createQueue_cases args stack with ⟨hfail | hfull, -⟩ | ⟨-, j, hj, stack', heq⟩
    · exact absurd hwithin hfail
    · exact absurd (hfull i) hleast.1
    · simp only [h.not_live_iff] at hleast
      rw [hleast.unique hj]
      refine ⟨_, stack', heq, ?_⟩
      exact congrArg QueueThread.queueId (Function.update_self j _ T.queuesIds)
  fail args stack := by
    rcases h.createQueue_cases args stack with ⟨hfail, hzero⟩ | ⟨hwithin, i, hi, stack', heq⟩
    · exact iff_of_true hzero hfail
    · refine iff_of_false ?_ ?_
      · rintro ⟨stack'', hzero⟩
        rw [heq] at hzero
        obtain ⟨-, hid⟩ := Prod.mk.inj (Except.ok.inj hzero)
        exact absurd (Prod.mk.inj hid).1 (Nat.succ_ne_zero i)
      · rintro (hfail | hfull)
        · exact hfail hwithin
        · exact h.not_live_iff.mpr hi.1 (hfull i)
  again i := by
    obtain ⟨T₁, hclose, hsound, hfree⟩ := h.closeQueue i
    exact ⟨T₁, hclose, fun args hwithin stack => hsound.create_again hwithin hfree⟩

end

/-- **The lifecycle of the queues**: in every state of a run that starts with `init_queues`. -/
theorem queueTable_lifecycle (os : OS) (stackSize : ℕ) (T₀ : QueueTable) (calls : List QueueCall) :
    ∀ T ∈ visited (queueStep os stackSize) calls (initQueues os T₀), Lifecycle os stackSize T := by
  intro T hT
  refine Sound.lifecycle (visited_inv (Sound os stackSize) ?_ calls ?_ T hT)
  · exact fun _ _ _ hs hstep => hs.step hstep
  · exact sound_initQueues os stackSize T₀

/-- A table before `init_queues`. -/
def blankTable : QueueTable where
  queues _ := ⟨0, 0, 0, 0, 0, {}, none, none, none⟩
  queuesIds _ := {}
  freeStack := none
  freeQueue := none

/-- The first id is closed while the second one is live, and taken by the next queue. -/
def reusingCalls : List QueueCall :=
  [.create ⟨4, 16, 4⟩ none, .create ⟨4, 16, 4⟩ none, .close 1, .create ⟨8, 32, 8⟩ none]

/-- The table after these calls. -/
def reusedTable : QueueTable :=
  lastVisited (queueStep .riot 1024) reusingCalls (initQueues .riot blankTable)

theorem queueTable_lifecycle_reuse :
    Lifecycle .riot 1024 reusedTable ∧
      reusedTable.Live 0 ∧ reusedTable.Live 1 ∧ ¬ reusedTable.Live 2 := by
  refine ⟨?_, ?_, ?_, ?_⟩
  · exact queueTable_lifecycle .riot 1024 blankTable reusingCalls _ (lastVisited_mem_visited _ _)
  all_goals decide +kernel

end QueueTable

end WmnIot
