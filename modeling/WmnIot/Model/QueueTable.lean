import WmnIot.Foundations.Runs
import WmnIot.Model.IpcQueues

/-! # The table of queues

The tables `queues` and `queues_ids` of `ipc-queues.c` with all they hold: on Linux the descriptor,
the attributes and the name of a POSIX queue, on RIOT the places of the stack and of the message
buffer of a thread in the static arrays `stack` and `queue`. A place is an offset, and `none` the
null pointer.

* **`createQueue`**, **`openQueue`**, **`closeQueue`**, **`endQueues`**, **`initQueues`** — the
  functions that change the table.
* **`ShowsTable`** — the queues of `IpcQueues` are those of a table. -/

namespace WmnIot

open Runs

/-- `struct mq_attr`. -/
structure MqAttr where
  mqMaxmsg : ℕ := 0
  mqMsgsize : ℕ := 0
  mqCurmsgs : ℕ := 0
  deriving DecidableEq, Repr

/-- `Queue_t`. The descriptor, `attr` and `qName` are there on Linux, `stack` and `queue` on RIOT. -/
structure QueueEntry where
  queueId : ℕ
  queueSize : ℕ
  messageSize : ℕ
  msgsAllow : ℕ
  descriptor : ℤ
  attr : MqAttr
  qName : Option String
  stack : Option ℕ
  queue : Option ℕ
  deriving DecidableEq, Repr

/-- The part of `IPC_Queues_t` that creating, opening and closing queues is about. -/
structure QueueTable where
  queues : Fin Config.maxQueues → QueueEntry
  queuesIds : Fin Config.maxQueues → QueueThread
  freeStack : Option ℕ
  freeQueue : Option ℕ

/-- The arguments of `create_queue`. -/
structure QueueArgs where
  maxQueueSize : ℕ
  messageSize : ℕ
  msgsAllow : ℕ

/-- The arguments are within their limits. -/
def QueueArgs.Within (args : QueueArgs) : Prop :=
  args.maxQueueSize ≤ Config.queueSize ∧ args.messageSize ≤ Config.maxMessageSize ∧
    args.msgsAllow ≤ Config.maxElementsOnQueue

instance (args : QueueArgs) : Decidable args.Within :=
  inferInstanceAs (Decidable (_ ∧ _))

/-- What the calls of `mq_open` in `open_queue` return, and whether `errno` is `EEXIST` after the
first one. -/
structure MqOpen where
  first : ℤ
  eexist : Bool
  second : ℤ

namespace QueueTable

/-- What `init_queues` and `end_queues` make of an entry. -/
def clearEntry (os : OS) (e : QueueEntry) : QueueEntry :=
  let e := { e with queueId := 0, queueSize := 0, messageSize := 0, msgsAllow := 0 }
  match os with
  | .linux => { e with descriptor := -1, qName := none }
  | .riot => { e with stack := none, queue := none }

/-- `init_queues`. -/
def initQueues (os : OS) (T : QueueTable) : QueueTable :=
  let T := { T with queues := fun i => clearEntry os (T.queues i), queuesIds := fun _ => {} }
  match os with
  | .linux => T
  | .riot => { T with freeStack := some 0, freeQueue := some 0 }

/-- `end_queues`. -/
def endQueues (os : OS) (T : QueueTable) : QueueTable :=
  let T := { T with queues := fun i => clearEntry os (T.queues i), queuesIds := fun _ => {} }
  match os with
  | .linux => T
  | .riot => { T with freeStack := none, freeQueue := none }

/-- The name of the queue with an id. -/
def queueName (queueId : ℕ) : String :=
  "/" ++ toString queueId

/-- The resources of the queue with index `i`: on Linux its attributes and name, on RIOT its places
in the static arrays. -/
def setResources (os : OS) (stackSize : ℕ) (T : QueueTable) (i : Fin Config.maxQueues)
    (e : QueueEntry) : QueueEntry :=
  match os with
  | .linux =>
    { e with
        attr := { mqMaxmsg := e.msgsAllow, mqMsgsize := e.messageSize + 8, mqCurmsgs := 0 }
        qName := some (queueName e.queueId) }
  | .riot =>
    { e with
        stack := T.freeStack.map fun p => p + i * stackSize
        queue := T.freeQueue.map fun p => p + i * Config.queueSize }

/-- The static arrays are there, as `create_queue` asserts on RIOT. -/
def hasArrays (os : OS) (T : QueueTable) : Bool :=
  match os with
  | .linux => true
  | .riot => T.freeStack.isSome && T.freeQueue.isSome

/-- The table with the queue that `create_queue` makes in the place `i`. -/
def created (os : OS) (stackSize : ℕ) (args : QueueArgs) (i : Fin Config.maxQueues)
    (T : QueueTable) : QueueTable :=
  { T with
    queuesIds := Function.update T.queuesIds i { queueId := 1, pid := 0 }
    queues := Function.update T.queues i (setResources os stackSize T i
      { T.queues i with
          queueId := i + 1
          queueSize := args.maxQueueSize
          messageSize := args.messageSize
          msgsAllow := args.msgsAllow }) }

/-- The stack that `create_queue` hands to its caller. -/
def stackOf (os : OS) (e : QueueEntry) : Option ℕ :=
  match os with
  | .linux => none
  | .riot => e.stack

/-- `create_queue`, where `THREAD_STACKSIZE_DEFAULT` is `stackSize`: the table, the id and the
caller's `stack`. -/
def createQueue (os : OS) (stackSize : ℕ) (args : QueueArgs) (stack : Option ℕ) (T : QueueTable) :
    Except Halt (QueueTable × ℕ × Option ℕ) := do
  assert (hasArrays os T)
  if args.maxQueueSize > Config.queueSize then return (T, 0, stack)
  else if args.messageSize > Config.maxMessageSize then return (T, 0, stack)
  else if args.msgsAllow > Config.maxElementsOnQueue then return (T, 0, stack)
  else
    match (List.finRange Config.maxQueues).find? fun i => (T.queuesIds i).queueId == 0 with
    | none => return (T, 0, none)
    | some i =>
      let T := created os stackSize args i T
      return (T, i + 1, stackOf os (T.queues i))

/-- `open_queue`. -/
def openQueue (os : OS) (queueId : ℕ) (pid : Pid) (mq : MqOpen) (T : QueueTable) :
    Except Halt (QueueTable × ℕ) := do
  assert (queueId != 0)
  if h : 1 ≤ queueId ∧ queueId ≤ Config.maxQueues then
    let i : Fin Config.maxQueues := ⟨queueId - 1, queueIndex_lt h⟩
    let e := T.queues i
    let T := { T with queuesIds := Function.update T.queuesIds i { T.queuesIds i with pid := pid } }
    match os with
    | .linux =>
      assert e.qName.isSome
      let descriptor := if mq.first = -1 ∧ mq.eexist = true then mq.second else mq.first
      return ({ T with
        queues := Function.update T.queues i { e with descriptor := descriptor } }, 1)
    | .riot =>
      assert e.stack.isSome
      assert e.queue.isSome
      return (T, 1)
  else return (T, 0)

/-- What `close_queue` makes of an entry. -/
def closeEntry (os : OS) (e : QueueEntry) : QueueEntry :=
  match os with
  | .linux => { clearEntry .linux e with attr := {} }
  | .riot => clearEntry .riot e

/-- `close_queue`. -/
def closeQueue (os : OS) (queueId : ℕ) (T : QueueTable) : Except Halt QueueTable := do
  if h : 1 ≤ queueId ∧ queueId ≤ Config.maxQueues then
    let i : Fin Config.maxQueues := ⟨queueId - 1, queueIndex_lt h⟩
    return { T with
        queues := Function.update T.queues i (closeEntry os (T.queues i))
        queuesIds := Function.update T.queuesIds i { queueId := 0, pid := 0 } }
  else throw .assertFailed

/-! ## What creating does -/

section Create

variable {os : OS} {stackSize : ℕ} {args : QueueArgs} {stack : Option ℕ} {T : QueueTable}

/-- An argument exceeds its limit. -/
theorem createQueue_of_exceeds (harrays : hasArrays os T = true) (h : ¬ args.Within) :
    createQueue os stackSize args stack T = .ok (T, 0, stack) := by
  unfold createQueue
  rw [harrays, assert_true, ok_bind]
  by_cases hsize : args.maxQueueSize > Config.queueSize
  · rw [if_pos hsize, pure_eq_ok]
  · rw [if_neg hsize]
    by_cases hmessage : args.messageSize > Config.maxMessageSize
    · rw [if_pos hmessage, pure_eq_ok]
    · have hmsgs : args.msgsAllow > Config.maxElementsOnQueue := by
        by_contra hmsgs
        exact h ⟨not_lt.mp hsize, not_lt.mp hmessage, not_lt.mp hmsgs⟩
      rw [if_neg hmessage, if_pos hmsgs, pure_eq_ok]

/-- The arguments are within their limits: the first free entry is taken. -/
theorem createQueue_of_within (harrays : hasArrays os T = true) (h : args.Within) :
    createQueue os stackSize args stack T =
      match (List.finRange Config.maxQueues).find? fun i => (T.queuesIds i).queueId == 0 with
      | none => .ok (T, 0, none)
      | some i => .ok (created os stackSize args i T, i + 1,
          stackOf os ((created os stackSize args i T).queues i)) := by
  obtain ⟨hsize, hmessage, hmsgs⟩ := h
  unfold createQueue
  rw [harrays, assert_true, ok_bind, if_neg (not_lt.mpr hsize), if_neg (not_lt.mpr hmessage),
    if_neg (not_lt.mpr hmsgs)]
  cases (List.finRange Config.maxQueues).find? fun i => (T.queuesIds i).queueId == 0 <;> rfl

end Create

/-! ## The queues of the node -/

/-- Some of the resources of an entry are set: its name, or its places in the static arrays. -/
def allocated (os : OS) (e : QueueEntry) : Bool :=
  match os with
  | .linux => e.qName.isSome
  | .riot => e.stack.isSome && e.queue.isSome

/-- A queue is that of an entry. -/
structure ShowsEntry (os : OS) (q : Queue) (e : QueueEntry) : Prop where
  queueId : q.queueId = e.queueId
  queueSize : q.queueSize = e.queueSize
  messageSize : q.messageSize = e.messageSize
  msgsAllow : q.msgsAllow = e.msgsAllow
  allocated : q.allocated = allocated os e
  opened : os = .linux → q.opened = (e.descriptor != -1)

/-- The queues `Q` are those of the table `T`. -/
structure ShowsTable (os : OS) (Q : IpcQueues) (T : QueueTable) : Prop where
  entry : ∀ i, ShowsEntry os (Q.queues i) (T.queues i)
  queuesIds : Q.queuesIds = T.queuesIds

section Shows

variable {os : OS} {Q : IpcQueues} {T : QueueTable}

theorem showsTable_initQueues (os : OS) (T : QueueTable) :
    ShowsTable os WmnIot.initQueues (initQueues os T) := by
  cases os with
  | linux => exact ⟨fun _ => ⟨rfl, rfl, rfl, rfl, rfl, fun _ => rfl⟩, rfl⟩
  | riot => exact ⟨fun _ => ⟨rfl, rfl, rfl, rfl, rfl, nofun⟩, rfl⟩

/-- Creating a queue keeps the queues those of the table, and returns the same id. -/
theorem ShowsTable.createQueue (h : ShowsTable os Q T) (harrays : hasArrays os T = true)
    (stackSize : ℕ) (args : QueueArgs) (stack : Option ℕ) :
    ∃ T' stack', createQueue os stackSize args stack T = .ok (T',
        (WmnIot.createQueue args.maxQueueSize args.messageSize args.msgsAllow Q).2, stack') ∧
      ShowsTable os (WmnIot.createQueue args.maxQueueSize args.messageSize args.msgsAllow Q).1 T' := by
  by_cases hwithin : args.Within
  · rw [createQueue_of_within harrays hwithin]
    obtain ⟨hsize, hmessage, hmsgs⟩ := hwithin
    -- both tables take the first entry without an id
    have hfind : ((List.finRange Config.maxQueues).find? fun i => (Q.queuesIds i).queueId == 0) =
        (List.finRange Config.maxQueues).find? fun i => (T.queuesIds i).queueId == 0 := by
      rw [h.queuesIds]
    unfold WmnIot.createQueue
    rw [if_neg (not_lt.mpr hsize), if_neg (not_lt.mpr hmessage), if_neg (not_lt.mpr hmsgs), hfind]
    cases (List.finRange Config.maxQueues).find? fun i => (T.queuesIds i).queueId == 0 with
    | none => exact ⟨T, _, rfl, h⟩
    | some i =>
      refine ⟨_, _, rfl, ?_⟩
      refine ⟨fun j => ?_, ?_⟩
      · show ShowsEntry os (Function.update Q.queues i _ j) (Function.update T.queues i _ j)
        by_cases hj : j = i
        · subst hj
          rw [Function.update_self, Function.update_self]
          cases os with
          | linux => exact ⟨rfl, rfl, rfl, rfl, rfl, (h.entry j).opened⟩
          | riot =>
            refine ⟨rfl, rfl, rfl, rfl, ?_, nofun⟩
            simpa [allocated, setResources, hasArrays] using harrays
        · rw [Function.update_of_ne hj, Function.update_of_ne hj]
          exact h.entry j
      · show Function.update Q.queuesIds i _ = Function.update T.queuesIds i _
        rw [h.queuesIds]
  · rw [createQueue_of_exceeds harrays hwithin]
    -- one of the three bounds is exceeded
    have hfail : WmnIot.createQueue args.maxQueueSize args.messageSize args.msgsAllow Q = (Q, 0) := by
      unfold WmnIot.createQueue
      by_cases hsize : args.maxQueueSize > Config.queueSize
      · rw [if_pos hsize]
      · rw [if_neg hsize]
        by_cases hmessage : args.messageSize > Config.maxMessageSize
        · rw [if_pos hmessage]
        · have hmsgs : args.msgsAllow > Config.maxElementsOnQueue := by
            by_contra hmsgs
            exact hwithin ⟨not_lt.mp hsize, not_lt.mp hmessage, not_lt.mp hmsgs⟩
          rw [if_neg hmessage, if_pos hmsgs]
    rw [hfail]
    exact ⟨T, stack, rfl, h⟩

/-- Opening a queue keeps the queues those of the table, if `mq_open` succeeds. -/
theorem ShowsTable.openQueue (h : ShowsTable os Q T) {mq : MqOpen}
    (hmq : (if mq.first = -1 ∧ mq.eexist = true then mq.second else mq.first) ≠ -1) (caller : Pid)
    {queueId : ℕ} (pid : Pid) {T' : QueueTable} {ret : ℕ}
    (hopen : openQueue os queueId pid mq T = .ok (T', ret)) :
    ∃ Q', WmnIot.openQueue os caller queueId pid Q = .ok (Q', ret) ∧ ShowsTable os Q' T' := by
  unfold QueueTable.openQueue at hopen
  unfold WmnIot.openQueue
  obtain ⟨_, hid, hopen⟩ := bind_eq_ok.mp hopen
  rw [hid, ok_bind]
  by_cases hrange : 1 ≤ queueId ∧ queueId ≤ Config.maxQueues
  · rw [dif_pos hrange] at hopen ⊢
    dsimp only at hopen ⊢
    generalize (⟨queueId - 1, by omega⟩ : Fin Config.maxQueues) = i at hopen ⊢
    have hentry := h.entry i
    rw [hentry.allocated]
    -- Linux opens the queue of the entry under its name, RIOT asserts that its places are set
    cases os with
    | linux =>
      obtain ⟨_, hname, hopen⟩ := bind_eq_ok.mp hopen
      rw [show allocated .linux (T.queues i) = (T.queues i).qName.isSome from rfl, hname, ok_bind]
      obtain ⟨rfl, rfl⟩ := Prod.mk.inj (Except.ok.inj hopen)
      refine ⟨_, rfl, fun j => ?_, by rw [← h.queuesIds]⟩
      show ShowsEntry .linux (Function.update Q.queues i _ j) (Function.update T.queues i _ j)
      by_cases hj : j = i
      · subst hj
        rw [Function.update_self, Function.update_self]
        refine ⟨hentry.queueId, hentry.queueSize, hentry.messageSize, hentry.msgsAllow, rfl,
          fun _ => ?_⟩
        exact (bne_iff_ne.mpr hmq).symm
      · rw [Function.update_of_ne hj, Function.update_of_ne hj]
        exact h.entry j
    | riot =>
      obtain ⟨_, hstack, hopen⟩ := bind_eq_ok.mp hopen
      obtain ⟨_, hqueue, hopen⟩ := bind_eq_ok.mp hopen
      have hallocated : assert (allocated .riot (T.queues i)) = .ok () := by
        unfold assert at hstack hqueue
        split at hstack
        · next hs =>
          split at hqueue
          · next hq => simp [allocated, hs, hq]
          · cases hqueue
        · cases hstack
      rw [hallocated, ok_bind]
      obtain ⟨rfl, rfl⟩ := Prod.mk.inj (Except.ok.inj hopen)
      exact ⟨_, rfl, fun j => h.entry j, by rw [← h.queuesIds]⟩
  · rw [dif_neg hrange] at hopen ⊢
    obtain ⟨rfl, rfl⟩ := Prod.mk.inj (Except.ok.inj hopen)
    exact ⟨Q, rfl, h⟩

end Shows

end QueueTable

end WmnIot
