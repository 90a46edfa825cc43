import WmnIot.Driver.Runs
import WmnIot.PowerMode.CommonFrequency
import WmnIot.PowerMode.SlotTimer

/-! # The timeout table over a run

Each state of the MAC machine sets timeouts and releases them. Counting the used entries of the
table shows which executions keep some: `MEDIUM_ACCESS` is always left with its slot timer set, and
`SYNCHRONIZATION` on some of its paths.

* **`Node.usedTimeouts`** — the used entries.
* **`executeInitialization_used`**, **`joinFrom_used`**, … — what each state makes of them.
* **`Leaks`** — the executions that keep entries.
* **`timeoutTable_kept_iff`** — the turns of a run. -/

namespace WmnIot

open Runs

variable {build : Build} {n n' m : Node}

/-! ## Setting, polling and releasing -/

/-- The number of entries of the node's table that are used. -/
def Node.usedTimeouts (n : Node) : ℕ :=
  usedEntries n.timeouts

/-- A timeout of this duration can be set. -/
def CanSet (n : Node) (seconds : ℕ) : Prop :=
  seconds ≠ 0 ∧ 0 < freeEntries n.timeouts

instance (n : Node) (seconds : ℕ) : Decidable (CanSet n seconds) :=
  inferInstanceAs (Decidable (_ ∧ _))

@[simp]
theorem usedTimeouts_tick (n : Node) (t : Tick) : (n.tick t).usedTimeouts = n.usedTimeouts := by
  unfold Node.usedTimeouts Node.tick
  dsimp only
  split
  · exact usedEntries_timeoutSignalHandler _ _
  · rfl

theorem usedTimeouts_unsetTimeout {timeout : ℕ} (h : Live n.timeouts timeout) :
    (n.unsetTimeout timeout).usedTimeouts + 1 = n.usedTimeouts :=
  usedEntries_timeoutUnset h

/-- After a release there is a free entry. -/
theorem canSet_unsetTimeout {timeout seconds : ℕ} (hseconds : seconds ≠ 0)
    (h : Live n.timeouts timeout) : CanSet (n.unsetTimeout timeout) seconds := by
  have hused : usedEntries (n.unsetTimeout timeout).timeouts + 1 = usedEntries n.timeouts :=
    usedEntries_timeoutUnset h
  have hall := usedEntries_add_freeEntries n.timeouts
  have hrest := usedEntries_add_freeEntries (n.unsetTimeout timeout).timeouts
  exact ⟨hseconds, by omega⟩

/-- **Setting a timeout** fails and changes nothing, or arms one more entry. -/
theorem setTimeout_used (build : Build) (n : Node) (seconds : ℕ) :
    ((n.setTimeout build seconds).2 = Config.timeoutSetError ∧
        (n.setTimeout build seconds).1 = n ∧ ¬ CanSet n seconds) ∨
      ((n.setTimeout build seconds).2 ≠ Config.timeoutSetError ∧ CanSet n seconds ∧
        Live (n.setTimeout build seconds).1.timeouts (n.setTimeout build seconds).2 ∧
        (n.setTimeout build seconds).1.usedTimeouts = n.usedTimeouts + 1) := by
  rcases timeoutSet_balance build.os n.clock n.timeouts seconds with ⟨hid, htable, hcan⟩ | hset
  · refine .inl ⟨hid, ?_, hcan⟩
    show { n with timeouts := (timeoutSet build.os n.clock n.timeouts seconds).1 } = n
    rw [htable]
  · exact .inr hset

/-- A timeout that can be set is set. -/
theorem setTimeout_of_canSet (build : Build) {seconds : ℕ} (h : CanSet n seconds) :
    Live (n.setTimeout build seconds).1.timeouts (n.setTimeout build seconds).2 ∧
      (n.setTimeout build seconds).1.usedTimeouts = n.usedTimeouts + 1 := by
  rcases setTimeout_used build n seconds with ⟨-, -, hcan⟩ | ⟨-, -, hset⟩
  · exact absurd h hcan
  · exact hset

/-- A timeout that is set, kept for a while, and released in the end leaves the table as full as it
was, also if it could not be set. -/
theorem usedTimeouts_released {seconds : ℕ}
    (hused : m.usedTimeouts = (n.setTimeout build seconds).1.usedTimeouts)
    (hlive : Live (n.setTimeout build seconds).1.timeouts (n.setTimeout build seconds).2 →
      Live m.timeouts (n.setTimeout build seconds).2) :
    (m.unsetTimeout (n.setTimeout build seconds).2).usedTimeouts = n.usedTimeouts := by
  rcases setTimeout_used build n seconds with ⟨hid, hsame, -⟩ | ⟨-, -, hset, hone⟩
  · rw [hsame] at hused
    rw [hid]
    show usedEntries (timeoutUnset m.timeouts Config.timeoutSetError) = _
    rw [timeoutUnset_error]
    exact hused
  · have hrelease := usedTimeouts_unsetTimeout (hlive hset)
    omega

/-! ## `INITIALIZATION` and `TIMESLOT_AND_CHANNEL_SELECTION` -/

/-- A loop that only waits keeps the used entries and their timers. -/
theorem waiting_used {ι σ : Type} {body : ι → σ → Except Halt (σ × Bool)} {f : σ → Node}
    (hbody : ∀ i s s' go, body i s = .ok (s', go) → ∃ t, f s' = (f s).tick t) {is : List ι}
    {s s' : σ} (h : pollLoop .polling body is s = .ok s') :
    (f s').usedTimeouts = (f s).usedTimeouts ∧
      ∀ id, Live (f s).timeouts id → Live (f s').timeouts id := by
  have hstep : ∀ i t t' go, ((f t).usedTimeouts = (f s).usedTimeouts ∧
      ∀ id, Live (f s).timeouts id → Live (f t).timeouts id) → body i t = .ok (t', go) →
      (f t').usedTimeouts = (f s).usedTimeouts ∧
        ∀ id, Live (f s).timeouts id → Live (f t').timeouts id := by
    rintro i t t' go ⟨hused, hlive⟩ hpoll
    obtain ⟨tick, htick⟩ := hbody i t t' go hpoll
    rw [htick, usedTimeouts_tick]
    exact ⟨hused, fun id hid => live_tick.mpr (hlive id hid)⟩
  exact pollLoop_inv _ _ (fun i t t' => hstep i t t' true) (fun i t t' => hstep i t t' false) is
    ⟨rfl, fun _ hid => hid⟩ h

/-- **`INITIALIZATION`** releases what it sets. -/
theorem executeInitialization_used {polls : List InitPoll} {ret : MacExecution}
    (h : executeInitialization build polls n = .ok (n', ret)) :
    n'.usedTimeouts = n.usedTimeouts := by
  obtain ⟨⟨m, found⟩, hloop, h⟩ := bind_eq_ok.mp h
  cases h
  obtain ⟨hused, hlive⟩ := waiting_used (f := fun s : Node × Bool => s.1)
    (fun p _ _ _ hpoll => ⟨p.tick, initPoll_frame hpoll⟩) hloop
  have hreleased := usedTimeouts_released hused (hlive _)
  cases found <;> exact hreleased

/-- **`TIMESLOT_AND_CHANNEL_SELECTION`** releases what it sets. -/
theorem executeTimeslotAndChannelSelection_used {rand : ℕ} {ticks : List Tick}
    {ret : MacExecution}
    (h : executeTimeslotAndChannelSelection build rand ticks n = .ok (n', ret)) :
    n'.usedTimeouts = n.usedTimeouts := by
  unfold executeTimeslotAndChannelSelection at h
  split at h
  · cases h
    rfl
  dsimp only at h
  split at h
  · next herror =>
    cases h
    rcases setTimeout_used build n Config.frameDuration.toNat with ⟨-, hsame, -⟩ | ⟨hne, -⟩
    · rw [hsame]
    · exact absurd herror hne
  obtain ⟨m, hloop, h⟩ := bind_eq_ok.mp h
  cases h
  obtain ⟨hused, hlive⟩ := waiting_used (f := id)
    (fun tick _ _ _ hpoll => ⟨tick, framePoll_frame hpoll⟩) hloop
  refine usedTimeouts_released (hused.trans ?_) fun hid => hlive _ ?_
  · split <;> rfl
  · split <;> exact hid

/-! ## `SYNCHRONIZATION` -/

/-- The control packet in what the radio makes of an attempt. -/
def CtrlRadio.ctrlpkt : CtrlRadio → Option ByteString
  | .lost _ => none
  | .heard bytes => if bytes 0 = 1 then some bytes else none

/-- The window in which one attempt listens. -/
def Node.listeningWindow (n : Node) : ℕ :=
  n.mac.frame.slotDuration / 20

/-- The attempt sets a timeout and does not release it: on Linux always, on RIOT unless that timeout
ends the attempt. -/
def KeepsWindow (build : Build) (radio : CtrlRadio) (n : Node) : Prop :=
  CanSet n n.listeningWindow ∧ (build.os = .riot → radio ≠ .lost true)

/-- Where `NATIVE` replaces the radio, an attempt sets no timeout. -/
theorem mclmacReceiveCtrlpktSync_native (hnative : build.native = true) (radio : CtrlRadio)
    (n : Node) : mclmacReceiveCtrlpktSync build radio n = (n, radio.ctrlpkt) := by
  unfold mclmacReceiveCtrlpktSync CtrlRadio.ctrlpkt
  rw [if_pos hnative]
  cases radio with
  | lost timedOut => rfl
  | heard bytes =>
    by_cases htype : bytes 0 = 1
    · simp [htype]
    · simp [htype]

/-- The reception on RIOT: the timeout is kept, or the attempt fails and changes nothing. -/
theorem receiveWithin_used (hos : build.os = .riot) (radio : CtrlRadio) (n : Node) :
    (KeepsWindow build radio n ∧
        (receiveWithin build radio n).1.usedTimeouts = n.usedTimeouts + 1) ∨
      (¬ KeepsWindow build radio n ∧ (receiveWithin build radio n).1.usedTimeouts = n.usedTimeouts ∧
        (receiveWithin build radio n).2 = none) := by
  unfold receiveWithin KeepsWindow
  dsimp only
  rcases setTimeout_used build n n.listeningWindow with
    ⟨hid, hsame, hcan⟩ | ⟨hne, hcan, hlive, hused⟩
  · -- the table is full, or the window has no length
    refine .inr ⟨fun h => hcan h.1, ?_⟩
    have hid : (n.setTimeout build (n.mac.frame.slotDuration / 20)).2 = Config.timeoutSetError := hid
    rw [if_pos hid]
    exact ⟨congrArg Node.usedTimeouts hsame, rfl⟩
  · have hne : (n.setTimeout build (n.mac.frame.slotDuration / 20)).2 ≠ Config.timeoutSetError := hne
    rw [if_neg hne]
    cases radio with
    | lost timedOut =>
      cases timedOut with
      | false => exact .inl ⟨⟨hcan, fun _ h => by cases h⟩, hused⟩
      | true =>
        refine .inr ⟨fun h => h.2 hos rfl, ?_, rfl⟩
        have hrelease : ((n.setTimeout build n.listeningWindow).1.unsetTimeout
            (n.setTimeout build n.listeningWindow).2).usedTimeouts + 1 = _ :=
          usedTimeouts_unsetTimeout hlive
        rw [hused] at hrelease
        exact Nat.succ.inj hrelease
    | heard bytes => exact .inl ⟨⟨hcan, fun _ h => by cases h⟩, hused⟩

/-- **An attempt to hear a control packet** without `NATIVE`: the timeout is kept, or the attempt
fails and changes nothing. -/
theorem mclmacReceiveCtrlpktSync_used (hnative : build.native = false) (radio : CtrlRadio)
    (n : Node) :
    (KeepsWindow build radio n ∧
        (mclmacReceiveCtrlpktSync build radio n).1.usedTimeouts = n.usedTimeouts + 1) ∨
      (¬ KeepsWindow build radio n ∧
        (mclmacReceiveCtrlpktSync build radio n).1.usedTimeouts = n.usedTimeouts ∧
        (mclmacReceiveCtrlpktSync build radio n).2 = none) := by
  unfold mclmacReceiveCtrlpktSync
  rw [if_neg (by rw [hnative]; exact Bool.false_ne_true)]
  cases hos : build.os with
  | linux =>
    rcases setTimeout_used build n n.listeningWindow with ⟨-, hsame, hcan⟩ | ⟨-, hcan, -, hused⟩
    · exact .inr ⟨fun h => hcan h.1, congrArg Node.usedTimeouts hsame, rfl⟩
    · exact .inl ⟨⟨hcan, fun h => nomatch hos.symm.trans h⟩, hused⟩
  | riot =>
    rcases receiveWithin_used hos radio n with hkeeps | ⟨hkeeps, hused, hnone⟩
    · exact .inl hkeeps
    · refine .inr ⟨hkeeps, hused, ?_⟩
      show ((receiveWithin build radio n).2.filter fun b => b 0 == 1) = none
      rw [hnone]
      rfl

/-- An attempt keeps the timers that are set. -/
theorem live_mclmacReceiveCtrlpktSync {radio : CtrlRadio} {id : ℕ} (h : Live n.timeouts id) :
    Live (mclmacReceiveCtrlpktSync build radio n).1.timeouts id := by
  cases hnative : build.native with
  | true =>
    rw [mclmacReceiveCtrlpktSync_native hnative]
    exact h
  | false =>
    unfold mclmacReceiveCtrlpktSync
    rw [if_neg (by rw [hnative]; exact Bool.false_ne_true)]
    cases build.os with
    | linux => exact live_setTimeout h
    | riot => exact live_receiveWithin h

theorem usedTimeouts_le_mclmacReceiveCtrlpktSync (build : Build) (radio : CtrlRadio) (n : Node) :
    n.usedTimeouts ≤ (mclmacReceiveCtrlpktSync build radio n).1.usedTimeouts := by
  cases hnative : build.native with
  | true => rw [mclmacReceiveCtrlpktSync_native hnative]
  | false =>
    rcases mclmacReceiveCtrlpktSync_used hnative radio n with ⟨-, hused⟩ | ⟨-, hused, -⟩ <;> omega

/-- The first control packet in the attempts. -/
def firstHeard (attempts : List CtrlRadio) : Option ByteString :=
  attempts.findSome? CtrlRadio.ctrlpkt

/-- Where `NATIVE` replaces the radio, listening gives the first control packet. -/
theorem listenCtrlpkt_native (hnative : build.native = true) {count : ℕ}
    {attempts : List CtrlRadio} {heard : Option ByteString}
    (h : listenCtrlpkt build count attempts n = .ok (n', heard)) :
    n' = n ∧ heard = firstHeard (attempts.take count) := by
  induction count generalizing attempts with
  | zero =>
    cases h
    exact ⟨rfl, rfl⟩
  | succ count ih =>
    cases attempts with
    | nil => exact nomatch h
    | cons radio attempts =>
      rw [listenCtrlpkt, mclmacReceiveCtrlpktSync_native hnative] at h
      rw [List.take_succ_cons, firstHeard, List.findSome?_cons]
      cases hpkt : radio.ctrlpkt with
      | none =>
        rw [hpkt] at h
        exact ih h
      | some bytes =>
        rw [hpkt] at h
        cases h
        exact ⟨rfl, rfl⟩

/-- Listening releases nothing. -/
theorem usedTimeouts_le_listenCtrlpkt {count : ℕ} {attempts : List CtrlRadio}
    {heard : Option ByteString} (h : listenCtrlpkt build count attempts n = .ok (n', heard)) :
    n.usedTimeouts ≤ n'.usedTimeouts := by
  induction count generalizing attempts n with
  | zero =>
    cases h
    exact le_refl _
  | succ count ih =>
    cases attempts with
    | nil => exact nomatch h
    | cons radio attempts =>
      rw [listenCtrlpkt] at h
      have hle := usedTimeouts_le_mclmacReceiveCtrlpktSync build radio n
      generalize mclmacReceiveCtrlpktSync build radio n = received at h hle
      obtain ⟨m, _ | bytes⟩ := received
      · exact hle.trans (ih h)
      · cases h
        exact hle

/-- Whether an attempt keeps its timeout depends on the length of the window and on the number of
entries that are used. -/
theorem keepsWindow_congr {radio : CtrlRadio} (hwindow : m.listeningWindow = n.listeningWindow)
    (hused : m.usedTimeouts = n.usedTimeouts) :
    KeepsWindow build radio m ↔ KeepsWindow build radio n := by
  have hn := usedEntries_add_freeEntries n.timeouts
  have hm := usedEntries_add_freeEntries m.timeouts
  have hused : usedEntries m.timeouts = usedEntries n.timeouts := hused
  have hfree : freeEntries m.timeouts = freeEntries n.timeouts := by omega
  unfold KeepsWindow CanSet
  rw [hwindow, hfree]

/-- **Listening** without `NATIVE` keeps the table as full as it was exactly if none of its attempts
keeps its timeout; then nothing is heard. -/
theorem listenCtrlpkt_used (hnative : build.native = false) {count : ℕ}
    {attempts : List CtrlRadio} {heard : Option ByteString}
    (h : listenCtrlpkt build count attempts n = .ok (n', heard)) :
    (n'.usedTimeouts = n.usedTimeouts ↔
        ∀ radio ∈ attempts.take count, ¬ KeepsWindow build radio n) ∧
      (n'.usedTimeouts = n.usedTimeouts → heard = none) := by
  induction count generalizing attempts n with
  | zero =>
    cases h
    exact ⟨iff_of_true rfl (by simp), fun _ => rfl⟩
  | succ count ih =>
    cases attempts with
    | nil => exact nomatch h
    | cons radio attempts =>
      rw [listenCtrlpkt] at h
      have hused := mclmacReceiveCtrlpktSync_used hnative radio n
      obtain ⟨timeouts, hframe⟩ := mclmacReceiveCtrlpktSync_frame build radio n
      generalize mclmacReceiveCtrlpktSync build radio n = received at h hused hframe
      obtain ⟨m, bytes⟩ := received
      dsimp only at hused hframe
      rw [List.take_succ_cons, List.forall_mem_cons]
      rcases hused with ⟨hkeeps, hm⟩ | ⟨hkeeps, hm, rfl⟩
      · -- this attempt keeps its timeout, and nothing releases it any more
        have hmore : m.usedTimeouts ≤ n'.usedTimeouts := by
          cases bytes with
          | none => exact usedTimeouts_le_listenCtrlpkt h
          | some bytes =>
            cases h
            exact le_refl _
        have hne : n'.usedTimeouts ≠ n.usedTimeouts := by omega
        exact ⟨iff_of_false hne fun hnone => hnone.1 hkeeps, fun hsame => absurd hsame hne⟩
      · have hwindow : m.listeningWindow = n.listeningWindow := by
          rw [hframe]
          rfl
        obtain ⟨hiff, hnone⟩ := ih h
        rw [hm] at hiff hnone
        refine ⟨?_, hnone⟩
        rw [hiff]
        constructor
        · intro hrest
          refine ⟨hkeeps, fun radio' hradio hkeeps' => ?_⟩
          exact hrest radio' hradio ((keepsWindow_congr hwindow hm).mpr hkeeps')
        · intro hall radio' hradio hkeeps'
          exact hall.2 radio' hradio ((keepsWindow_congr hwindow hm).mp hkeeps')

/-! ### The listening loop -/

/-- The timers of the listening loop are set, and besides them at least `used` entries of the table
are used; exactly that many where `NATIVE` replaces the radio. -/
structure SyncTimers (build : Build) (used : ℕ) (s : Node × SyncLocals) : Prop where
  slot : Live s.1.timeouts s.2.slotTimer
  frame : Live s.1.timeouts s.2.frameTimer
  apart : s.2.slotTimer ≠ s.2.frameTimer
  le : used + 2 ≤ s.1.usedTimeouts
  native : build.native = true → s.1.usedTimeouts = used + 2

/-- Releasing one timer of the table and setting it again. -/
theorem resetTimeout_used (build : Build) {seconds timeout id : ℕ} (hseconds : seconds ≠ 0)
    (htimeout : Live n.timeouts timeout) (hid : Live n.timeouts id) (hne : id ≠ timeout) :
    Live ((n.unsetTimeout timeout).setTimeout build seconds).1.timeouts
        ((n.unsetTimeout timeout).setTimeout build seconds).2 ∧
      Live ((n.unsetTimeout timeout).setTimeout build seconds).1.timeouts id ∧
      ((n.unsetTimeout timeout).setTimeout build seconds).2 ≠ id ∧
      ((n.unsetTimeout timeout).setTimeout build seconds).1.usedTimeouts = n.usedTimeouts := by
  have hid' : Live (n.unsetTimeout timeout).timeouts id := (live_unsetTimeout hne).mpr hid
  have hrelease := usedTimeouts_unsetTimeout htimeout
  obtain ⟨hlive, hused⟩ :=
    setTimeout_of_canSet build (canSet_unsetTimeout hseconds htimeout)
  exact ⟨hlive, live_setTimeout hid', timeoutSet_ne_of_live hid', by omega⟩

theorem SyncTimers.pollSlot {used : ℕ} {l : SyncLocals} (h : SyncTimers build used (n, l))
    (tick : Tick) : SyncTimers build used (pollSyncSlot build tick n l) := by
  obtain ⟨hslot, hframe, hapart, hle, hnative⟩ := h
  have hused := usedTimeouts_tick n tick
  have hslot : Live (n.tick tick).timeouts l.slotTimer := live_tick.mpr hslot
  have hframe : Live (n.tick tick).timeouts l.frameTimer := live_tick.mpr hframe
  unfold pollSyncSlot
  dsimp only at hle hnative ⊢
  rw [← hused] at hle hnative
  split
  · obtain ⟨hlive, hframe', hne, hsame⟩ := resetTimeout_used build
      (show Config.slotDuration.toNat ≠ 0 by decide) hslot hframe hapart.symm
    exact ⟨hlive, hframe', hne, by rw [hsame]; exact hle, fun h => hsame.trans (hnative h)⟩
  · exact ⟨hslot, hframe, hapart, hle, hnative⟩

theorem SyncTimers.pollFrame {used : ℕ} {l : SyncLocals} (h : SyncTimers build used (n, l))
    (tick : Tick) : SyncTimers build used (pollSyncFrame build tick n l) := by
  obtain ⟨hslot, hframe, hapart, hle, hnative⟩ := h
  have hused := usedTimeouts_tick n tick
  have hslot : Live (n.tick tick).timeouts l.slotTimer := live_tick.mpr hslot
  have hframe : Live (n.tick tick).timeouts l.frameTimer := live_tick.mpr hframe
  unfold pollSyncFrame
  dsimp only at hle hnative ⊢
  rw [← hused] at hle hnative
  split
  · obtain ⟨hlive, hslot', hne, hsame⟩ := resetTimeout_used build
      (show Config.frameDuration.toNat ≠ 0 by decide) hframe hslot hapart
    exact ⟨hslot', hlive, hne.symm, by rw [hsame]; exact hle, fun h => hsame.trans (hnative h)⟩
  · exact ⟨hslot, hframe, hapart, hle, hnative⟩

/-- **A turn of the listening loop** keeps its timers set. -/
theorem SyncTimers.poll {used : ℕ} {p : SyncPoll} {s s' : Node × SyncLocals} {go : Bool}
    (h : SyncTimers build used s) (hpoll : syncPoll build p s = .ok (s', go)) :
    SyncTimers build used s' := by
  obtain ⟨n, l⟩ := s
  obtain ⟨m, hm, rfl, -⟩ := syncPoll_cases hpoll
  -- what is heard changes the table only by the timeouts that attempts keep
  have htable : m.timeouts = (mclmacReceiveCtrlpktSync build p.radio n).1.timeouts := by
    rcases hm with hm | ⟨n₁, b, hm, hmark⟩
    · rw [hm]
    · obtain ⟨_, rfl⟩ := markSelectedSlot_frame hmark
      rw [hm]
      rfl
  have hle : n.usedTimeouts ≤ m.usedTimeouts := by
    unfold Node.usedTimeouts
    rw [htable]
    exact usedTimeouts_le_mclmacReceiveCtrlpktSync build p.radio n
  have hm' : SyncTimers build used (m, l) := by
    refine ⟨?_, ?_, h.apart, h.le.trans hle, fun hnative => ?_⟩
    · show Live m.timeouts l.slotTimer
      rw [htable]
      exact live_mclmacReceiveCtrlpktSync h.slot
    · show Live m.timeouts l.frameTimer
      rw [htable]
      exact live_mclmacReceiveCtrlpktSync h.frame
    · show usedEntries m.timeouts = used + 2
      rw [htable, mclmacReceiveCtrlpktSync_native hnative]
      exact h.native hnative
  exact (hm'.pollSlot p.slotTick).pollFrame p.frameTick

theorem SyncTimers.listen {used : ℕ} {polls : List SyncPoll} {s s' : Node × SyncLocals}
    (h : SyncTimers build used s) (hlisten : listenOn build polls s = .ok s') :
    SyncTimers build used s' := by
  unfold listenOn at hlisten
  split at hlisten
  · exact pollLoop_inv (SyncTimers build used) (SyncTimers build used)
      (fun _ _ _ hs hpoll => hs.poll hpoll) (fun _ _ _ hs hpoll => hs.poll hpoll) polls h hlisten
  · cases hlisten
    exact h

/-- At its end the loop releases both. -/
theorem SyncTimers.released {used : ℕ} {s : Node × SyncLocals} (h : SyncTimers build used s) :
    (endListening s).usedTimeouts + 2 = s.1.usedTimeouts := by
  have hframe := usedTimeouts_unsetTimeout h.frame
  have hslot := usedTimeouts_unsetTimeout ((live_unsetTimeout h.apart).mpr h.slot)
  show ((s.1.unsetTimeout s.2.frameTimer).unsetTimeout s.2.slotTimer).usedTimeouts + 2 = _
  omega

/-! ### Joining -/

theorem adoptCtrlpkt_timeouts {pkt : ControlPacket} (h : adoptCtrlpkt n pkt = .ok n') :
    n'.timeouts = n.timeouts := by
  obtain ⟨m, hmark, h⟩ := bind_eq_ok.mp h
  cases h
  obtain ⟨_, rfl⟩ := markSelectedSlot_frame hmark
  rfl

/-- **Setting two timeouts** of the same duration: none can be set, the second one finds the table
full, or both are set. -/
theorem setTwice_used {remaining : ℕ} {s₁ s₂ : Node × ℕ} (h₁ : n.setTimeout build remaining = s₁)
    (h₂ : s₁.1.setTimeout build remaining = s₂) :
    (s₁.2 = Config.timeoutSetError ∧ s₂.1.usedTimeouts = n.usedTimeouts ∧ ¬ CanSet n remaining) ∨
      (s₂.2 = Config.timeoutSetError ∧ s₂.1.usedTimeouts = n.usedTimeouts + 1 ∧
        CanSet n remaining ∧ freeEntries n.timeouts = 1) ∨
      (s₁.2 ≠ Config.timeoutSetError ∧ s₂.2 ≠ Config.timeoutSetError ∧
        Live s₂.1.timeouts s₁.2 ∧ Live s₂.1.timeouts s₂.2 ∧ s₁.2 ≠ s₂.2 ∧
        s₂.1.usedTimeouts = n.usedTimeouts + 2 ∧ freeEntries n.timeouts ≠ 1) := by
  have hfirst := setTimeout_used build n remaining
  have hsecond := setTimeout_used build s₁.1 remaining
  rw [h₁] at hfirst
  rw [h₂] at hsecond
  have hn := usedEntries_add_freeEntries n.timeouts
  have hs₁ := usedEntries_add_freeEntries s₁.1.timeouts
  -- the second call meets the table with the entry of the first one in use
  rcases hfirst with ⟨hid, hsame, hcan⟩ | ⟨hid, hcan, hslot, hused⟩
  · rw [hsame] at hsecond
    rcases hsecond with ⟨-, hsame', -⟩ | ⟨-, hcan', -⟩
    · exact .inl ⟨hid, by rw [hsame'], hcan⟩
    · exact absurd hcan' hcan
  · have hused' : usedEntries s₁.1.timeouts = usedEntries n.timeouts + 1 := hused
    rcases hsecond with ⟨hid', hsame, hcan'⟩ | ⟨hid', hcan', hframe, hused₂⟩
    · have hfull : ¬ 0 < freeEntries s₁.1.timeouts := fun hpos => hcan' ⟨hcan.1, hpos⟩
      exact .inr (.inl ⟨hid', by rw [hsame]; exact hused, hcan, by omega⟩)
    · have hlive : Live s₂.1.timeouts s₁.2 := by
        rw [← h₂]
        exact live_setTimeout hslot
      have hne : s₂.2 ≠ s₁.2 := by
        rw [← h₂]
        exact timeoutSet_ne_of_live hslot
      have hpos := hcan'.2
      exact .inr (.inr ⟨hid, hid', hlive, hframe, hne.symm, by omega, by omega⟩)

/-- Arming the timers of the listening loop sets two timeouts. -/
theorem armSyncTimers_eq (build : Build) {pkt : ControlPacket} {remaining : UInt32}
    (h : timeRemaining pkt.currentFrame pkt.currentSlot n.networkTime = remaining) :
    ∃ s₁ s₂, n.setTimeout build remaining.toNat = s₁ ∧
      s₁.1.setTimeout build remaining.toNat = s₂ ∧
      armSyncTimers build pkt n = (s₂.1,
        { currentFrame := pkt.currentFrame
          currentSlot := pkt.currentSlot
          slotTimer := s₁.2
          frameTimer := s₂.2 }) := by
  unfold armSyncTimers
  rw [h]
  exact ⟨_, _, rfl, rfl, rfl⟩

/-- **Joining** fails when one of the timers cannot be set; else it sets both of them, and releases
them at its end. -/
theorem joinFrom_timers {polls : List SyncPoll} {pkt : ControlPacket} {ret : MacExecution}
    (h : joinFrom build polls pkt n = .ok (n', ret)) :
    (ret = .failed ∧ ((n'.usedTimeouts = n.usedTimeouts ∧ ¬ CanSet n (pktTimeRemaining pkt).toNat) ∨
        (n'.usedTimeouts = n.usedTimeouts + 1 ∧ CanSet n (pktTimeRemaining pkt).toNat ∧
          freeEntries n.timeouts = 1))) ∨
      (ret = .success ∧ freeEntries n.timeouts ≠ 1 ∧
        ∃ s, SyncTimers build n.usedTimeouts s ∧ n' = endListening s) := by
  obtain ⟨m, s, hadopt, harm, hcases⟩ := joinFrom_cases h
  have htable := adoptCtrlpkt_timeouts hadopt
  have hm : m.usedTimeouts = n.usedTimeouts := by
    unfold Node.usedTimeouts
    rw [htable]
  have hremaining : timeRemaining pkt.currentFrame pkt.currentSlot m.networkTime =
      pktTimeRemaining pkt := by
    rw [adoptCtrlpkt_networkTime hadopt]
    rfl
  obtain ⟨s₁, s₂, h₁, h₂, heq⟩ := armSyncTimers_eq build hremaining
  rw [harm] at heq
  clear hremaining harm
  have harmed := setTwice_used h₁ h₂
  unfold CanSet at harmed ⊢
  rw [hm, htable] at harmed
  subst heq
  -- the two timers are set, or one of them is not and the state returns an error
  rcases hcases with ⟨herror, rfl, rfl⟩ | ⟨hslot, hframe, rfl, s', hlisten, rfl⟩
  · refine .inl ⟨rfl, ?_⟩
    rcases harmed with ⟨-, hfails⟩ | ⟨-, hfails⟩ | ⟨hslot, hframe, -⟩
    · exact .inl hfails
    · exact .inr hfails
    · rcases herror with herror | herror
      · exact absurd herror hslot
      · exact absurd herror hframe
  · rcases harmed with ⟨herror, -⟩ | ⟨herror, -⟩ | ⟨-, -, hlive₁, hlive₂, hapart, hused, hone⟩
    · exact absurd herror hslot
    · exact absurd herror hframe
    · -- the listening loop goes on from two timers of its own
      have htimers : SyncTimers build n.usedTimeouts
          (s₂.1, ⟨pkt.currentFrame, pkt.currentSlot, s₁.2, s₂.2⟩) :=
        ⟨hlive₁, hlive₂, hapart, hused.ge, fun _ => hused⟩
      exact .inr ⟨rfl, hone, s', htimers.listen hlisten, rfl⟩

/-- **Joining** releases nothing that it does not set; where `NATIVE` replaces the radio it keeps an
entry exactly if the table has one free entry left, and the slot a positive rest. -/
theorem joinFrom_used {polls : List SyncPoll} {pkt : ControlPacket} {ret : MacExecution}
    (h : joinFrom build polls pkt n = .ok (n', ret)) :
    n.usedTimeouts ≤ n'.usedTimeouts ∧ (build.native = true → (n'.usedTimeouts = n.usedTimeouts ↔
      ¬ (pktTimeRemaining pkt ≠ 0 ∧ freeEntries n.timeouts = 1))) := by
  have hpos : (pktTimeRemaining pkt).toNat ≠ 0 ↔ pktTimeRemaining pkt ≠ 0 := by
    rw [Ne, Ne, ← UInt32.toNat_inj, UInt32.toNat_zero]
  rcases joinFrom_timers h with ⟨-, ⟨hused, hcan⟩ | ⟨hused, hcan, hone⟩⟩ |
    ⟨-, hone, s, htimers, rfl⟩
  · refine ⟨hused.ge, fun _ => iff_of_true hused fun hone => hcan ⟨hpos.mpr hone.1, ?_⟩⟩
    rw [hone.2]
    exact Nat.one_pos
  · exact ⟨by omega, fun _ => iff_of_false (by omega) fun hnot => hnot ⟨hpos.mp hcan.1, hone⟩⟩
  · have hreleased := htimers.released
    have hle := htimers.le
    refine ⟨by omega, fun hnative => iff_of_true ?_ fun hnot => hone hnot.2⟩
    have hnative' := htimers.native hnative
    omega

/-- An execution of `SYNCHRONIZATION` keeps entries: without `NATIVE`, those of its attempts; with
it, the slot timer when the frame timer finds the table full. -/
def SyncLeaks (build : Build) (attempts : List CtrlRadio) (n : Node) : Prop :=
  if build.native then
    freeEntries n.timeouts = 1 ∧
      ∃ b ∈ firstHeard (attempts.take 11), pktTimeRemaining (decodeCtrlpkt b) ≠ 0
  else ∃ radio ∈ attempts.take 11, KeepsWindow build radio n

/-- **`SYNCHRONIZATION`** of a node that is not the first one. -/
theorem executeSynchronization_used {time : UInt32} {attempts : List CtrlRadio}
    {polls : List SyncPoll} {ret : MacExecution} (hfirst : n.isFirstNode = false)
    (h : executeSynchronization build time attempts polls n = .ok (n', ret)) :
    n'.usedTimeouts = n.usedTimeouts ↔ ¬ SyncLeaks build attempts n := by
  unfold SyncLeaks
  -- with `NATIVE` an attempt sets no timer, so only the timers of a failed join are left behind
  cases hnative : build.native with
  | true =>
    rw [if_pos rfl]
    rcases executeSynchronization_cases hfirst h with ⟨hlisten, -⟩ | ⟨n₁, b, hlisten, hjoin⟩
    · obtain ⟨rfl, hheard⟩ := listenCtrlpkt_native hnative hlisten
      refine iff_of_true rfl ?_
      rintro ⟨-, b, hb, -⟩
      exact nomatch hheard.trans hb
    · obtain ⟨rfl, hheard⟩ := listenCtrlpkt_native hnative hlisten
      have hiff := (joinFrom_used hjoin).2 hnative
      have hbegin : (beginListening n).usedTimeouts = n.usedTimeouts := rfl
      rw [hbegin] at hiff
      rw [hiff, ← hheard]
      simp [beginListening, and_comm]
  | false =>
    rw [if_neg Bool.false_ne_true]
    have hbegin : (beginListening n).usedTimeouts = n.usedTimeouts := rfl
    have hkeeps : ∀ radio, KeepsWindow build radio (beginListening n) ↔ KeepsWindow build radio n :=
      fun radio => Iff.rfl
    rcases executeSynchronization_cases hfirst h with ⟨hlisten, -⟩ | ⟨n₁, b, hlisten, hjoin⟩
    · have hiff := (listenCtrlpkt_used hnative hlisten).1
      rw [hbegin] at hiff
      rw [hiff]
      simp [hkeeps]
    · obtain ⟨hiff, hnone⟩ := listenCtrlpkt_used hnative hlisten
      rw [hbegin] at hiff hnone
      -- an attempt that heard has left its timer, which joining does not give back
      have hle := usedTimeouts_le_listenCtrlpkt hlisten
      have hmore : n₁.usedTimeouts ≠ n.usedTimeouts := fun hsame => nomatch hnone hsame
      have hjoin := (joinFrom_used hjoin).1
      have hbegin' : n.usedTimeouts ≤ n₁.usedTimeouts := hle
      refine iff_of_false (by omega) fun hnot => hmore (hiff.mpr ?_)
      intro radio hradio hkeeps'
      exact hnot ⟨radio, hradio, hkeeps'⟩

/-! ## `MEDIUM_ACCESS` -/

/-- **`PASSIVE`** returns only if its slot timer was set, and sets it again. -/
theorem executePassive_used {polls : List PassivePoll} (hduration : n.mac.frame.slotDuration ≠ 0)
    (h : executePassive build polls n = .ok n') :
    Live n.timeouts n.mac.frame.slotTimer ∧ n'.usedTimeouts = n.usedTimeouts := by
  obtain ⟨m, hloop, hm, rfl⟩ := executePassive_cases h
  have htimer : m.mac.frame.slotTimer = n.mac.frame.slotTimer := congrArg Schedule.slotTimer hm
  have hpoll (p : PassivePoll) (s s' : Node) (go : Bool) (hpoll : passivePoll build p s = .ok (s', go)) :
      s'.mac.frame.slotTimer = s.mac.frame.slotTimer ∧ (pollSlotTimer p.tick s).2 = go ∧
        s'.timeouts = (pollSlotTimer p.tick s).1.timeouts := by
    have hschedule := congrArg Schedule.slotTimer (passivePoll_schedule hpoll)
    obtain ⟨hsleep, _, _, _, _, _, rfl, -, -⟩ := passivePoll_frame hpoll
    exact ⟨hschedule, hsleep.symm, rfl⟩
  have hloop' : Live n.timeouts n.mac.frame.slotTimer ∧ m.usedTimeouts + 1 = n.usedTimeouts := by
    refine pollLoop_inv
      (fun s => (Live s.timeouts n.mac.frame.slotTimer → Live n.timeouts n.mac.frame.slotTimer) ∧
        s.mac.frame.slotTimer = n.mac.frame.slotTimer ∧ s.usedTimeouts = n.usedTimeouts)
      (fun s => Live n.timeouts n.mac.frame.slotTimer ∧ s.usedTimeouts + 1 = n.usedTimeouts)
      ?_ ?_ polls ⟨fun hlive => hlive, rfl, rfl⟩ hloop
    · rintro p s s' ⟨hlive, hslot, hused⟩ hbody
      obtain ⟨hslot', hsleep, htable⟩ := hpoll p s s' true hbody
      unfold pollSlotTimer at hsleep htable
      dsimp only at hsleep htable
      split at hsleep
      · cases hsleep
      · next hpending =>
        rw [if_neg hpending] at htable
        refine ⟨fun hs => hlive ?_, hslot'.trans hslot, ?_⟩
        · rw [htable] at hs
          exact live_tick.mp hs
        · unfold Node.usedTimeouts
          rw [htable]
          exact (usedTimeouts_tick s p.tick).trans hused
    · rintro p s s' ⟨hlive, hslot, hused⟩ hbody
      obtain ⟨-, hsleep, htable⟩ := hpoll p s s' false hbody
      unfold pollSlotTimer at hsleep htable
      dsimp only at hsleep htable
      split at hsleep
      · next hpassed =>
        -- the timer is released
        rw [if_pos hpassed] at htable
        have hslive : Live (s.tick p.tick).timeouts s.mac.frame.slotTimer := live_of_passed hpassed
        have hrelease := usedTimeouts_unsetTimeout hslive
        rw [usedTimeouts_tick, hused] at hrelease
        refine ⟨hlive (hslot ▸ live_tick.mp hslive), ?_⟩
        unfold Node.usedTimeouts
        rw [htable]
        exact hrelease
      · cases hsleep
  obtain ⟨hlive, hreleased⟩ := hloop'
  refine ⟨hlive, ?_⟩
  have hslotDuration : (slotEnded m).mac.frame.slotDuration = n.mac.frame.slotDuration := by
    have hended := congrArg Schedule.slotDuration (slotEnded_schedule m)
    rwa [Schedule.slotDuration_advance, hm] at hended
  have hcan : CanSet (slotEnded m) (slotEnded m).mac.frame.slotDuration := by
    have hall := usedEntries_add_freeEntries n.timeouts
    have hrest := usedEntries_add_freeEntries m.timeouts
    have hreleased : usedEntries m.timeouts + 1 = usedEntries n.timeouts := hreleased
    refine ⟨by rw [hslotDuration]; exact hduration, ?_⟩
    show 0 < freeEntries m.timeouts
    omega
  have hset : (setSlotTimer build (slotEnded m)).usedTimeouts = (slotEnded m).usedTimeouts + 1 :=
    (setTimeout_of_canSet build hcan).2
  exact hset.trans hreleased

/-- **`ACTIVE`** returns only if its CF timer could be set, and releases it. -/
theorem executeActive_used {polls : List ActivePoll} {ret : PmExecution}
    (h : executeActive build polls n = .ok (n', ret)) : n'.usedTimeouts = n.usedTimeouts := by
  obtain ⟨m, l, hloop, hout⟩ := executeActive_cases h
  have hn' : n'.usedTimeouts = m.usedTimeouts := by
    rw [show n' = (activeOutcome m l).1 from (congrArg Prod.fst hout).symm]
    unfold Node.usedTimeouts
    rw [activeOutcome_timeouts]
  -- without a CF timer the loop never ends, so the timer was set
  have hbegin := setTimeout_used build { n with mac.frame.currentCfSlot := 0 }
    n.mac.frame.cfDuration
  rcases hbegin with ⟨hid, -, -⟩ | ⟨-, hcan, hlive, hused⟩
  · have herror : (setCfTimer build { n with mac.frame.currentCfSlot := 0 }).mac.frame.cfTimer =
        Config.timeoutSetError := hid
    exact absurd hloop (activeLoop_of_error herror (m, l))
  · rw [hn']
    -- while the loop runs, exactly the CF timer is held on top of what was
    refine pollLoop_inv
      (fun s : Node × ActiveLocals => Live s.1.timeouts s.1.mac.frame.cfTimer ∧
        s.1.mac.frame.cfDuration ≠ 0 ∧ s.1.usedTimeouts = n.usedTimeouts + 1)
      (fun s => s.1.usedTimeouts = n.usedTimeouts) ?_ ?_ polls ⟨hlive, hcan.1, hused⟩ hloop
    · rintro p ⟨s, ls⟩ s' ⟨hlive, hduration, hused⟩ hpoll
      have hlive' : Live (s.tick p.tick).timeouts (s.tick p.tick).mac.frame.cfTimer :=
        live_tick.mpr hlive
      have hused' := usedTimeouts_tick s p.tick
      obtain ⟨channel, -, ⟨-, rfl, -⟩ | ⟨-, -, rfl, -⟩ | ⟨-, -, -, hgo⟩⟩ := activePoll_cases hpoll
      · obtain ⟨_, _, _, _, _, _, hturn⟩ :=
          cfTurn_frame n.mac.transmitChannel channel p.cf (s.tick p.tick) ls
        rw [hturn]
        exact ⟨hlive', hduration, hused'.trans hused⟩
      · obtain ⟨_, _, _, _, _, _, hturn⟩ := cfTurn_frame n.mac.transmitChannel channel p.cf
          (setCfTimer build (nextCfSlot (s.tick p.tick))) ls
        have hcan : CanSet (nextCfSlot (s.tick p.tick)) s.mac.frame.cfDuration :=
          canSet_unsetTimeout hduration hlive'
        have hreset := setTimeout_of_canSet build hcan
        have hrelease := usedTimeouts_unsetTimeout hlive'
        have hnext : (nextCfSlot (s.tick p.tick)).usedTimeouts + 1 = s.usedTimeouts :=
          hrelease.trans hused'
        rw [hturn]
        refine ⟨hreset.1, hduration, ?_⟩
        show ((nextCfSlot (s.tick p.tick)).setTimeout build s.mac.frame.cfDuration).1.usedTimeouts = _
        rw [hreset.2, hnext]
        exact hused
      · cases hgo
    · rintro p ⟨s, ls⟩ s' ⟨hlive, -, hused⟩ hpoll
      obtain ⟨channel, -, ⟨-, -, hgo⟩ | ⟨-, -, -, hgo⟩ | ⟨-, -, rfl, -⟩⟩ := activePoll_cases hpoll
      · cases hgo
      · cases hgo
      · have hlive' : Live (s.tick p.tick).timeouts (s.tick p.tick).mac.frame.cfTimer :=
          live_tick.mpr hlive
        have hrelease := usedTimeouts_unsetTimeout hlive'
        rw [usedTimeouts_tick] at hrelease
        show ((s.tick p.tick).unsetTimeout (s.tick p.tick).mac.frame.cfTimer).usedTimeouts = _
        have hused : s.usedTimeouts = n.usedTimeouts + 1 := hused
        omega

/-- A control packet that is heard or not releases nothing. -/
theorem usedTimeouts_le_mclmacReceiveControlPacket (build : Build) (radio : CtrlRadio) (n : Node) :
    n.usedTimeouts ≤ (mclmacReceiveControlPacket build radio n).1.usedTimeouts := by
  unfold mclmacReceiveControlPacket
  by_cases hradio : (!build.native && build.os == .riot) = true
  · rw [if_pos hradio]
    have hos : build.os = .riot := by
      rw [Bool.and_eq_true] at hradio
      exact eq_of_beq hradio.2
    have hused := receiveWithin_used hos radio n
    generalize receiveWithin build radio n = heard at hused ⊢
    obtain ⟨m, bytes⟩ := heard
    have hle : n.usedTimeouts ≤ m.usedTimeouts := by
      rcases hused with ⟨-, hm⟩ | ⟨-, hm, -⟩ <;> dsimp only at hm <;> omega
    cases bytes <;> exact hle
  · rw [if_neg hradio]
    cases radio <;> exact le_refl _

/-- **`RECEIVE`** releases nothing. -/
theorem executeReceive_used {attempt₁ attempt₂ : CtrlRadio} {polls : List ReceivePoll}
    {ret : PmExecution} (h : executeReceive build attempt₁ attempt₂ polls n = .ok (n', ret)) :
    n.usedTimeouts ≤ n'.usedTimeouts := by
  have hfirst := usedTimeouts_le_mclmacReceiveControlPacket build attempt₁ n
  rcases executeReceive_cases h with ⟨-, rfl⟩ | ⟨-, rfl⟩ | ⟨-, m, rfl, rfl | hloop⟩
  · exact hfirst.trans (usedTimeouts_le_mclmacReceiveControlPacket build attempt₂ _)
  · exact hfirst
  · exact hfirst
  · have hm : m.usedTimeouts = _ := pollLoop_frame (f := Node.usedTimeouts) ?_ polls hloop
    · exact hfirst.trans hm.ge
    · intro p s s' go hpoll
      obtain ⟨_, rfl⟩ := receivePoll_frame hpoll
      exact usedTimeouts_tick s p.tick

/-! ### A session holds its slot timer -/

/-- In a session the slot timer is set, and besides it at least `used` entries of the table are used;
or the node waits in `PASSIVE` for a timer that is not set, and will do so forever. -/
structure HoldsSlotTimer (used : ℕ) (n : Node) : Prop where
  session : InSession n.powerMode.currentState
  duration : n.mac.frame.slotDuration ≠ 0
  held : (Live n.timeouts n.mac.frame.slotTimer ∧ used < n.usedTimeouts) ∨
    (n.powerMode.currentState = .passive ∧ ¬ Live n.timeouts n.mac.frame.slotTimer)

/-- Outside `PASSIVE` the slot timer is set. -/
theorem HoldsSlotTimer.live {used : ℕ} (h : HoldsSlotTimer used n)
    (hmode : n.powerMode.currentState ≠ .passive) :
    Live n.timeouts n.mac.frame.slotTimer ∧ used < n.usedTimeouts := by
  rcases h.held with hlive | ⟨hpassive, -⟩
  · exact hlive
  · exact absurd hpassive hmode

theorem enterMediumAccess_holdsSlotTimer (h : enterMediumAccess build n = .ok n') :
    HoldsSlotTimer n.usedTimeouts n' := by
  rw [enterMediumAccess_cases h]
  have hduration : Config.slotDuration.toNat ≠ 0 := by decide
  refine ⟨.inl rfl, hduration, ?_⟩
  rcases setTimeout_used build (startSession { n with
    toMCLMAC := mclmacInitPowermodeStateMachine n.toMCLMAC }) Config.slotDuration.toNat with
    ⟨hid, hsame, -⟩ | ⟨-, -, hlive, hused⟩
  · -- the table is full
    refine .inr ⟨rfl, ?_⟩
    rintro ⟨hlt, -⟩
    have hlt : (_ : ℕ) < Config.timeouts := hlt
    exact absurd (lt_of_eq_of_lt hid.symm hlt) (by decide)
  · exact .inl ⟨hlive, by
      show n.usedTimeouts < (_ : Node).usedTimeouts
      exact lt_of_lt_of_eq (Nat.lt_succ_self _) hused.symm⟩

/-- The loop of `TRANSMIT` either keeps the slot timer or ends by releasing it. -/
theorem transmitLoop_used {ticks : List Tick} (hlive : Live n.timeouts n.mac.frame.slotTimer)
    (h : pollLoop .polling (transmitPoll build) ticks n = .ok m) :
    (Live m.timeouts m.mac.frame.slotTimer ∧ m.usedTimeouts = n.usedTimeouts) ∨
      ¬ Live m.timeouts m.mac.frame.slotTimer := by
  -- one turn either releases the slot timer and ends, or leaves the table alone
  have hpoll (tick : Tick) (s s' : Node) (go : Bool)
      (hpoll : transmitPoll build tick s = .ok (s', go)) :
      (go = false ∧ ¬ Live s'.timeouts s'.mac.frame.slotTimer) ∨
        (s'.mac.frame.slotTimer = s.mac.frame.slotTimer ∧
          s'.timeouts = (s.tick tick).timeouts) := by
    unfold transmitPoll pollSlotTimer at hpoll
    dsimp only at hpoll
    by_cases hpassed : timeoutPassed (s.tick tick).timeouts (s.tick tick).mac.frame.slotTimer = 1
    · rw [if_pos hpassed] at hpoll
      cases hpoll
      exact .inl ⟨rfl, not_live_timeoutUnset _ _⟩
    · rw [if_neg hpassed] at hpoll
      obtain ⟨s'', hsend, hpoll⟩ := bind_eq_ok.mp hpoll
      cases hpoll
      obtain ⟨_, _, _, rfl⟩ := mclmacSendDataPacket_frame hsend
      exact .inr ⟨rfl, rfl⟩
  refine pollLoop_inv
    (fun s => Live s.timeouts s.mac.frame.slotTimer ∧ s.usedTimeouts = n.usedTimeouts)
    (fun s => (Live s.timeouts s.mac.frame.slotTimer ∧ s.usedTimeouts = n.usedTimeouts) ∨
      ¬ Live s.timeouts s.mac.frame.slotTimer) ?_ ?_ ticks ⟨hlive, rfl⟩ h
  · rintro tick s s' ⟨hs, hused⟩ hbody
    rcases hpoll tick s s' true hbody with ⟨hgo, -⟩ | ⟨htimer, htable⟩
    · cases hgo
    · unfold Node.usedTimeouts
      rw [htimer, htable]
      exact ⟨live_tick.mpr hs, (usedTimeouts_tick s tick).trans hused⟩
  · rintro tick s s' ⟨hs, hused⟩ hbody
    rcases hpoll tick s s' false hbody with ⟨-, hdead⟩ | ⟨htimer, htable⟩
    · exact .inr hdead
    · unfold Node.usedTimeouts
      rw [htimer, htable]
      exact .inl ⟨live_tick.mpr hs, (usedTimeouts_tick s tick).trans hused⟩

/-- **A turn of the session** goes on holding the slot timer. -/
theorem Session.holdsSlotTimer {used : ℕ} {inp : PmInput} (hn : HoldsSlotTimer used n)
    (h : Session build inp n n') : HoldsSlotTimer used n' := by
  have hsession := h.inSession
  cases h with
  | passive hmode h =>
    obtain ⟨hlive, hsame⟩ := executePassive_used hn.duration h
    have hduration := congrArg Schedule.slotDuration (executePassive_schedule h)
    rw [Schedule.slotDuration_advance] at hduration
    have hused : used < n.usedTimeouts := by
      rcases hn.held with ⟨-, hused⟩ | ⟨-, hdead⟩
      · exact hused
      · exact absurd hlive hdead
    have hlive' := executePassive_live hn.duration h
    exact ⟨hsession, ne_of_eq_of_ne hduration hn.duration,
      .inl ⟨hlive', lt_of_lt_of_eq hused hsame.symm⟩⟩
  | active hmode h hnext =>
    obtain ⟨hlive, hused⟩ := hn.live (by rw [hmode]; decide)
    have hduration := congrArg Schedule.slotDuration (executeActive_schedule h)
    have hlive' := executeActive_live hlive h
    have hsame := executeActive_used h
    exact ⟨hsession, ne_of_eq_of_ne hduration hn.duration,
      .inl ⟨hlive', lt_of_lt_of_eq hused hsame.symm⟩⟩
  | collision hmode h =>
    obtain ⟨hlive, hused⟩ := hn.live (by rw [hmode]; decide)
    have hduration := congrArg Schedule.slotDuration (executeActive_schedule h)
    have hlive' := executeActive_live hlive h
    have hsame := executeActive_used h
    exact ⟨hsession, ne_of_eq_of_ne hduration hn.duration,
      .inl ⟨hlive', lt_of_lt_of_eq hused hsame.symm⟩⟩
  | transmit hmode h =>
    obtain ⟨hlive, hused⟩ := hn.live (by rw [hmode]; decide)
    have hduration := congrArg Schedule.slotDuration (executeTransmit_schedule h)
    refine ⟨hsession, ne_of_eq_of_ne hduration hn.duration, ?_⟩
    -- `TRANSMIT` is the state that releases a slot timer that has passed
    rcases executeTransmit_cases h with ⟨-, -, hret, -⟩ | ⟨-, -, -, rfl⟩ | ⟨-, -, m, hloop, rfl⟩
    · cases hret
    · exact .inl ⟨hlive, hused⟩
    · rcases transmitLoop_used (n := afterControlPacket n) hlive hloop with ⟨hm, hsame⟩ | hdead
      · exact .inl ⟨hm, lt_of_lt_of_eq hused hsame.symm⟩
      · exact .inr ⟨rfl, hdead⟩
  | receive hmode h =>
    obtain ⟨hlive, hused⟩ := hn.live (by rw [hmode]; decide)
    have hduration := congrArg Schedule.slotDuration (executeReceive_schedule h)
    have hlive' := executeReceive_live hlive h
    have hmore := executeReceive_used h
    exact ⟨hsession, ne_of_eq_of_ne hduration hn.duration,
      .inl ⟨hlive', lt_of_lt_of_le hused hmore⟩⟩

/-- **`MEDIUM_ACCESS`** is left with its slot timer set. -/
theorem executeMediumAccess_used {inputs : List PmInput} {last : PmInput} {ret : MacExecution}
    (h : executeMediumAccess build inputs last n = .ok (n', ret)) :
    n.usedTimeouts < n'.usedTimeouts := by
  obtain ⟨-, n₁, inp, err, m, henter, hend, rfl⟩ := executeMediumAccess_cases h
  have hlast : HoldsSlotTimer n.usedTimeouts (lastVisited (sessionStep build) inputs n₁) :=
    lastVisited_inv (HoldsSlotTimer n.usedTimeouts)
      (fun _ _ _ hs hstep => (sessionStep_cases hs.session hstep).holdsSlotTimer hs) inputs
      (enterMediumAccess_holdsSlotTimer henter)
  generalize lastVisited (sessionStep build) inputs n₁ = x at hend hlast
  show n.usedTimeouts < m.usedTimeouts
  clear h
  cases hend with
  | transmit hmode h =>
    obtain ⟨-, hused⟩ := hlast.live (by rw [hmode]; decide)
    rcases executeTransmit_cases h with ⟨-, -, -, rfl⟩ | ⟨-, -, hret, -⟩ | ⟨-, hret, -⟩
    · exact hused
    · cases hret
    · cases hret
  | collision hmode h =>
    obtain ⟨-, hused⟩ := hlast.live (by rw [hmode]; decide)
    have hmore := executeReceive_used h
    exact lt_of_lt_of_le hused hmore
  | synchronization hmode h =>
    obtain ⟨-, hused⟩ := hlast.live (by rw [hmode]; decide)
    have hmore := executeReceive_used h
    exact lt_of_lt_of_le hused hmore

/-! ## The turns of a run -/

/-- The execution keeps entries of the table: always in `MEDIUM_ACCESS`, and in `SYNCHRONIZATION` on
some of its paths. -/
def Leaks (build : Build) (inp : MacInput) (n : Node) : Prop :=
  n.macState.currentState = .mediumAccess ∨
    (n.macState.currentState = .synchronization ∧ n.isFirstNode = false ∧
      SyncLeaks build inp.attempts n)

/-- **An execution of the MAC machine** leaves as many entries used as it found exactly if it is not
one of these. -/
theorem mclmacExecuteMacStateMachine_used {inp : MacInput} {ret : MacExecution}
    (h : mclmacExecuteMacStateMachine build inp n = .ok (n', ret)) :
    n'.usedTimeouts = n.usedTimeouts ↔ ¬ Leaks build inp n := by
  have hbalanced (hm : n.macState.currentState ≠ .mediumAccess)
      (hs : n.macState.currentState ≠ .synchronization) (hused : n'.usedTimeouts = n.usedTimeouts) :
      n'.usedTimeouts = n.usedTimeouts ↔ ¬ Leaks build inp n := by
    refine iff_of_true hused ?_
    rintro (hmedium | ⟨hsync, -⟩)
    · exact hm hmedium
    · exact hs hsync
  unfold mclmacExecuteMacStateMachine at h
  cases hstate : n.macState.currentState with
  | start =>
    rw [hstate] at h
    obtain ⟨-, queues, rfl⟩ := executeStart_cases h
    exact hbalanced (by rw [hstate]; decide) (by rw [hstate]; decide) rfl
  | initialization =>
    rw [hstate] at h
    exact hbalanced (by rw [hstate]; decide) (by rw [hstate]; decide) (executeInitialization_used h)
  | synchronization =>
    rw [hstate] at h
    unfold Leaks
    rw [hstate]
    cases hfirst : n.isFirstNode with
    | true =>
      unfold executeSynchronization at h
      dsimp only at h
      rw [if_pos hfirst] at h
      cases h
      exact iff_of_true rfl (by simp)
    | false =>
      rw [executeSynchronization_used hfirst h]
      simp
  | timeslotAndChannelSelection =>
    rw [hstate] at h
    exact hbalanced (by rw [hstate]; decide) (by rw [hstate]; decide)
      (executeTimeslotAndChannelSelection_used h)
  | mediumAccess =>
    rw [hstate] at h
    exact iff_of_false (executeMediumAccess_used h).ne' fun hnot => hnot (.inl hstate)
  | finish =>
    -- every session leaves the timer of its last slot behind
    rw [hstate] at h
    cases h
    exact hbalanced (by rw [hstate]; decide) (by rw [hstate]; decide) rfl
  | none =>
    rw [hstate] at h
    cases h
    exact hbalanced (by rw [hstate]; decide) (by rw [hstate]; decide) rfl

/-- An update of the MAC machine leaves the table alone. -/
theorem mclmacUpdateMacStateMachine_used (n : Node) :
    (mclmacUpdateMacStateMachine n).1.usedTimeouts = n.usedTimeouts := by
  obtain ⟨_, h⟩ := mclmacUpdateMacStateMachine_frame n
  rw [h]
  rfl

theorem driverTurn_used {inp : DriverInput} (h : driverTurn build inp n = some n') :
    n'.usedTimeouts = n.usedTimeouts ↔ ¬ Leaks build inp.mac (n.resume inp) := by
  obtain ⟨⟨m, ret⟩, hexec, h⟩ := bind_eq_ok.mp (toOption_eq_some.mp h)
  cases h
  have hresume : (n.resume inp).usedTimeouts = n.usedTimeouts := usedTimeouts_tick n inp.tick
  rw [mclmacUpdateMacStateMachine_used, ← hresume]
  exact mclmacExecuteMacStateMachine_used hexec

/-- **The timeout table over a run** from `MCLMAC_init` with an empty table: every execution leaves
as many entries used as it found exactly if none of them is one of `MEDIUM_ACCESS`, or one of
`SYNCHRONIZATION` that keeps entries. -/
theorem timeoutTable_kept_iff (build : Build) (clock : ℕ) (queues : IpcQueues)
    (inputs : List DriverInput) :
    (∀ t ∈ taken (driverTurn build) inputs (mclmacInit (fun _ => {}) clock queues),
        ∀ n', driverTurn build t.1 t.2 = some n' → n'.usedTimeouts = t.2.usedTimeouts) ↔
      ∀ t ∈ taken (driverTurn build) inputs (mclmacInit (fun _ => {}) clock queues),
        ¬ Leaks build t.1.mac (t.2.resume t.1) := by
  have htaken : ∀ t ∈ taken (driverTurn build) inputs (mclmacInit (fun _ => {}) clock queues),
      True ∧ ∃ n', driverTurn build t.1 t.2 = some n' :=
    forall_taken (fun _ => True) (fun _ _ _ _ _ => trivial) inputs trivial
  constructor
  · intro hall t ht
    obtain ⟨-, n', hturn⟩ := htaken t ht
    exact (driverTurn_used hturn).mp (hall t ht n' hturn)
  · intro hnone t ht n' hturn
    exact (driverTurn_used hturn).mpr (hnone t ht)

/-- The first session of a node that has joined alone keeps its slot timer. -/
theorem timeoutTable_slotTimerKept :
    ∃ t ∈ taken (driverTurn ⟨.linux, true⟩) (joinAlone ++ [strangerHeard])
        (mclmacInit (fun _ => {}) 0 initQueues),
      ∃ n', driverTurn ⟨.linux, true⟩ t.1 t.2 = some n' ∧
        t.2.macState.currentState = .mediumAccess ∧ t.2.usedTimeouts = 0 ∧ n'.usedTimeouts = 1 := by
  have heval : ((taken (driverTurn ⟨.linux, true⟩) (joinAlone ++ [strangerHeard])
      (mclmacInit (fun _ => {}) 0 initQueues)).getLast?.bind fun t =>
        (driverTurn ⟨.linux, true⟩ t.1 t.2).map fun n' =>
          (t.2.macState.currentState, t.2.usedTimeouts, n'.usedTimeouts)) =
      some (.mediumAccess, 0, 1) := by
    decide +kernel
  obtain ⟨t, ht, heval⟩ := Option.bind_eq_some_iff.mp heval
  obtain ⟨n', hturn, heval⟩ := Option.map_eq_some_iff.mp heval
  simp only [Prod.mk.injEq] at heval
  exact ⟨t, List.mem_of_getLast? ht, n', hturn, heval⟩

end WmnIot
