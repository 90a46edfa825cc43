import WmnIot.Foundations.Runs

/-! # FIFO channels along a run

A channel holds what has been put into it and not yet taken out, oldest first. The steps of a run
may put a message at its end or take one from its front; what a step takes out it may hand on in
another form.

* **`emitted`** — what the steps of a run give, in order.
* **`Passes`** — a step that neither loses, duplicates nor reorders messages.
* **`channel_run`** — in a run of such steps, what waits at first and what is put in are what is
  taken out and what waits in the end.
* **`Conserved`**, **`conserved_iff`** — the same of messages that are handed on as they are: it
  holds throughout a run exactly if it does of every step. -/

namespace Channels

open Runs

variable {ι σ μ ρ : Type*} {step : ι → σ → Option σ}

/-- What the steps give, in order. -/
def emitted (out : ι → σ → Option μ) (ts : List (ι × σ)) : List μ :=
  ts.filterMap fun t => out t.1 t.2

theorem emitted_nil (out : ι → σ → Option μ) : emitted out [] = [] := rfl

theorem emitted_cons (out : ι → σ → Option μ) (t : ι × σ) (ts : List (ι × σ)) :
    emitted out (t :: ts) = (out t.1 t.2).toList ++ emitted out ts := by
  cases h : out t.1 t.2 with
  | none => simp [emitted, h]
  | some m => simp [emitted, h]

/-! ## A family of channels -/

section

variable {κ : Type*} [DecidableEq κ] {f : κ → List μ} {a : κ} {m : μ}

/-- What is in a channel after a message is put into one of them. -/
theorem mem_update_append {b : κ} {x : μ} (h : x ∈ Function.update f a (f a ++ [m]) b) :
    x ∈ f b ∨ b = a ∧ x = m := by
  by_cases hb : b = a
  · subst hb
    rw [Function.update_self] at h
    rcases List.mem_append.mp h with h | h
    · exact .inl h
    · exact .inr ⟨rfl, List.mem_singleton.mp h⟩
  · rw [Function.update_of_ne hb] at h
    exact .inl h

/-- What is in a channel after a message is taken out of one of them. -/
theorem update_tail_sublist {rest : List μ} (h : f a = m :: rest) (b : κ) :
    (Function.update f a rest b).Sublist (f b) := by
  by_cases hb : b = a
  · subst hb
    rw [Function.update_self, h]
    exact List.sublist_cons_self m rest
  · rw [Function.update_of_ne hb]

end

/-! ## One channel along a run -/

section

variable (waiting : σ → List μ) (sent : ι → σ → Option μ) (out : ι → σ → Option ρ)
  (delivers : ρ → μ → Prop)

/-- The step puts what it sends at the end of the channel and takes what it hands out from the
front. -/
def Passes (i : ι) (s s' : σ) : Prop :=
  ∃ m : Option μ, Option.Rel delivers (out i s) m ∧
    waiting s ++ (sent i s).toList = m.toList ++ waiting s'

variable {waiting sent out delivers}

/-- A step that leaves the channel alone. -/
theorem Passes.idle {i : ι} {s s' : σ} (hsent : sent i s = none) (hout : out i s = none)
    (hwaiting : waiting s' = waiting s) : Passes waiting sent out delivers i s s' := by
  refine ⟨none, ?_, ?_⟩
  · rw [hout]
    exact .none
  · rw [hsent, hwaiting]
    exact List.append_nil _

/-- A step that puts a message into the channel. -/
theorem Passes.put {i : ι} {s s' : σ} {m : μ} (hsent : sent i s = some m) (hout : out i s = none)
    (hwaiting : waiting s' = waiting s ++ [m]) : Passes waiting sent out delivers i s s' := by
  refine ⟨none, ?_, ?_⟩
  · rw [hout]
    exact .none
  · rw [hsent, hwaiting]
    rfl

/-- A step that takes the oldest message out and hands it on. -/
theorem Passes.take {i : ι} {s s' : σ} {m : μ} {r : ρ} (hsent : sent i s = none)
    (hout : out i s = some r) (hdelivers : delivers r m) (hwaiting : waiting s = m :: waiting s') :
    Passes waiting sent out delivers i s s' := by
  refine ⟨some m, ?_, ?_⟩
  · rw [hout]
    exact .some hdelivers
  · rw [hsent, hwaiting]
    exact List.append_nil _

/-- What a step hands out is what it takes from the channel. -/
theorem forall₂_toList {o : Option ρ} {m : Option μ} (h : Option.Rel delivers o m) :
    List.Forall₂ delivers o.toList m.toList := by
  cases h with
  | none => exact .nil
  | some hr => exact .cons hr .nil

/-- Everything that is handed out has been taken from the channel. -/
theorem delivered_of_mem {rs : List ρ} {ms : List μ} {r : ρ} (h : List.Forall₂ delivers rs ms)
    (hr : r ∈ rs) : ∃ m, delivers r m := by
  induction h with
  | nil => cases hr
  | @cons r' m rs ms hdelivers _ ih =>
    rcases List.mem_cons.mp hr with rfl | hr
    · exact ⟨m, hdelivers⟩
    · exact ih hr

/-- **What a run leaves in a channel**: what waits at first, followed by what the steps put in, is
what they take out, followed by what waits in the end. -/
theorem channel_run (is : List ι) {s : σ}
    (h : ∀ t ∈ taken step is s, ∀ s', step t.1 t.2 = some s' →
      Passes waiting sent out delivers t.1 t.2 s') :
    ∃ ms, List.Forall₂ delivers (emitted out (taken step is s)) ms ∧
      waiting s ++ emitted sent (taken step is s) = ms ++ waiting (lastVisited step is s) := by
  induction is generalizing s with
  | nil => exact ⟨[], .nil, List.append_nil _⟩
  | cons i is ih =>
    cases hstep : step i s with
    | none =>
      have hnil : taken step (i :: is) s = [] := by simp [taken, hstep]
      have hlast : lastVisited step (i :: is) s = s := by simp [lastVisited, hstep]
      rw [hnil, hlast]
      exact ⟨[], .nil, List.append_nil _⟩
    | some s' =>
      have hcons : taken step (i :: is) s = (i, s) :: taken step is s' := by simp [taken, hstep]
      have hlast : lastVisited step (i :: is) s = lastVisited step is s' := by
        simp [lastVisited, hstep]
      rw [hcons] at h
      rw [hcons, hlast, emitted_cons, emitted_cons]
      obtain ⟨m, hm, hfirst⟩ := h (i, s) List.mem_cons_self s' hstep
      obtain ⟨ms, hms, hrest⟩ := ih fun t ht => h t (List.mem_cons_of_mem _ ht)
      -- the first step's message comes before those of the others
      refine ⟨m.toList ++ ms, List.rel_append (forall₂_toList hm) hms, ?_⟩
      calc waiting s ++ ((sent i s).toList ++ emitted sent (taken step is s'))
          = (waiting s ++ (sent i s).toList) ++ emitted sent (taken step is s') := by
            rw [List.append_assoc]
        _ = m.toList ++ (waiting s' ++ emitted sent (taken step is s')) := by
            rw [hfirst, List.append_assoc]
        _ = m.toList ++ ms ++ waiting (lastVisited step is s') := by
            rw [hrest, List.append_assoc]

/-- **What is received** of an empty channel is a prefix of what is sent. -/
theorem received_first (is : List ι) {s : σ} (hs : waiting s = [])
    (h : ∀ t ∈ taken step is s, ∀ s', step t.1 t.2 = some s' →
      Passes waiting sent out delivers t.1 t.2 s') :
    ∃ ms, List.Forall₂ delivers (emitted out (taken step is s)) ms ∧
      ms <+: emitted sent (taken step is s) := by
  obtain ⟨ms, hms, hrun⟩ := channel_run is h
  rw [hs, List.nil_append] at hrun
  exact ⟨ms, hms, _, hrun.symm⟩

end

/-! ## Channels that keep what they hold -/

section

variable (step) (waiting : σ → List μ) (sent out : ι → σ → Option μ)

/-- What the run finds in the channel and puts into it is what it takes out and leaves in it. -/
def Conserved (is : List ι) (s : σ) : Prop :=
  waiting s ++ emitted sent (taken step is s) =
    emitted out (taken step is s) ++ waiting (lastVisited step is s)

variable {step waiting sent out}

theorem conserved_of_no_step {i : ι} {s : σ} (hstep : step i s = none) (is : List ι) :
    Conserved step waiting sent out (i :: is) s := by
  simp [Conserved, taken, lastVisited, hstep, emitted]

/-- A run conserves exactly if the rest does, once its first step has. -/
theorem conserved_cons_iff {i : ι} {s s' : σ} (hstep : step i s = some s')
    (hfirst : waiting s ++ (sent i s).toList = (out i s).toList ++ waiting s') (is : List ι) :
    Conserved step waiting sent out (i :: is) s ↔ Conserved step waiting sent out is s' := by
  have hcons : taken step (i :: is) s = (i, s) :: taken step is s' := by simp [taken, hstep]
  have hlast : lastVisited step (i :: is) s = lastVisited step is s' := by simp [lastVisited, hstep]
  unfold Conserved
  rw [hcons, hlast, emitted_cons, emitted_cons, ← List.append_assoc, hfirst, List.append_assoc,
    List.append_assoc, List.append_cancel_left_eq]

/-- **Conservation throughout a run** is conservation by each of its steps. -/
theorem conserved_iff (is : List ι) {s : σ} :
    (∀ pre, pre <+: is → Conserved step waiting sent out pre s) ↔
      ∀ t ∈ attempted step is s, ∀ s', step t.1 t.2 = some s' →
        waiting t.2 ++ (sent t.1 t.2).toList = (out t.1 t.2).toList ++ waiting s' := by
  induction is generalizing s with
  | nil =>
    refine iff_of_true (fun pre hpre => ?_) (by simp [attempted])
    rw [List.prefix_nil.mp hpre]
    exact List.append_nil _
  | cons i is ih =>
    simp only [attempted, List.forall_mem_cons]
    cases hstep : step i s with
    | none =>
      refine iff_of_true (fun pre hpre => ?_) (by simp)
      rcases List.prefix_cons_iff.mp hpre with rfl | ⟨pre, rfl, -⟩
      · exact List.append_nil _
      · exact conserved_of_no_step hstep pre
    | some s' =>
      rw [Option.elim_some, ← ih]
      constructor
      · intro hall
        -- the prefix of one step gives the law of that step
        have hone := hall [i] (List.prefix_append [i] is)
        have hfirst : waiting s ++ (sent i s).toList = (out i s).toList ++ waiting s' := by
          simpa [Conserved, taken, lastVisited, hstep, emitted_cons, emitted_nil] using hone
        refine ⟨fun s'' hs'' => Option.some.inj hs'' ▸ hfirst, fun pre hpre => ?_⟩
        exact (conserved_cons_iff hstep hfirst pre).mp
          (hall (i :: pre) (List.cons_prefix_cons.mpr ⟨rfl, hpre⟩))
      · rintro ⟨hfirst, hrest⟩ pre hpre
        rcases List.prefix_cons_iff.mp hpre with rfl | ⟨pre, rfl, hrestpre⟩
        · exact List.append_nil _
        · exact (conserved_cons_iff hstep (hfirst s' rfl) pre).mpr (hrest pre hrestpre)

end

end Channels
