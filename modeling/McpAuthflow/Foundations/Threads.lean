import McpAuthflow.Foundations.Dict
import McpAuthflow.Foundations.Machine

/-! # Threads with one lock

A **program** says what a thread does next, from the shared state and its own stage; its moves may
take the lock or give it back. Threads take their moves in any order, new ones may be started and
the environment may change the shared state at any time, and a thread that wants the lock while
another one holds it waits. If the program only writes the shared state with the lock held
(`Program.bracketed`), then:

* **`Program.Exclusive`** — at most one thread holds the lock, and it is the one the lock names;
* **`Program.sound_final`** — what a thread knows about the shared state stays true: it has to be
  kept by its own moves, and, while the thread does not hold the lock, by those of a holder;
* **`Program.exists_schedule`** — no deadlock: from every state, all threads can be run to their
  end. -/

namespace Threads

/-- What a move does to the lock. -/
inductive LockEffect where
  | keep
  | acquire
  | release
  deriving DecidableEq

/-- One move of a thread: the shared state and the stage it leads to. -/
structure Move (σ ρ ο : Type*) where
  effect : LockEffect
  shared : σ
  stage : ρ
  report : Option ο

/-- **A program**: `ι` is what a thread is started with, `ε` the environment, `σ` the shared state,
`ρ` the stages of a thread and `ο` what it reports. -/
structure Program (ι ε σ ρ ο : Type*) where
  start : ι → ρ
  /-- The next move, if the thread has not ended. -/
  move : σ → ρ → Option (Move σ ρ ο)
  env : ε → σ → σ
  /-- Whether the lock is held at a stage. -/
  holds : ρ → Bool
  start_free : ∀ i, holds (start i) = false
  end_free : ∀ s r, move s r = none → holds r = false
  /-- Without the lock a thread does not write. -/
  reads : ∀ s r m, move s r = some m → holds r = false → m.shared = s
  bracketed : ∀ s r m, move s r = some m →
    match m.effect with
    | .keep => holds m.stage = holds r
    | .acquire => holds r = false ∧ holds m.stage = true
    | .release => holds r = true ∧ holds m.stage = false

/-- The shared state with the threads started so far. -/
structure State (σ ρ : Type*) where
  shared : σ
  lock : Option ℕ
  stages : Dict ℕ ρ

/-- The next thing that happens. -/
inductive Event (ι ε : Type*) where
  | env (e : ε)
  | call (id : ℕ) (i : ι)
  | run (id : ℕ)

namespace Program

variable {ι ε σ ρ ο : Type*} (P : Program ι ε σ ρ ο)

/-- Whom the lock belongs to after a move. -/
def lockAfter (id : ℕ) (lock : Option ℕ) : LockEffect → Option ℕ
  | .keep => lock
  | .acquire => some id
  | .release => none

/-- One event; a thread that waits for the lock stays where it is. -/
def step (s : State σ ρ) : Event ι ε → State σ ρ × Option ο
  | .env e => ({ s with shared := P.env e s.shared }, none)
  | .call id i =>
    match s.stages.lookup id with
    | none => ({ s with stages := s.stages.insert id (P.start i) }, none)
    | some _ => (s, none)
  | .run id =>
    match s.stages.lookup id with
    | none => (s, none)
    | some r =>
      match P.move s.shared r with
      | none => (s, none)
      | some m =>
        if m.effect = .acquire ∧ s.lock.isSome then (s, none)
        else (⟨m.shared, lockAfter id s.lock m.effect, s.stages.insert id m.stage⟩, m.report)

/-- The move of a thread is carried out. -/
def Moves (s : State σ ρ) (id : ℕ) (r : ρ) (m : Move σ ρ ο) : Prop :=
  s.stages.lookup id = some r ∧ P.move s.shared r = some m ∧
    (m.effect = .acquire → s.lock = none)

variable {P} {s : State σ ρ} {id : ℕ} {r : ρ} {m : Move σ ρ ο}

/-- The state after a move that is carried out. -/
theorem step_of_moves (h : P.Moves s id r m) :
    P.step s (.run id)
      = (⟨m.shared, lockAfter id s.lock m.effect, s.stages.insert id m.stage⟩, m.report) := by
  obtain ⟨hlookup, hmove, hlock⟩ := h
  simp only [step, hlookup, hmove]
  rw [if_neg]
  rintro ⟨heffect, hheld⟩
  rw [hlock heffect] at hheld
  cases hheld

/-- **What an event can do**; a thread that could move and does not waits for the lock. -/
theorem step_cases (P : Program ι ε σ ρ ο) (s : State σ ρ) (e : Event ι ε) :
    (P.step s e = (s, none) ∧ ∀ id r m, e = .run id → s.stages.lookup id = some r →
      P.move s.shared r = some m → m.effect = .acquire) ∨
    (∃ e', e = .env e' ∧ P.step s e = ({ s with shared := P.env e' s.shared }, none)) ∨
    (∃ id i, e = .call id i ∧ s.stages.lookup id = none ∧
      P.step s e = ({ s with stages := s.stages.insert id (P.start i) }, none)) ∨
    ∃ id r m, e = .run id ∧ P.Moves s id r m ∧
      P.step s e
        = (⟨m.shared, lockAfter id s.lock m.effect, s.stages.insert id m.stage⟩, m.report) := by
  cases e with
  | env e => exact Or.inr (Or.inl ⟨e, rfl, rfl⟩)
  | call id i =>
    cases hlookup : s.stages.lookup id with
    | none => exact Or.inr (Or.inr (Or.inl ⟨id, i, rfl, hlookup, by simp only [step, hlookup]⟩))
    | some r => exact Or.inl ⟨by simp only [step, hlookup], by rintro _ _ _ ⟨⟩⟩
  | run id =>
    cases hlookup : s.stages.lookup id with
    | none =>
      refine Or.inl ⟨by simp only [step, hlookup], ?_⟩
      rintro id r m ⟨⟩ hsome
      rw [hlookup] at hsome
      cases hsome
    | some r =>
      cases hmove : P.move s.shared r with
      | none =>
        refine Or.inl ⟨by simp only [step, hlookup, hmove], ?_⟩
        rintro id r' m ⟨⟩ hsome hmove'
        obtain rfl := Option.some.inj (hlookup.symm.trans hsome)
        rw [hmove] at hmove'
        cases hmove'
      | some m =>
        by_cases hwait : m.effect = .acquire ∧ s.lock.isSome
        · refine Or.inl ⟨by simp only [step, hlookup, hmove, if_pos hwait], ?_⟩
          rintro id r' m' ⟨⟩ hsome hmove'
          obtain rfl := Option.some.inj (hlookup.symm.trans hsome)
          obtain rfl := Option.some.inj (hmove.symm.trans hmove')
          exact hwait.1
        · have hmoves : P.Moves s id r m := by
            refine ⟨hlookup, hmove, fun heffect => ?_⟩
            rw [← Option.not_isSome_iff_eq_none]
            exact fun hheld => hwait ⟨heffect, hheld⟩
          exact Or.inr (Or.inr (Or.inr ⟨id, r, m, rfl, hmoves, step_of_moves hmoves⟩))

/-! ## Mutual exclusion -/

/-- **Mutual exclusion**: the threads that hold the lock are the one the lock names. -/
structure Exclusive (P : Program ι ε σ ρ ο) (s : State σ ρ) : Prop where
  holder : ∀ id r, s.stages.lookup id = some r → (P.holds r = true ↔ s.lock = some id)
  owner : ∀ id, s.lock = some id → ∃ r, s.stages.lookup id = some r

/-- The lock after a move, and whether the thread that moved holds it. -/
theorem Exclusive.lockAfter_eq (h : P.Exclusive s) (hmoves : P.Moves s id r m) :
    (P.holds m.stage = true ↔ lockAfter id s.lock m.effect = some id) ∧
      ∀ id' ≠ id, (lockAfter id s.lock m.effect = some id' ↔ s.lock = some id') := by
  obtain ⟨hlookup, hmove, hlock⟩ := hmoves
  have hholder := h.holder id r hlookup
  have hbracketed := P.bracketed _ _ _ hmove
  cases heffect : m.effect with
  | keep =>
    simp only [heffect] at hbracketed
    rw [hbracketed]
    exact ⟨hholder, fun _ _ => Iff.rfl⟩
  | acquire =>
    simp only [heffect] at hbracketed
    refine ⟨by simp [hbracketed.2, lockAfter], fun id' hne => ?_⟩
    simp [lockAfter, hlock heffect, Ne.symm hne]
  | release =>
    simp only [heffect] at hbracketed
    refine ⟨by simp [hbracketed.2, lockAfter], fun id' hne => ?_⟩
    rw [hholder.mp hbracketed.1]
    simp [lockAfter, Ne.symm hne]

/-- **One event** keeps mutual exclusion. -/
theorem Exclusive.step (h : P.Exclusive s) (e : Event ι ε) : P.Exclusive (P.step s e).1 := by
  rcases step_cases P s e with ⟨hstep, -⟩ | ⟨e, -, hstep⟩ | ⟨id, i, -, hnone, hstep⟩ |
    ⟨id, r, m, -, hmoves, hstep⟩
  · rwa [hstep]
  · rw [hstep]
    exact ⟨h.holder, h.owner⟩
  · rw [hstep]
    have hne : s.lock ≠ some id := by
      intro hlock
      obtain ⟨r, hlookup⟩ := h.owner id hlock
      rw [hnone] at hlookup
      cases hlookup
    refine ⟨AList.forall_lookup_insert h.holder (by simp [P.start_free, hne]), ?_⟩
    intro id' hlock
    obtain ⟨r, hlookup⟩ := h.owner id' hlock
    have hne' : id' ≠ id := fun heq => hne (heq ▸ hlock)
    exact ⟨r, by rw [AList.lookup_insert_ne hne', hlookup]⟩
  · rw [hstep]
    obtain ⟨hself, hothers⟩ := h.lockAfter_eq hmoves
    constructor
    · intro id' r' hlookup
      by_cases hid : id' = id
      · subst hid
        rw [AList.lookup_insert] at hlookup
        obtain rfl := Option.some.inj hlookup
        exact hself
      · rw [AList.lookup_insert_ne hid] at hlookup
        exact (h.holder id' r' hlookup).trans (hothers id' hid).symm
    · intro id' hlock
      by_cases hid : id' = id
      · subst hid
        exact ⟨_, AList.lookup_insert _⟩
      · obtain ⟨r', hlookup⟩ := h.owner id' ((hothers id' hid).mp hlock)
        exact ⟨r', by rw [AList.lookup_insert_ne hid, hlookup]⟩

/-! ## What a thread knows -/

/-- **What a thread knows** at a stage is kept by its own moves, by the environment, and, while it
does not hold the lock, by the moves of a thread that does. -/
structure Stable (P : Program ι ε σ ρ ο) (Sound : σ → ρ → Prop) : Prop where
  start : ∀ s i, Sound s (P.start i)
  own : ∀ s r m, Sound s r → P.move s r = some m → Sound m.shared m.stage
  other : ∀ s r r' m, P.holds r' = true → Sound s r' → P.move s r' = some m →
    P.holds r = false → Sound s r → Sound m.shared r
  env : ∀ s e r, Sound s r → Sound (P.env e s) r

/-- Mutual exclusion, and all threads are right in what they know. -/
structure AllSound (P : Program ι ε σ ρ ο) (Sound : σ → ρ → Prop) (s : State σ ρ) : Prop where
  exclusive : P.Exclusive s
  sound : ∀ id r, s.stages.lookup id = some r → Sound s.shared r

variable {Sound : σ → ρ → Prop}

/-- **One event** keeps what the threads know. -/
theorem AllSound.step (h : P.AllSound Sound s) (hstable : P.Stable Sound) (e : Event ι ε) :
    P.AllSound Sound (P.step s e).1 := by
  refine ⟨h.exclusive.step e, ?_⟩
  rcases step_cases P s e with ⟨hstep, -⟩ | ⟨e, -, hstep⟩ | ⟨id, i, -, hnone, hstep⟩ |
    ⟨id, r, m, -, hmoves, hstep⟩
  · rw [hstep]
    exact h.sound
  · rw [hstep]
    exact fun id r hlookup => hstable.env _ e r (h.sound id r hlookup)
  · rw [hstep]
    exact AList.forall_lookup_insert h.sound (hstable.start _ i)
  · rw [hstep]
    obtain ⟨hlookup, hmove, -⟩ := hmoves
    have hsound := h.sound id r hlookup
    intro id' r' hlookup'
    by_cases hid : id' = id
    · subst hid
      rw [AList.lookup_insert] at hlookup'
      obtain rfl := Option.some.inj hlookup'
      exact hstable.own _ r m hsound hmove
    · rw [AList.lookup_insert_ne hid] at hlookup'
      have hsound' := h.sound id' r' hlookup'
      cases hholds : P.holds r with
      | false =>
        rw [P.reads _ _ _ hmove hholds]
        exact hsound'
      | true =>
        -- the other thread does not hold the lock, since this one does
        have hfree : P.holds r' = false := by
          rw [← Bool.not_eq_true, h.exclusive.holder id' r' hlookup',
            (h.exclusive.holder id r hlookup).mp hholds, Option.some_inj]
          exact Ne.symm hid
        exact hstable.other _ r' r m hholds hsound hmove hfree hsound'

/-- **What the threads know stays true**, in every run. -/
theorem AllSound.final (h : P.AllSound Sound s) (hstable : P.Stable Sound)
    (events : List (Event ι ε)) : P.AllSound Sound (Machine.final P.step s events) :=
  Machine.final_induction P.step (fun _ e _ hs => hs.step hstable e) h

/-- Before the first thread. -/
theorem allSound_init (P : Program ι ε σ ρ ο) (Sound : σ → ρ → Prop) (shared : σ) :
    P.AllSound Sound ⟨shared, none, ∅⟩ :=
  ⟨⟨fun _ _ hlookup => by simp at hlookup, fun _ hlock => by simp at hlock⟩,
    fun _ _ hlookup => by simp at hlookup⟩

/-! ## No deadlock -/

/-- Every move of a thread brings it closer to its end, and an ended thread stays ended. -/
structure Terminates (P : Program ι ε σ ρ ο) (left : σ → ρ → ℕ) : Prop where
  decreases : ∀ s r m, P.move s r = some m → left m.shared m.stage < left s r
  ended : ∀ s s' r, P.move s r = none → P.move s' r = none

/-- **A thread that is let alone ends**, if the lock is free or its own, and leaves the lock free
and the other threads where they are. -/
theorem exists_run_alone {left : σ → ρ → ℕ} (hleft : P.Terminates left) (h : P.Exclusive s)
    (hlock : s.lock = none ∨ s.lock = some id) (hlookup : s.stages.lookup id = some r) :
    ∃ n, let s' := Machine.final P.step s (List.replicate n (.run id))
      s'.lock = none ∧
      (∃ r', s'.stages.lookup id = some r' ∧ P.move s'.shared r' = none) ∧
      ∀ id' ≠ id, s'.stages.lookup id' = s.stages.lookup id' := by
  induction hn : left s.shared r using Nat.strong_induction_on generalizing s r with
  | _ n ih =>
    subst hn
    cases hmove : P.move s.shared r with
    | none =>
      refine ⟨0, ?_, ⟨r, hlookup, hmove⟩, fun _ _ => rfl⟩
      have hfree := P.end_free _ _ hmove
      rcases hlock with hlock | hlock
      · exact hlock
      · rw [(h.holder id r hlookup).mpr hlock] at hfree
        cases hfree
    | some m =>
      have hmoves : P.Moves s id r m := by
        refine ⟨hlookup, hmove, fun heffect => ?_⟩
        have hbracketed := P.bracketed _ _ _ hmove
        simp only [heffect] at hbracketed
        rcases hlock with hlock | hlock
        · exact hlock
        · rw [(h.holder id r hlookup).mpr hlock] at hbracketed
          cases hbracketed.1
      have hstep := step_of_moves hmoves
      have hexclusive := h.step (.run id)
      rw [hstep] at hexclusive
      have hlock' : lockAfter id s.lock m.effect = none ∨
          lockAfter id s.lock m.effect = some id := by
        cases m.effect with
        | keep => exact hlock
        | acquire => exact Or.inr rfl
        | release => exact Or.inl rfl
      obtain ⟨n, hrest⟩ := ih _ (hleft.decreases _ _ _ hmove) hexclusive hlock'
        (AList.lookup_insert _) rfl
      refine ⟨n + 1, ?_⟩
      simp only [List.replicate_succ, Machine.final_cons, hstep]
      refine ⟨hrest.1, hrest.2.1, fun id' hne => ?_⟩
      rw [hrest.2.2 id' hne, AList.lookup_insert_ne hne]

/-- The thread has ended, or was never started. -/
def EndedAt (P : Program ι ε σ ρ ο) (s : State σ ρ) (id : ℕ) : Prop :=
  ∀ r, s.stages.lookup id = some r → ∀ u, P.move u r = none

/-- While the lock is free, the threads `ids` can be run to their end one after the other. -/
theorem exists_schedule_of_free {left : σ → ρ → ℕ} (hleft : P.Terminates left) (ids : List ℕ)
    (h : P.Exclusive s) (hlock : s.lock = none) :
    ∃ schedule : List ℕ, ∀ id, id ∈ ids ∨ P.EndedAt s id →
      P.EndedAt (Machine.final P.step s (schedule.map .run)) id := by
  induction ids generalizing s with
  | nil => exact ⟨[], fun id hid => hid.resolve_left List.not_mem_nil⟩
  | cons id ids ih =>
    cases hlookup : s.stages.lookup id with
    | none =>
      obtain ⟨schedule, hrest⟩ := ih h hlock
      refine ⟨schedule, fun id' hid => hrest id' ?_⟩
      have hended : P.EndedAt s id := fun r hr => by simp [hlookup] at hr
      rcases hid with hmem | hid
      · rcases List.mem_cons.mp hmem with rfl | hmem
        · exact Or.inr hended
        · exact Or.inl hmem
      · exact Or.inr hid
    | some r =>
      obtain ⟨n, hfree, ⟨r', hlookup', hend⟩, hothers⟩ :=
        exists_run_alone hleft h (Or.inl hlock) hlookup
      set s' := Machine.final P.step s (List.replicate n (.run id)) with hs'
      have hexclusive : P.Exclusive s' :=
        Machine.final_induction P.step (fun _ e _ hs => hs.step e) h
      obtain ⟨schedule, hrest⟩ := ih hexclusive hfree
      refine ⟨List.replicate n id ++ schedule, fun id' hid => ?_⟩
      rw [List.map_append, List.map_replicate, Machine.final_append, ← hs']
      refine hrest id' ?_
      by_cases hsame : id' = id
      · -- the thread that has just been run
        subst hsame
        refine Or.inr fun r hr u => ?_
        rw [hlookup'] at hr
        obtain rfl := Option.some.inj hr
        exact hleft.ended _ u _ hend
      · rcases hid with hmem | hid
        · exact Or.inl ((List.mem_cons.mp hmem).resolve_left hsame)
        · exact Or.inr fun r hr => hid r (by rwa [hothers id' hsame] at hr)

/-- **No deadlock**: all threads can be run to their end. -/
theorem exists_schedule {left : σ → ρ → ℕ} (hleft : P.Terminates left) (h : P.Exclusive s) :
    ∃ schedule : List ℕ, ∀ id, P.EndedAt (Machine.final P.step s (schedule.map .run)) id := by
  -- a state in which the lock is free
  have hfree : ∃ first : List ℕ,
      P.Exclusive (Machine.final P.step s (first.map .run)) ∧
        (Machine.final P.step s (first.map .run)).lock = none := by
    cases hlock : s.lock with
    | none => exact ⟨[], h, hlock⟩
    | some id =>
      obtain ⟨r, hlookup⟩ := h.owner id hlock
      obtain ⟨n, hfree, -, -⟩ := exists_run_alone hleft h (Or.inr hlock) hlookup
      refine ⟨List.replicate n id, ?_, by rwa [List.map_replicate]⟩
      exact Machine.final_induction P.step (fun _ e _ hs => hs.step e) h
  obtain ⟨first, hexclusive, hlock⟩ := hfree
  set s' := Machine.final P.step s (first.map .run) with hs'
  obtain ⟨schedule, hrest⟩ := exists_schedule_of_free hleft s'.stages.keys hexclusive hlock
  refine ⟨first ++ schedule, fun id => ?_⟩
  rw [List.map_append, Machine.final_append, ← hs']
  refine hrest id ?_
  by_cases hmem : id ∈ s'.stages.keys
  · exact Or.inl hmem
  · refine Or.inr fun r hr => ?_
    rw [← AList.mem_keys, ← AList.lookup_isSome, hr] at hmem
    exact absurd rfl hmem

end Program

end Threads
