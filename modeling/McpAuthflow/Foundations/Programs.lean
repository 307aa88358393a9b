import McpAuthflow.Foundations.Machine
import Mathlib.Data.List.Forall2

/-! # Programs that talk to a service

A `Program` sends requests to a service, goes on with the answers, writes log lines on the way, and
returns or raises. `A q` is the type of the answers to a request `q`. A program can be run against
any service (`run`); an exception of the service ends it there. Two things can be read off a program
without knowing the service:

* **`Agree.run`** — programs that agree request by request are indistinguishable to every service
  and in every log;
* **`CommitsLast.run_faulty`** — a program whose requests before the last one only read is atomic:
  when a fault cuts it off, the service is as before, or as after the whole program. For a series of
  such programs: `exists_sublist_of_atomic`. -/

universe u

variable {S : Type u} {A : S → Type u} {L ε δ α β : Type u}

/-- A program with requests in `S`, log lines in `L` and exceptions in `ε`, that returns an `α`. -/
inductive Program (S : Type u) (A : S → Type u) (L ε α : Type u) : Type u where
  | ret (a : α)
  | raise (e : ε)
  | send (q : S) (next : A q → Program S A L ε α)
  | log (line : L) (next : Program S A L ε α)

namespace Program

/-! ## Composition -/

/-- Go on with what a program returns. -/
def bind : Program S A L ε α → (α → Program S A L ε β) → Program S A L ε β
  | .ret a, f => f a
  | .raise e, _ => .raise e
  | .send q next, f => .send q fun a => (next a).bind f
  | .log line next, f => .log line (next.bind f)

instance : Monad (Program S A L ε) where
  pure := .ret
  bind := bind

/-- One request. -/
def request (q : S) : Program S A L ε (A q) := .send q .ret

/-- One log line. -/
def logLine (line : L) : Program S A L ε PUnit := .log line (.ret ⟨⟩)

/-- A computation that makes no request. -/
def ofExcept : Except ε α → Program S A L ε α
  | .ok a => .ret a
  | .error e => .raise e

@[simp] theorem pure_eq (a : α) : (pure a : Program S A L ε α) = .ret a := rfl

@[simp] theorem ret_bind (a : α) (f : α → Program S A L ε β) : Program.ret a >>= f = f a := rfl

@[simp] theorem raise_bind (e : ε) (f : α → Program S A L ε β) :
    Program.raise e >>= f = .raise e := rfl

@[simp] theorem request_bind (q : S) (f : A q → Program S A L ε β) :
    request q >>= f = .send q f := rfl

@[simp] theorem logLine_bind (line : L) (f : PUnit → Program S A L ε β) :
    logLine line >>= f = .log line (f ⟨⟩) := rfl

@[simp] theorem send_bind (q : S) (next : A q → Program S A L ε α) (f : α → Program S A L ε β) :
    Program.send q next >>= f = .send q fun a => next a >>= f := rfl

@[simp] theorem log_bind (line : L) (next : Program S A L ε α) (f : α → Program S A L ε β) :
    Program.log line next >>= f = .log line (next >>= f) := rfl

@[simp] theorem map_eq (f : α → β) (p : Program S A L ε α) : f <$> p = p >>= fun a => .ret (f a) :=
  rfl

@[simp] theorem ofExcept_ok (a : α) : (ofExcept (.ok a) : Program S A L ε α) = .ret a := rfl

@[simp] theorem ofExcept_error (e : ε) :
    (ofExcept (.error e) : Program S A L ε α) = .raise e := rfl

/-! ## Running a program -/

/-- What an observer of the service and of the log sees. -/
inductive Event (S L : Type u) where
  | sent (q : S)
  | logged (line : L)
  deriving DecidableEq

/-- How a run ends: it returns, raises, or meets an exception `φ` of the service. -/
inductive Ending (ε φ α : Type u) where
  | returned (a : α)
  | raised (e : ε)
  | failed (e : φ)
  deriving DecidableEq

/-- A run: the state it leaves the service in, what was seen of it, and how it ended. -/
structure Run (σ S L ε φ α : Type u) where
  state : σ
  events : List (Event S L)
  ending : Ending ε φ α

variable {σ φ : Type u}

/-- Run a program against a service. -/
def run (serve : σ → (q : S) → σ × Except φ (A q)) : σ → Program S A L ε α → Run σ S L ε φ α
  | s, .ret a => ⟨s, [], .returned a⟩
  | s, .raise e => ⟨s, [], .raised e⟩
  | s, .send q next =>
    match serve s q with
    | (s', .error e) => ⟨s', [.sent q], .failed e⟩
    | (s', .ok a) =>
      let rest := run serve s' (next a)
      { rest with events := .sent q :: rest.events }
  | s, .log line next =>
    let rest := run serve s next
    { rest with events := .logged line :: rest.events }

/-- The result of a run whose service raises the program's own exceptions. -/
def Ending.result : Ending ε ε α → Except ε α
  | .returned a => .ok a
  | .raised e | .failed e => .error e

/-- What such a run leaves behind: the state of the service and the result. -/
def Run.outcome (r : Run σ S L ε ε α) : σ × Except ε α := (r.state, r.ending.result)

theorem outcome_map (f : α → β) (p : Program S A L ε α)
    (serve : σ → (q : S) → σ × Except ε (A q)) (s : σ) :
    ((f <$> p).run serve s).outcome
      = ((p.run serve s).outcome.1, (p.run serve s).outcome.2.map f) := by
  induction p generalizing s with
  | ret a => rfl
  | raise e => rfl
  | send q next ih =>
    simp only [map_eq, send_bind, run]
    rcases serve s q with ⟨s', e | a⟩
    · rfl
    · exact ih a s'
  | log line next ih => exact ih s

/-! ## Programs that agree -/

/-- **Two programs agree**: whatever they are answered, they send and log the same, and what they
return or raise is related. -/
inductive Agree (R : α → β → Prop) (E : ε → δ → Prop) :
    Program S A L ε α → Program S A L δ β → Prop where
  | ret {a : α} {b : β} (h : R a b) : Agree R E (.ret a) (.ret b)
  | raise {e : ε} {d : δ} (h : E e d) : Agree R E (.raise e) (.raise d)
  | send {q : S} {next : A q → Program S A L ε α} {next' : A q → Program S A L δ β}
      (h : ∀ a, Agree R E (next a) (next' a)) : Agree R E (.send q next) (.send q next')
  | log {line : L} {next : Program S A L ε α} {next' : Program S A L δ β}
      (h : Agree R E next next') : Agree R E (.log line next) (.log line next')

/-- Two endings that agree; the exceptions of the service are the same. -/
inductive Ending.Agree (R : α → β → Prop) (E : ε → δ → Prop) :
    Ending ε φ α → Ending δ φ β → Prop where
  | returned {a : α} {b : β} (h : R a b) : Ending.Agree R E (.returned a) (.returned b)
  | raised {e : ε} {d : δ} (h : E e d) : Ending.Agree R E (.raised e) (.raised d)
  | failed (e : φ) : Ending.Agree R E (.failed e) (.failed e)

section Agree

variable {R : α → β → Prop} {E : ε → δ → Prop} {p : Program S A L ε α} {p' : Program S A L δ β}

/-- A program agrees with itself. -/
theorem Agree.refl {R : α → α → Prop} {E : ε → ε → Prop} (hR : ∀ a, R a a) (hE : ∀ e, E e e)
    (p : Program S A L ε α) : Agree R E p p := by
  induction p with
  | ret a => exact .ret (hR a)
  | raise e => exact .raise (hE e)
  | send q next ih => exact .send ih
  | log line next ih => exact .log ih

/-- Programs that agree may go on with programs that do. -/
theorem Agree.bind {α' β' : Type u} {R' : α' → β' → Prop} {f : α → Program S A L ε α'}
    {f' : β → Program S A L δ β'} (h : Agree R E p p')
    (hf : ∀ a b, R a b → Agree R' E (f a) (f' b)) : Agree R' E (p >>= f) (p' >>= f') := by
  induction h with
  | ret h => exact hf _ _ h
  | raise h => exact .raise h
  | send _ ih => exact .send ih
  | log _ ih => exact .log ih

/-- **Programs that agree cannot be told apart**, by any service or in the log. -/
theorem Agree.run (h : Agree R E p p') (serve : σ → (q : S) → σ × Except φ (A q)) (s : σ) :
    (p.run serve s).state = (p'.run serve s).state ∧
      (p.run serve s).events = (p'.run serve s).events ∧
      Ending.Agree R E (p.run serve s).ending (p'.run serve s).ending := by
  induction h generalizing s with
  | ret h => exact ⟨rfl, rfl, .returned h⟩
  | raise h => exact ⟨rfl, rfl, .raised h⟩
  | @send q next next' h ih =>
    simp only [Program.run]
    rcases serve s q with ⟨s', e | a⟩
    · exact ⟨rfl, rfl, .failed e⟩
    · obtain ⟨hstate, hevents, hending⟩ := ih a s'
      exact ⟨hstate, congrArg _ hevents, hending⟩
  | log h ih =>
    obtain ⟨hstate, hevents, hending⟩ := ih s
    exact ⟨hstate, congrArg _ hevents, hending⟩

end Agree

/-! ## Faults -/

/-- What can happen to a request on its way, besides arriving and being answered. -/
inductive Fault (χ : Type u) where
  /-- It does not arrive. -/
  | lost (e : χ)
  /-- It is served, and the answer does not arrive. -/
  | unanswered (e : χ)

variable {χ : Type u}

/-- A service behind a line with faults, one entry for each request. -/
def faulty (serve : σ → (q : S) → σ × Except φ (A q)) (line : σ × List (Option (Fault χ))) (q : S) :
    (σ × List (Option (Fault χ))) × Except (χ ⊕ φ) (A q) :=
  match line with
  | (s, some (.lost e) :: faults) => ((s, faults), .error (.inl e))
  | (s, some (.unanswered e) :: faults) => (((serve s q).1, faults), .error (.inl e))
  | (s, faults) => (((serve s q).1, faults.tail), (serve s q).2.mapError .inr)

/-- The program makes no more requests. -/
def Silent : Program S A L ε α → Prop
  | .ret _ | .raise _ => True
  | .send _ _ => False
  | .log _ next => next.Silent

/-- **The program commits last**: the requests before its last one only read. -/
def CommitsLast (reads : S → Prop) : Program S A L ε α → Prop
  | .ret _ | .raise _ => True
  | .send q next => (∀ a, (next a).Silent) ∨ (reads q ∧ ∀ a, (next a).CommitsLast reads)
  | .log _ next => next.CommitsLast reads

/-- An ending without a fault, as an ending behind a line with faults. -/
def Ending.arrived : Ending ε φ α → Ending ε (χ ⊕ φ) α
  | .returned a => .returned a
  | .raised e => .raised e
  | .failed e => .failed (.inr e)

/-- **A run is atomic** beside the run without faults: it is that run, or a fault ended it and the
service is as before or as after that run. -/
def AtomicRun (s : σ) (r : Run (σ × List (Option (Fault χ))) S L ε (χ ⊕ φ) α)
    (whole : Run σ S L ε φ α) : Prop :=
  (r.state.1 = whole.state ∧ r.ending = whole.ending.arrived) ∨
    ((∃ e, r.ending = .failed (.inl e)) ∧ (r.state.1 = s ∨ r.state.1 = whole.state))

/-! ### Which programs commit last -/

section CommitsLast

variable {reads : S → Prop} {p : Program S A L ε α} {f : α → Program S A L ε β}

theorem Silent.commitsLast (h : p.Silent) : p.CommitsLast reads := by
  induction p with
  | ret a => trivial
  | raise e => trivial
  | send q next _ => exact h.elim
  | log line next ih => exact ih h

theorem Silent.bind (h : p.Silent) (hf : ∀ a, (f a).Silent) : (p >>= f).Silent := by
  induction p with
  | ret a => exact hf a
  | raise e => trivial
  | send q next _ => exact h.elim
  | log line next ih => exact ih h

/-- A program that commits last may go on without requests. -/
theorem CommitsLast.bind (h : p.CommitsLast reads) (hf : ∀ a, (f a).Silent) :
    (p >>= f).CommitsLast reads := by
  induction p with
  | ret a => exact (hf a).commitsLast
  | raise e => trivial
  | log line next ih => exact ih h
  | send q next ih =>
    rcases h with hsilent | ⟨hq, hnext⟩
    · exact .inl fun a => (hsilent a).bind hf
    · exact .inr ⟨hq, fun a => ih a (hnext a)⟩

/-- A program that makes no requests may go on with one that commits last. -/
theorem Silent.bind_commitsLast (h : p.Silent) (hf : ∀ a, (f a).CommitsLast reads) :
    (p >>= f).CommitsLast reads := by
  induction p with
  | ret a => exact hf a
  | raise e => trivial
  | send q next _ => exact h.elim
  | log line next ih => exact ih h

theorem silent_ofExcept (x : Except ε α) : (ofExcept x : Program S A L ε α).Silent := by
  cases x <;> trivial

end CommitsLast

/-! ### Atomicity -/

section Faults

variable {serve : σ → (q : S) → σ × Except φ (A q)} {reads : S → Prop} {p : Program S A L ε α}

/-- Without requests nothing can fail. -/
theorem Silent.run (h : p.Silent) (serve : σ → (q : S) → σ × Except φ (A q)) (s : σ)
    (faults : List (Option (Fault χ))) :
    (p.run serve s).state = s ∧ (p.run (faulty serve) (s, faults)).state = (s, faults) ∧
      (p.run (faulty serve) (s, faults)).ending = (p.run serve s).ending.arrived := by
  induction p with
  | ret a => exact ⟨rfl, rfl, rfl⟩
  | raise e => exact ⟨rfl, rfl, rfl⟩
  | send q next _ => exact h.elim
  | log line next ih => exact ih h

/-- **A program that commits last is atomic**, whatever faults its requests meet. -/
theorem CommitsLast.run_faulty (hreads : ∀ q, reads q → ∀ s, (serve s q).1 = s)
    (h : p.CommitsLast reads) (s : σ) (faults : List (Option (Fault χ))) :
    AtomicRun s (p.run (faulty serve) (s, faults)) (p.run serve s) := by
  induction p generalizing s faults with
  | ret a => exact .inl ⟨rfl, rfl⟩
  | raise e => exact .inl ⟨rfl, rfl⟩
  | log line next ih => exact ih h s faults
  | send q next ih =>
    -- the state after the whole program, when this request was the last or only read
    have hwhole : (serve s q).1 = s ∨
        (serve s q).1 = ((Program.send q next).run serve s).state := by
      rcases h with hsilent | ⟨hread, -⟩
      · right
        simp only [Program.run]
        rcases serve s q with ⟨s', e | a⟩
        · rfl
        · exact ((hsilent a).run serve s' ([] : List (Option (Fault χ)))).1.symm
      · exact .inl (hreads q hread s)
    have harrived : faulty serve (s, faults) q
          = (((serve s q).1, faults.tail), (serve s q).2.mapError .inr) →
        AtomicRun s ((Program.send q next).run (faulty serve) (s, faults))
          ((Program.send q next).run serve s) := by
      intro hline
      simp only [Program.run, hline]
      have hread := fun hq => hreads q hq s
      rcases hserve : serve s q with ⟨s', e | a⟩
      · exact .inl ⟨rfl, rfl⟩
      · rcases h with hsilent | ⟨hq, hnext⟩
        · obtain ⟨hstate, hstate', hending⟩ := (hsilent a).run serve s' faults.tail
          exact .inl ⟨(congrArg Prod.fst hstate').trans hstate.symm, hending⟩
        · obtain rfl : s' = s := by simpa [hserve] using hread hq
          exact ih a (hnext a) s' faults.tail
    rcases faults with _ | ⟨_ | (e | e), faults⟩
    · exact harrived rfl
    · exact harrived rfl
    · exact .inr ⟨⟨e, rfl⟩, .inl rfl⟩
    · exact .inr ⟨⟨e, rfl⟩, hwhole⟩

end Faults

end Program

/-! ## Series of calls -/

namespace Machine

variable {σ ι ο τ κ π : Type*}

/-- Two machines that start related, and whose related inputs have related outputs, go on so. -/
theorem forall₂_outputs {step : σ → ι → σ × ο} {step' : τ → κ → τ × π} {R : σ → τ → Prop}
    {I : ι → κ → Prop} {O : ο → π → Prop}
    (hstep : ∀ s t i k, R s t → I i k →
      R (step s i).1 (step' t k).1 ∧ O (step s i).2 (step' t k).2)
    {s : σ} {t : τ} (h : R s t) {is : List ι} {ks : List κ} (hinputs : List.Forall₂ I is ks) :
    R (final step s is) (final step' t ks) ∧
      List.Forall₂ O (outputs step s is) (outputs step' t ks) := by
  induction hinputs generalizing s t with
  | nil => exact ⟨h, .nil⟩
  | cons hfirst _ ih =>
    obtain ⟨hnext, hout⟩ := hstep s t _ _ h hfirst
    obtain ⟨hfinal, hrest⟩ := ih hnext
    exact ⟨hfinal, .cons hout hrest⟩

/-- The calls of a trace that were answered, with their answers. -/
def answered (call : ι → κ) (answer : ο → Option π) (tr : List (ι × ο)) : List (κ × π) :=
  tr.filterMap fun e => (answer e.2).map fun a => (call e.1, a)

/-- **A series of atomic calls** does what some of them do in a series without faults, and among
these are all that were answered, each as there. -/
theorem exists_sublist_of_atomic {outer : σ → ι → σ × ο} {inner : σ → κ → σ × π} {call : ι → κ}
    {answer : ο → Option π}
    (hstep : ∀ s i,
      (outer s i).1 = (inner s (call i)).1 ∧ answer (outer s i).2 = some (inner s (call i)).2 ∨
        answer (outer s i).2 = none ∧
          ((outer s i).1 = s ∨ (outer s i).1 = (inner s (call i)).1))
    (s : σ) (is : List ι) :
    ∃ kept, kept.Sublist (is.map call) ∧ final outer s is = final inner s kept ∧
      (answered call answer (trace outer s is)).Sublist (trace inner s kept) := by
  induction is generalizing s with
  | nil => exact ⟨[], .slnil, rfl, .slnil⟩
  | cons i is ih =>
    obtain ⟨kept, hkept, hfinal, htrace⟩ := ih (outer s i).1
    rw [final_cons, trace_cons, answered, List.filterMap_cons]
    rcases hstep s i with ⟨hstate, hanswer⟩ | ⟨hanswer, hstate | hstate⟩
    · refine ⟨call i :: kept, hkept.cons_cons _, ?_, ?_⟩
      · rw [hfinal, hstate, final_cons]
      · rw [hstate] at htrace
        simp only [hanswer, Option.map_some, trace_cons, hstate]
        exact htrace.cons_cons _
    · -- the call is left out
      rw [hstate] at hfinal htrace
      refine ⟨kept, hkept.cons _, by rw [hstate, hfinal], ?_⟩
      simp only [hanswer, Option.map_none, hstate]
      exact htrace
    · -- the call took effect, and nobody was told
      refine ⟨call i :: kept, hkept.cons_cons _, ?_, ?_⟩
      · rw [hfinal, hstate, final_cons]
      · rw [hstate] at htrace
        simp only [hanswer, Option.map_none, trace_cons, hstate]
        exact htrace.cons _

end Machine
