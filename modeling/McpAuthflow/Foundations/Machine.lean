import McpAuthflow.Foundations.Lists
import Mathlib.Order.Basic
import Mathlib.Tactic.Common

/-! # Deterministic machines, their runs and their traces

A **machine** is a step function `σ → ι → σ × ο`: it consumes one input, moves to a new state and
answers with one output. This file gives the run vocabulary (`final`, `outputs`, `trace`), a guard
that every step of a run must meet (`AllSteps`), the clock discipline of timed inputs
(`Nondecreasing`), and the rules run-level results are proved with:

* **`trace_invariant`** — an invariant on (state, trace) that each step preserves holds at the end
  of every run; **`allSteps_of_invariant`** is the rule for guarded runs;
* **`trace_induction`** — the same for timed, guarded runs and an invariant that mentions the clock;
  **`timed_invariant`** is the rule without a guard;
* **`trace_flatMap_exchange`** — a component's run inside a system's run;
* **`trace_filter`** — noninterference: inputs that keep a relation to the run without them leave no
  mark on the answers to the others;
* **`outputs_eq_iff_allSteps`** — two machines that answer alike where the guard holds, and
  differently where it fails, answer alike on exactly the runs whose steps all meet the guard. -/

namespace Machine

variable {σ τ ι ο T : Type*}

/-! ## Runs -/

/-- The state a machine reaches after consuming `is` from `s`. -/
def final (step : σ → ι → σ × ο) : σ → List ι → σ
  | s, [] => s
  | s, i :: is => final step (step s i).1 is

/-- The outputs a machine answers with while consuming `is` from `s`, in order. -/
def outputs (step : σ → ι → σ × ο) : σ → List ι → List ο
  | _, [] => []
  | s, i :: is => (step s i).2 :: outputs step (step s i).1 is

/-- The trace of a run: every input with the output it was answered with. -/
def trace (step : σ → ι → σ × ο) (s : σ) (is : List ι) : List (ι × ο) :=
  is.zip (outputs step s is)

variable (step : σ → ι → σ × ο)

@[simp] theorem final_nil (s : σ) : final step s [] = s := rfl

@[simp] theorem final_cons (s : σ) (i : ι) (is : List ι) :
    final step s (i :: is) = final step (step s i).1 is := rfl

@[simp] theorem outputs_nil (s : σ) : outputs step s [] = [] := rfl

@[simp] theorem outputs_cons (s : σ) (i : ι) (is : List ι) :
    outputs step s (i :: is) = (step s i).2 :: outputs step (step s i).1 is := rfl

@[simp] theorem trace_nil (s : σ) : trace step s [] = [] := rfl

@[simp] theorem trace_cons (s : σ) (i : ι) (is : List ι) :
    trace step s (i :: is) = (i, (step s i).2) :: trace step (step s i).1 is := rfl

/-- A run over `is ++ js` continues from the state reached after `is`. -/
theorem final_append (s : σ) (is js : List ι) :
    final step s (is ++ js) = final step (final step s is) js := by
  induction is generalizing s with
  | nil => rfl
  | cons i is ih => exact ih (step s i).1

/-- The trace of a run over `is ++ js` is that of its two parts. -/
theorem trace_append (s : σ) (is js : List ι) :
    trace step s (is ++ js) = trace step s is ++ trace step (final step s is) js := by
  induction is generalizing s with
  | nil => rfl
  | cons i is ih => simp [ih]

@[simp] theorem length_outputs (s : σ) (is : List ι) : (outputs step s is).length = is.length := by
  induction is generalizing s with
  | nil => rfl
  | cons i is ih => simp [ih]

/-- The inputs of a trace are those of the run. -/
@[simp] theorem map_fst_trace (s : σ) (is : List ι) : (trace step s is).map Prod.fst = is :=
  List.map_fst_zip (by simp)

/-- The outputs of a trace are those of the run. -/
@[simp] theorem map_snd_trace (s : σ) (is : List ι) :
    (trace step s is).map Prod.snd = outputs step s is :=
  List.map_snd_zip (by simp)

/-- The outputs of a run over `is ++ js` are those of its two parts. -/
theorem outputs_append (s : σ) (is js : List ι) :
    outputs step s (is ++ js) = outputs step s is ++ outputs step (final step s is) js := by
  rw [← map_snd_trace, trace_append, List.map_append, map_snd_trace, map_snd_trace]

/-- A trace split at one of its steps splits the run there. -/
theorem trace_eq_append_cons {s : σ} {is : List ι} {pre post : List (ι × ο)} {i : ι} {o : ο}
    (h : trace step s is = pre ++ (i, o) :: post) :
    ∃ is₁ is₂, is = is₁ ++ i :: is₂ ∧ pre = trace step s is₁ ∧
      o = (step (final step s is₁) i).2 ∧
      post = trace step (step (final step s is₁) i).1 is₂ := by
  induction is generalizing s pre with
  | nil => simp at h
  | cons j is ih =>
    rw [trace_cons] at h
    cases pre with
    | nil =>
      rw [List.nil_append, List.cons.injEq, Prod.mk.injEq] at h
      obtain ⟨⟨rfl, rfl⟩, rfl⟩ := h
      exact ⟨[], is, rfl, rfl, rfl, rfl⟩
    | cons e pre =>
      rw [List.cons_append, List.cons.injEq] at h
      obtain ⟨rfl, h⟩ := h
      obtain ⟨is₁, is₂, rfl, rfl, rfl, rfl⟩ := ih h
      exact ⟨j :: is₁, is₂, rfl, rfl, rfl, rfl⟩

/-- The first part of a trace is the trace of its inputs. -/
theorem trace_of_append {s : σ} {is : List ι} {tr tr' : List (ι × ο)}
    (h : trace step s is = tr ++ tr') : trace step s (tr.map Prod.fst) = tr := by
  induction is generalizing s tr with
  | nil =>
    obtain ⟨rfl, -⟩ := List.append_eq_nil_iff.mp h.symm
    rfl
  | cons i is ih =>
    cases tr with
    | nil => rfl
    | cons e tr =>
      rw [trace_cons, List.cons_append, List.cons.injEq] at h
      obtain ⟨rfl, h⟩ := h
      rw [List.map_cons, trace_cons, ih h]

/-- **The untimed run rule.** A relation between states and traces that holds initially and that
each step preserves holds at the end of every run. -/
theorem trace_invariant (Inv : σ → List (ι × ο) → Prop)
    (hstep : ∀ s tr i, Inv s tr → Inv (step s i).1 (tr ++ [(i, (step s i).2)]))
    {s : σ} (hinit : Inv s []) (is : List ι) : Inv (final step s is) (trace step s is) := by
  induction is using List.reverseRecOn with
  | nil => exact hinit
  | append_singleton is i ih =>
    rw [final_append, trace_append]
    exact hstep _ _ i ih

/-- What holds of every step holds of every entry of a trace. -/
theorem forall_mem_trace {P : ι × ο → Prop} (hstep : ∀ s i, P (i, (step s i).2)) (s : σ)
    (is : List ι) : ∀ e ∈ trace step s is, P e := by
  induction is generalizing s with
  | nil => simp
  | cons i is ih =>
    rw [trace_cons, List.forall_mem_cons]
    exact ⟨hstep s i, ih _⟩

/-- **The rule for the end of a run**: what the inputs of a run preserve holds at its end. -/
theorem final_induction {Inv : σ → Prop} {is : List ι}
    (hstep : ∀ s, ∀ i ∈ is, Inv s → Inv (step s i).1) {s : σ} (hinit : Inv s) :
    Inv (final step s is) := by
  induction is generalizing s with
  | nil => exact hinit
  | cons i is ih =>
    have hnext := hstep s i List.mem_cons_self hinit
    exact ih (fun s j hj => hstep s j (List.mem_cons_of_mem i hj)) hnext

/-- What a run leads to, seen through `view`, depends only on the inputs that can be seen through
it: the view of a step is a function of the view before, and inputs outside `p` keep the view. -/
theorem view_final_filter {β : Type*} {view : σ → β} {p : ι → Bool}
    (hview : ∀ s s' i, view s = view s' → view (step s i).1 = view (step s' i).1)
    (hskip : ∀ s i, p i = false → view (step s i).1 = view s) {s s' : σ} (hs : view s = view s')
    (is : List ι) : view (final step s is) = view (final step s' (is.filter p)) := by
  induction is generalizing s s' with
  | nil => exact hs
  | cons i is ih =>
    cases hp : p i with
    | true =>
      rw [List.filter_cons_of_pos hp, final_cons, final_cons]
      exact ih (hview s s' i hs)
    | false =>
      rw [List.filter_cons_of_neg (by simp [hp]), final_cons]
      exact ih ((hskip s i hp).trans hs)

/-! ## Guards on the steps of a run -/

/-- Every step of the run over the inputs meets `G`, started in `s` with the trace `tr` behind
it. -/
def AllStepsFrom (G : σ → List (ι × ο) → ι → Prop) : σ → List (ι × ο) → List ι → Prop
  | _, _, [] => True
  | s, tr, i :: is => G s tr i ∧ AllStepsFrom G (step s i).1 (tr ++ [(i, (step s i).2)]) is

/-- **Every step of a run meets `G`**, a condition on the state before the step, the trace so far
and the input. -/
def AllSteps (G : σ → List (ι × ο) → ι → Prop) (s : σ) (is : List ι) : Prop :=
  AllStepsFrom step G s [] is

instance decidableAllStepsFrom (G : σ → List (ι × ο) → ι → Prop) [∀ s tr i, Decidable (G s tr i)] :
    ∀ s tr is, Decidable (AllStepsFrom step G s tr is)
  | _, _, [] => .isTrue trivial
  | s, tr, i :: is =>
    have := decidableAllStepsFrom G (step s i).1 (tr ++ [(i, (step s i).2)]) is
    inferInstanceAs (Decidable (G s tr i ∧ _))

instance decidableAllSteps (G : σ → List (ι × ο) → ι → Prop) [∀ s tr i, Decidable (G s tr i)]
    (s : σ) (is : List ι) : Decidable (AllSteps step G s is) :=
  decidableAllStepsFrom step G s [] is

/-- A guarded run extended by one input: the longer run is guarded iff the shorter one is and its
last state, with the trace so far, meets the guard on the new input. -/
theorem allStepsFrom_concat (G : σ → List (ι × ο) → ι → Prop) (s : σ) (tr : List (ι × ο))
    (is : List ι) (i : ι) :
    AllStepsFrom step G s tr (is ++ [i]) ↔
      AllStepsFrom step G s tr is ∧ G (final step s is) (tr ++ trace step s is) i := by
  induction is generalizing s tr with
  | nil => simp [AllStepsFrom]
  | cons j is ih => simp [AllStepsFrom, ih, and_assoc]

/-- `allStepsFrom_concat` for a run with no trace behind it. -/
theorem allSteps_concat (G : σ → List (ι × ο) → ι → Prop) (s : σ) (is : List ι) (i : ι) :
    AllSteps step G s (is ++ [i]) ↔
      AllSteps step G s is ∧ G (final step s is) (trace step s is) i := by
  rw [AllSteps, allStepsFrom_concat, AllSteps, List.nil_append]

/-- A guarded run read at each of its steps: every split of the inputs at an input `i` finds the
guard met by the state and the trace that the inputs before `i` lead to. -/
theorem allSteps_iff (G : σ → List (ι × ο) → ι → Prop) (s : σ) (is : List ι) :
    AllSteps step G s is ↔
      ∀ pre i post, is = pre ++ i :: post → G (final step s pre) (trace step s pre) i := by
  induction is using List.reverseRecOn with
  | nil => simp [AllSteps, AllStepsFrom]
  | append_singleton is i ih =>
    rw [allSteps_concat, ih]
    constructor
    · rintro ⟨hpre, hlast⟩ pre j post heq
      rcases List.concat_split heq with ⟨rfl, rfl, -⟩ | ⟨post', -, hsplit⟩
      · exact hlast
      · exact hpre pre j post' hsplit
    · intro h
      refine ⟨?_, h is i [] rfl⟩
      rintro pre j post rfl
      exact h pre j (post ++ [i]) (by simp)

/-- A guard that always holds. -/
theorem allSteps_true (s : σ) (is : List ι) : AllSteps step (fun _ _ _ => True) s is :=
  (allSteps_iff step _ s is).mpr fun _ _ _ _ => trivial

/-- **The guarded run rule.** An invariant that holds initially and that each step meeting `G`
preserves holds at the end of a run whose steps all meet `G`; and what it implies together with `G`
holds at each of its steps. -/
theorem allSteps_of_invariant (Inv : σ → List (ι × ο) → Prop)
    {G H : σ → List (ι × ο) → ι → Prop}
    (hstep : ∀ s tr i, Inv s tr → G s tr i → Inv (step s i).1 (tr ++ [(i, (step s i).2)]))
    (himp : ∀ s tr i, Inv s tr → G s tr i → H s tr i) {s : σ} (hinit : Inv s []) {is : List ι}
    (hG : AllSteps step G s is) :
    Inv (final step s is) (trace step s is) ∧ AllSteps step H s is := by
  induction is using List.reverseRecOn with
  | nil => exact ⟨hinit, trivial⟩
  | append_singleton is i ih =>
    obtain ⟨hpre, hlast⟩ := (allSteps_concat step G s is i).mp hG
    obtain ⟨hinv, hH⟩ := ih hpre
    refine ⟨?_, (allSteps_concat step H s is i).mpr ⟨hH, himp _ _ i hinv hlast⟩⟩
    rw [final_append, trace_append]
    exact hstep _ _ i hinv hlast

/-- **A component inside a system.** Each step of the system that is taken in an invariant state and
meets `G` makes the calls `exchange` of a component, whose state is a part of the system's, and gets
the replies the component gives. Then the calls of a whole run are a run of the component. -/
theorem trace_flatMap_exchange_of_allSteps {κ π : Type*} {inner : τ → κ → τ × π} {part : σ → τ}
    {exchange : ι × ο → List (κ × π)} {Inv : σ → Prop} {G : σ → ι → Prop}
    (hinv : ∀ s i, Inv s → Inv (step s i).1)
    (hstep : ∀ s i, Inv s → G s i →
      trace inner (part s) ((exchange (i, (step s i).2)).map Prod.fst)
          = exchange (i, (step s i).2) ∧
        final inner (part s) ((exchange (i, (step s i).2)).map Prod.fst) = part (step s i).1)
    {s : σ} (hs : Inv s) {is : List ι} (h : AllSteps step (fun s _ i => G s i) s is) :
    trace inner (part s) (((trace step s is).flatMap exchange).map Prod.fst)
        = (trace step s is).flatMap exchange ∧
      final inner (part s) (((trace step s is).flatMap exchange).map Prod.fst)
        = part (final step s is) := by
  induction is using List.reverseRecOn with
  | nil => exact ⟨rfl, rfl⟩
  | append_singleton is i ih =>
    obtain ⟨hpre, hlast⟩ := (allSteps_concat step _ s is i).mp h
    obtain ⟨htrace, hfinal⟩ := ih hpre
    have hreached : Inv (final step s is) := final_induction step (fun s j _ => hinv s j) hs
    obtain ⟨htrace', hfinal'⟩ := hstep _ i hreached hlast
    rw [trace_append, trace_cons, trace_nil, List.flatMap_append, List.flatMap_singleton,
      List.map_append, trace_append, final_append, htrace, hfinal, final_append]
    exact ⟨congrArg (_ ++ ·) htrace', hfinal'⟩

/-- A component that every step of the system calls as it should. -/
theorem trace_flatMap_exchange {κ π : Type*} {inner : τ → κ → τ × π} {part : σ → τ}
    {exchange : ι × ο → List (κ × π)}
    (hstep : ∀ s i,
      trace inner (part s) ((exchange (i, (step s i).2)).map Prod.fst)
          = exchange (i, (step s i).2) ∧
        final inner (part s) ((exchange (i, (step s i).2)).map Prod.fst) = part (step s i).1)
    (s : σ) (is : List ι) :
    trace inner (part s) (((trace step s is).flatMap exchange).map Prod.fst)
        = (trace step s is).flatMap exchange ∧
      final inner (part s) (((trace step s is).flatMap exchange).map Prod.fst)
        = part (final step s is) := by
  have hinv : ∀ s i, (fun _ : σ => True) s → (fun _ : σ => True) (step s i).1 :=
    fun _ _ _ => trivial
  exact trace_flatMap_exchange_of_allSteps step hinv (fun s i _ _ => hstep s i) trivial
    (allSteps_true step s is)

/-! ## Timed inputs -/

section Clock

variable [Preorder T] (start finish : ι → T)

/-- The clock never runs backwards from `t`: each input starts no earlier than the previous one
finished. -/
def Nondecreasing : T → List ι → Prop
  | _, [] => True
  | t, i :: is => t ≤ start i ∧ Nondecreasing (finish i) is

/-- A clock that stands still never runs backwards. -/
theorem nondecreasing_const (t : T) (is : List ι) :
    Nondecreasing (fun _ => t) (fun _ => t) t is := by
  induction is with
  | nil => trivial
  | cons i is ih => exact ⟨le_rfl, ih⟩

/-- The clock reading at the end of a run that started at `t`. -/
def lastReading : T → List ι → T
  | t, [] => t
  | _, i :: is => lastReading (finish i) is

omit [Preorder T] in
@[simp] theorem lastReading_concat (t : T) (is : List ι) (i : ι) :
    lastReading finish t (is ++ [i]) = finish i := by
  induction is generalizing t with
  | nil => rfl
  | cons j is ih => exact ih (finish j)

/-- A timed run extended by one input: the new input starts no earlier than the run ended. -/
theorem nondecreasing_concat (t : T) (is : List ι) (i : ι) :
    Nondecreasing start finish t (is ++ [i]) ↔
      Nondecreasing start finish t is ∧ lastReading finish t is ≤ start i := by
  induction is generalizing t with
  | nil => simp [Nondecreasing, lastReading]
  | cons j is ih => simp [Nondecreasing, lastReading, ih, and_assoc]

/-- A timed run in two parts: the second is timed from where the first ended. -/
theorem nondecreasing_append (t : T) (is js : List ι) :
    Nondecreasing start finish t (is ++ js) ↔
      Nondecreasing start finish t is ∧
        Nondecreasing start finish (lastReading finish t is) js := by
  induction is generalizing t with
  | nil => simp [Nondecreasing, lastReading]
  | cons i is ih => simp [Nondecreasing, lastReading, ih, and_assoc]

section

variable {start finish}

/-- A timed run may be started earlier. -/
theorem Nondecreasing.of_le {t t' : T} {is : List ι} (h : Nondecreasing start finish t is)
    (hle : t' ≤ t) : Nondecreasing start finish t' is := by
  cases is with
  | nil => trivial
  | cons i is => exact ⟨le_trans hle h.1, h.2⟩

/-- A timed run ends no earlier than it started. -/
theorem Nondecreasing.le_lastReading {t : T} {is : List ι} (h : Nondecreasing start finish t is)
    (hfwd : ∀ i, start i ≤ finish i) : t ≤ lastReading finish t is := by
  induction is generalizing t with
  | nil => exact le_rfl
  | cons i is ih => exact le_trans (le_trans h.1 (hfwd i)) (ih h.2)

/-- Leaving inputs out of a timed run keeps it timed. -/
theorem Nondecreasing.filter (hfwd : ∀ i, start i ≤ finish i) {t : T} {is : List ι}
    (h : Nondecreasing start finish t is) (p : ι → Bool) :
    Nondecreasing start finish t (is.filter p) := by
  induction is generalizing t with
  | nil => trivial
  | cons i is ih =>
    obtain ⟨ht, h⟩ := h
    have hrest := ih h
    by_cases hp : p i = true
    · rw [List.filter_cons_of_pos hp]
      exact ⟨ht, hrest⟩
    · rw [List.filter_cons_of_neg hp]
      exact hrest.of_le (le_trans ht (hfwd i))

end

/-- The run rule with a trace behind it, the induction behind `trace_induction`. -/
theorem trace_induction_from (Inv : T → σ → List (ι × ο) → Prop)
    {G : σ → List (ι × ο) → ι → Prop}
    (hstep : ∀ t s tr i, Inv t s tr → t ≤ start i → G s tr i →
      Inv (finish i) (step s i).1 (tr ++ [(i, (step s i).2)]))
    {t : T} {s : σ} {tr : List (ι × ο)} {is : List ι} (hinv : Inv t s tr)
    (hclock : Nondecreasing start finish t is) (hG : AllStepsFrom step G s tr is) :
    Inv (lastReading finish t is) (final step s is) (tr ++ trace step s is) := by
  induction is generalizing t s tr with
  | nil => simpa [lastReading] using hinv
  | cons i is ih =>
    obtain ⟨ht, hclock⟩ := hclock
    obtain ⟨hg, hG⟩ := hG
    have h := ih (hstep t s tr i hinv ht hg) hclock hG
    simpa [lastReading] using h

/-- **The run rule.** An invariant on the clock, the state and the trace that holds initially and
that each guarded step preserves holds at the end of every timed, guarded run. -/
theorem trace_induction (Inv : T → σ → List (ι × ο) → Prop) {G : σ → List (ι × ο) → ι → Prop}
    (hstep : ∀ t s tr i, Inv t s tr → t ≤ start i → G s tr i →
      Inv (finish i) (step s i).1 (tr ++ [(i, (step s i).2)]))
    {t : T} {s : σ} {is : List ι} (hinv : Inv t s [])
    (hclock : Nondecreasing start finish t is) (hG : AllSteps step G s is) :
    Inv (lastReading finish t is) (final step s is) (trace step s is) :=
  trace_induction_from step start finish Inv hstep hinv hclock hG

/-- **The timed run rule**, for runs without a guard. -/
theorem timed_invariant (Inv : T → σ → List (ι × ο) → Prop)
    (hstep : ∀ t s tr i, Inv t s tr → t ≤ start i →
      Inv (finish i) (step s i).1 (tr ++ [(i, (step s i).2)]))
    {t : T} {s : σ} {is : List ι} (hinv : Inv t s [])
    (hclock : Nondecreasing start finish t is) :
    Inv (lastReading finish t is) (final step s is) (trace step s is) := by
  exact trace_induction step start finish Inv (fun t s tr i h ht _ => hstep t s tr i h ht) hinv
    hclock (allSteps_true step s is)

/-! ## Noninterference -/

/-- The noninterference rule with a trace behind it, the induction behind `trace_filter`. -/
theorem trace_filter_from {p : ι → Bool} (R : T → σ → List (ι × ο) → σ → Prop)
    {G : σ → List (ι × ο) → ι → Prop}
    (hkeep : ∀ t s tr u i, R t s tr u → t ≤ start i → G s tr i → p i = true →
      (step s i).2 = (step u i).2 ∧
        R (finish i) (step s i).1 (tr ++ [(i, (step s i).2)]) (step u i).1)
    (hskip : ∀ t s tr u i, R t s tr u → t ≤ start i → G s tr i → p i = false →
      R (finish i) (step s i).1 (tr ++ [(i, (step s i).2)]) u)
    {t : T} {s u : σ} {tr : List (ι × ο)} {is : List ι} (hR : R t s tr u)
    (hclock : Nondecreasing start finish t is) (hG : AllStepsFrom step G s tr is) :
    trace step u (is.filter p) = (trace step s is).filter fun e => p e.1 := by
  induction is generalizing t s u tr with
  | nil => rfl
  | cons i is ih =>
    obtain ⟨ht, hclock⟩ := hclock
    obtain ⟨hg, hG⟩ := hG
    cases hp : p i with
    | true =>
      obtain ⟨hout, hR'⟩ := hkeep t s tr u i hR ht hg hp
      rw [List.filter_cons_of_pos hp, trace_cons, trace_cons, List.filter_cons_of_pos (by exact hp),
        ih hR' hclock hG, hout]
    | false =>
      have hR' := hskip t s tr u i hR ht hg hp
      rw [List.filter_cons_of_neg (by simp [hp]), trace_cons,
        List.filter_cons_of_neg (by simp [hp]), ih hR' hclock hG]

/-- **Noninterference.** A run is related to the run over the inputs `p` alone: the inputs `p` are
answered alike in related states and keep the relation, and so do the others by themselves. Then
leaving the others out changes no answer. -/
theorem trace_filter {p : ι → Bool} (R : T → σ → List (ι × ο) → σ → Prop)
    {G : σ → List (ι × ο) → ι → Prop}
    (hkeep : ∀ t s tr u i, R t s tr u → t ≤ start i → G s tr i → p i = true →
      (step s i).2 = (step u i).2 ∧
        R (finish i) (step s i).1 (tr ++ [(i, (step s i).2)]) (step u i).1)
    (hskip : ∀ t s tr u i, R t s tr u → t ≤ start i → G s tr i → p i = false →
      R (finish i) (step s i).1 (tr ++ [(i, (step s i).2)]) u)
    {t : T} {s u : σ} {is : List ι} (hR : R t s [] u)
    (hclock : Nondecreasing start finish t is) (hG : AllSteps step G s is) :
    trace step u (is.filter p) = (trace step s is).filter fun e => p e.1 :=
  trace_filter_from step start finish R hkeep hskip hR hclock hG

end Clock

/-! ## Simulation -/

section Simulation

variable {ο₁ ο₂ ω : Type*} {step₁ : σ → ι → σ × ο₁} {step₂ : τ → ι → τ × ο₂}
  {obs₁ : ο₁ → ω} {obs₂ : ο₂ → ω}

/-- **Conditional simulation.** If related states answer the next input alike and stay related
whenever the guard `G` holds of the first machine's state, and answer it differently whenever it
does not, then the two machines answer a run alike iff every step of it meets the guard. -/
theorem outputs_eq_iff_allSteps {R : σ → τ → List ι → Prop} {G : σ → ι → Prop}
    (hgood : ∀ s u i is, R s u (i :: is) → G s i →
      obs₁ (step₁ s i).2 = obs₂ (step₂ u i).2 ∧ R (step₁ s i).1 (step₂ u i).1 is)
    (hbad : ∀ s u i is, R s u (i :: is) → ¬ G s i →
      obs₁ (step₁ s i).2 ≠ obs₂ (step₂ u i).2)
    {s : σ} {u : τ} {is : List ι} (tr : List (ι × ο₁)) (hR : R s u is) :
    (outputs step₁ s is).map obs₁ = (outputs step₂ u is).map obs₂ ↔
      AllStepsFrom step₁ (fun s _ i => G s i) s tr is := by
  induction is generalizing s u tr with
  | nil => simp [AllStepsFrom]
  | cons i is ih =>
    by_cases hG : G s i
    · obtain ⟨hout, hR'⟩ := hgood s u i is hR hG
      simpa [AllStepsFrom, hG, hout] using ih _ hR'
    · have hne := hbad s u i is hR hG
      simp [AllStepsFrom, hG, hne]

end Simulation

end Machine
