import McpAuthflow.Foundations.Lists
import Mathlib.Algebra.Order.Group.Defs
import Mathlib.Data.List.Perm.Basic
import Mathlib.Tactic.Linarith

/-! # Sliding windows over timestamps

Timestamps live in an ordered group `T`. The **live** part of a list of timestamps at `now` are
those of age below the window length `W`. Two general facts carry every sliding-window limiter:

* **`live_filter`** — discarding timestamps that are out of the window at `now` cannot be observed
  at `now` or later, whatever the boundary of the discarding rule;
* **`countP_le_of_admittedUnder`** — if each timestamp was admitted while fewer than `N` earlier
  ones were live, no span of width below `W` ever contains more than `N` of them.

A limiter whose clock is inexact prunes too much or too little. `Keeps` bounds what is left of the
recorded events from both sides. -/

namespace SlidingWindow

variable {T : Type*} [AddCommGroup T] [LinearOrder T] [IsOrderedAddMonoid T]

/-- The timestamps of age below `W` at `now`. -/
def live (W now : T) (ts : List T) : List T := ts.filter fun t => now - t < W

omit [IsOrderedAddMonoid T] in
@[simp] theorem live_nil (W now : T) : live W now [] = [] := rfl

omit [IsOrderedAddMonoid T] in
@[simp] theorem live_append (W now : T) (ts us : List T) :
    live W now (ts ++ us) = live W now ts ++ live W now us :=
  List.filter_append ..

omit [IsOrderedAddMonoid T] in
/-- Live timestamps do not depend on the order of the list. -/
theorem live_perm {W now : T} {ts us : List T} (h : ts.Perm us) :
    (live W now ts).Perm (live W now us) :=
  h.filter _

/-- A timestamp that is in the window later is in the window now. -/
theorem sub_lt_of_le {W now later t : T} (hle : now ≤ later) (h : later - t < W) : now - t < W :=
  lt_of_le_of_lt (sub_le_sub_right hle t) h

omit [IsOrderedAddMonoid T] in
/-- **Discarding is unobservable** when every timestamp live at `now` passes the test that keeps
it. -/
theorem live_filter {W now : T} {p : T → Bool} {ts : List T}
    (h : ∀ t ∈ ts, now - t < W → p t = true) : live W now (ts.filter p) = live W now ts := by
  rw [live, live, List.filter_filter]
  apply List.filter_congr
  intro t ht
  by_cases hlive : now - t < W
  · simp [hlive, h t ht hlive]
  · simp [hlive]

/-- Pruning to the live timestamps is unobservable later. -/
theorem live_live {W now later : T} (hle : now ≤ later) (ts : List T) :
    live W later (live W now ts) = live W later ts := by
  apply live_filter
  intro t _ hlive
  exact decide_eq_true (sub_lt_of_le hle hlive)

omit [IsOrderedAddMonoid T] in
/-- Nothing is live once every timestamp has age at least `W`. -/
theorem live_eq_nil {W now : T} {ts : List T} (h : ∀ t ∈ ts, W ≤ now - t) : live W now ts = [] := by
  rw [live, List.filter_eq_nil_iff]
  intro t ht
  simpa using h t ht

/-! ## No span of width below `W` holds more than `N` admissions -/

/-- Each timestamp was admitted while fewer than `N` of the earlier ones were live. -/
def AdmittedUnder (W : T) (N : ℕ) (ts : List T) : Prop :=
  ∀ pre a post, ts = pre ++ a :: post → (live W a pre).length < N

omit [IsOrderedAddMonoid T] in
theorem AdmittedUnder.of_append {W : T} {N : ℕ} {ts us : List T}
    (h : AdmittedUnder W N (ts ++ us)) : AdmittedUnder W N ts := by
  rintro pre a post rfl
  exact h pre a (post ++ us) (by simp)

omit [IsOrderedAddMonoid T] in
/-- One more admission, made while fewer than `N` earlier ones are live. -/
theorem AdmittedUnder.concat {W a : T} {N : ℕ} {ts : List T} (h : AdmittedUnder W N ts)
    (ha : (live W a ts).length < N) : AdmittedUnder W N (ts ++ [a]) := by
  intro pre b post heq
  rcases List.concat_split heq with ⟨rfl, rfl, -⟩ | ⟨post', -, rfl⟩
  · exact ha
  · exact h pre b post' rfl

omit [IsOrderedAddMonoid T] in
/-- **The window bound.** A span `p` all of whose timestamps are less than `W` apart contains at
most `N` admissions. -/
theorem countP_le_of_admittedUnder {W : T} {N : ℕ} {ts : List T} (h : AdmittedUnder W N ts)
    (p : T → Bool) (hp : ∀ t a, p t = true → p a = true → a - t < W) : ts.countP p ≤ N := by
  induction ts using List.reverseRecOn with
  | nil => simp
  | append_singleton ts a ih =>
    have hts := ih h.of_append
    rw [List.countP_append, List.countP_singleton]
    by_cases ha : p a = true
    · -- everything of the span that was admitted before `a` is still live at `a`
      have hlive : (live W a ts).length < N := h ts a [] rfl
      have hle : ts.countP p ≤ (live W a ts).length := by
        rw [live, ← List.countP_eq_length_filter]
        exact List.countP_mono_left fun t _ ht => decide_eq_true (hp t a ht ha)
      rw [if_pos ha]
      omega
    · rw [if_neg ha]
      omega

/-- A window `[x, x + W)` contains at most `N` admissions. -/
theorem countP_Ico_le {W : T} {N : ℕ} {ts : List T} (h : AdmittedUnder W N ts) (x : T) :
    ts.countP (fun t => x ≤ t ∧ t < x + W) ≤ N := by
  apply countP_le_of_admittedUnder h
  intro t a ht ha
  simp only [decide_eq_true_eq] at ht ha
  exact sub_lt_iff_lt_add'.mpr (lt_of_lt_of_le ha.2 (add_le_add_left ht.1 W))

/-- A window `(x, x + W]` contains at most `N` admissions. -/
theorem countP_Ioc_le {W : T} {N : ℕ} {ts : List T} (h : AdmittedUnder W N ts) (x : T) :
    ts.countP (fun t => x < t ∧ t ≤ x + W) ≤ N := by
  apply countP_le_of_admittedUnder h
  intro t a ht ha
  simp only [decide_eq_true_eq] at ht ha
  exact sub_lt_iff_lt_add'.mpr (lt_of_le_of_lt ha.2 (add_lt_add_left ht.1 W))

/-! ## Pruning by an inexact clock -/

section Keeps

variable {α : Type*}

/-- What a lossy record keeps of the events `all`: nothing else, and every event that `must` stay,
in order. -/
structure Keeps (must : α → Bool) (all kept : List α) : Prop where
  sublist : kept.Sublist all
  covers : (all.filter must).Sublist kept

theorem keeps_nil {must : α → Bool} {all : List α} (h : ∀ a ∈ all, must a = false) :
    Keeps must all [] := by
  refine ⟨List.nil_sublist _, ?_⟩
  rw [List.filter_eq_nil_iff.mpr (by simpa using h)]

/-- Pruning keeps what must stay from then on, if the test passes it. -/
theorem Keeps.filter {must must' p : α → Bool} {all kept : List α} (h : Keeps must all kept)
    (hmono : ∀ a, must' a = true → must a = true)
    (hp : ∀ a ∈ kept, must' a = true → p a = true) : Keeps must' all (kept.filter p) := by
  refine ⟨List.filter_sublist.trans h.sublist, ?_⟩
  have hall : (all.filter must).filter must' = all.filter must' := by
    rw [List.filter_filter]
    apply List.filter_congr
    intro a _
    cases ha : must' a with
    | false => rfl
    | true => rw [hmono a ha, Bool.true_and]
  have hkept : (kept.filter p).filter must' = kept.filter must' := by
    rw [List.filter_filter]
    apply List.filter_congr
    intro a hmem
    cases ha : must' a with
    | false => rfl
    | true => rw [hp a hmem ha, Bool.true_and]
  have hsub := h.covers.filter must'
  rw [hall, ← hkept] at hsub
  exact hsub.trans List.filter_sublist

/-- Less has to stay. -/
theorem Keeps.mono {must must' : α → Bool} {all kept : List α} (h : Keeps must all kept)
    (hmono : ∀ a, must' a = true → must a = true) : Keeps must' all kept := by
  have hfilter := h.filter (p := fun _ => true) hmono fun _ _ _ => rfl
  rwa [List.filter_true] at hfilter

/-- A new event is recorded. -/
theorem Keeps.concat {must : α → Bool} {all kept : List α} (h : Keeps must all kept) (a : α) :
    Keeps must (all ++ [a]) (kept ++ [a]) := by
  refine ⟨h.sublist.append_right [a], ?_⟩
  rw [List.filter_append]
  exact h.covers.append List.filter_sublist

/-- The record counts at least the events that must stay. -/
theorem Keeps.countP_le_length {must : α → Bool} {all kept : List α} (h : Keeps must all kept) :
    all.countP must ≤ kept.length := by
  rw [List.countP_eq_length_filter]
  exact h.covers.length_le

/-- The record counts at most the events with a property that everything in it has. -/
theorem Keeps.length_le_countP {must p : α → Bool} {all kept : List α} (h : Keeps must all kept)
    (hp : ∀ a ∈ kept, p a = true) : kept.length ≤ all.countP p := by
  rw [← List.countP_eq_length.mpr hp]
  exact h.sublist.countP_le

end Keeps

end SlidingWindow
