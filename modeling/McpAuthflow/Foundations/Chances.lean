import Mathlib.Data.Set.Card
import Mathlib.Logic.Equiv.Prod
import Mathlib.Tactic.Ring

/-! # Chances, by counting

Finitely many outcomes are equally likely. An event has a chance of at most `k` in `n` (`AtMost`)
when so many of them are in it:

* **`atMost_of_subsingleton`** — one of at least `n` outcomes;
* **`AtMost.union`** — chances add up at most, and so they do over the members of a list
  (**`atMost_exists_mem`**) and over finitely many indices (**`atMost_exists_fin`**);
* **`AtMost.eval`** — an event about one of several independent draws. -/

namespace Chances

variable {α β ι : Type*}

/-- **At most `k` in `n`** of the outcomes are in the event. -/
def AtMost (event : Set α) (k n : ℕ) : Prop := event.ncard * n ≤ k * Nat.card α

/-- Nothing has no chance. -/
theorem atMost_empty (n : ℕ) : AtMost (∅ : Set α) 0 n := by
  simp [AtMost]

/-- One outcome of at least `n`. -/
theorem atMost_of_subsingleton {event : Set α} (hevent : event.Subsingleton) {n : ℕ}
    (hcard : event.Nonempty → n ≤ Nat.card α) : AtMost event 1 n := by
  rcases event.eq_empty_or_nonempty with rfl | hne
  · simp [AtMost]
  · rw [AtMost, Set.ncard_eq_one.mpr (Set.exists_eq_singleton_iff_nonempty_subsingleton.mpr
      ⟨hne, hevent⟩), one_mul, one_mul]
    exact hcard hne

/-- **The chance of either of two events** is at most the sum of theirs. -/
theorem AtMost.union {event event' : Set α} {k k' n : ℕ} (h : AtMost event k n)
    (h' : AtMost event' k' n) : AtMost (event ∪ event') (k + k') n := by
  unfold AtMost at h h' ⊢
  calc (event ∪ event').ncard * n
      ≤ (event.ncard + event'.ncard) * n := Nat.mul_le_mul_right n (Set.ncard_union_le _ _)
    _ = event.ncard * n + event'.ncard * n := Nat.add_mul _ _ _
    _ ≤ k * Nat.card α + k' * Nat.card α := Nat.add_le_add h h'
    _ = (k + k') * Nat.card α := (Nat.add_mul _ _ _).symm

/-- One of the members of a list. -/
theorem atMost_exists_mem {event : ι → Set α} {k n : ℕ} (xs : List ι)
    (h : ∀ x, AtMost (event x) k n) : AtMost {a | ∃ x ∈ xs, a ∈ event x} (xs.length * k) n := by
  induction xs with
  | nil =>
    rw [List.length_nil, Nat.zero_mul]
    simpa using atMost_empty n
  | cons x xs ih =>
    have hsplit : {a | ∃ y ∈ x :: xs, a ∈ event y} = event x ∪ {a | ∃ y ∈ xs, a ∈ event y} := by
      ext a
      simp
    have hsum : (x :: xs).length * k = k + xs.length * k := by
      rw [List.length_cons]
      ring
    rw [hsplit, hsum]
    exact (h x).union ih

/-- One of finitely many indices. -/
theorem atMost_exists_fin {m : ℕ} {event : Fin m → Set α} {k n : ℕ}
    (h : ∀ i, AtMost (event i) k n) : AtMost {a | ∃ i, a ∈ event i} (m * k) n := by
  have hlist := atMost_exists_mem (List.finRange m) h
  simpa using hlist

/-- **An event about one of several draws** has the chance it has for one draw. -/
theorem AtMost.eval [Finite ι] {event : Set β} {k n : ℕ} (h : AtMost event k n) (i : ι) :
    AtMost {draws : ι → β | draws i ∈ event} k n := by
  classical
  -- the draw in question, and the others
  have hevent : {draws : ι → β | draws i ∈ event}
      = (Equiv.funSplitAt i β).symm '' (event ×ˢ Set.univ) := by
    rw [Equiv.image_symm_eq_preimage]
    ext draws
    simp [Equiv.funSplitAt]
  unfold AtMost at h ⊢
  rw [hevent, Set.ncard_image_of_injective _ (Equiv.injective _), Set.ncard_prod, Set.ncard_univ,
    Nat.card_congr (Equiv.funSplitAt i β), Nat.card_prod]
  calc event.ncard * Nat.card ({j // j ≠ i} → β) * n
      = event.ncard * n * Nat.card ({j // j ≠ i} → β) := by ring
    _ ≤ k * Nat.card β * Nat.card ({j // j ≠ i} → β) := Nat.mul_le_mul_right _ h
    _ = k * (Nat.card β * Nat.card ({j // j ≠ i} → β)) := by ring

end Chances
