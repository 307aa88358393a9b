import McpAuthflow.Foundations.Lists
import Mathlib.Data.Option.Basic
import Mathlib.Tactic.Common

/-! # A register: the value the latest write left

Events act on one register. `write e` is the value an event writes, if it writes; `clears e v` says
whether an event that does not write removes the value `v`. The value after a history can be
computed event by event (`Register.current`) or read off the history at once: it is the value of the
latest write, provided nothing since has cleared it (`Register.Latest`). The two agree:
**`Register.current_eq_some_iff`**. -/

namespace Register

variable {ε ν : Type*} (write : ε → Option ν) (clears : ε → ν → Bool)

/-- The value after one more event. -/
def update (value : Option ν) (e : ε) : Option ν :=
  match write e with
  | some v => some v
  | none => value.filter fun v => !clears e v

/-- The value after a history. -/
def current (es : List ε) : Option ν := es.foldl (update write clears) none

/-- The latest write of the history wrote `v`, and no event since has cleared it. -/
def Latest (es : List ε) (v : ν) : Prop :=
  ∃ pre e post, es = pre ++ e :: post ∧ write e = some v ∧
    ∀ e' ∈ post, write e' = none ∧ clears e' v = false

@[simp] theorem current_nil : current write clears [] = none := rfl

@[simp] theorem current_concat (es : List ε) (e : ε) :
    current write clears (es ++ [e]) = update write clears (current write clears es) e := by
  simp [current]

variable {write clears}

/-- A write sets the register. -/
theorem update_of_write {e : ε} {v : ν} (h : write e = some v) (value : Option ν) :
    update write clears value e = some v := by
  rw [update, h]

/-- An event that writes nothing removes what it clears. -/
theorem update_of_not_write {e : ε} (h : write e = none) (value : Option ν) :
    update write clears value e = value.filter fun v => !clears e v := by
  rw [update, h]

/-- An event that writes and clears nothing keeps the register. -/
theorem update_of_keep {e : ε} (h : write e = none) (hc : ∀ v, clears e v = false)
    (value : Option ν) : update write clears value e = value := by
  rw [update_of_not_write h]
  cases value with
  | none => rfl
  | some v => simp [Option.filter, hc]

/-- An event that clears everything empties the register. -/
theorem update_of_clear {e : ε} (h : write e = none) (hc : ∀ v, clears e v = true)
    (value : Option ν) : update write clears value e = none := by
  rw [update_of_not_write h]
  cases value with
  | none => rfl
  | some v => simp [Option.filter, hc]

theorem not_latest_nil (v : ν) : ¬ Latest write clears [] v := by
  rintro ⟨pre, e, post, h, -⟩
  simp at h

/-- The latest write of a history that ends in a write is that one. -/
theorem latest_concat_of_write {es : List ε} {e : ε} {v w : ν} (he : write e = some w) :
    Latest write clears (es ++ [e]) v ↔ w = v := by
  constructor
  · rintro ⟨pre, e', post, heq, hw, hpost⟩
    rcases List.concat_split heq with ⟨-, rfl, -⟩ | ⟨post', rfl, -⟩
    · exact Option.some_inj.mp (he.symm.trans hw)
    · -- the last event would be a write after the latest one
      have hnone := (hpost e (by simp)).1
      rw [he] at hnone
      cases hnone
  · rintro rfl
    exact ⟨es, e, [], rfl, he, by simp⟩

/-- An event that does not write keeps the latest write, unless it clears it. -/
theorem latest_concat_of_not_write {es : List ε} {e : ε} {v : ν} (he : write e = none) :
    Latest write clears (es ++ [e]) v ↔ Latest write clears es v ∧ clears e v = false := by
  constructor
  · rintro ⟨pre, e', post, heq, hw, hpost⟩
    rcases List.concat_split heq with ⟨-, rfl, -⟩ | ⟨post', rfl, hsplit⟩
    · rw [hw] at he
      cases he
    · refine ⟨⟨pre, e', post', hsplit, hw, ?_⟩, (hpost e (by simp)).2⟩
      intro f hf
      exact hpost f (List.mem_append_left _ hf)
  · rintro ⟨⟨pre, e', post, rfl, hw, hpost⟩, hclear⟩
    refine ⟨pre, e', post ++ [e], by simp, hw, ?_⟩
    intro f hf
    rcases List.mem_append.mp hf with hf | hf
    · exact hpost f hf
    · rw [List.mem_singleton.mp hf]
      exact ⟨he, hclear⟩

/-- **The two readings of a history agree.** -/
theorem current_eq_some_iff (es : List ε) (v : ν) :
    current write clears es = some v ↔ Latest write clears es v := by
  induction es using List.reverseRecOn with
  | nil => simp [not_latest_nil]
  | append_singleton es e ih =>
    rw [current_concat, update]
    cases he : write e with
    | some w => rw [latest_concat_of_write he, Option.some_inj]
    | none =>
      rw [latest_concat_of_not_write he, ← ih]
      simp [Option.filter_eq_some_iff]

end Register
