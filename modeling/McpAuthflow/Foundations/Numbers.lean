import Mathlib.Data.Rat.Floor
import Mathlib.Tactic.Linarith

/-! # Python's `int()` on exact times

Clock readings are exact rationals. `int(x)` drops the fraction of `x`, towards zero; at the
readings of `time.time()`, which counts from the epoch, it is the floor. -/

/-- Python's `int(x)`: truncation towards zero. -/
def pyInt (x : ℚ) : ℤ := if 0 ≤ x then ⌊x⌋ else ⌈x⌉

/-- At a nonnegative reading `int` is the floor. -/
theorem pyInt_of_nonneg {x : ℚ} (h : 0 ≤ x) : pyInt x = ⌊x⌋ := if_pos h

/-- Truncation loses less than one. -/
theorem lt_pyInt_add_one (x : ℚ) : x < pyInt x + 1 := by
  unfold pyInt
  split
  · exact Int.lt_floor_add_one x
  · exact lt_of_le_of_lt (Int.le_ceil x) (lt_add_one _)

/-- Truncation of a reading that is not positive is not positive. -/
theorem pyInt_nonpos {x : ℚ} (h : x ≤ 0) : pyInt x ≤ 0 := by
  unfold pyInt
  split
  · rw [Int.floor_le_iff]
    push_cast
    linarith
  · exact Int.ceil_le.mpr (by exact_mod_cast h)
