import McpAuthflow.Device.UserCode
import McpAuthflow.Foundations.Chances
import Mathlib.SetTheory.Cardinal.Finite

/-! # Guessing user codes

`generate_user_code` draws each letter of a code by itself, and refuses shapes with too few letters.
The letters can be read off the code, whatever the separator
(`choices_eq_of_generateUserCode`), so that the codes of a shape are as likely as its letters, and
an input is normalized to one code at most.

Hence whoever enters codes without knowing one finds any of the codes that are pending with a chance
of at most one in 2²⁰ for each of them and each attempt: **`codes_hard_to_guess`**. -/

namespace McpAuthflow.Device

open Chances

/-- The letters of a code of groups, as they are drawn. -/
abbrev Draw (groups groupSize : ℤ) := Fin (groups * groupSize).toNat → Letter

/-- The draws of the codes that `normalize_user_code` finds for an input. -/
def foundBy (unicode : UnicodeTables) (groups groupSize : ℤ) (separator input : PyStr) :
    Set (Draw groups groupSize) :=
  {letters | ∃ choice, (∀ i, choice i.val = letters i) ∧
    generateUserCode groups groupSize separator choice
      = .ok (normalizeUserCode unicode input groups groupSize separator)}

section

variable {groups groupSize : ℤ} {separator code : PyStr} {choice choice' : ℕ → Letter}

/-- **A code shows its letters**, whatever the separator. -/
theorem choices_eq_of_generateUserCode
    (h : generateUserCode groups groupSize separator choice = .ok code)
    (h' : generateUserCode groups groupSize separator choice' = .ok code) :
    ∀ k < (groups * groupSize).toNat, choice k = choice' k := by
  unfold generateUserCode at h h'
  split_ifs at h with hbad hlow
  rw [if_neg hbad, if_neg hlow] at h'
  have hjoined := (Except.ok.inj h).trans (Except.ok.inj h').symm
  -- the groups have the same size, and so do the codes
  have hchunks := List.intercalate_inj_of_length groupSize.toNat (by simp) (by simp)
    (by simp) hjoined
  intro k hk
  have hsize : 0 < groupSize.toNat := by omega
  have htotal : (groups * groupSize).toNat = groups.toNat * groupSize.toNat :=
    Int.toNat_mul (by omega) (by omega)
  have hgroup : k / groupSize.toNat < groups.toNat := by
    rw [Nat.div_lt_iff_lt_mul hsize]
    omega
  have hwords := List.map_inj_left.mp hchunks _ (List.mem_range.mpr hgroup)
  have hletters := List.map_inj_left.mp hwords _ (List.mem_range.mpr (Nat.mod_lt k hsize))
  rw [Nat.div_add_mod'] at hletters
  exact Subtype.ext hletters

/-- An input finds one code at most. -/
theorem foundBy_subsingleton (unicode : UnicodeTables) (groups groupSize : ℤ)
    (separator input : PyStr) :
    (foundBy unicode groups groupSize separator input).Subsingleton := by
  rintro letters ⟨choice, hchoice, hcode⟩ letters' ⟨choice', hchoice', hcode'⟩
  funext i
  rw [← hchoice, ← hchoice']
  exact choices_eq_of_generateUserCode hcode hcode' i.val i.isLt

/-- The number of letters. -/
theorem card_letter : Nat.card Letter = userCodeAlphabet.length := by
  have hnodup : userCodeAlphabet.Nodup := by decide +kernel
  rw [Nat.card_eq_fintype_card,
    Fintype.card_of_subtype userCodeAlphabet.toFinset fun c => List.mem_toFinset,
    List.toFinset_card_of_nodup hnodup]

/-- **The entropy floor**: a shape that is not refused has at least 2²⁰ draws. -/
theorem le_card_draw (h : generateUserCode groups groupSize separator choice = .ok code) :
    2 ^ minUserCodeEntropyBits ≤ Nat.card (Draw groups groupSize) := by
  unfold generateUserCode at h
  split_ifs at h with hbad hlow
  rw [Nat.card_fun, card_letter, Nat.card_eq_fintype_card, Fintype.card_fin]
  exact not_lt.mp hlow

end

/-- One attempt at one code. -/
theorem atMost_foundBy (unicode : UnicodeTables) (groups groupSize : ℤ)
    (separator input : PyStr) :
    AtMost (foundBy unicode groups groupSize separator input) 1 (2 ^ minUserCodeEntropyBits) := by
  refine atMost_of_subsingleton (foundBy_subsingleton unicode groups groupSize separator input) ?_
  rintro ⟨letters, choice, -, hcode⟩
  exact le_card_draw hcode

/-- **User codes are hard to guess**: of the letters that any number of pending codes may have, the
inputs find one with a chance of at most one in 2²⁰ for each code and each input. -/
theorem codes_hard_to_guess (unicode : UnicodeTables) (groups groupSize : ℤ) (separator : PyStr)
    (pending : ℕ) (inputs : List PyStr) :
    AtMost {codes : Fin pending → Draw groups groupSize |
        ∃ i, ∃ input ∈ inputs, codes i ∈ foundBy unicode groups groupSize separator input}
      (pending * inputs.length) (2 ^ minUserCodeEntropyBits) := by
  have hinputs : AtMost {letters | ∃ input ∈ inputs,
      letters ∈ foundBy unicode groups groupSize separator input} inputs.length
      (2 ^ minUserCodeEntropyBits) := by
    simpa using atMost_exists_mem inputs (atMost_foundBy unicode groups groupSize separator)
  exact atMost_exists_fin fun i => hinputs.eval i

end McpAuthflow.Device
