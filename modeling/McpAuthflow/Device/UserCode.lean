import McpAuthflow.Foundations.Text
import Mathlib.Analysis.SpecialFunctions.Log.Base

/-! # User codes: `generate_user_code` and `normalize_user_code` (`mcp_authflow/device.py`)

A user code is groups of letters between separators. `normalize_user_code` drops everything that is
not alphanumeric from what the user typed, upper-cases the rest and puts the separators back, if the
length is right. **`normalizeUserCode_matches`**: a code is found again exactly from the inputs that
have its letters. -/

namespace McpAuthflow.Device

/-! ## The functions -/

/-- `_USER_CODE_ALPHABET`. -/
def userCodeAlphabet : PyStr := PyStr.ofString "BCDFGHJKLMNPQRSTVWXZ"

/-- `_MIN_USER_CODE_ENTROPY_BITS`. -/
def minUserCodeEntropyBits : ℕ := 20

/-- The `ValueError`s of `generate_user_code`. -/
inductive UserCodeError where
  /-- `groups and group_size must be >= 1` -/
  | badGroups
  /-- `user_code entropy {entropy_bits:.1f} bits is below the RFC 8628 §6.1 minimum of 20 bits;
  increase groups or group_size`, for a code of `length` letters. -/
  | lowEntropy (length : ℕ)

/-- What `secrets.choice(_USER_CODE_ALPHABET)` returns. -/
abbrev Letter := {c : CodePoint // c ∈ userCodeAlphabet}

/-- `entropy_bits < _MIN_USER_CODE_ENTROPY_BITS` for a code of `length` letters. Four letters have
17.3 bits and five have 21.6, so the rounding of `math.log2` plays no part. -/
def lowEntropy (length : ℕ) : Prop := userCodeAlphabet.length ^ length < 2 ^ minUserCodeEntropyBits

instance (length : ℕ) : Decidable (lowEntropy length) := inferInstanceAs (Decidable (_ < _))

/-- `generate_user_code`; the random choices are taken from `choice`, in the order they are made. -/
def generateUserCode (groups groupSize : ℤ) (separator : PyStr) (choice : ℕ → Letter) :
    Except UserCodeError PyStr :=
  if groups < 1 ∨ groupSize < 1 then .error .badGroups
  else if lowEntropy (groups * groupSize).toNat then
    .error (.lowEntropy (groups * groupSize).toNat)
  else
    let chunks := (List.range groups.toNat).map fun i =>
      (List.range groupSize.toNat).map fun j => (choice (i * groupSize.toNat + j)).val
    .ok (separator.intercalate chunks)

/-- `normalize_user_code`. -/
def normalizeUserCode (unicode : UnicodeTables) (userCode : PyStr) (groups groupSize : ℤ)
    (separator : PyStr) : PyStr :=
  let cleaned := (userCode.filter unicode.isAlnum).flatMap unicode.upper
  if (cleaned.length : ℤ) ≠ groups * groupSize then cleaned
  else separator.intercalate (cleaned.groupsOf groups.toNat groupSize.toNat)

/-! ## The entropy floor -/

/-- The floor, as the source computes it: `math.log2(len(_USER_CODE_ALPHABET)) * length`. -/
theorem lowEntropy_iff_logb (length : ℕ) :
    lowEntropy length ↔
      Real.logb 2 userCodeAlphabet.length * length < (minUserCodeEntropyBits : ℝ) := by
  have hlen : (0 : ℝ) < userCodeAlphabet.length := by
    simp [userCodeAlphabet, PyStr.ofString]
  rw [mul_comm, ← Real.logb_pow, Real.logb_lt_iff_lt_rpow one_lt_two (pow_pos hlen _),
    Real.rpow_natCast, lowEntropy]
  exact_mod_cast Iff.rfl

/-- A code needs five letters. -/
theorem lowEntropy_iff (length : ℕ) : lowEntropy length ↔ length < 5 := by
  have hlen : userCodeAlphabet.length = 20 := by simp [userCodeAlphabet, PyStr.ofString]
  rw [lowEntropy, hlen, minUserCodeEntropyBits]
  constructor
  · intro hlow
    by_contra hlong
    have hfive : 20 ^ 5 ≤ 20 ^ length := Nat.pow_le_pow_right (by omega) (by omega)
    omega
  · intro hshort
    have hfour : 20 ^ length ≤ 20 ^ 4 := Nat.pow_le_pow_right (by omega) (by omega)
    omega

/-! ## What a user code is made of -/

/-- `generate_user_code` can return `code`. -/
def Issued (groups groupSize : ℤ) (separator code : PyStr) : Prop :=
  ∃ choice, generateUserCode groups groupSize separator choice = .ok code

/-- The letters of a user code, in order. -/
def lettersOf (code : PyStr) : PyStr := code.filter fun c => decide (c ∈ userCodeAlphabet)

/-- The letters and digits the user typed, in order and upper-cased. -/
def typedLetters (x : PyStr) : PyStr :=
  (x.filter CodePoint.isAsciiAlnum).map CodePoint.asciiUpper

/-- The input is ASCII. -/
def IsAscii (x : PyStr) : Prop := ∀ c ∈ x, c.IsAscii

/-- A letter of a user code is an upper-case one. -/
theorem letter_upper {c : CodePoint} (h : c ∈ userCodeAlphabet) :
    c.isAsciiAlnum = true ∧ c.asciiUpper = c := by
  have hall : (userCodeAlphabet.all fun c => c.isAsciiAlnum && c.asciiUpper == c) = true := by
    decide +kernel
  simpa using List.all_eq_true.mp hall c h

section

variable {unicode : UnicodeTables} {groups groupSize : ℤ} {separator code : PyStr}

theorem isAlnum_letter {c : CodePoint} (h : c ∈ userCodeAlphabet) : unicode.isAlnum c = true := by
  have hletter := (letter_upper h).1
  rw [unicode.isAlnum_ascii c (CodePoint.isAscii_of_isAsciiAlnum hletter), hletter]

theorem upper_letter {c : CodePoint} (h : c ∈ userCodeAlphabet) : unicode.upper c = [c] := by
  obtain ⟨halnum, hupper⟩ := letter_upper h
  rw [unicode.upper_ascii c (CodePoint.isAscii_of_isAsciiAlnum halnum), hupper]

/-- **An issued code** is made of groups of letters, as many and as long as asked for. -/
theorem groups_of_issued (h : Issued groups groupSize separator code) :
    ∃ words : List PyStr, code = separator.intercalate words ∧ (words.length : ℤ) = groups ∧
      0 ≤ groupSize ∧ (∀ w ∈ words, (w.length : ℤ) = groupSize) ∧
      ∀ w ∈ words, ∀ c ∈ w, c ∈ userCodeAlphabet := by
  obtain ⟨choice, hchoice⟩ := h
  unfold generateUserCode at hchoice
  split_ifs at hchoice with hbad hlow
  refine ⟨_, (Except.ok.inj hchoice).symm, ?_, by omega, ?_, ?_⟩
  · rw [List.length_map, List.length_range]
    omega
  · intro w hw
    obtain ⟨i, -, rfl⟩ := List.mem_map.mp hw
    rw [List.length_map, List.length_range]
    omega
  · intro w hw c hc
    obtain ⟨i, -, rfl⟩ := List.mem_map.mp hw
    obtain ⟨j, -, rfl⟩ := List.mem_map.mp hc
    exact (choice (i * groupSize.toNat + j)).property

/-- The number of letters of groups of one size. -/
theorem length_flatten_groups {words : List PyStr}
    (hsize : ∀ w ∈ words, (w.length : ℤ) = groupSize) :
    (words.flatten.length : ℤ) = words.length * groupSize := by
  induction words with
  | nil => simp
  | cons w words ih =>
    obtain ⟨hw, hws⟩ := List.forall_mem_cons.mp hsize
    rw [List.flatten_cons, List.length_append, Nat.cast_add, ih hws, hw, List.length_cons,
      Nat.cast_add, Nat.cast_one]
    ring

/-! ## Matching -/

/-- What `normalize_user_code` cleans an input to: `cleaned`. -/
def cleanedLetters (unicode : UnicodeTables) (x : PyStr) : PyStr :=
  (x.filter unicode.isAlnum).flatMap unicode.upper

theorem normalizeUserCode_eq (x : PyStr) :
    normalizeUserCode unicode x groups groupSize separator =
      if ((cleanedLetters unicode x).length : ℤ) ≠ groups * groupSize then cleanedLetters unicode x
      else separator.intercalate
        ((cleanedLetters unicode x).groupsOf groups.toNat groupSize.toNat) := rfl

/-- An ASCII input is cleaned to the letters and digits typed. -/
theorem cleanedLetters_of_isAscii {x : PyStr} (hx : IsAscii x) :
    cleanedLetters unicode x = typedLetters x := by
  unfold cleanedLetters typedLetters
  rw [List.filter_congr fun c hc => unicode.isAlnum_ascii c (hx c hc)]
  have hupper : ∀ c ∈ x.filter CodePoint.isAsciiAlnum, unicode.upper c = [c.asciiUpper] :=
    fun c hc => unicode.upper_ascii c (hx c (List.mem_of_mem_filter hc))
  rw [List.flatMap_congr hupper, ← List.map_eq_flatMap]

/-- Typed letters and digits are alphanumeric. -/
theorem isAlnum_of_mem_typedLetters {x : PyStr} {c : CodePoint} (h : c ∈ typedLetters x) :
    unicode.isAlnum c = true := by
  obtain ⟨d, hd, rfl⟩ := List.mem_map.mp h
  have halnum := CodePoint.isAsciiAlnum_asciiUpper (List.mem_filter.mp hd).2
  rw [unicode.isAlnum_ascii _ (CodePoint.isAscii_of_isAsciiAlnum halnum), halnum]

/-- The alphanumeric characters of a normalized input are those it was cleaned to. -/
theorem filter_normalizeUserCode (hsep : ∀ c ∈ separator, unicode.isAlnum c = false)
    (hgroups : 0 ≤ groups) (hsize : 0 ≤ groupSize) {x : PyStr}
    (hclean : ∀ c ∈ cleanedLetters unicode x, unicode.isAlnum c = true) :
    (normalizeUserCode unicode x groups groupSize separator).filter unicode.isAlnum
      = cleanedLetters unicode x := by
  have hself := List.filter_eq_self.mpr hclean
  rw [normalizeUserCode_eq]
  split_ifs with hlen
  · exact hself
  · have hlen' : (cleanedLetters unicode x).length = groups.toNat * groupSize.toNat := by
      zify
      rw [Int.toNat_of_nonneg hgroups, Int.toNat_of_nonneg hsize]
      exact not_ne_iff.mp hlen
    rw [List.filter_intercalate hsep, List.flatten_groupsOf hlen', hself]

/-- The letters of an issued code are those of its groups, whichever alphanumeric test picks
them. -/
theorem filter_intercalate_letters {p : CodePoint → Bool} (hsep : ∀ c ∈ separator, p c = false)
    {words : List PyStr} (hletters : ∀ w ∈ words, ∀ c ∈ w, p c = true) :
    (separator.intercalate words).filter p = words.flatten := by
  rw [List.filter_intercalate hsep, List.filter_eq_self]
  intro c hc
  obtain ⟨w, hw, hcw⟩ := List.mem_flatten.mp hc
  exact hletters w hw c hcw

/-- **An input is normalized to a code of `words` iff it is cleaned to their letters.** -/
theorem normalizeUserCode_eq_intercalate_iff (hsep : ∀ c ∈ separator, unicode.isAlnum c = false)
    {words : List PyStr} (hgroups : (words.length : ℤ) = groups)
    (hsize : ∀ w ∈ words, (w.length : ℤ) = groupSize) (hpos : 0 ≤ groupSize)
    (hletters : ∀ w ∈ words, ∀ c ∈ w, unicode.isAlnum c = true) {x : PyStr}
    (hclean : ∀ c ∈ cleanedLetters unicode x, unicode.isAlnum c = true) :
    normalizeUserCode unicode x groups groupSize separator = separator.intercalate words ↔
      cleanedLetters unicode x = words.flatten := by
  constructor
  · -- the separators fall out again, since none of their characters is alphanumeric
    intro heq
    calc cleanedLetters unicode x
        = (normalizeUserCode unicode x groups groupSize separator).filter unicode.isAlnum :=
          (filter_normalizeUserCode hsep (by omega) hpos hclean).symm
      _ = (separator.intercalate words).filter unicode.isAlnum := by rw [heq]
      _ = words.flatten := filter_intercalate_letters hsep hletters
  · -- the right number of letters, so the groups are cut where they were joined
    intro hcleaned
    have hlen : ((cleanedLetters unicode x).length : ℤ) = groups * groupSize := by
      rw [hcleaned, length_flatten_groups hsize, hgroups]
    have hwords : groups.toNat = words.length := by omega
    have hword : ∀ w ∈ words, w.length = groupSize.toNat := by
      intro w hw
      have := hsize w hw
      omega
    rw [normalizeUserCode_eq, if_neg (not_not_intro hlen), hcleaned, hwords,
      List.groupsOf_flatten hword]

end

/-- **What the normalization is for**: an issued code is found again from the ASCII inputs that have
its letters, from no other, and from the code itself. -/
structure MatchedExactly (unicode : UnicodeTables) (groups groupSize : ℤ) (separator code : PyStr) :
    Prop where
  exact : ∀ x, IsAscii x →
    (normalizeUserCode unicode x groups groupSize separator = code ↔
      typedLetters x = lettersOf code)
  self : normalizeUserCode unicode code groups groupSize separator = code
  /-- An input of another length matches no issued code at all. -/
  neverCollides : ∀ x, IsAscii x → ((typedLetters x).length : ℤ) ≠ groups * groupSize →
    ∀ other, Issued groups groupSize separator other →
      normalizeUserCode unicode x groups groupSize separator ≠ other

section

variable {unicode : UnicodeTables} {groups groupSize : ℤ} {separator code : PyStr}

/-- A letter of the alphabet is no part of a separator. -/
theorem notMem_alphabet_of_separator (hsep : ∀ c ∈ separator, unicode.isAlnum c = false)
    {c : CodePoint} (hc : c ∈ separator) : decide (c ∈ userCodeAlphabet) = false := by
  rw [decide_eq_false_iff_not]
  intro hletter
  have halnum : unicode.isAlnum c = true := isAlnum_letter hletter
  rw [hsep c hc] at halnum
  cases halnum

/-- The letters of a code of groups of letters. -/
theorem lettersOf_intercalate (hsep : ∀ c ∈ separator, unicode.isAlnum c = false)
    {words : List PyStr} (hletters : ∀ w ∈ words, ∀ c ∈ w, c ∈ userCodeAlphabet) :
    lettersOf (separator.intercalate words) = words.flatten :=
  filter_intercalate_letters (fun _ hc => notMem_alphabet_of_separator hsep hc)
    fun w hw c hc => decide_eq_true (hletters w hw c hc)

/-- An input cleaned to letters and digits is normalized to an issued code iff it has the letters of
the code. -/
theorem normalizeUserCode_eq_iff (hsep : ∀ c ∈ separator, unicode.isAlnum c = false)
    (hissued : Issued groups groupSize separator code) {x : PyStr}
    (hclean : ∀ c ∈ cleanedLetters unicode x, unicode.isAlnum c = true) :
    normalizeUserCode unicode x groups groupSize separator = code ↔
      cleanedLetters unicode x = lettersOf code := by
  obtain ⟨words, rfl, hgroups, hpos, hsize, hletters⟩ := groups_of_issued hissued
  rw [lettersOf_intercalate hsep hletters]
  exact normalizeUserCode_eq_intercalate_iff hsep hgroups hsize hpos
    (fun w hw c hc => isAlnum_letter (hletters w hw c hc)) hclean

/-- An issued code is cleaned to its letters. -/
theorem cleanedLetters_issued (hsep : ∀ c ∈ separator, unicode.isAlnum c = false)
    (hissued : Issued groups groupSize separator code) :
    cleanedLetters unicode code = lettersOf code := by
  have hfilter : code.filter unicode.isAlnum = lettersOf code := by
    obtain ⟨words, rfl, -, -, -, hletters⟩ := groups_of_issued hissued
    rw [lettersOf_intercalate hsep hletters]
    exact filter_intercalate_letters hsep fun w hw c hc => isAlnum_letter (hletters w hw c hc)
  have hupper : ∀ c ∈ lettersOf code, unicode.upper c = [c] :=
    fun c hc => upper_letter (of_decide_eq_true (List.mem_filter.mp hc).2)
  rw [cleanedLetters, hfilter, List.flatMap_congr hupper, List.flatMap_singleton']

/-- The letters of an issued code are as many as asked for. -/
theorem length_lettersOf_issued (hissued : Issued groups groupSize separator code)
    (hsep : ∀ c ∈ separator, unicode.isAlnum c = false) :
    ((lettersOf code).length : ℤ) = groups * groupSize := by
  obtain ⟨words, rfl, hgroups, -, hsize, hletters⟩ := groups_of_issued hissued
  rw [lettersOf_intercalate hsep hletters, length_flatten_groups hsize, hgroups]

/-- **User codes are matched exactly through normalization**, for all groups and sizes that
`generate_user_code` accepts, every separator without alphanumeric characters and every code it can
return. -/
theorem normalizeUserCode_matches (hsep : ∀ c ∈ separator, unicode.isAlnum c = false)
    (hissued : Issued groups groupSize separator code) :
    MatchedExactly unicode groups groupSize separator code := by
  -- `code` and every other issued code alike
  have hascii : ∀ x, IsAscii x → ∀ other, Issued groups groupSize separator other →
      (normalizeUserCode unicode x groups groupSize separator = other ↔
        typedLetters x = lettersOf other) := by
    intro x hx other hother
    have hcleaned : cleanedLetters unicode x = typedLetters x := cleanedLetters_of_isAscii hx
    rw [← hcleaned]
    exact normalizeUserCode_eq_iff hsep hother fun c hc =>
      isAlnum_of_mem_typedLetters (hcleaned ▸ hc)
  refine ⟨fun x hx => hascii x hx code hissued, ?_, ?_⟩
  · have hcleaned := cleanedLetters_issued hsep hissued
    refine (normalizeUserCode_eq_iff hsep hissued fun c hc => ?_).mpr hcleaned
    rw [hcleaned] at hc
    exact isAlnum_letter (of_decide_eq_true (List.mem_filter.mp hc).2)
  · intro x hx hlen other hother heq
    rw [(hascii x hx other hother).mp heq] at hlen
    exact hlen (length_lettersOf_issued hother hsep)

end

/-- A code of the default shape, `"WDWD-WDWD"`. -/
theorem normalizeUserCode_matches_default :
    MatchedExactly UnicodeTables.ascii 2 4 (PyStr.ofString "-") (PyStr.ofString "WDWD-WDWD") := by
  have hsep : ∀ c ∈ PyStr.ofString "-", UnicodeTables.ascii.isAlnum c = false := by
    intro c hc
    obtain rfl : c = CodePoint.ofChar '-' := by simpa [PyStr.ofString] using hc
    rfl
  refine normalizeUserCode_matches hsep ⟨fun n => if n % 2 = 0 then
    ⟨CodePoint.ofChar 'W', by decide +kernel⟩ else ⟨CodePoint.ofChar 'D', by decide +kernel⟩, ?_⟩
  unfold generateUserCode
  rw [if_neg (by decide), if_neg (by decide)]
  rfl

end McpAuthflow.Device
