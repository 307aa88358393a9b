import McpAuthflow.Foundations.Lists
import Mathlib.Algebra.GroupWithZero.Nat
import Mathlib.Data.Fin.Basic
import Mathlib.Data.List.Basic
import Mathlib.Tactic.Common

/-! # Python text: code points, lone surrogates and strict UTF-8

A Python `str` is a sequence of Unicode **code points**, lone surrogates included: a JSON escape
such as `\ud800` yields one, and no UTF-8 text does. Lean's `String` has no such values, so text
that comes from outside is a `PyStr` here and Lean literals are injected by `PyStr.ofString`.

* **`split_joinWords`** — joining words with blanks and splitting at whitespace is the identity;
* **`encodeUtf8_isSome_iff`** — strict UTF-8 encoding fails on lone surrogates and on nothing
  else;
* **`encodeUtf8_injective`** — different strings have different encodings;
* **`ofInt_injective`** — different integers have different decimal texts. -/

/-- A Unicode code point, surrogates included. -/
abbrev CodePoint := Fin 0x110000

instance CodePoint.neZero : NeZero 0x110000 := ⟨by decide⟩

/-- The code points U+D800 .. U+DFFF, which no Unicode scalar value uses. -/
def CodePoint.IsSurrogate (c : CodePoint) : Prop := 0xD800 ≤ c.val ∧ c.val ≤ 0xDFFF

instance (c : CodePoint) : Decidable c.IsSurrogate := inferInstanceAs (Decidable (_ ∧ _))

/-- The code point of a Unicode scalar value. -/
def CodePoint.ofChar (c : Char) : CodePoint :=
  ⟨c.toNat, by
    have h := c.valid
    have hn : c.toNat = c.val.toNat := rfl
    simp only [UInt32.isValidChar, Nat.isValidChar] at h
    omega⟩

/-- A scalar value is not a surrogate. -/
theorem CodePoint.not_isSurrogate_ofChar (c : Char) : ¬ (ofChar c).IsSurrogate := by
  have h := c.valid
  have hn : (ofChar c).val = c.val.toNat := rfl
  simp only [UInt32.isValidChar, Nat.isValidChar] at h
  simp only [IsSurrogate, hn]
  omega

theorem CodePoint.ofChar_injective : Function.Injective CodePoint.ofChar := by
  intro c d h
  have hval : (ofChar c).val = (ofChar d).val := by rw [h]
  exact Char.ext (UInt32.toNat_inj.mp hval)

/-- `str.isspace` of one code point. -/
def CodePoint.isSpace (c : CodePoint) : Bool :=
  let n := c.val
  (9 ≤ n && n ≤ 13) || (28 ≤ n && n ≤ 32) || n == 0x85 || n == 0xA0 || n == 0x1680 ||
    (0x2000 ≤ n && n ≤ 0x200A) || n == 0x2028 || n == 0x2029 || n == 0x202F || n == 0x205F ||
    n == 0x3000

/-- An ASCII character. -/
def CodePoint.IsAscii (c : CodePoint) : Prop := c.val < 128

instance (c : CodePoint) : Decidable c.IsAscii := inferInstanceAs (Decidable (_ < _))

/-- An ASCII letter or digit. -/
def CodePoint.isAsciiAlnum (c : CodePoint) : Bool :=
  let n := c.val
  (48 ≤ n && n ≤ 57) || (65 ≤ n && n ≤ 90) || (97 ≤ n && n ≤ 122)

theorem CodePoint.isAsciiAlnum_iff (c : CodePoint) :
    c.isAsciiAlnum = true ↔
      (48 ≤ c.val ∧ c.val ≤ 57) ∨ (65 ≤ c.val ∧ c.val ≤ 90) ∨ (97 ≤ c.val ∧ c.val ≤ 122) := by
  simp only [isAsciiAlnum, Bool.or_eq_true, Bool.and_eq_true, decide_eq_true_eq, or_assoc]

/-- An ASCII character in upper case. -/
def CodePoint.asciiUpper (c : CodePoint) : CodePoint :=
  if 97 ≤ c.val ∧ c.val ≤ 122 then ⟨c.val - 32, by have := c.isLt; omega⟩ else c

theorem CodePoint.isAscii_of_isAsciiAlnum {c : CodePoint} (h : c.isAsciiAlnum = true) :
    c.IsAscii := by
  rw [isAsciiAlnum_iff] at h
  show c.val < 128
  omega

/-- Upper-casing keeps a letter or digit one. -/
theorem CodePoint.isAsciiAlnum_asciiUpper {c : CodePoint} (h : c.isAsciiAlnum = true) :
    c.asciiUpper.isAsciiAlnum = true := by
  rw [isAsciiAlnum_iff] at h ⊢
  unfold asciiUpper
  split_ifs with hlower
  · show (48 ≤ c.val - 32 ∧ c.val - 32 ≤ 57) ∨ (65 ≤ c.val - 32 ∧ c.val - 32 ≤ 90) ∨
      (97 ≤ c.val - 32 ∧ c.val - 32 ≤ 122)
    omega
  · exact h

/-- The tables of the Unicode database behind `str.isalnum` and `str.upper`, which are known for
ASCII only. A character may have several upper-case ones. -/
structure UnicodeTables where
  isAlnum : CodePoint → Bool
  upper : CodePoint → List CodePoint
  isAlnum_ascii : ∀ c, c.IsAscii → isAlnum c = c.isAsciiAlnum
  upper_ascii : ∀ c, c.IsAscii → upper c = [c.asciiUpper]

/-- Tables that know no letters but the ASCII ones. -/
def UnicodeTables.ascii : UnicodeTables where
  isAlnum c := c.isAsciiAlnum
  upper c := [c.asciiUpper]
  isAlnum_ascii _ _ := rfl
  upper_ascii _ _ := rfl

/-- A Python string. -/
abbrev PyStr := List CodePoint

-- found once here, by name, for every membership test on texts and in them
instance CodePoint.lawfulBEq : LawfulBEq CodePoint := inferInstance

instance PyStr.lawfulBEq : LawfulBEq PyStr := inferInstance

namespace PyStr

/-- The Python string of a Lean literal. -/
def ofString (s : String) : PyStr := s.toList.map CodePoint.ofChar

instance : Coe String PyStr := ⟨ofString⟩

theorem ofString_injective : Function.Injective ofString := by
  intro s t h
  exact String.toList_inj.mp (List.map_injective_iff.mpr CodePoint.ofChar_injective h)

/-- Literals are equal as Python strings iff they are equal. -/
@[simp] theorem ofString_inj {s t : String} : ofString s = ofString t ↔ s = t :=
  ofString_injective.eq_iff

@[simp] theorem beq_ofString (s t : String) : (ofString s == ofString t) = (s == t) := by
  rw [Bool.eq_iff_iff, beq_iff_eq, beq_iff_eq, ofString_inj]

/-- The decimal text of an integer. -/
def ofInt (n : ℤ) : PyStr := ofString (toString n)

/-! ## Words -/

/-- `str.split()`: the maximal runs without whitespace. -/
def split (s : PyStr) : List PyStr := (s.splitOnP CodePoint.isSpace).filter fun w => !w.isEmpty

/-- `" ".join(words)`. -/
def joinWords (words : List PyStr) : PyStr := (ofString " ").intercalate words

/-- A word survives joining and splitting: it is not empty and has no whitespace. -/
def IsWord (w : PyStr) : Prop := w ≠ [] ∧ ∀ c ∈ w, CodePoint.isSpace c = false

-- the list is searched, not the million code points
instance (w : PyStr) : Decidable w.IsWord :=
  have : Decidable (∀ c ∈ w, CodePoint.isSpace c = false) := List.decidableBAll _ w
  inferInstanceAs (Decidable (_ ∧ _))

/-- **Joined words split back.** -/
theorem split_joinWords {words : List PyStr} (h : ∀ w ∈ words, IsWord w) :
    split (joinWords words) = words := by
  induction words with
  | nil => rfl
  | cons w words ih =>
    obtain ⟨hw, hws⟩ := List.forall_mem_cons.mp h
    have hne : (!w.isEmpty) = true := by simpa using hw.1
    cases words with
    | nil =>
      rw [joinWords, List.intercalate_singleton, split, List.splitOnP_eq_singleton hw.2]
      simp [hne]
    | cons v words =>
      have hjoin : joinWords (w :: v :: words) = w ++ 32 :: joinWords (v :: words) := by
        rw [joinWords, List.intercalate_cons_cons, List.append_assoc]
        rfl
      rw [hjoin, split, List.splitOnP_append_cons_of_forall_mem hw.2 32 (by decide),
        List.filter_cons_of_pos (by exact hne)]
      exact congrArg (w :: ·) (ih hws)

/-- Splitting yields words. -/
theorem isWord_of_mem_split {s w : PyStr} (h : w ∈ split s) : IsWord w := by
  obtain ⟨hmem, hne⟩ := List.mem_filter.mp h
  refine ⟨by simpa using hne, ?_⟩
  intro c hc
  exact List.eq_false_of_mem_splitOnP hmem hc

/-- **Exactly the words split back.** -/
theorem split_joinWords_iff {words : List PyStr} :
    split (joinWords words) = words ↔ ∀ w ∈ words, IsWord w := by
  constructor
  · intro h w hw
    rw [← h] at hw
    exact isWord_of_mem_split hw
  · exact split_joinWords

/-! ## Lone surrogates -/

/-- No lone surrogate occurs in the string. -/
def SurrogateFree (s : PyStr) : Prop := ∀ c ∈ s, ¬ CodePoint.IsSurrogate c

instance (s : PyStr) : Decidable s.SurrogateFree := List.decidableBAll _ s

@[simp] theorem surrogateFree_nil : SurrogateFree [] := by
  simp [SurrogateFree]

@[simp] theorem surrogateFree_append (s t : PyStr) :
    SurrogateFree (s ++ t) ↔ SurrogateFree s ∧ SurrogateFree t := by
  simp only [SurrogateFree, List.mem_append]
  constructor
  · intro h
    exact ⟨fun c hc => h c (Or.inl hc), fun c hc => h c (Or.inr hc)⟩
  · rintro ⟨hs, ht⟩ c (hc | hc)
    exacts [hs c hc, ht c hc]

/-- Literals carry no lone surrogate. -/
@[simp] theorem surrogateFree_ofString (s : String) : SurrogateFree (ofString s) := by
  intro c hc
  obtain ⟨d, -, rfl⟩ := List.mem_map.mp hc
  exact CodePoint.not_isSurrogate_ofChar d

@[simp] theorem surrogateFree_ofInt (n : ℤ) : SurrogateFree (ofInt n) :=
  surrogateFree_ofString _

/-! ## Strict UTF-8 -/

/-- The UTF-8 bytes of one code point; a surrogate has none. -/
def encodeCodePoint (c : CodePoint) : Option (List UInt8) :=
  if c.IsSurrogate then none
  else if c.val < 0x80 then some [c.val.toUInt8]
  else if c.val < 0x800 then
    some [(0xC0 + c.val / 0x40).toUInt8, (0x80 + c.val % 0x40).toUInt8]
  else if c.val < 0x10000 then
    some [(0xE0 + c.val / 0x1000).toUInt8, (0x80 + c.val / 0x40 % 0x40).toUInt8,
      (0x80 + c.val % 0x40).toUInt8]
  else
    some [(0xF0 + c.val / 0x40000).toUInt8, (0x80 + c.val / 0x1000 % 0x40).toUInt8,
      (0x80 + c.val / 0x40 % 0x40).toUInt8, (0x80 + c.val % 0x40).toUInt8]

/-- Every code point but a surrogate has a UTF-8 encoding. -/
theorem encodeCodePoint_isSome_iff (c : CodePoint) :
    (encodeCodePoint c).isSome ↔ ¬ c.IsSurrogate := by
  unfold encodeCodePoint
  split
  case isTrue h => simp [h]
  case isFalse h =>
    simp only [h, not_false_eq_true, iff_true]
    split
    · rfl
    · split
      · rfl
      · split <;> rfl

/-- `str.encode("utf-8")` with the strict error handler; `none` is `UnicodeEncodeError`. -/
def encodeUtf8 : PyStr → Option (List UInt8)
  | [] => some []
  | c :: s => do
    let bytes ← encodeCodePoint c
    let rest ← encodeUtf8 s
    return bytes ++ rest

/-- **Strict UTF-8 encoding fails exactly on lone surrogates.** -/
theorem encodeUtf8_isSome_iff (s : PyStr) : (encodeUtf8 s).isSome ↔ SurrogateFree s := by
  induction s with
  | nil => simp [encodeUtf8]
  | cons c s ih =>
    have hc := encodeCodePoint_isSome_iff c
    have hcons : SurrogateFree (c :: s) ↔ ¬ c.IsSurrogate ∧ SurrogateFree s := by
      simp [SurrogateFree]
    rw [hcons, ← hc, ← ih, encodeUtf8]
    cases encodeCodePoint c with
    | none => simp
    | some bytes => cases encodeUtf8 s <;> simp

/-- Bytes are told apart by their numbers. -/
private theorem toUInt8_inj {m n : ℕ} (hm : m < 256) (hn : n < 256)
    (h : m.toUInt8 = n.toUInt8) : m = n := by
  have htoNat := congrArg UInt8.toNat h
  have hm' : m.toUInt8.toNat = m := UInt8.toNat_ofNat_of_lt hm
  have hn' : n.toUInt8.toNat = n := UInt8.toNat_ofNat_of_lt hn
  rwa [hm', hn'] at htoNat

/-- **The encodings of code points are a prefix code**: byte strings that start with the encodings
of two code points are equal only if the code points are. -/
theorem encodeCodePoint_append_inj {c d : CodePoint} {b b' r r' : List UInt8}
    (hc : encodeCodePoint c = some b) (hd : encodeCodePoint d = some b') (h : b ++ r = b' ++ r') :
    c = d ∧ r = r' := by
  have hcmax := c.isLt
  have hdmax := d.isLt
  unfold encodeCodePoint at hc hd
  rw [Fin.ext_iff]
  split_ifs at hc hd
  all_goals
    obtain rfl := Option.some.inj hc
    obtain rfl := Option.some.inj hd
    simp only [List.cons_append, List.nil_append, List.cons.injEq] at h
    have hlead := toUInt8_inj (by omega) (by omega) h.1
  -- the leading byte tells the number of bytes
  all_goals try (exfalso; omega)
  · exact ⟨hlead, h.2⟩
  · obtain ⟨-, h1, hrest⟩ := h
    have h1 := toUInt8_inj (by omega) (by omega) h1
    exact ⟨by omega, hrest⟩
  · obtain ⟨-, h1, h2, hrest⟩ := h
    have h1 := toUInt8_inj (by omega) (by omega) h1
    have h2 := toUInt8_inj (by omega) (by omega) h2
    exact ⟨by omega, hrest⟩
  · obtain ⟨-, h1, h2, h3, hrest⟩ := h
    have h1 := toUInt8_inj (by omega) (by omega) h1
    have h2 := toUInt8_inj (by omega) (by omega) h2
    have h3 := toUInt8_inj (by omega) (by omega) h3
    exact ⟨by omega, hrest⟩

/-- A code point has at least one byte. -/
theorem encodeCodePoint_ne_nil (c : CodePoint) : encodeCodePoint c ≠ some [] := by
  unfold encodeCodePoint
  split_ifs <;> simp

/-- Encoding a string that is not empty. -/
theorem encodeUtf8_cons_eq_some {c : CodePoint} {s : PyStr} {bytes : List UInt8} :
    encodeUtf8 (c :: s) = some bytes ↔
      ∃ b r, encodeCodePoint c = some b ∧ encodeUtf8 s = some r ∧ bytes = b ++ r := by
  rw [encodeUtf8]
  cases encodeCodePoint c with
  | none => simp
  | some b => cases encodeUtf8 s <;> simp [eq_comm]

/-- **Different strings have different encodings.** -/
theorem encodeUtf8_injective {s t : PyStr} {bytes : List UInt8} (hs : encodeUtf8 s = some bytes)
    (ht : encodeUtf8 t = some bytes) : s = t := by
  induction s generalizing t bytes with
  | nil =>
    obtain rfl := Option.some.inj hs
    cases t with
    | nil => rfl
    | cons d t =>
      obtain ⟨b, r, hd, -, hbytes⟩ := encodeUtf8_cons_eq_some.mp ht
      rw [(List.append_eq_nil_iff.mp hbytes.symm).1] at hd
      exact absurd hd (encodeCodePoint_ne_nil d)
  | cons c s ih =>
    obtain ⟨b, r, hc, hr, rfl⟩ := encodeUtf8_cons_eq_some.mp hs
    cases t with
    | nil =>
      have hnil := Option.some.inj ht
      rw [(List.append_eq_nil_iff.mp hnil.symm).1] at hc
      exact absurd hc (encodeCodePoint_ne_nil c)
    | cons d t =>
      obtain ⟨b', r', hd, hr', hbytes⟩ := encodeUtf8_cons_eq_some.mp ht
      obtain ⟨rfl, rfl⟩ := encodeCodePoint_append_inj hc hd hbytes
      rw [ih hr hr']

/-- Texts that have encodings are compared by them. -/
theorem encodings_eq_iff {s t : PyStr} {a b : List UInt8} (hs : encodeUtf8 s = some a)
    (ht : encodeUtf8 t = some b) : a = b ↔ s = t := by
  constructor
  · rintro rfl
    exact encodeUtf8_injective hs ht
  · rintro rfl
    exact Option.some.inj (hs.symm.trans ht)

/-! ## Decimal texts -/

/-- The decimal text of a natural number is its digits. -/
theorem ofInt_ofNat (n : ℕ) : ofInt n = (Nat.toDigits 10 n).map CodePoint.ofChar := by
  show (Nat.repr n).toList.map CodePoint.ofChar = _
  rw [Nat.toList_repr]

/-- The decimal text of a negative number is a sign and digits. -/
theorem ofInt_negSucc (n : ℕ) :
    ofInt (Int.negSucc n) = CodePoint.ofChar '-' :: ofInt (n + 1 : ℕ) := by
  show ("-" ++ Nat.repr (n + 1)).toList.map CodePoint.ofChar = _
  rw [ofInt_ofNat, String.toList_append, Nat.toList_repr]
  rfl

/-- A decimal digit. -/
def IsDigit (c : CodePoint) : Prop := 48 ≤ c.val ∧ c.val ≤ 57

instance (c : CodePoint) : Decidable (IsDigit c) := inferInstanceAs (Decidable (_ ∧ _))

theorem isDigit_of_mem_ofInt_ofNat {n : ℕ} {c : CodePoint} (h : c ∈ ofInt n) : IsDigit c := by
  rw [ofInt_ofNat] at h
  obtain ⟨d, hd, rfl⟩ := List.mem_map.mp h
  have hdigit := Nat.isDigit_of_mem_toDigits (by decide) (by decide) hd
  simp only [Char.isDigit, Bool.and_eq_true, decide_eq_true_eq] at hdigit
  exact ⟨UInt32.le_iff_toNat_le.mp hdigit.1, UInt32.le_iff_toNat_le.mp hdigit.2⟩

/-- The decimal text of an integer has digits and a sign, and nothing else. -/
theorem mem_ofInt {n : ℤ} {c : CodePoint} (h : c ∈ ofInt n) :
    c = CodePoint.ofChar '-' ∨ IsDigit c := by
  cases n with
  | ofNat n => exact Or.inr (isDigit_of_mem_ofInt_ofNat h)
  | negSucc n =>
    rw [ofInt_negSucc] at h
    rcases List.mem_cons.mp h with rfl | h
    · exact Or.inl rfl
    · exact Or.inr (isDigit_of_mem_ofInt_ofNat h)

/-- Different natural numbers have different decimal texts. -/
theorem ofInt_ofNat_inj {m n : ℕ} (h : ofInt m = ofInt n) : m = n := by
  rw [ofInt_ofNat, ofInt_ofNat] at h
  have hdigits := List.map_injective_iff.mpr CodePoint.ofChar_injective h
  have hvalue := congrArg (fun ds => Nat.ofDigitChars 10 ds 0) hdigits
  simpa only [Nat.ofDigitChars_ten_toDigits] using hvalue

/-- **Different integers have different decimal texts.** -/
theorem ofInt_injective : Function.Injective ofInt := by
  -- a sign in front is no digit
  have hsign : ∀ m n : ℕ, ofInt m ≠ ofInt (Int.negSucc n) := by
    intro m n h
    rw [ofInt_negSucc] at h
    have hmem : CodePoint.ofChar '-' ∈ ofInt m := h ▸ List.mem_cons_self
    exact absurd (isDigit_of_mem_ofInt_ofNat hmem) (by decide)
  intro m n h
  cases m with
  | ofNat m =>
    cases n with
    | ofNat n => exact congrArg Int.ofNat (ofInt_ofNat_inj h)
    | negSucc n => exact absurd h (hsign m n)
  | negSucc m =>
    cases n with
    | ofNat n => exact absurd h.symm (hsign n m)
    | negSucc n =>
      rw [ofInt_negSucc, ofInt_negSucc] at h
      have hsucc := ofInt_ofNat_inj (List.cons.inj h).2
      rw [Nat.succ.inj hsucc]

end PyStr
