import McpAuthflow.Foundations.JsonBytes
import McpAuthflow.Foundations.JsonText
import Mathlib.Tactic.IntervalCases

/-! # Reading flat JSON documents

A reader for documents whose values are strings, integers or lists of strings, without blanks
between tokens. It reads a part of JSON, and what it reads every JSON reader reads the same way: an
escaped surrogate, which other readers treat differently, it refuses. The main results are

* **`read_dumps`** — what is read from the text of a document is the document;
* **`decode_render`** — its bytes decode to its text, so **`readBytes_render`**: what is read from
  the bytes of a document is the document, too.

A reader takes an item off the front of a text and leaves the rest. -/

namespace JsonText

/-! ## Strings -/

/-- The value of a hexadecimal digit. -/
def hexValue (c : CodePoint) : Option ℕ :=
  if 0x30 ≤ c.val ∧ c.val ≤ 0x39 then some (c.val - 0x30)
  else if 0x41 ≤ c.val ∧ c.val ≤ 0x46 then some (c.val - 0x37)
  else if 0x61 ≤ c.val ∧ c.val ≤ 0x66 then some (c.val - 0x57)
  else none

/-- The code point four hexadecimal digits name, unless it is a surrogate. -/
def hexCodePoint (a b c d : CodePoint) : Option CodePoint := do
  let w ← hexValue a
  let x ← hexValue b
  let y ← hexValue c
  let z ← hexValue d
  let code ← JsonBytes.codePointFrom 0 (w * 0x1000 + x * 0x100 + y * 0x10 + z)
  if code.IsSurrogate then none else return code

/-- The code point a backslash and one more character stand for. -/
def unescape (c : CodePoint) : Option CodePoint :=
  if c.val = 0x22 ∨ c.val = 0x5C ∨ c.val = 0x2F then some c
  else if c.val = 0x6E then some 0x0A
  else if c.val = 0x72 then some 0x0D
  else if c.val = 0x74 then some 0x09
  else if c.val = 0x66 then some 0x0C
  else if c.val = 0x62 then some 0x08
  else none

/-- A code point in front of what is read. -/
def withHead (c : CodePoint) (r : Option (PyStr × PyStr)) : Option (PyStr × PyStr) :=
  r.map fun (text, rest) => (c :: text, rest)

/-- The characters of a string literal, up to the closing quotation mark. -/
def readChars : PyStr → Option (PyStr × PyStr)
  | [] => none
  | c :: s =>
    if c.val = 0x22 then some ([], s)
    else if c.val = 0x5C then
      match s with
      | [] => none
      | e :: s =>
        if e.val = 0x75 then
          match s with
          | x :: y :: z :: w :: s => do withHead (← hexCodePoint x y z w) (readChars s)
          | _ => none
        else do withHead (← unescape e) (readChars s)
    else if c.val < 0x20 then none
    else withHead c (readChars s)

/-- A string literal. -/
def readString : PyStr → Option (PyStr × PyStr)
  | [] => none
  | c :: s => if c.val = 0x22 then readChars s else none

/-! ## Numbers -/

/-- The number a run of decimal digits spells. -/
def digitsValue (ds : PyStr) : ℕ := ds.foldl (fun n c => 10 * n + (c.val - 0x30)) 0

/-- A natural number: digits, the first of which is no superfluous zero. -/
def readNat (s : PyStr) : Option (ℕ × PyStr) :=
  match s.takeWhile fun c => decide (PyStr.IsDigit c) with
  | [] => none
  | d :: ds =>
    if d.val = 0x30 ∧ ds ≠ [] then none
    else some (digitsValue (d :: ds), s.dropWhile fun c => decide (PyStr.IsDigit c))

/-- An integer. -/
def readInt : PyStr → Option (ℤ × PyStr)
  | [] => none
  | c :: s =>
    if c.val = 0x2D then (readNat s).map fun r => (-r.1, r.2)
    else (readNat (c :: s)).map fun r => (r.1, r.2)

/-! ## Lists -/

section
variable {α : Type}

/-- One item or more, separated by commas, and the closing bracket. -/
def readItems (item : PyStr → Option (α × PyStr)) (closing : CodePoint) :
    ℕ → PyStr → Option (List α × PyStr)
  | 0, _ => none
  | fuel + 1, s => do
    let (a, s) ← item s
    match s with
    | [] => none
    | c :: s =>
      if c = closing then return ([a], s)
      else if c.val = 0x2C then do
        let (items, rest) ← readItems item closing fuel s
        return (a :: items, rest)
      else none

/-- Items separated by commas, perhaps none, and the closing bracket. -/
def readClosed (item : PyStr → Option (α × PyStr)) (closing : CodePoint) (s : PyStr) :
    Option (List α × PyStr) :=
  match s with
  | [] => none
  | c :: rest => if c = closing then some ([], rest) else readItems item closing s.length s

end

/-! ## Documents -/

/-- A value. -/
def readValue : PyStr → Option (FlatValue × PyStr)
  | [] => none
  | c :: s =>
    if c.val = 0x22 then (readChars s).map fun r => (.str r.1, r.2)
    else if c.val = 0x5B then (readClosed readString 0x5D s).map fun r => (.strs r.1, r.2)
    else (readInt (c :: s)).map fun r => (.int r.1, r.2)

/-- A member. -/
def readMember (s : PyStr) : Option ((PyStr × FlatValue) × PyStr) := do
  let (key, s) ← readString s
  match s with
  | [] => none
  | c :: s =>
    if c.val = 0x3A then do
      let (value, rest) ← readValue s
      return ((key, value), rest)
    else none

/-- A whole document. -/
def read : PyStr → Option FlatObject
  | [] => none
  | c :: s =>
    if c.val = 0x7B then
      match readClosed readMember 0x7D s with
      | some (o, []) => some o
      | _ => none
    else none

/-! ## Strings are read back -/

theorem hexValue_digitChar {n : ℕ} (h : n < 16) :
    hexValue (CodePoint.ofChar n.digitChar) = some n := by
  interval_cases n <;> decide

/-- The escape of a control character names it. -/
theorem hexCodePoint_control {c : CodePoint} (h : c.val < 0x20) :
    hexCodePoint 0x30 0x30 (CodePoint.ofChar (c.val / 16).digitChar)
      (CodePoint.ofChar (c.val % 16).digitChar) = some c := by
  have hzero : hexValue 0x30 = some 0 := by decide
  have hhigh := hexValue_digitChar (n := c.val / 16) (by omega)
  have hlow := hexValue_digitChar (n := c.val % 16) (by omega)
  have hcode : 0 * 0x1000 + 0 * 0x100 + c.val / 16 * 0x10 + c.val % 16 = c.val := by omega
  have hscalar : ¬ c.IsSurrogate := by
    intro hs
    have hle := hs.1
    omega
  simp only [hexCodePoint, hzero, hhigh, hlow, Option.bind_eq_bind, Option.bind_some, hcode,
    JsonBytes.codePointFrom_val (Nat.zero_le c.val), if_neg hscalar]
  rfl

/-- Reading an escaped code point gives it back. -/
theorem readChars_escapeCodePoint (c : CodePoint) (s : PyStr) :
    readChars (escapeCodePoint c ++ s) = withHead c (readChars s) := by
  -- the escapes of one letter
  have hletter : ∀ e d : CodePoint, c = d → e.val ≠ 0x75 → unescape e = some d →
      readChars ([0x5C, e] ++ s) = withHead c (readChars s) := by
    intro e d hcd he hd
    show readChars (0x5C :: e :: s) = _
    rw [readChars.eq_def]
    simp [he, hd, hcd]
  unfold escapeCodePoint
  split_ifs with h22 h5c h0a h0d h09 h0c h08 hcontrol
  · exact hletter 0x22 0x22 (Fin.ext h22) (by decide) (by decide)
  · exact hletter 0x5C 0x5C (Fin.ext h5c) (by decide) (by decide)
  · exact hletter 0x6E 0x0A (Fin.ext h0a) (by decide) (by decide)
  · exact hletter 0x72 0x0D (Fin.ext h0d) (by decide) (by decide)
  · exact hletter 0x74 0x09 (Fin.ext h09) (by decide) (by decide)
  · exact hletter 0x66 0x0C (Fin.ext h0c) (by decide) (by decide)
  · exact hletter 0x62 0x08 (Fin.ext h08) (by decide) (by decide)
  · have htext : PyStr.ofString
        ("\\u00" ++ String.ofList [(c.val / 16).digitChar, (c.val % 16).digitChar])
        = [0x5C, 0x75, 0x30, 0x30, CodePoint.ofChar (c.val / 16).digitChar,
            CodePoint.ofChar (c.val % 16).digitChar] := by
      simp only [PyStr.ofString, String.toList_append, String.toList_ofList]
      rfl
    rw [htext]
    show readChars (0x5C :: 0x75 :: 0x30 :: 0x30 :: _ :: _ :: s) = _
    rw [readChars.eq_def]
    simp [hexCodePoint_control hcontrol]
  · show readChars (c :: s) = _
    rw [readChars.eq_def]
    simp [h22, h5c, hcontrol]

/-- Reading the inside of a string literal gives the string back. -/
theorem readChars_flatMap_escapeCodePoint (text rest : PyStr) :
    readChars (text.flatMap escapeCodePoint ++ 0x22 :: rest) = some (text, rest) := by
  induction text with
  | nil =>
    show readChars (0x22 :: rest) = _
    rw [readChars.eq_def]
    rfl
  | cons c text ih =>
    rw [List.flatMap_cons, List.append_assoc, readChars_escapeCodePoint, ih]
    rfl

/-- A string literal is its characters between quotation marks. -/
theorem quote_append (text rest : PyStr) :
    quote text ++ rest = 0x22 :: (text.flatMap escapeCodePoint ++ 0x22 :: rest) := by
  simp only [quote, List.append_assoc]
  rfl

theorem readString_quote (text rest : PyStr) :
    readString (quote text ++ rest) = some (text, rest) := by
  rw [quote_append]
  exact readChars_flatMap_escapeCodePoint text rest

/-! ## Numbers are read back -/

/-- No digit comes first. -/
def NoDigit (s : PyStr) : Prop := ∀ c ∈ s.head?, ¬ PyStr.IsDigit c

/-- The value of the digits of a number. -/
theorem digitsValue_ofInt (n : ℕ) : digitsValue (PyStr.ofInt n) = n := by
  rw [PyStr.ofInt_ofNat, digitsValue, List.foldl_map]
  exact Nat.ofDigitChars_ten_toDigits

/-- Only zero has a text that starts with a zero. -/
theorem ofInt_ofNat_head {n : ℕ} {d : CodePoint} {ds : PyStr}
    (h : PyStr.ofInt n = d :: ds) (hd : d.val = 0x30) : ds = [] := by
  have hzero : ∀ m : ℕ, 0 < m → ∀ e ∈ (Nat.toDigits 10 m).head?,
      (CodePoint.ofChar e).val ≠ 0x30 := by
    intro m
    induction m using Nat.strong_induction_on with
    | _ m ih =>
      intro hm e he
      rcases Nat.lt_or_ge m 10 with hlt | hge
      · rw [Nat.toDigits_of_lt_base hlt] at he
        obtain rfl := Option.some.inj he
        interval_cases m <;> decide
      · rw [Nat.toDigits_of_base_le (by decide) hge,
          List.head?_append_of_ne_nil _ Nat.toDigits_ne_nil] at he
        exact ih (m / 10) (by omega) (by omega) e he
  rcases Nat.eq_zero_or_pos n with rfl | hn
  · exact (List.cons.inj h).2.symm
  · rw [PyStr.ofInt_ofNat] at h
    cases hdigits : Nat.toDigits 10 n with
    | nil => exact absurd hdigits Nat.toDigits_ne_nil
    | cons e es =>
      rw [hdigits] at h
      obtain ⟨rfl, -⟩ := List.cons.inj h
      exact absurd hd (hzero n hn e (by rw [hdigits]; rfl))

/-- Digits are taken up to what is none. -/
theorem span_digits {ds rest : PyStr} (h : ∀ c ∈ ds, PyStr.IsDigit c) (hrest : NoDigit rest) :
    (ds ++ rest).takeWhile (fun c => decide (PyStr.IsDigit c)) = ds ∧
      (ds ++ rest).dropWhile (fun c => decide (PyStr.IsDigit c)) = rest := by
  have hds : ∀ c ∈ ds, decide (PyStr.IsDigit c) = true := fun c hc => decide_eq_true (h c hc)
  rw [List.takeWhile_append_of_pos hds, List.dropWhile_append_of_pos hds]
  cases rest with
  | nil => simp
  | cons c rest =>
    have hc := hrest c rfl
    simp [hc]

/-- A number has digits. -/
theorem ofInt_ne_nil (n : ℤ) : PyStr.ofInt n ≠ [] := by
  cases n with
  | ofNat n =>
    intro h
    rw [Int.ofNat_eq_natCast, PyStr.ofInt_ofNat] at h
    exact Nat.toDigits_ne_nil (List.map_eq_nil_iff.mp h)
  | negSucc n =>
    rw [PyStr.ofInt_negSucc]
    exact List.cons_ne_nil _ _

theorem readNat_ofInt (n : ℕ) {rest : PyStr} (hrest : NoDigit rest) :
    readNat (PyStr.ofInt n ++ rest) = some (n, rest) := by
  obtain ⟨htake, hdrop⟩ := span_digits (fun c => PyStr.isDigit_of_mem_ofInt_ofNat) hrest
  cases htext : PyStr.ofInt n with
  | nil => exact absurd htext (ofInt_ne_nil n)
  | cons d ds =>
    have hvalue := digitsValue_ofInt n
    rw [htext] at htake hdrop hvalue
    have hlead : ¬ (d.val = 0x30 ∧ ds ≠ []) := fun ⟨hd, hds⟩ => hds (ofInt_ofNat_head htext hd)
    simp only [readNat, htake, if_neg hlead, hdrop, hvalue]

/-- Reading the text of an integer gives it back. -/
theorem readInt_ofInt (n : ℤ) {rest : PyStr} (hrest : NoDigit rest) :
    readInt (PyStr.ofInt n ++ rest) = some (n, rest) := by
  cases n with
  | ofNat n =>
    have hread := readNat_ofInt n hrest
    cases htext : PyStr.ofInt n with
    | nil => exact absurd htext (ofInt_ne_nil n)
    | cons d ds =>
      have hdigit : PyStr.IsDigit d :=
        PyStr.isDigit_of_mem_ofInt_ofNat (n := n) (htext ▸ List.mem_cons_self)
      have hsign : d.val ≠ 0x2D := by
        have hle := hdigit.1
        omega
      rw [htext] at hread
      rw [List.cons_append, readInt, if_neg hsign, ← List.cons_append, hread]
      rfl
  | negSucc n =>
    rw [PyStr.ofInt_negSucc, List.cons_append, readInt, if_pos (by decide),
      readNat_ofInt (n + 1) hrest]
    rfl

/-! ## Lists are read back -/

section
variable {α : Type} {item : PyStr → Option (α × PyStr)} {text : α → PyStr} {closing : CodePoint}

/-- The item's reader reads the texts of the items. -/
def ReadsText (item : PyStr → Option (α × PyStr)) (text : α → PyStr) (items : List α) : Prop :=
  ∀ a ∈ items, ∀ rest : PyStr, NoDigit rest → item (text a ++ rest) = some (a, rest)

/-- Items separated by commas are read back, with fuel for each. -/
theorem readItems_commaSeparated (hclosing : closing.val ≠ 0x2C ∧ ¬ PyStr.IsDigit closing) {a : α}
    {items : List α} (hread : ReadsText item text (a :: items)) {fuel : ℕ}
    (hfuel : items.length < fuel) (rest : PyStr) :
    readItems item closing fuel (commaSeparated ((a :: items).map text) ++ closing :: rest)
      = some (a :: items, rest) := by
  induction items generalizing a fuel with
  | nil =>
    obtain ⟨fuel, rfl⟩ : ∃ k, fuel = k + 1 := ⟨fuel - 1, by simp at hfuel; omega⟩
    have hitem := hread a List.mem_cons_self (closing :: rest) (by
      rintro c ⟨⟩
      exact hclosing.2)
    have htext : commaSeparated ([a].map text) = text a := List.intercalate_singleton
    rw [htext, readItems, hitem]
    simp
  | cons b items ih =>
    obtain ⟨fuel, rfl⟩ : ∃ k, fuel = k + 1 := ⟨fuel - 1, by simp at hfuel; omega⟩
    have hlength : items.length < fuel := by simpa using hfuel
    have htail := ih (fun c hc => hread c (List.mem_cons_of_mem a hc)) hlength
    have htext : commaSeparated ((a :: b :: items).map text) ++ closing :: rest
        = text a ++ 0x2C :: (commaSeparated ((b :: items).map text) ++ closing :: rest) := by
      simp only [List.map_cons, commaSeparated, List.intercalate_cons_cons, List.append_assoc]
      rfl
    have hitem := hread a List.mem_cons_self
      (0x2C :: (commaSeparated ((b :: items).map text) ++ closing :: rest)) (by
        rintro c ⟨⟩
        decide)
    have hcomma : (0x2C : CodePoint) ≠ closing := fun h => hclosing.1 (h ▸ rfl)
    rw [htext, readItems, hitem]
    simp only [Option.bind_eq_bind, Option.bind_some, if_neg hcomma, htail]
    rfl

/-- Separated items take at least a character each. -/
theorem length_le_commaSeparated {items : List PyStr} (h : ∀ s ∈ items, s ≠ []) :
    items.length ≤ (commaSeparated items).length := by
  induction items with
  | nil => exact Nat.zero_le _
  | cons s items ih =>
    have hs := List.length_pos_of_ne_nil (h s List.mem_cons_self)
    have hitems := ih fun t ht => h t (List.mem_cons_of_mem s ht)
    cases items with
    | nil => simpa [commaSeparated] using Nat.succ_le_of_lt hs
    | cons t items =>
      have hcons : commaSeparated (s :: t :: items)
          = s ++ PyStr.ofString "," ++ commaSeparated (t :: items) :=
        List.intercalate_cons_cons
      rw [hcons, List.length_append, List.length_append]
      simp only [List.length_cons] at hitems ⊢
      omega

/-- Separated items start with the first one. -/
theorem exists_commaSeparated_cons (c : CodePoint) (s : PyStr) (items : List PyStr) :
    ∃ t, commaSeparated ((c :: s) :: items) = c :: t := by
  cases items with
  | nil => exact ⟨s, List.intercalate_singleton⟩
  | cons s' items =>
    rw [commaSeparated, List.intercalate_cons_cons]
    exact ⟨_, rfl⟩

/-- A bracketed list is read back: its items start with a quotation mark, not with the bracket. -/
theorem readClosed_commaSeparated (closing : CodePoint) {items : List α}
    (hclosing : closing.val ≠ 0x2C ∧ ¬ PyStr.IsDigit closing) (hquote : closing ≠ 0x22)
    (hread : ReadsText item text items) (hopen : ∀ a ∈ items, ∃ s, text a = 0x22 :: s)
    (rest : PyStr) :
    readClosed item closing (commaSeparated (items.map text) ++ closing :: rest)
      = some (items, rest) := by
  cases items with
  | nil =>
    show readClosed item closing (closing :: rest) = _
    rw [readClosed, if_pos rfl]
  | cons a items =>
    obtain ⟨s, hs⟩ : ∃ s, commaSeparated ((a :: items).map text) = 0x22 :: s := by
      obtain ⟨s, hs⟩ := hopen a List.mem_cons_self
      rw [List.map_cons, hs]
      exact exists_commaSeparated_cons _ _ _
    have htexts : ∀ t ∈ (a :: items).map text, t ≠ [] := by
      intro t ht
      obtain ⟨b, hb, rfl⟩ := List.mem_map.mp ht
      obtain ⟨r, hr⟩ := hopen b hb
      rw [hr]
      exact List.cons_ne_nil _ _
    have hfuel : items.length
        < (commaSeparated ((a :: items).map text) ++ closing :: rest).length := by
      have hlength := length_le_commaSeparated htexts
      simp only [List.length_map, List.length_cons, List.length_append] at hlength ⊢
      omega
    have hitems := readItems_commaSeparated hclosing hread hfuel rest
    rw [hs] at hitems ⊢
    rw [List.cons_append, readClosed, if_neg hquote.symm]
    exact hitems

end

/-! ## Documents are read back -/

theorem readValue_dumpsValue (v : FlatValue) {rest : PyStr} (hrest : NoDigit rest) :
    readValue (dumpsValue v ++ rest) = some (v, rest) := by
  cases v with
  | str s =>
    show readValue (quote s ++ rest) = _
    rw [quote_append, readValue, if_pos (by decide), readChars_flatMap_escapeCodePoint]
    rfl
  | int n =>
    have hread := readInt_ofInt n hrest
    show readValue (PyStr.ofInt n ++ rest) = _
    cases htext : PyStr.ofInt n with
    | nil => exact absurd htext (ofInt_ne_nil n)
    | cons c s =>
      -- a sign or a digit, so neither a quotation mark nor a bracket
      have hc : c.val ≠ 0x22 ∧ c.val ≠ 0x5B := by
        rcases PyStr.mem_ofInt (htext ▸ List.mem_cons_self : c ∈ PyStr.ofInt n) with rfl | hdigit
        · decide
        · have hlow := hdigit.1
          have hhigh := hdigit.2
          omega
      rw [htext] at hread
      rw [List.cons_append, readValue, if_neg hc.1, if_neg hc.2, ← List.cons_append, hread]
      rfl
  | strs items =>
    have htext : dumpsValue (.strs items) ++ rest
        = 0x5B :: (commaSeparated (items.map quote) ++ 0x5D :: rest) := by
      simp only [dumpsValue, List.append_assoc]
      rfl
    have hread : ReadsText readString quote items := fun t _ r _ => readString_quote t r
    have hitems := readClosed_commaSeparated 0x5D (by decide) (by decide) hread
      (fun t _ => ⟨_, rfl⟩) rest
    rw [htext, readValue, if_neg (by decide), if_pos (by decide), hitems]
    rfl

theorem readMember_dumpsMember (m : PyStr × FlatValue) {rest : PyStr} (hrest : NoDigit rest) :
    readMember (dumpsMember m ++ rest) = some (m, rest) := by
  have htext : dumpsMember m ++ rest
      = quote m.1 ++ 0x3A :: (dumpsValue m.2 ++ rest) := by
    simp only [dumpsMember, List.append_assoc]
    rfl
  rw [htext, readMember, readString_quote]
  simp only [Option.bind_eq_bind, Option.bind_some]
  rw [if_pos (by decide), readValue_dumpsValue m.2 hrest]
  rfl

/-- **What is read from the text of a document is the document.** -/
theorem read_dumps (o : FlatObject) : read (dumps o) = some o := by
  have htext : dumps o = 0x7B :: (commaSeparated (o.map dumpsMember) ++ [0x7D]) := by
    simp only [dumps, List.append_assoc]
    rfl
  have hread : ReadsText readMember dumpsMember o := fun m _ r hr => readMember_dumpsMember m hr
  have hmembers := readClosed_commaSeparated 0x7D (by decide) (by decide) hread
    (fun m _ => ⟨_, rfl⟩) []
  rw [htext, read, if_pos (by decide), hmembers]

/-! ## Bytes are loaded back -/

/-- The bytes of a document are its text in UTF-8. -/
theorem decode_render {o : FlatObject} {bytes : List UInt8} (h : render o = some bytes) :
    (JsonBytes.detectEncoding bytes).decode bytes = some (dumps o) := by
  have hdecode := JsonBytes.decodeUtf8_encodeUtf8 h
  -- an opening brace, then a quotation mark or the closing brace
  have htext : ∃ c s, dumps o = 0x7B :: c :: s ∧ (c = 0x22 ∨ c = 0x7D) := by
    cases o with
    | nil => exact ⟨0x7D, [], rfl, Or.inr rfl⟩
    | cons m o =>
      obtain ⟨s, hs⟩ := exists_commaSeparated_cons 0x22 _ (o.map dumpsMember)
      have hmembers : commaSeparated ((m :: o).map dumpsMember) = 0x22 :: s := hs
      refine ⟨0x22, s ++ PyStr.ofString "\x7d", ?_, Or.inl rfl⟩
      rw [dumps, hmembers]
      rfl
  obtain ⟨c, s, htext, hc⟩ := htext
  rw [render, htext] at h
  obtain ⟨b, r, hb, hr, rfl⟩ := PyStr.encodeUtf8_cons_eq_some.mp h
  obtain ⟨b', r', hb', -, rfl⟩ := PyStr.encodeUtf8_cons_eq_some.mp hr
  obtain rfl : [0x7B] = b := Option.some.inj hb
  have hutf8 : JsonBytes.detectEncoding ([0x7B] ++ (b' ++ r')) = .utf8 := by
    rcases hc with rfl | rfl
    · obtain rfl : [0x22] = b' := Option.some.inj hb'
      exact JsonBytes.detectEncoding_of_isAscii (by decide) (by decide) r'
    · obtain rfl : [0x7D] = b' := Option.some.inj hb'
      exact JsonBytes.detectEncoding_of_isAscii (by decide) (by decide) r'
  rw [hutf8]
  exact hdecode

/-- The document that bytes hold. -/
def readBytes (bytes : List UInt8) : Option FlatObject :=
  ((JsonBytes.detectEncoding bytes).decode bytes).bind read

/-- **What is read from the bytes of a document is the document.** -/
theorem readBytes_render {o : FlatObject} {bytes : List UInt8} (h : render o = some bytes) :
    readBytes bytes = some o := by
  rw [readBytes, decode_render h]
  exact read_dumps o

/-! ## Python's parser on flat documents -/

/-- A value as `json.loads` returns it. -/
def FlatValue.toJson : FlatValue → Json
  | .str s => .str s
  | .int n => .num n
  | .strs items => .arr (items.map .str)

/-- The members of a document as `json.loads` returns them. -/
def payload (o : FlatObject) : JsonObject := o.map fun m => (m.1, m.2.toJson)

/-- The members of a document are those of its object. -/
theorem get_payload (o : FlatObject) (key : PyStr) :
    Json.get (payload o) key = ((o.lookup key).map FlatValue.toJson).getD .null := by
  induction o with
  | nil => rfl
  | cons m o ih =>
    obtain ⟨k, v⟩ := m
    simp only [Json.get, payload, List.map_cons, List.lookup_cons] at ih ⊢
    cases key == k with
    | true => rfl
    | false => exact ih

/-- A list of texts is read as one. -/
theorem strings?_strs (items : List PyStr) :
    (FlatValue.strs items).toJson.strings? = some items := by
  have hall : (items.map Json.str).all (fun v => v.str?.isSome) = true := by
    simp [Json.str?]
  simp only [FlatValue.toJson, Json.strings?, if_pos hall, List.filterMap_map]
  simp [Function.comp_def, Json.str?]

/-- The decimal digits `int` reads at most, `sys.int_info.default_max_str_digits`. -/
def maxStrDigits : ℕ := 4300

/-- What a Python dict can hold and `json.loads` reads back: distinct keys, and integers that are
not too long. -/
structure Loadable (o : FlatObject) : Prop where
  keys : (o.map Prod.fst).Nodup
  ints : ∀ m ∈ o, ∀ n, m.2 = .int n → n.natAbs < 10 ^ maxStrDigits

/-- The parser reads flat documents, as every JSON parser does. -/
def ParsesDocuments (parse : JsonBytes.Parser) : Prop :=
  ∀ text o, read text = some o → Loadable o → parse text = .ok (.obj (payload o))

/-- The bytes of a document load as its members. -/
theorem loads_render {parse : JsonBytes.Parser} (hparse : ParsesDocuments parse) {o : FlatObject}
    (ho : Loadable o) {bytes : List UInt8} (h : render o = some bytes) :
    JsonBytes.loads parse bytes = .ok (.obj (payload o)) :=
  JsonBytes.loads_of_decode_eq_some (decode_render h) (hparse _ o (read_dumps o) ho)

/-- A parser of flat documents and nothing else. -/
def documentParser : JsonBytes.Parser := fun text =>
  match read text with
  | some o => .ok (.obj (payload o))
  | none => .error .jsonDecodeError

theorem parsesDocuments_documentParser : ParsesDocuments documentParser := by
  intro text o h _
  rw [documentParser, h]

end JsonText
