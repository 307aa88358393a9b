import McpAuthflow.Foundations.Text

/-! # Rendering flat JSON documents

`json.dumps(.., ensure_ascii=False, separators=(",", ":"))` on an object whose values are strings,
integers or lists of strings, and the strict UTF-8 encoding of the text. Quotation marks,
backslashes and control characters are escaped; every other code point is written as it is, lone
surrogates included, and those have no UTF-8: **`render_isSome_iff`** says that a document has bytes
iff no key and no string in it contains a lone surrogate. -/

namespace JsonText

/-- A value of a flat document. -/
inductive FlatValue where
  | str (s : PyStr)
  | int (n : ℤ)
  | strs (items : List PyStr)
  deriving DecidableEq

/-- A flat document: its members in order. -/
abbrev FlatObject := List (PyStr × FlatValue)

/-! ## Rendering -/

/-- The escape of one code point inside a string literal. -/
def escapeCodePoint (c : CodePoint) : PyStr :=
  if c.val = 0x22 then PyStr.ofString "\\\""
  else if c.val = 0x5C then PyStr.ofString "\\\\"
  else if c.val = 0x0A then PyStr.ofString "\\n"
  else if c.val = 0x0D then PyStr.ofString "\\r"
  else if c.val = 0x09 then PyStr.ofString "\\t"
  else if c.val = 0x0C then PyStr.ofString "\\f"
  else if c.val = 0x08 then PyStr.ofString "\\b"
  else if c.val < 0x20 then
    PyStr.ofString ("\\u00" ++ String.ofList [(c.val / 16).digitChar, (c.val % 16).digitChar])
  else [c]

/-- A string literal. -/
def quote (s : PyStr) : PyStr :=
  PyStr.ofString "\"" ++ s.flatMap escapeCodePoint ++ PyStr.ofString "\""

/-- Items separated by commas. -/
def commaSeparated (items : List PyStr) : PyStr := (PyStr.ofString ",").intercalate items

/-- The text of a value. -/
def dumpsValue : FlatValue → PyStr
  | .str s => quote s
  | .int n => PyStr.ofInt n
  | .strs items => PyStr.ofString "[" ++ commaSeparated (items.map quote) ++ PyStr.ofString "]"

/-- The text of a member. -/
def dumpsMember (m : PyStr × FlatValue) : PyStr :=
  quote m.1 ++ PyStr.ofString ":" ++ dumpsValue m.2

/-- The text of a document. -/
def dumps (o : FlatObject) : PyStr :=
  PyStr.ofString "\x7b" ++ commaSeparated (o.map dumpsMember) ++ PyStr.ofString "\x7d"

/-- The bytes of a document; `none` is `UnicodeEncodeError`. -/
def render (o : FlatObject) : Option (List UInt8) := (dumps o).encodeUtf8

/-! ## When a document has bytes -/

/-- No string in the value contains a lone surrogate. -/
def FlatValue.SurrogateFree : FlatValue → Prop
  | .str s => s.SurrogateFree
  | .int _ => True
  | .strs items => ∀ s ∈ items, PyStr.SurrogateFree s

/-- Escaping writes ASCII, or the code point itself. -/
theorem surrogateFree_escapeCodePoint (c : CodePoint) :
    PyStr.SurrogateFree (escapeCodePoint c) ↔ ¬ c.IsSurrogate := by
  -- what is escaped lies far below the surrogates
  have hlow : c.val < 0x60 → ¬ c.IsSurrogate := by
    intro hc hs
    have hle := hs.1
    omega
  unfold escapeCodePoint
  by_cases h22 : c.val = 0x22
  · simp [h22, hlow (by omega)]
  by_cases h5c : c.val = 0x5C
  · simp [h5c, hlow (by omega)]
  by_cases hctl : c.val < 0x20
  · have hc := hlow (by omega)
    simp only [h22, h5c, hctl, if_false, if_true]
    split_ifs <;> simp [hc]
  · have hother : c.val ≠ 0x0A ∧ c.val ≠ 0x0D ∧ c.val ≠ 0x09 ∧ c.val ≠ 0x0C ∧ c.val ≠ 0x08 := by
      omega
    simp [h22, h5c, hctl, hother, PyStr.SurrogateFree]

theorem surrogateFree_quote (s : PyStr) : (quote s).SurrogateFree ↔ s.SurrogateFree := by
  rw [quote, PyStr.surrogateFree_append, PyStr.surrogateFree_append]
  simp only [PyStr.surrogateFree_ofString, true_and, and_true]
  constructor
  · intro h c hc
    rw [← surrogateFree_escapeCodePoint]
    intro d hd
    exact h d (List.mem_flatMap.mpr ⟨c, hc, hd⟩)
  · intro h d hd
    obtain ⟨c, hc, hd⟩ := List.mem_flatMap.mp hd
    exact (surrogateFree_escapeCodePoint c).mpr (h c hc) d hd

theorem surrogateFree_commaSeparated (items : List PyStr) :
    (commaSeparated items).SurrogateFree ↔ ∀ s ∈ items, PyStr.SurrogateFree s := by
  induction items with
  | nil => simp [commaSeparated]
  | cons s items ih =>
    cases items with
    | nil => simp [commaSeparated]
    | cons t items =>
      have hcons : commaSeparated (s :: t :: items)
          = s ++ PyStr.ofString "," ++ commaSeparated (t :: items) :=
        List.intercalate_cons_cons
      rw [hcons, PyStr.surrogateFree_append, PyStr.surrogateFree_append, ih]
      simp

theorem surrogateFree_dumpsValue (v : FlatValue) :
    (dumpsValue v).SurrogateFree ↔ v.SurrogateFree := by
  cases v with
  | str s => exact surrogateFree_quote s
  | int n => simp [dumpsValue, FlatValue.SurrogateFree]
  | strs items =>
    simp [dumpsValue, FlatValue.SurrogateFree, surrogateFree_commaSeparated, surrogateFree_quote]

theorem surrogateFree_dumpsMember (m : PyStr × FlatValue) :
    (dumpsMember m).SurrogateFree ↔ m.1.SurrogateFree ∧ m.2.SurrogateFree := by
  rw [dumpsMember, PyStr.surrogateFree_append, PyStr.surrogateFree_append, surrogateFree_quote,
    surrogateFree_dumpsValue]
  simp

/-- **A document has bytes iff no lone surrogate occurs in it.** -/
theorem render_isSome_iff (o : FlatObject) :
    (render o).isSome ↔ ∀ m ∈ o, m.1.SurrogateFree ∧ m.2.SurrogateFree := by
  rw [render, PyStr.encodeUtf8_isSome_iff, dumps, PyStr.surrogateFree_append,
    PyStr.surrogateFree_append, surrogateFree_commaSeparated, List.forall_mem_map]
  simp only [PyStr.surrogateFree_ofString, true_and, and_true, surrogateFree_dumpsMember]

end JsonText
