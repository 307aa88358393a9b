import McpAuthflow.Foundations.JsonBytes

/-! # JSON arrays of plain strings

`IsArrayText words text` says that `text` is a JSON array of the strings `words`, with any blanks
between its tokens; the strings are plain, so nothing in them is escaped. `CorrectParser` is what a
correct parser does with such texts, and with texts that have no quotation mark at all.
`plainParser` is one: it reads arrays of plain strings and nothing else. -/

namespace JsonArrays

open JsonBytes

/-! ## Array texts -/

/-- The blanks of JSON: tab, newline, carriage return and space. -/
def isBlank (c : CodePoint) : Bool := c.val = 9 || c.val = 10 || c.val = 13 || c.val = 32

/-- A character that stands for itself in a JSON string. -/
def IsPlainChar (c : CodePoint) : Prop := 0x20 ≤ c.val ∧ c.val ≠ 0x22 ∧ c.val ≠ 0x5C

/-- A string that is written between quotation marks as it is. -/
def IsPlain (w : PyStr) : Prop := ∀ c ∈ w, IsPlainChar c

/-- The items of an array, with the bracket that closes it. -/
inductive ItemsText : List PyStr → PyStr → Prop where
  | last {w pre post : PyStr} : pre.all isBlank → post.all isBlank →
      ItemsText [w] (pre ++ 0x22 :: (w ++ 0x22 :: (post ++ [0x5D])))
  | cons {w pre post rest : PyStr} {words : List PyStr} : pre.all isBlank → post.all isBlank →
      ItemsText words rest →
      ItemsText (w :: words) (pre ++ 0x22 :: (w ++ 0x22 :: (post ++ 0x2C :: rest)))

/-- A JSON array of strings. -/
inductive IsArrayText : List PyStr → PyStr → Prop where
  | empty {blank : PyStr} : blank.all isBlank → IsArrayText [] (0x5B :: (blank ++ [0x5D]))
  | items {words : List PyStr} {rest : PyStr} : ItemsText words rest →
      IsArrayText words (0x5B :: rest)

/-- **A correct parser of JSON**, on arrays of strings. It reads those whose strings are plain; it
finds no string where there is no quotation mark; and it refuses with a `JSONDecodeError`. (The
`RecursionError` of a text nested too deeply and the `ValueError` of an integer of too many digits
are limits of `json.loads`, not refusals, and are left out.) -/
structure CorrectParser (parse : Parser) : Prop where
  arrays : ∀ words text, (∀ w ∈ words, IsPlain w) → IsArrayText words text →
    parse text = .ok (.arr (words.map .str))
  strings : ∀ text items, (0x22 : CodePoint) ∉ text → parse text = .ok (.arr items) →
    ∀ s, .str s ∉ items
  errors : ∀ text e, parse text = .error e → e = .jsonDecodeError

/-! ## `json.dumps` -/

/-- `json.dumps(words)` on plain strings. -/
def dumpsWords (words : List PyStr) : PyStr :=
  0x5B :: ((PyStr.ofString ", ").intercalate (words.map fun w => 0x22 :: (w ++ [0x22])) ++ [0x5D])

/-- Blanks before the items change nothing. -/
theorem ItemsText.blank_append {words : List PyStr} {rest : PyStr} (h : ItemsText words rest)
    {blank : PyStr} (hblank : blank.all isBlank) : ItemsText words (blank ++ rest) := by
  cases h with
  | last hpre hpost =>
    rw [← List.append_assoc]
    exact .last (by rw [List.all_append, hblank, hpre, Bool.and_self]) hpost
  | cons hpre hpost hrest =>
    rw [← List.append_assoc]
    exact .cons (by rw [List.all_append, hblank, hpre, Bool.and_self]) hpost hrest

/-- Its text is an array of the strings. -/
theorem isArrayText_dumpsWords (words : List PyStr) : IsArrayText words (dumpsWords words) := by
  cases words with
  | nil =>
    have hblank : ([] : PyStr).all isBlank = true := rfl
    exact .empty hblank
  | cons w words =>
    refine .items ?_
    induction words generalizing w with
    | nil =>
      have htext : ItemsText [w] ([] ++ 0x22 :: (w ++ 0x22 :: ([] ++ [0x5D]))) := .last rfl rfl
      simpa using htext
    | cons v words ih =>
      have hspace : ([0x20] : PyStr).all isBlank = true := rfl
      have hrest := (ih v).blank_append hspace
      have htext : ItemsText (w :: v :: words) ([] ++ 0x22 :: (w ++ 0x22 :: ([] ++ 0x2C :: _))) :=
        .cons rfl rfl hrest
      rw [List.map_cons, List.map_cons, List.intercalate_cons_cons]
      have hcomma : PyStr.ofString ", " = [0x2C, 0x20] := rfl
      simpa [hcomma] using htext

/-! ## A parser -/

/-- What is left of a text between two strings: its characters that are not blank. -/
def skeleton (piece : PyStr) : PyStr := piece.filter fun c => !isBlank c

/-- The strings of an array, from the pieces of its text behind the first quotation mark: a string,
what is between it and the next one, and so on. -/
def readPieces : List PyStr → Option (List PyStr)
  | w :: piece :: [] => if skeleton piece = [0x5D] then some [w] else none
  | w :: piece :: pieces =>
    if skeleton piece = [0x2C] then (readPieces pieces).map (w :: ·) else none
  | _ => none

/-- A parser that reads arrays of plain strings and nothing else. -/
def plainParser : Parser := fun text =>
  match text.splitOn 0x22 with
  | [piece] => if skeleton piece = [0x5B, 0x5D] then .ok (.arr []) else .error .jsonDecodeError
  | piece :: pieces =>
    if skeleton piece = [0x5B] then
      match readPieces pieces with
      | some words => .ok (.arr (words.map .str))
      | none => .error .jsonDecodeError
    else .error .jsonDecodeError
  | [] => .error .jsonDecodeError

/-- A plain string has no quotation mark. -/
theorem quote_notMem_of_isPlain {w : PyStr} (h : IsPlain w) : (0x22 : CodePoint) ∉ w :=
  fun hmem => (h _ hmem).2.1 rfl

/-- Blanks have none either. -/
theorem quote_notMem_of_blank {blank : PyStr} (h : blank.all isBlank) :
    (0x22 : CodePoint) ∉ blank := by
  intro hmem
  exact absurd (List.all_eq_true.mp h _ hmem) (by decide)

theorem skeleton_append (s t : PyStr) : skeleton (s ++ t) = skeleton s ++ skeleton t :=
  List.filter_append ..

theorem skeleton_of_blank {blank : PyStr} (h : blank.all isBlank) : skeleton blank = [] := by
  rw [skeleton, List.filter_eq_nil_iff]
  intro c hc
  simp [List.all_eq_true.mp h c hc]

/-- One string more. -/
theorem readPieces_cons {w piece : PyStr} {pieces words : List PyStr}
    (hsep : skeleton piece = [0x2C]) (h : readPieces pieces = some words) :
    readPieces (w :: piece :: pieces) = some (w :: words) := by
  cases pieces with
  | nil => cases h
  | cons next pieces =>
    rw [readPieces, if_pos hsep, h]
    · rfl
    · simp

/-- **The pieces of the items of an array.** Behind a prefix without quotation marks they are the
prefix, with blanks, and pieces that the strings are read from. -/
theorem splitOn_itemsText {words : List PyStr} {rest : PyStr} (h : ItemsText words rest)
    (hplain : ∀ w ∈ words, IsPlain w) {p : PyStr} (hp : (0x22 : CodePoint) ∉ p) :
    ∃ blank pieces, (p ++ rest).splitOn 0x22 = (p ++ blank) :: pieces ∧ blank.all isBlank ∧
      readPieces pieces = some words := by
  induction h generalizing p with
  | @last w pre post hpre hpost =>
    have hw := quote_notMem_of_isPlain (hplain w List.mem_cons_self)
    have hfirst : (0x22 : CodePoint) ∉ p ++ pre := by
      simp [hp, quote_notMem_of_blank hpre]
    have hlast : (0x22 : CodePoint) ∉ post ++ [0x5D] := by
      simp [quote_notMem_of_blank hpost]
    -- the last quotation mark closes the last string
    refine ⟨pre, [w, post ++ [0x5D]], ?_, hpre, ?_⟩
    · rw [← List.append_assoc, List.splitOn_append_cons_self_of_not_mem hfirst,
        List.splitOn_append_cons_self_of_not_mem hw, List.splitOn_eq_singleton hlast]
    · have hclose : skeleton (post ++ [0x5D]) = [0x5D] := by
        rw [skeleton_append, skeleton_of_blank hpost]
        rfl
      rw [readPieces, if_pos hclose]
  | @cons w pre post rest words hpre hpost hrest ih =>
    have hw := quote_notMem_of_isPlain (hplain w List.mem_cons_self)
    have hfirst : (0x22 : CodePoint) ∉ p ++ pre := by
      simp [hp, quote_notMem_of_blank hpre]
    have hcomma : (0x22 : CodePoint) ∉ post ++ [0x2C] := by
      simp [quote_notMem_of_blank hpost]
    -- the comma is what the next item has in front of it
    obtain ⟨blank, pieces, hpieces, hblank, hread⟩ :=
      ih (fun v hv => hplain v (List.mem_cons_of_mem _ hv)) hcomma
    refine ⟨pre, w :: (post ++ [0x2C] ++ blank) :: pieces, ?_, hpre, ?_⟩
    · rw [← List.append_assoc, List.splitOn_append_cons_self_of_not_mem hfirst,
        List.splitOn_append_cons_self_of_not_mem hw, ← hpieces]
      simp
    · have hsep : skeleton (post ++ [0x2C] ++ blank) = [0x2C] := by
        rw [skeleton_append, skeleton_append, skeleton_of_blank hpost, skeleton_of_blank hblank]
        rfl
      exact readPieces_cons hsep hread

/-- **The stand-in is a correct parser.** -/
theorem correctParser_plainParser : CorrectParser plainParser := by
  constructor
  · intro words text hplain htext
    -- arrays of plain strings, by the pieces of their texts
    cases htext with
    | @empty blank hblank =>
      have hquote : (0x22 : CodePoint) ∉ 0x5B :: (blank ++ [0x5D]) := by
        simp [quote_notMem_of_blank hblank]
      have hskeleton : skeleton (0x5B :: (blank ++ [0x5D])) = [0x5B, 0x5D] := by
        rw [← List.singleton_append, skeleton_append, skeleton_append, skeleton_of_blank hblank]
        rfl
      rw [plainParser, List.splitOn_eq_singleton hquote]
      simp [hskeleton]
    | @items _ rest hitems =>
      obtain ⟨blank, pieces, hpieces, hblank, hread⟩ :=
        splitOn_itemsText hitems hplain (p := [0x5B]) (by decide)
      have hskeleton : skeleton ([0x5B] ++ blank) = [0x5B] := by
        rw [skeleton_append, skeleton_of_blank hblank]
        rfl
      rw [plainParser, ← List.singleton_append, hpieces]
      cases pieces with
      | nil => cases hread
      | cons piece pieces => simp only [hskeleton, if_true, hread]
  · intro text items hquote hparse s hs
    -- without a quotation mark there is a single piece, and no string
    rw [plainParser, List.splitOn_eq_singleton hquote] at hparse
    simp only at hparse
    split_ifs at hparse
    obtain rfl : [] = items := by simpa using hparse
    cases hs
  · intro text e hparse
    -- every refusal is a `JSONDecodeError`
    unfold plainParser at hparse
    split at hparse
    · split_ifs at hparse
      exact (Except.error.inj hparse).symm
    · split_ifs at hparse
      · split at hparse
        · cases hparse
        · exact (Except.error.inj hparse).symm
      · exact (Except.error.inj hparse).symm
    · exact (Except.error.inj hparse).symm

end JsonArrays
