import McpAuthflow.Foundations.JsonArrays
import McpAuthflow.Foundations.Regex

/-! # Input validation (`mcp_authflow/validation.py`)

`validate_client_id` matches an identifier against `^[a-zA-Z0-9_-]{1,256}$`. Since `$` also stands
before a newline that ends the text, what it accepts is a short word over the alphabet, with one
newline after it or none: **`validateClientId_iff`**. **`validateClientId_exact_iff`** says at which
texts it is the documented check, and **`validateClientId_newline`** gives one at which it is not.

`parse_json_field` and `parse_scope_field` parse JSON that a client sent, and neither looks at the
items of an array: **`fieldParsers_safe_iff`** says for which texts both return what they are
declared to return, and **`fieldParsers_number`** gives one for which they do not.

`parse_scope_field` takes scopes as a list, as the text of a JSON array or separated by spaces, and
tells the last two apart by a leading bracket, which is also a scope character:
**`scope_formats_agree_iff`** says for which scopes the three mean the same, and
**`empty_scope_formats_differ`** that no scopes at all are not among them. -/

namespace McpAuthflow

/-! ## `validate_client_id` -/

/-- `[a-zA-Z0-9_-]`. -/
def isIdChar (c : CodePoint) : Bool :=
  let n := c.val
  (0x61 ≤ n && n ≤ 0x7A) || (0x41 ≤ n && n ≤ 0x5A) || (0x30 ≤ n && n ≤ 0x39) || n == 0x5F ||
    n == 0x2D

/-- `$` matches before `rest`: at the end of the text, and before the newline that ends it. -/
def atDollar (rest : PyStr) : Bool := rest = [] || rest = PyStr.ofString "\n"

/-- `validate_client_id`: from 1 to 256 characters of the class, and then `$`. -/
def validateClientId (clientId : PyStr) : Bool :=
  (List.range' 1 256).any fun n =>
    n ≤ clientId.length && (clientId.take n).all isIdChar && atDollar (clientId.drop n)

/-- **What `validate_client_id` accepts.** -/
theorem validateClientId_iff (clientId : PyStr) :
    validateClientId clientId = true ↔
      ∃ word rest, clientId = word ++ rest ∧ (∀ c ∈ word, isIdChar c = true) ∧ 1 ≤ word.length ∧
        word.length ≤ 256 ∧ (rest = [] ∨ rest = PyStr.ofString "\n") := by
  simp only [validateClientId, List.any_eq_true, List.mem_range'_1, Bool.and_eq_true,
    decide_eq_true_eq, List.all_eq_true, atDollar, Bool.or_eq_true]
  constructor
  · rintro ⟨n, ⟨hpos, hmax⟩, ⟨hle, hword⟩, hrest⟩
    have hlength : (clientId.take n).length = n := List.length_take_of_le hle
    exact ⟨clientId.take n, clientId.drop n, (List.take_append_drop n clientId).symm, hword,
      by omega, by omega, hrest⟩
  · rintro ⟨word, rest, rfl, hword, hpos, hmax, hrest⟩
    refine ⟨word.length, ⟨hpos, by omega⟩, ⟨by simp, ?_⟩, ?_⟩
    · rw [List.take_left]
      exact hword
    · rw [List.drop_left]
      exact hrest

/-- The class `[a-zA-Z0-9_-]` as the pattern has it. -/
def validIdRanges : List (CodePoint × CodePoint) :=
  [Regex.range 'a' 'z', Regex.range 'A' 'Z', Regex.range '0' '9', Regex.single '_',
    Regex.single '-']

/-- `VALID_ID_PATTERN`. -/
def validIdPattern : Regex := .whole validIdRanges 1 256

/-- The class in numbers. -/
theorem inRanges_validIdRanges_iff (c : CodePoint) :
    Regex.inRanges validIdRanges c = true ↔
      (0x61 ≤ c.val ∧ c.val ≤ 0x7A) ∨ (0x41 ≤ c.val ∧ c.val ≤ 0x5A) ∨
        (0x30 ≤ c.val ∧ c.val ≤ 0x39) ∨ c.val = 0x5F ∨ c.val = 0x2D := by
  simp only [validIdRanges, Regex.inRanges_cons_iff, Regex.inRanges_nil, Bool.false_eq_true,
    or_false]
  show (0x61 ≤ c.val ∧ c.val ≤ 0x7A) ∨ (0x41 ≤ c.val ∧ c.val ≤ 0x5A) ∨
    (0x30 ≤ c.val ∧ c.val ≤ 0x39) ∨ (0x5F ≤ c.val ∧ c.val ≤ 0x5F) ∨
    (0x2D ≤ c.val ∧ c.val ≤ 0x2D) ↔ _
  omega

/-- **`validate_client_id` is `VALID_ID_PATTERN.match`.** -/
theorem validateClientId_eq_isMatch (clientId : PyStr) :
    validateClientId clientId = validIdPattern.isMatch clientId := by
  have hchar : ∀ c, Regex.inRanges validIdRanges c = true ↔ isIdChar c = true := by
    intro c
    simp only [inRanges_validIdRanges_iff, isIdChar, Bool.or_eq_true, Bool.and_eq_true,
      decide_eq_true_eq, beq_iff_eq]
    omega
  rw [Bool.eq_iff_iff, validateClientId_iff, validIdPattern, Regex.isMatch_whole_iff]
  simp only [Regex.IsRun, hchar]
  constructor
  · rintro ⟨word, rest, hs, hword, hpos, hmax, hrest⟩
    exact ⟨word, rest, hs, ⟨hpos, hmax, hword⟩, hrest⟩
  · rintro ⟨word, rest, hs, ⟨hpos, hmax, hword⟩, hrest⟩
    exact ⟨word, rest, hs, hword, hpos, hmax, hrest⟩

/-- A documented identifier: from 1 to 256 ASCII letters, digits, hyphens and underscores. -/
def IsClientId (s : PyStr) : Prop :=
  1 ≤ s.length ∧ s.length ≤ 256 ∧
    ∀ c ∈ s, c.isAsciiAlnum = true ∨ c = CodePoint.ofChar '-' ∨ c = CodePoint.ofChar '_'

/-- The runs of the class are the documented identifiers. -/
theorem isRun_validIdRanges_iff (s : PyStr) : Regex.IsRun validIdRanges 1 256 s ↔ IsClientId s := by
  have hchar : ∀ c, Regex.inRanges validIdRanges c = true ↔
      c.isAsciiAlnum = true ∨ c = CodePoint.ofChar '-' ∨ c = CodePoint.ofChar '_' := by
    intro c
    rw [inRanges_validIdRanges_iff, CodePoint.isAsciiAlnum_iff, Fin.ext_iff, Fin.ext_iff]
    show _ ↔ _ ∨ c.val = 0x2D ∨ c.val = 0x5F
    omega
  simp only [Regex.IsRun, IsClientId, hchar]

/-- **When `validate_client_id` is right**: at every text but the identifiers with a newline behind
them. -/
theorem validateClientId_exact_iff (s : PyStr) :
    (validateClientId s = true ↔ IsClientId s) ↔
      ¬ ∃ word, IsClientId word ∧ s = word ++ PyStr.ofString "\n" := by
  have hnewline : Regex.inRanges validIdRanges (CodePoint.ofChar '\n') = false := by decide
  simp only [← isRun_validIdRanges_iff]
  rw [validateClientId_eq_isMatch]
  exact Regex.whole_exact_iff hnewline

/-- `"abc\n"` is accepted. -/
theorem validateClientId_newline :
    ¬ (validateClientId (PyStr.ofString "abc\n") = true ↔ IsClientId (PyStr.ofString "abc\n")) := by
  intro hexact
  have haccepted : validateClientId (PyStr.ofString "abc\n") = true := by
    rw [validateClientId_iff]
    exact ⟨PyStr.ofString "abc", PyStr.ofString "\n", rfl, by simp [PyStr.ofString]; decide,
      by decide, by decide, .inr rfl⟩
  obtain ⟨-, -, hall⟩ := hexact.mp haccepted
  have hmem : CodePoint.ofChar '\n' ∈ PyStr.ofString "abc\n" := by simp [PyStr.ofString]
  exact absurd (hall _ hmem) (by decide)

/-! ## `parse_scope_field` -/

/-- The argument of `parse_scope_field`. -/
inductive ScopeField where
  | none
  | str (text : PyStr)
  | list (scopes : List PyStr)

/-- What `parse_scope_field` raises: `" ".join` on items that are not strings, and what `json.loads`
raises besides `JSONDecodeError`. -/
inductive ScopeError where
  | typeError
  | parse (e : JsonBytes.ParseError)

/-- `" ".join(parsed)` on parsed JSON. -/
def joinItems (items : List Json) : Except ScopeError PyStr :=
  match (Json.arr items).strings? with
  | some words => .ok (PyStr.joinWords words)
  | none => .error .typeError

/-- `scopes.startswith("[")`. -/
def startsWithBracket (text : PyStr) : Bool := text.head? = some 0x5B

/-- `parse_scope_field`. -/
def parseScopeField (parse : JsonBytes.Parser) : ScopeField → Except ScopeError PyStr
  | .none => .ok (PyStr.ofString "read")
  | .list scopes =>
    if scopes.isEmpty then .ok (PyStr.ofString "read") else .ok (PyStr.joinWords scopes)
  | .str text =>
    if text.isEmpty then .ok (PyStr.ofString "read")
    else if startsWithBracket text then
      match parse text with
      | .ok (.arr items) => joinItems items
      | .ok _ => .ok text
      | .error .jsonDecodeError => .ok text
      | .error e => .error (.parse e)
    else .ok text

/-! ## The three formats -/

/-- A character of a scope token: `%x21 / %x23-5B / %x5D-7E`. -/
def IsScopeChar (c : CodePoint) : Prop :=
  c.val = 0x21 ∨ (0x23 ≤ c.val ∧ c.val ≤ 0x5B) ∨ (0x5D ≤ c.val ∧ c.val ≤ 0x7E)

/-- A scope token. -/
def IsScopeToken (w : PyStr) : Prop := w ≠ [] ∧ ∀ c ∈ w, IsScopeChar c

/-- **All formats of the scopes mean the same**, and the scopes can be read off the result. -/
def FormatsAgree (parse : JsonBytes.Parser) (scopes : List PyStr) : Prop :=
  ∃ result, parseScopeField parse (.list scopes) = .ok result ∧
    (∀ text, JsonArrays.IsArrayText scopes text →
      parseScopeField parse (.str text) = .ok result) ∧
    parseScopeField parse (.str (PyStr.joinWords scopes)) = .ok result ∧
    (scopes ≠ [] → result.splitOn 0x20 = scopes)

/-- The text is taken for a JSON array, and is one. -/
def ReadsAsArray (parse : JsonBytes.Parser) (text : PyStr) : Prop :=
  startsWithBracket text = true ∧ ∃ items, parse text = .ok (.arr items)

section

variable {parse : JsonBytes.Parser} {scopes : List PyStr}

/-- A scope token is written in JSON as it is. -/
theorem IsScopeToken.isPlain {w : PyStr} (h : IsScopeToken w) : JsonArrays.IsPlain w := by
  intro c hc
  have hchar := h.2 c hc
  simp only [IsScopeChar] at hchar
  refine ⟨?_, ?_, ?_⟩ <;> omega

/-- No scope token has a space in it. -/
theorem IsScopeToken.space_notMem {w : PyStr} (h : IsScopeToken w) : (0x20 : CodePoint) ∉ w := by
  intro hmem
  have hchar := h.2 _ hmem
  simp [IsScopeChar] at hchar

/-- Nor has a scope string a quotation mark. -/
theorem quote_notMem_joinWords (h : ∀ w ∈ scopes, IsScopeToken w) :
    (0x22 : CodePoint) ∉ PyStr.joinWords scopes := by
  intro hmem
  rcases List.mem_or_mem_of_mem_intercalate hmem with hspace | ⟨w, hw, hc⟩
  · exact absurd (List.mem_singleton.mp hspace) (by decide)
  · exact JsonArrays.quote_notMem_of_isPlain (h w hw).isPlain hc

/-- Tokens that are joined are not joined to nothing. -/
theorem joinWords_ne_nil (h : ∀ w ∈ scopes, IsScopeToken w) (hne : scopes ≠ []) :
    PyStr.joinWords scopes ≠ [] := by
  cases scopes with
  | nil => exact absurd rfl hne
  | cons w words =>
    have hw := (h w List.mem_cons_self).1
    cases words with
    | nil => simpa [PyStr.joinWords] using hw
    | cons v words => simp [PyStr.joinWords, hw]

/-! ## Branch by branch -/

/-- Strings are joined. -/
theorem joinItems_map_str (words : List PyStr) :
    joinItems (words.map .str) = .ok (PyStr.joinWords words) := by
  have hstrings : (Json.arr (words.map .str)).strings? = some words := by
    simp [Json.strings?, Json.str?, List.filterMap_map, Function.comp_def]
  rw [joinItems, hstrings]

/-- Items none of which is a string are not joined, unless there are none. -/
theorem joinItems_of_no_string {items : List Json} (h : ∀ s, .str s ∉ items) :
    joinItems items = if items = [] then .ok [] else .error .typeError := by
  cases items with
  | nil => rfl
  | cons item items =>
    have hitem : ¬ item.str?.isSome = true := by
      rw [Json.isSome_str?]
      rintro ⟨s, rfl⟩
      exact h s List.mem_cons_self
    simp [joinItems, Json.strings?, hitem]

/-- A list that is not empty is joined. -/
theorem parseScopeField_list (hne : scopes ≠ []) :
    parseScopeField parse (.list scopes) = .ok (PyStr.joinWords scopes) := by
  simp [parseScopeField, hne]

/-- The text of a JSON array stands for its items, where it begins with the bracket. -/
theorem parseScopeField_of_arr {text : PyStr} {items : List Json}
    (hbracket : startsWithBracket text = true) (hloads : parse text = .ok (.arr items)) :
    parseScopeField parse (.str text) = joinItems items := by
  have hempty : text.isEmpty = false := by
    cases text with
    | nil => simp [startsWithBracket] at hbracket
    | cons c text => rfl
  rw [parseScopeField, hempty, if_neg Bool.false_ne_true, if_pos hbracket, hloads]

/-- So is a JSON array of scope tokens, empty or not. -/
theorem parseScopeField_arrayText (hparse : JsonArrays.CorrectParser parse)
    (hscopes : ∀ w ∈ scopes, IsScopeToken w) {text : PyStr}
    (htext : JsonArrays.IsArrayText scopes text) :
    parseScopeField parse (.str text) = .ok (PyStr.joinWords scopes) := by
  have hread := hparse.arrays scopes text (fun w hw => (hscopes w hw).isPlain) htext
  have hbracket : startsWithBracket text = true := by
    cases htext with
    | empty => rfl
    | items => rfl
  rw [parseScopeField_of_arr hbracket hread, joinItems_map_str]

/-- A string that is not read as an array is taken as it is. -/
theorem parseScopeField_str (herrors : ∀ text e, parse text = .error e → e = .jsonDecodeError)
    {text : PyStr} (hne : text ≠ []) (hread : ¬ ReadsAsArray parse text) :
    parseScopeField parse (.str text) = .ok text := by
  have hempty : text.isEmpty = false := by simpa using hne
  rw [parseScopeField, hempty, if_neg Bool.false_ne_true]
  split_ifs with hbracket
  · cases hloads : parse text with
    | error e =>
      obtain rfl := herrors text e hloads
      rfl
    | ok v =>
      cases v with
      | arr items => exact absurd ⟨hbracket, items, hloads⟩ hread
      | null | bool | num | str | obj => rfl
  · rfl

/-- A scope string that is read as an array is not given back: the array holds no strings. -/
theorem parseScopeField_str_ne (hparse : JsonArrays.CorrectParser parse)
    (hscopes : ∀ w ∈ scopes, IsScopeToken w) (hne : scopes ≠ [])
    (hread : ReadsAsArray parse (PyStr.joinWords scopes)) :
    parseScopeField parse (.str (PyStr.joinWords scopes)) ≠ .ok (PyStr.joinWords scopes) := by
  have htext := joinWords_ne_nil hscopes hne
  obtain ⟨hbracket, items, hloads⟩ := hread
  have hstrings := hparse.strings _ items (quote_notMem_joinWords hscopes) hloads
  rw [parseScopeField_of_arr hbracket hloads, joinItems_of_no_string hstrings]
  split_ifs
  · exact fun heq => htext (Except.ok.inj heq).symm
  · exact fun heq => by cases heq

/-- **When all scope formats mean the same.** For every list of scope tokens they do iff there is a
token and the tokens, separated by spaces, are not themselves read as a JSON array. -/
theorem scope_formats_agree_iff (hparse : JsonArrays.CorrectParser parse)
    (hscopes : ∀ w ∈ scopes, IsScopeToken w) :
    FormatsAgree parse scopes ↔
      scopes ≠ [] ∧ ¬ ReadsAsArray parse (PyStr.joinWords scopes) := by
  constructor
  · rintro ⟨result, hlist, hjson, hstr, -⟩
    -- `[]` is the default scope, and the text `[]` is no scope
    have hne : scopes ≠ [] := by
      rintro rfl
      have hread := hjson _ (JsonArrays.isArrayText_dumpsWords [])
      rw [parseScopeField_arrayText hparse hscopes (JsonArrays.isArrayText_dumpsWords []),
        ← hlist] at hread
      cases hread
    refine ⟨hne, fun hread => parseScopeField_str_ne hparse hscopes hne hread ?_⟩
    rw [hstr, ← hlist, parseScopeField_list hne]
  · rintro ⟨hne, hread⟩
    refine ⟨PyStr.joinWords scopes, parseScopeField_list hne,
      fun text htext => parseScopeField_arrayText hparse hscopes htext,
      parseScopeField_str hparse.errors (joinWords_ne_nil hscopes hne) hread, fun _ => ?_⟩
    exact List.splitOn_intercalate _ (fun w hw => (hscopes w hw).space_notMem) hne

end

/-- Two scopes, in the three formats. -/
theorem scope_formats_agree_iff_readWrite :
    FormatsAgree JsonArrays.plainParser [PyStr.ofString "read", PyStr.ofString "write"] := by
  have htokens : ∀ w ∈ [PyStr.ofString "read", PyStr.ofString "write"], IsScopeToken w := by
    simp [IsScopeToken, IsScopeChar, PyStr.ofString]
    decide
  refine (scope_formats_agree_iff JsonArrays.correctParser_plainParser htokens).mpr ⟨by simp, ?_⟩
  rintro ⟨hbracket, -⟩
  exact absurd hbracket (by decide)

/-- No scopes: `[]` and `""` are the default scope `read`, and the JSON text `"[]"` is none. -/
theorem empty_scope_formats_differ : ¬ FormatsAgree JsonArrays.plainParser [] := by
  rintro ⟨result, hlist, hjson, -⟩
  have hempty := parseScopeField_arrayText JsonArrays.correctParser_plainParser
    (List.forall_mem_nil _) (JsonArrays.isArrayText_dumpsWords [])
  rw [hjson _ (JsonArrays.isArrayText_dumpsWords []), ← hlist] at hempty
  cases hempty

/-! ## `parse_json_field`, and untrusted text -/

/-- The argument of `parse_json_field`. -/
inductive JsonField where
  | none
  | str (text : PyStr)
  | list (items : List PyStr)
  /-- A value of any other type. -/
  | other

/-- `parse_json_field`. The items of a parsed array are returned as they are. -/
def parseJsonField (parse : JsonBytes.Parser) (value : JsonField) (default : List PyStr) :
    Except JsonBytes.ParseError (List Json) :=
  match value with
  | .none => .ok (default.map .str)
  | .list items => if items.isEmpty then .ok (default.map .str) else .ok (items.map .str)
  | .other => .ok (default.map .str)
  | .str text =>
    if text.isEmpty then .ok (default.map .str)
    else
      match parse text with
      | .ok (.arr items) => .ok items
      | .ok _ => .ok (default.map .str)
      | .error .jsonDecodeError => .ok (default.map .str)
      | .error e => .error e

/-- **Both parsers are safe on a text**: `parse_scope_field` returns a string and `parse_json_field`
a list of strings. -/
def FieldParsersSafe (parse : JsonBytes.Parser) (text : PyStr) (default : List PyStr) : Prop :=
  (∃ result, parseScopeField parse (.str text) = .ok result) ∧
    ∃ items, parseJsonField parse (.str text) default = .ok items ∧
      ∀ item ∈ items, ∃ w, item = .str w

section

variable {parse : JsonBytes.Parser} {text : PyStr} {default : List PyStr}

/-- `" ".join` returns iff all items are strings. -/
theorem exists_joinItems_eq_ok_iff (items : List Json) :
    (∃ result, joinItems items = .ok result) ↔ ∀ item ∈ items, ∃ w, item = .str w := by
  have hstrings : (Json.arr items).strings?.isSome ↔ ∀ item ∈ items, ∃ w, item = .str w := by
    rw [Json.isSome_strings?]
    constructor
    · rintro ⟨items', heq, hall⟩
      cases heq
      exact hall
    · exact fun hall => ⟨items, rfl, hall⟩
  rw [← hstrings, joinItems]
  cases (Json.arr items).strings? with
  | none => simp
  | some words => simp

/-- Every item of a list of strings is one. -/
theorem forall_mem_map_str (words : List PyStr) :
    ∀ item ∈ words.map Json.str, ∃ w, item = .str w := by
  intro item hitem
  obtain ⟨w, -, rfl⟩ := List.mem_map.mp hitem
  exact ⟨w, rfl⟩

/-- The text of a JSON array is parsed to its items. -/
theorem parseJsonField_of_arr {items : List Json} (hne : text ≠ [])
    (hloads : parse text = .ok (.arr items)) :
    parseJsonField parse (.str text) default = .ok items := by
  have hempty : text.isEmpty = false := by simpa using hne
  simp only [parseJsonField, hempty, hloads, Bool.false_eq_true, if_false]

/-- Any other text is parsed to the default. -/
theorem parseJsonField_of_not_arr (herrors : ∀ text e, parse text = .error e → e = .jsonDecodeError)
    (harr : ∀ items, parse text ≠ .ok (.arr items)) :
    parseJsonField parse (.str text) default = .ok (default.map .str) := by
  rw [parseJsonField]
  split_ifs
  · rfl
  · cases hloads : parse text with
    | error e =>
      obtain rfl := herrors text e hloads
      rfl
    | ok v =>
      cases v with
      | arr items => exact absurd hloads (harr items)
      | null | bool | num | str | obj => rfl

/-- `parse_scope_field` returns on a text none of whose items, if it is a JSON array, is anything
but a string. -/
theorem exists_parseScopeField_str_eq_ok
    (herrors : ∀ text e, parse text = .error e → e = .jsonDecodeError)
    (hstrings : ∀ items, parse text = .ok (.arr items) → ∀ item ∈ items, ∃ w, item = .str w) :
    ∃ result, parseScopeField parse (.str text) = .ok result := by
  by_cases hread : ReadsAsArray parse text
  · obtain ⟨hbracket, items, hloads⟩ := hread
    rw [parseScopeField_of_arr hbracket hloads]
    exact (exists_joinItems_eq_ok_iff items).mpr (hstrings items hloads)
  · by_cases hne : text = []
    · subst hne
      exact ⟨_, rfl⟩
    · exact ⟨text, parseScopeField_str herrors hne hread⟩

/-- On the text of an array with any other item it raises a `TypeError`. -/
theorem parseScopeField_eq_typeError {items : List Json} {item : Json}
    (hbracket : startsWithBracket text = true) (hloads : parse text = .ok (.arr items))
    (hmem : item ∈ items) (hitem : ∀ w, item ≠ .str w) :
    parseScopeField parse (.str text) = .error .typeError := by
  rw [parseScopeField_of_arr hbracket hloads]
  cases hjoin : (Json.arr items).strings? with
  | none => rw [joinItems, hjoin]
  | some words =>
    have hok : ∃ result, joinItems items = .ok result := by
      rw [joinItems, hjoin]
      exact ⟨_, rfl⟩
    obtain ⟨w, hw⟩ := (exists_joinItems_eq_ok_iff items).mp hok item hmem
    exact absurd hw (hitem w)

/-- **When the field parsers are safe.** Given that `json.loads` raises nothing but
`JSONDecodeError`, they are at every text but those of JSON arrays with an item that is no
string. -/
theorem fieldParsers_safe_iff (herrors : ∀ text e, parse text = .error e → e = .jsonDecodeError) :
    FieldParsersSafe parse text default ↔
      text = [] ∨
        ∀ items, parse text = .ok (.arr items) → ∀ item ∈ items, ∃ w, item = .str w := by
  constructor
  · rintro ⟨-, items, hitems, hall⟩
    by_cases hne : text = []
    · exact .inl hne
    · refine .inr fun items' hloads => ?_
      rw [parseJsonField_of_arr hne hloads] at hitems
      cases hitems
      exact hall
  · rintro (rfl | hstrings)
    · exact ⟨⟨_, rfl⟩, _, rfl, forall_mem_map_str default⟩
    · refine ⟨exists_parseScopeField_str_eq_ok herrors hstrings, ?_⟩
      by_cases harr : ∃ items, parse text = .ok (.arr items)
      · obtain ⟨items, hloads⟩ := harr
        by_cases hne : text = []
        · subst hne
          exact ⟨_, rfl, forall_mem_map_str default⟩
        · exact ⟨items, parseJsonField_of_arr hne hloads, hstrings items hloads⟩
      · exact ⟨default.map .str, parseJsonField_of_not_arr herrors (not_exists.mp harr),
          forall_mem_map_str default⟩

end

/-- `["read"]` is an array of strings. -/
theorem fieldParsers_safe_iff_read :
    FieldParsersSafe JsonArrays.plainParser (JsonArrays.dumpsWords [PyStr.ofString "read"]) [] := by
  refine (fieldParsers_safe_iff JsonArrays.correctParser_plainParser.errors).mpr (.inr ?_)
  intro items hloads
  have hplain : ∀ w ∈ [PyStr.ofString "read"], JsonArrays.IsPlain w := by
    simp [JsonArrays.IsPlain, JsonArrays.IsPlainChar, PyStr.ofString]
    decide
  rw [JsonArrays.correctParser_plainParser.arrays _ _ hplain
    (JsonArrays.isArrayText_dumpsWords _)] at hloads
  cases hloads
  exact forall_mem_map_str [PyStr.ofString "read"]

/-- A parser that reads the one document `[1]`. -/
def oneParser : JsonBytes.Parser := fun text =>
  if text = PyStr.ofString "[1]" then .ok (.arr [.num 1]) else .error .jsonDecodeError

/-- `"[1]"`: `parse_scope_field` raises a `TypeError`, and `parse_json_field` returns a number. -/
theorem fieldParsers_number :
    ¬ ∀ parse : JsonBytes.Parser, (∀ text e, parse text = .error e → e = .jsonDecodeError) →
      ∀ text default, FieldParsersSafe parse text default := by
  intro hsafe
  have herrors : ∀ text e, oneParser text = .error e → e = .jsonDecodeError := by
    intro text e h
    rw [oneParser] at h
    split_ifs at h
    cases h
    rfl
  obtain ⟨⟨result, hresult⟩, -⟩ := hsafe oneParser herrors (PyStr.ofString "[1]") []
  have hnumber : Json.num 1 ∈ [Json.num 1] := List.mem_singleton_self _
  rw [parseScopeField_eq_typeError rfl (if_pos rfl) hnumber (by simp)] at hresult
  cases hresult

end McpAuthflow
