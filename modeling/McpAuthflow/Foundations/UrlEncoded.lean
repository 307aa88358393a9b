import McpAuthflow.Foundations.Urlunsplit
import McpAuthflow.Foundations.Utf8Replace

/-! # Form data: `urllib.parse.urlencode` and `urllib.parse.parse_qsl`

Names and values are UTF-8, every byte of it but the unreserved ones written as a percent escape and
a space as a plus sign. Reading is lenient: an escape that is none stays as it is, and bytes that
are no UTF-8 are replaced.

* **`unquotePlus_quotePlus`** — a quoted text is read back;
* **`parseQsl_urlencode`** — so are the pairs of encoded form data, in order, blank ones included;
* **`surrogateFree_parseQsl`** — whatever is read from a query can be encoded again. -/

namespace UrlEncoded

open CodePoint (ofChar)

/-! ## Quoting -/

/-- `_ALWAYS_SAFE`: letters, digits and `_.-~`. -/
def isAlwaysSafe (b : UInt8) : Bool :=
  let n := b.toNat
  (0x41 ≤ n && n ≤ 0x5A) || (0x61 ≤ n && n ≤ 0x7A) || (0x30 ≤ n && n ≤ 0x39) || n = 0x5F ||
    n = 0x2E || n = 0x2D || n = 0x7E

/-- The code point of an ASCII byte. -/
def ofByte (b : UInt8) : CodePoint := ⟨b.toNat, by have := b.toNat_lt; omega⟩

/-- A digit of `"{:02X}"`. -/
def hexDigit (n : ℕ) : CodePoint :=
  if n < 10 then ofByte (0x30 + n).toUInt8 else ofByte (0x37 + n).toUInt8

/-- The quoted form of a byte. -/
def quoteByte (b : UInt8) : PyStr :=
  if isAlwaysSafe b then [ofByte b]
  else if b = 0x20 then [ofChar '+']
  else [ofChar '%', hexDigit (b.toNat / 16), hexDigit (b.toNat % 16)]

/-- `quote_plus`; `none` is `UnicodeEncodeError`. -/
def quotePlus (s : PyStr) : Option PyStr := s.encodeUtf8.map fun bytes => bytes.flatMap quoteByte

/-- A pair of `urlencode`. -/
def quotePair (p : PyStr × PyStr) : Option PyStr := do
  let name ← quotePlus p.1
  let value ← quotePlus p.2
  return name ++ ofChar '=' :: value

/-- `urlencode(query)`, on a list of pairs. -/
def urlencode (query : List (PyStr × PyStr)) : Option PyStr :=
  (query.mapM quotePair).map fun pairs => [ofChar '&'].intercalate pairs

/-! ## Reading -/

/-- The value of a hexadecimal digit, in either case. -/
def hexValue (b : UInt8) : Option ℕ :=
  let n := b.toNat
  if 0x30 ≤ n ∧ n ≤ 0x39 then some (n - 0x30)
  else if 0x41 ≤ n ∧ n ≤ 0x46 then some (n - 0x37)
  else if 0x61 ≤ n ∧ n ≤ 0x66 then some (n - 0x57)
  else none

/-- The byte of a percent escape: `_hextobyte`. -/
def escapedByte (b x y : UInt8) : Option UInt8 :=
  if b = 0x25 then do return (16 * (← hexValue x) + (← hexValue y)).toUInt8 else none

/-- `unquote_to_bytes`. -/
def unquoteToBytes : List UInt8 → List UInt8
  | b :: x :: y :: s =>
    match escapedByte b x y with
    | some c => c :: unquoteToBytes s
    | none => b :: unquoteToBytes (x :: y :: s)
  -- too short for an escape
  | s => s

/-- `unquote`, behind a run of ASCII characters: each run is unquoted and decoded by itself, and
what is not ASCII stays. -/
def unquoteFrom : List UInt8 → PyStr → PyStr
  | run, [] => Utf8Replace.decodeReplace (unquoteToBytes run)
  | run, c :: s =>
    if c.IsAscii then unquoteFrom (run ++ [c.val.toUInt8]) s
    else Utf8Replace.decodeReplace (unquoteToBytes run) ++ c :: unquoteFrom [] s

/-- `unquote_plus`, with UTF-8 and the error handler `replace`. -/
def unquotePlus (s : PyStr) : PyStr :=
  unquoteFrom [] (s.map fun c => if c = ofChar '+' then ofChar ' ' else c)

/-- A pair of `parse_qsl`: a name without an equals sign has the value `""`. -/
def parsePair (nameValue : PyStr) : PyStr × PyStr :=
  let (name, value) := Urlparse.partition '=' nameValue
  (unquotePlus name, unquotePlus value)

/-- `parse_qsl(qs, keep_blank_values=True)`. -/
def parseQsl (qs : PyStr) : List (PyStr × PyStr) :=
  ((qs.splitOn (ofChar '&')).filter fun nameValue => !nameValue.isEmpty).map parsePair

/-! ## What a quoted text looks like -/

/-- The characters of a quoted text: the unreserved ones, the plus sign and the percent sign. -/
def isQuotedChar (c : CodePoint) : Bool :=
  isAlwaysSafe c.val.toUInt8 && c.val < 0x80 || c = ofChar '+' || c = ofChar '%'

/-- They are ASCII, and none of them is a separator of a URL or of form data. -/
theorem isQuotedChar_spec {c : CodePoint} (h : isQuotedChar c = true) :
    c.IsAscii ∧ 0x20 < c.val ∧ c ≠ ofChar '&' ∧ c ≠ ofChar '=' ∧ c ≠ ofChar '#' := by
  simp only [isQuotedChar, isAlwaysSafe, Bool.or_eq_true, Bool.and_eq_true, decide_eq_true_eq] at h
  rcases h with (⟨hsafe, hlt⟩ | rfl) | rfl
  · rw [Utf8Replace.toNat_toUInt8 (by omega)] at hsafe
    have hne : ∀ d : Char, c.val ≠ d.toNat → c ≠ ofChar d := by
      rintro d hd rfl
      exact hd rfl
    refine ⟨hlt, by omega, hne _ ?_, hne _ ?_, hne _ ?_⟩
    · show c.val ≠ 0x26
      omega
    · show c.val ≠ 0x3D
      omega
    · show c.val ≠ 0x23
      omega
  · decide
  · decide

/-- What holds of the byte of every number below 256 holds of every byte. -/
theorem forall_byte {P : UInt8 → Prop} (h : ∀ n < 256, P n.toUInt8) (b : UInt8) : P b := by
  have hb := h b.toNat b.toNat_lt
  rwa [show b.toNat.toUInt8 = b from UInt8.ofNat_toNat] at hb

theorem isQuotedChar_of_mem_quoteByte {b : UInt8} {c : CodePoint} (h : c ∈ quoteByte b) :
    isQuotedChar c = true := by
  have hall : (quoteByte b).all isQuotedChar = true :=
    forall_byte (P := fun b => (quoteByte b).all isQuotedChar = true) (by decide +kernel) b
  exact List.all_eq_true.mp hall c h

theorem isQuotedChar_of_mem_quotePlus {s t : PyStr} (h : quotePlus s = some t) {c : CodePoint}
    (hc : c ∈ t) : isQuotedChar c = true := by
  obtain ⟨bytes, -, rfl⟩ := Option.map_eq_some_iff.mp h
  obtain ⟨b, -, hb⟩ := List.mem_flatMap.mp hc
  exact isQuotedChar_of_mem_quoteByte hb

/-- A text without lone surrogates can be quoted. -/
theorem exists_quotePlus {s : PyStr} (h : s.SurrogateFree) : ∃ t, quotePlus s = some t := by
  obtain ⟨bytes, hbytes⟩ := Option.isSome_iff_exists.mp ((PyStr.encodeUtf8_isSome_iff s).mpr h)
  exact ⟨bytes.flatMap quoteByte, by rw [quotePlus, hbytes]; rfl⟩

/-! ## Reading back what was quoted -/

/-- The byte an ASCII character of form data is read as. -/
def readByte (c : CodePoint) : UInt8 := (if c = ofChar '+' then ofChar ' ' else c).val.toUInt8

/-- A byte that begins no escape stays. -/
theorem unquoteToBytes_cons {b : UInt8} (h : b ≠ 0x25) (s : List UInt8) :
    unquoteToBytes (b :: s) = b :: unquoteToBytes s := by
  rcases s with _ | ⟨x, _ | ⟨y, s⟩⟩
  · rfl
  · rfl
  · rw [unquoteToBytes, escapedByte, if_neg h]

/-- An escape is read as its byte. -/
theorem unquoteToBytes_escape {x y b : UInt8} (h : escapedByte 0x25 x y = some b)
    (s : List UInt8) : unquoteToBytes (0x25 :: x :: y :: s) = b :: unquoteToBytes s := by
  rw [unquoteToBytes, h]

/-- **A quoted byte is read back**, whatever follows. -/
theorem unquoteToBytes_quoteByte (b : UInt8) (s : List UInt8) :
    unquoteToBytes ((quoteByte b).map readByte ++ s) = b :: unquoteToBytes s := by
  unfold quoteByte
  -- the byte itself, a plus sign, or an escape
  split_ifs with hsafe hspace
  · have hread : readByte (ofByte b) = b ∧ b ≠ 0x25 := by
      revert hsafe
      exact forall_byte (P := fun b => isAlwaysSafe b = true → readByte (ofByte b) = b ∧ b ≠ 0x25)
        (by decide +kernel) b
    rw [List.map_singleton, hread.1]
    exact unquoteToBytes_cons hread.2 s
  · subst hspace
    exact unquoteToBytes_cons (by decide) s
  · have hread : escapedByte 0x25 (readByte (hexDigit (b.toNat / 16)))
        (readByte (hexDigit (b.toNat % 16))) = some b :=
      forall_byte (P := fun b => escapedByte 0x25 (readByte (hexDigit (b.toNat / 16)))
        (readByte (hexDigit (b.toNat % 16))) = some b) (by decide +kernel) b
    exact unquoteToBytes_escape hread s

theorem unquoteToBytes_flatMap_quoteByte (bytes : List UInt8) :
    unquoteToBytes ((bytes.flatMap quoteByte).map readByte) = bytes := by
  induction bytes with
  | nil => rfl
  | cons b bytes ih => rw [List.flatMap_cons, List.map_append, unquoteToBytes_quoteByte, ih]

/-- An ASCII text is one run. -/
theorem unquoteFrom_of_isAscii {s : PyStr} (h : ∀ c ∈ s, c.IsAscii) (run : List UInt8) :
    unquoteFrom run s
      = Utf8Replace.decodeReplace (unquoteToBytes (run ++ s.map fun c => c.val.toUInt8)) := by
  induction s generalizing run with
  | nil => rw [unquoteFrom, List.map_nil, List.append_nil]
  | cons c s ih =>
    obtain ⟨hc, hs⟩ := List.forall_mem_cons.mp h
    rw [unquoteFrom, if_pos hc, ih hs, List.append_assoc, List.map_cons, List.singleton_append]

/-- **A quoted text is read back.** -/
theorem unquotePlus_quotePlus {s t : PyStr} (h : quotePlus s = some t) : unquotePlus t = s := by
  have hchars : ∀ c ∈ t, isQuotedChar c = true := fun c hc => isQuotedChar_of_mem_quotePlus h hc
  obtain ⟨bytes, hbytes, rfl⟩ := Option.map_eq_some_iff.mp h
  have hascii : ∀ c ∈ (bytes.flatMap quoteByte).map fun c =>
      if c = ofChar '+' then ofChar ' ' else c, c.IsAscii := by
    intro c hc
    obtain ⟨d, hd, rfl⟩ := List.mem_map.mp hc
    split_ifs
    · decide
    · exact (isQuotedChar_spec (hchars d hd)).1
  rw [unquotePlus, unquoteFrom_of_isAscii hascii, List.nil_append, List.map_map]
  exact (congrArg Utf8Replace.decodeReplace (unquoteToBytes_flatMap_quoteByte bytes)).trans
    (Utf8Replace.decodeReplace_encodeUtf8 hbytes)

/-! ## Pairs -/

/-- A quoted pair is the quoted name and the quoted value. -/
theorem exists_of_quotePair {p : PyStr × PyStr} {t : PyStr} (h : quotePair p = some t) :
    ∃ name value, quotePlus p.1 = some name ∧ quotePlus p.2 = some value ∧
      t = name ++ ofChar '=' :: value := by
  simp only [quotePair, Option.bind_eq_bind, Option.bind_eq_some_iff, Option.pure_def,
    Option.some.injEq] at h
  obtain ⟨name, hname, value, hvalue, rfl⟩ := h
  exact ⟨name, value, hname, hvalue, rfl⟩

/-- A quoted pair is not empty, has no ampersand in it, and is read back. -/
theorem parsePair_quotePair {p : PyStr × PyStr} {t : PyStr} (h : quotePair p = some t) :
    t ≠ [] ∧ ofChar '&' ∉ t ∧ parsePair t = p := by
  obtain ⟨s, v, hs, hv, rfl⟩ := exists_of_quotePair h
  refine ⟨by simp, ?_, ?_⟩
  · intro hmem
    rcases List.mem_append.mp hmem with hmem | hmem
    · exact (isQuotedChar_spec (isQuotedChar_of_mem_quotePlus hs hmem)).2.2.1 rfl
    · rcases List.mem_cons.mp hmem with heq | hmem
      · exact absurd heq (by decide)
      · exact (isQuotedChar_spec (isQuotedChar_of_mem_quotePlus hv hmem)).2.2.1 rfl
  · have hequals : ofChar '=' ∉ s := fun hmem =>
      (isQuotedChar_spec (isQuotedChar_of_mem_quotePlus hs hmem)).2.2.2.1 rfl
    rw [parsePair, Urlparse.partition_eq hequals]
    exact Prod.ext (unquotePlus_quotePlus hs) (unquotePlus_quotePlus hv)

/-- **Encoded form data is read back**, in order and with every pair, blank or not. -/
theorem parseQsl_urlencode {query : List (PyStr × PyStr)} (hne : query ≠ []) {t : PyStr}
    (h : urlencode query = some t) : parseQsl t = query := by
  obtain ⟨pairs, hpairs, rfl⟩ := Option.map_eq_some_iff.mp h
  have hall := List.forall₂_of_mapM_eq_some hpairs
  have hne' : pairs ≠ [] := by
    rintro rfl
    exact hne (List.forall₂_nil_right_iff.mp hall)
  -- no pair is dropped as empty, or cut at an ampersand of its own
  have hmem : ∀ t ∈ pairs, t ≠ [] ∧ ofChar '&' ∉ t := by
    intro t ht
    obtain ⟨p, -, hp⟩ := List.exists_of_mem_mapM hpairs ht
    exact ⟨(parsePair_quotePair hp).1, (parsePair_quotePair hp).2.1⟩
  have hkeep : (pairs.filter fun t => !t.isEmpty) = pairs := by
    rw [List.filter_eq_self]
    intro t ht
    simpa using (hmem t ht).1
  rw [parseQsl, List.splitOn_intercalate _ (fun t ht => (hmem t ht).2) hne', hkeep]
  -- pair by pair
  clear hkeep hmem hne' hne hpairs h
  induction hall with
  | nil => rfl
  | cons hp hall ih => rw [List.map_cons, (parsePair_quotePair hp).2.2, ih]

/-- Pairs without lone surrogates can be encoded. -/
theorem exists_urlencode {query : List (PyStr × PyStr)}
    (h : ∀ p ∈ query, p.1.SurrogateFree ∧ p.2.SurrogateFree) : ∃ t, urlencode query = some t := by
  have hpairs : ∀ p ∈ query, ∃ t, quotePair p = some t := by
    intro p hp
    obtain ⟨name, hname⟩ := exists_quotePlus (h p hp).1
    obtain ⟨value, hvalue⟩ := exists_quotePlus (h p hp).2
    exact ⟨_, by rw [quotePair, hname, hvalue]; rfl⟩
  obtain ⟨pairs, hpairs⟩ := List.exists_mapM_eq_some hpairs
  exact ⟨_, by rw [urlencode, hpairs]; rfl⟩

/-- The text of encoded form data is a query. -/
theorem isQueryChar_of_mem_urlencode {query : List (PyStr × PyStr)} {t : PyStr}
    (h : urlencode query = some t) {c : CodePoint} (hc : c ∈ t) :
    Urlparse.IsQueryChar c := by
  obtain ⟨pairs, hpairs, rfl⟩ := Option.map_eq_some_iff.mp h
  have hquoted : isQuotedChar c = true → Urlparse.IsQueryChar c := fun hq =>
    ⟨(isQuotedChar_spec hq).2.1, (isQuotedChar_spec hq).2.2.2.2⟩
  rcases List.mem_or_mem_of_mem_intercalate hc with hsep | ⟨t, ht, hct⟩
  · obtain rfl := List.mem_singleton.mp hsep
    exact ⟨by decide, by decide⟩
  · obtain ⟨p, -, hp⟩ := List.exists_of_mem_mapM hpairs ht
    obtain ⟨name, value, hname, hvalue, rfl⟩ := exists_of_quotePair hp
    rcases List.mem_append.mp hct with hct | hct
    · exact hquoted (isQuotedChar_of_mem_quotePlus hname hct)
    · rcases List.mem_cons.mp hct with rfl | hct
      · exact ⟨by decide, by decide⟩
      · exact hquoted (isQuotedChar_of_mem_quotePlus hvalue hct)

/-! ## What is read from any query -/

/-- Unquoting yields no lone surrogate. -/
theorem surrogateFree_unquoteFrom {s : PyStr} (h : s.SurrogateFree) (run : List UInt8) :
    (unquoteFrom run s).SurrogateFree := by
  induction s generalizing run with
  | nil => exact Utf8Replace.surrogateFree_decodeReplace _
  | cons c s ih =>
    obtain ⟨hc, hs⟩ := List.forall_mem_cons.mp h
    rw [unquoteFrom]
    split_ifs
    · exact ih hs _
    · rw [PyStr.surrogateFree_append, ← List.singleton_append, PyStr.surrogateFree_append]
      exact ⟨Utf8Replace.surrogateFree_decodeReplace _, by simpa [PyStr.SurrogateFree] using hc,
        ih hs _⟩

/-- So does reading a plus sign as a space first. -/
theorem surrogateFree_unquotePlus {s : PyStr} (h : s.SurrogateFree) :
    (unquotePlus s).SurrogateFree := by
  apply surrogateFree_unquoteFrom
  intro c hc
  obtain ⟨d, hd, rfl⟩ := List.mem_map.mp hc
  split_ifs
  · exact CodePoint.not_isSurrogate_ofChar ' '
  · exact h d hd

/-- **Whatever is read from a query can be encoded again.** -/
theorem surrogateFree_parseQsl {qs : PyStr} (h : qs.SurrogateFree) {p : PyStr × PyStr}
    (hp : p ∈ parseQsl qs) : p.1.SurrogateFree ∧ p.2.SurrogateFree := by
  obtain ⟨nameValue, hmem, rfl⟩ := List.mem_map.mp hp
  have hpiece : ∀ c ∈ nameValue, ¬ c.IsSurrogate := by
    intro c hc
    apply h
    have hjoin : [ofChar '&'].intercalate (qs.splitOn (ofChar '&')) = qs :=
      List.intercalate_splitOn _
    rw [← hjoin]
    exact List.mem_intercalate_of_mem (List.mem_of_mem_filter hmem) hc
  constructor
  · exact surrogateFree_unquotePlus fun c hc => hpiece c (List.takeWhile_subset _ hc)
  · exact surrogateFree_unquotePlus fun c hc =>
      hpiece c (List.dropWhile_subset _ (List.mem_of_mem_tail hc))

end UrlEncoded
