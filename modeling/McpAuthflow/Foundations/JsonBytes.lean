import McpAuthflow.Foundations.Json

/-! # `json.loads` on bytes

Python's `json.loads` takes bytes: it guesses their encoding from the first four, decodes them with
the error handler `surrogatepass` and parses the text. Guessing (`detectEncoding`) and decoding
(`Encoding.decode`) are written out here; the parser proper is a parameter, since how deep it can
recurse and how many digits it reads depend on the interpreter. A body that has no decoding raises
`UnicodeDecodeError`, which is not the parser's `JSONDecodeError`. -/

namespace JsonBytes

/-! ## Decoders -/

/-- The code point `n`, if there is one and it is not below `least`. -/
def codePointFrom (least n : ℕ) : Option CodePoint :=
  if h : least ≤ n ∧ n < 0x110000 then some ⟨n, h.2⟩ else none

/-- The code point of a number that is one. -/
theorem codePointFrom_val {least : ℕ} {c : CodePoint} (h : least ≤ c.val) :
    codePointFrom least c.val = some c := by
  rw [codePointFrom, dif_pos ⟨h, c.isLt⟩]

/-- The six bits of a continuation byte `10xxxxxx`. -/
def continuation (b : UInt8) : Option ℕ :=
  if 0x80 ≤ b.toNat ∧ b.toNat ≤ 0xBF then some (b.toNat - 0x80) else none

/-- UTF-8 with `surrogatepass`: overlong forms are refused, encoded surrogates are not. -/
def decodeUtf8 : List UInt8 → Option PyStr
  | [] => some []
  | a :: s =>
    if a.toNat < 0x80 then do
      let c ← codePointFrom 0 a.toNat
      return c :: (← decodeUtf8 s)
    else if a.toNat < 0xC0 then none
    else if a.toNat < 0xE0 then
      match s with
      | b :: s => do
        let x ← continuation b
        let c ← codePointFrom 0x80 ((a.toNat - 0xC0) * 0x40 + x)
        return c :: (← decodeUtf8 s)
      | _ => none
    else if a.toNat < 0xF0 then
      match s with
      | b :: b' :: s => do
        let x ← continuation b
        let y ← continuation b'
        let c ← codePointFrom 0x800 ((a.toNat - 0xE0) * 0x1000 + x * 0x40 + y)
        return c :: (← decodeUtf8 s)
      | _ => none
    else
      match s with
      | b :: b' :: b'' :: s => do
        let x ← continuation b
        let y ← continuation b'
        let z ← continuation b''
        let c ← codePointFrom 0x10000 ((a.toNat - 0xF0) * 0x40000 + x * 0x1000 + y * 0x40 + z)
        return c :: (← decodeUtf8 s)
      | _ => none

/-- A small number is read off its byte. -/
private theorem toNat_byte {n : ℕ} (h : n < 256) : n.toUInt8.toNat = n :=
  UInt8.toNat_ofNat_of_lt h

/-- The bits of a continuation byte. -/
private theorem continuation_toUInt8 {n : ℕ} (h : n < 0x40) :
    continuation (0x80 + n).toUInt8 = some n := by
  rw [continuation, toNat_byte (by omega), if_pos (by omega), Nat.add_sub_cancel_left]

-- proved by rewriting: as a definitional step it makes the kernel unfold the arithmetic of the bits
private theorem some_bind {α β : Type} (a : α) (f : α → Option β) : (some a >>= f) = f a := by
  rw [Option.bind_eq_bind, Option.bind_some]

/-- Decoding one byte. -/
private theorem decodeUtf8_one {a : UInt8} {c : CodePoint} (ha : a.toNat < 0x80)
    (hc : codePointFrom 0 a.toNat = some c) (s : List UInt8) :
    decodeUtf8 (a :: s) = (decodeUtf8 s).map (c :: ·) := by
  rw [decodeUtf8.eq_def]
  simp only [if_pos ha, hc]
  cases decodeUtf8 s <;> rfl

/-- Decoding two bytes. -/
private theorem decodeUtf8_two {a b : UInt8} {x : ℕ} {c : CodePoint}
    (ha : 0xC0 ≤ a.toNat ∧ a.toNat < 0xE0) (hx : continuation b = some x)
    (hc : codePointFrom 0x80 ((a.toNat - 0xC0) * 0x40 + x) = some c) (s : List UInt8) :
    decodeUtf8 (a :: b :: s) = (decodeUtf8 s).map (c :: ·) := by
  rw [decodeUtf8.eq_def]
  simp only [hx, some_bind, hc]
  rw [if_neg (by omega), if_neg (by omega), if_pos ha.2]
  cases decodeUtf8 s <;> rfl

/-- Decoding three bytes. -/
private theorem decodeUtf8_three {a b b' : UInt8} {x y : ℕ} {c : CodePoint}
    (ha : 0xE0 ≤ a.toNat ∧ a.toNat < 0xF0) (hx : continuation b = some x)
    (hy : continuation b' = some y)
    (hc : codePointFrom 0x800 ((a.toNat - 0xE0) * 0x1000 + x * 0x40 + y) = some c)
    (s : List UInt8) : decodeUtf8 (a :: b :: b' :: s) = (decodeUtf8 s).map (c :: ·) := by
  rw [decodeUtf8.eq_def]
  simp only [hx, hy, some_bind, hc]
  rw [if_neg (by omega), if_neg (by omega), if_neg (by omega), if_pos ha.2]
  cases decodeUtf8 s <;> rfl

/-- Decoding four bytes. -/
private theorem decodeUtf8_four {a b b' b'' : UInt8} {x y z : ℕ} {c : CodePoint}
    (ha : 0xF0 ≤ a.toNat) (hx : continuation b = some x) (hy : continuation b' = some y)
    (hz : continuation b'' = some z)
    (hc : codePointFrom 0x10000
      ((a.toNat - 0xF0) * 0x40000 + x * 0x1000 + y * 0x40 + z) = some c) (s : List UInt8) :
    decodeUtf8 (a :: b :: b' :: b'' :: s) = (decodeUtf8 s).map (c :: ·) := by
  rw [decodeUtf8.eq_def]
  simp only [hx, hy, hz, some_bind, hc]
  rw [if_neg (by omega), if_neg (by omega), if_neg (by omega), if_neg (by omega)]
  cases decodeUtf8 s <;> rfl

/-- A character is decoded from its encoding. -/
theorem decodeUtf8_encodeCodePoint {c : CodePoint} {b : List UInt8}
    (h : PyStr.encodeCodePoint c = some b) (rest : List UInt8) :
    decodeUtf8 (b ++ rest) = (decodeUtf8 rest).map (c :: ·) := by
  have hmax := c.isLt
  -- the bits of the bytes are those of the code point
  have hfrom : ∀ {least n : ℕ}, n = c.val → least ≤ c.val → codePointFrom least n = some c := by
    rintro least n rfl hle
    exact codePointFrom_val hle
  unfold PyStr.encodeCodePoint at h
  split_ifs at h with hsurrogate hone htwo hthree
  · obtain rfl := Option.some.inj h
    have hlead := toNat_byte (show c.val < 256 by omega)
    exact decodeUtf8_one (by omega) (hfrom hlead (Nat.zero_le _)) rest
  · obtain rfl := Option.some.inj h
    have hlead := toNat_byte (show 0xC0 + c.val / 0x40 < 256 by omega)
    exact decodeUtf8_two (by omega) (continuation_toUInt8 (Nat.mod_lt _ (by decide)))
      (hfrom (by omega) (by omega)) rest
  · obtain rfl := Option.some.inj h
    have hlead := toNat_byte (show 0xE0 + c.val / 0x1000 < 256 by omega)
    exact decodeUtf8_three (by omega) (continuation_toUInt8 (Nat.mod_lt _ (by decide)))
      (continuation_toUInt8 (Nat.mod_lt _ (by decide))) (hfrom (by omega) (by omega)) rest
  · obtain rfl := Option.some.inj h
    have hlead := toNat_byte (show 0xF0 + c.val / 0x40000 < 256 by omega)
    exact decodeUtf8_four (by omega) (continuation_toUInt8 (Nat.mod_lt _ (by decide)))
      (continuation_toUInt8 (Nat.mod_lt _ (by decide)))
      (continuation_toUInt8 (Nat.mod_lt _ (by decide))) (hfrom (by omega) (by omega)) rest

/-- **Decoding inverts strict encoding.** -/
theorem decodeUtf8_encodeUtf8 {s : PyStr} {bytes : List UInt8} (h : s.encodeUtf8 = some bytes) :
    decodeUtf8 bytes = some s := by
  induction s generalizing bytes with
  | nil =>
    obtain rfl := Option.some.inj h
    rfl
  | cons c s ih =>
    obtain ⟨b, r, hb, hr, rfl⟩ := PyStr.encodeUtf8_cons_eq_some.mp h
    rw [decodeUtf8_encodeCodePoint hb, ih hr]
    rfl

/-- The number two bytes spell. -/
def word16 (bigEndian : Bool) (a b : UInt8) : ℕ :=
  if bigEndian then a.toNat * 0x100 + b.toNat else b.toNat * 0x100 + a.toNat

/-- The 16-bit units of a byte string, whose length must be even. -/
def units16 (bigEndian : Bool) : List UInt8 → Option (List ℕ)
  | [] => some []
  | [_] => none
  | a :: b :: s => (units16 bigEndian s).map (word16 bigEndian a b :: ·)

/-- UTF-16 units with `surrogatepass`: a surrogate that is not half of a pair stands for itself. -/
def decodeUnits16 : List ℕ → Option PyStr
  | [] => some []
  | [u] => (codePointFrom 0 u).map ([·])
  | u :: v :: us =>
    if 0xD800 ≤ u ∧ u ≤ 0xDBFF ∧ 0xDC00 ≤ v ∧ v ≤ 0xDFFF then do
      let c ← codePointFrom 0x10000 (0x10000 + (u - 0xD800) * 0x400 + (v - 0xDC00))
      return c :: (← decodeUnits16 us)
    else do
      let c ← codePointFrom 0 u
      return c :: (← decodeUnits16 (v :: us))

/-- UTF-16 with `surrogatepass`. -/
def decodeUtf16 (bigEndian : Bool) (bytes : List UInt8) : Option PyStr :=
  (units16 bigEndian bytes).bind decodeUnits16

/-- UTF-32 with `surrogatepass`. -/
def decodeUtf32 (bigEndian : Bool) : List UInt8 → Option PyStr
  | [] => some []
  | a :: b :: c :: d :: s => do
    let n :=
      if bigEndian then word16 true a b * 0x10000 + word16 true c d
      else word16 false c d * 0x10000 + word16 false a b
    let c ← codePointFrom 0 n
    return c :: (← decodeUtf32 bigEndian s)
  | _ => none

/-! ## `json.detect_encoding` -/

/-- The encodings `detect_encoding` answers with; the unmarked ones start with a byte order mark. -/
inductive Encoding where
  | utf8
  | utf8Sig
  | utf16
  | utf16be
  | utf16le
  | utf32
  | utf32be
  | utf32le
  deriving DecidableEq

/-- `codecs.BOM_UTF8`. -/
def bomUtf8 : List UInt8 := [0xEF, 0xBB, 0xBF]

/-- `detect_encoding`: by the byte order mark, else by where the first four bytes are zero. -/
def detectEncoding (bytes : List UInt8) : Encoding :=
  if [0x00, 0x00, 0xFE, 0xFF] <+: bytes ∨ [0xFF, 0xFE, 0x00, 0x00] <+: bytes then .utf32
  else if [0xFE, 0xFF] <+: bytes ∨ [0xFF, 0xFE] <+: bytes then .utf16
  else if bomUtf8 <+: bytes then .utf8Sig
  else
    match bytes with
    | a :: b :: c :: d :: _ =>
      if a = 0 then if b ≠ 0 then .utf16be else .utf32be
      else if b = 0 then if c ≠ 0 ∨ d ≠ 0 then .utf16le else .utf32le
      else .utf8
    | [a, b] => if a = 0 then .utf16be else if b = 0 then .utf16le else .utf8
    | _ => .utf8

/-- What starts with two ASCII characters is UTF-8. -/
theorem detectEncoding_of_isAscii {a b : UInt8} (ha : a ≠ 0 ∧ a.toNat < 0x80) (hb : b ≠ 0)
    (bytes : List UInt8) : detectEncoding (a :: b :: bytes) = .utf8 := by
  -- a byte order mark starts with another byte
  have hmark : ∀ m : UInt8, m = 0 ∨ 0x80 ≤ m.toNat → m ≠ a := by
    rintro m (rfl | hm) rfl
    · exact ha.1 rfl
    · exact absurd ha.2 (by omega)
  simp only [detectEncoding, bomUtf8, List.cons_prefix_cons, hmark 0x00 (by decide),
    hmark 0xFF (by decide), hmark 0xFE (by decide), hmark 0xEF (by decide), false_and, or_self,
    if_false]
  cases bytes with
  | nil => simp only [if_neg ha.1, if_neg hb]
  | cons c bytes =>
    cases bytes with
    | nil => rfl
    | cons d bytes => simp only [if_neg ha.1, if_neg hb]

/-- `bytes.decode(encoding, "surrogatepass")`; `none` is `UnicodeDecodeError`. -/
def Encoding.decode : Encoding → List UInt8 → Option PyStr
  | utf8, bytes => decodeUtf8 bytes
  | utf8Sig, bytes => decodeUtf8 (bytes.drop 3)
  | utf16, bytes => decodeUtf16 (bytes.head? = some 0xFE) (bytes.drop 2)
  | utf16be, bytes => decodeUtf16 true bytes
  | utf16le, bytes => decodeUtf16 false bytes
  | utf32, bytes => decodeUtf32 (bytes.head? = some 0x00) (bytes.drop 4)
  | utf32be, bytes => decodeUtf32 true bytes
  | utf32le, bytes => decodeUtf32 false bytes

/-! ## `json.loads` -/

/-- What the parser raises: `JSONDecodeError`, another `ValueError` (a number with too many digits)
or `RecursionError`. -/
inductive ParseError where
  | jsonDecodeError
  | valueError
  | recursionError
  deriving DecidableEq

/-- What `json.loads` raises on bytes. -/
inductive LoadsError where
  | unicodeDecodeError
  | parse (e : ParseError)
  deriving DecidableEq

/-- The parser of JSON text. -/
abbrev Parser := PyStr → Except ParseError Json

/-- `json.loads(bytes)`. -/
def loads (parse : Parser) (bytes : List UInt8) : Except LoadsError Json :=
  match (detectEncoding bytes).decode bytes with
  | none => .error .unicodeDecodeError
  | some text =>
    match parse text with
    | .error e => .error (.parse e)
    | .ok v => .ok v

/-- Text that the parser reads is what its bytes load as. -/
theorem loads_of_decode_eq_some {bytes : List UInt8} {text : PyStr}
    (h : (detectEncoding bytes).decode bytes = some text) {parse : Parser} {v : Json}
    (hv : parse text = .ok v) : loads parse bytes = .ok v := by
  simp only [loads, h, hv]

end JsonBytes
