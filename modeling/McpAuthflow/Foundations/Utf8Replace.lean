import McpAuthflow.Foundations.Text
import Mathlib.Tactic.GCongr
import Mathlib.Tactic.Ring

/-! # UTF-8 with the error handler `replace`

`bytes.decode("utf-8", errors="replace")`, byte by byte. Between characters a byte begins one
(`firstByte`); within a character (`Pending`) the next byte has to lie in a range, or else what has
been read of it is replaced by U+FFFD and the byte begins another character.

* **`decodeReplace_encodeUtf8`** — a text is decoded back from its encoding;
* **`surrogateFree_decodeReplace`** — whatever is decoded has no lone surrogate. -/

namespace Utf8Replace

/-- A character that has begun: the range of its next byte, how many bytes follow that one, and the
bits read so far. -/
structure Pending where
  low : ℕ
  high : ℕ
  more : ℕ
  bits : ℕ

/-- U+FFFD. -/
def replacement : CodePoint := 0xFFFD

/-- The code point with these bits. -/
def codePoint (n : ℕ) : CodePoint := if h : n < 0x110000 then ⟨n, h⟩ else replacement

/-- A byte between characters: what it yields, and the character it begins. -/
def firstByte (b : UInt8) : PyStr × Option Pending :=
  let n := b.toNat
  if n < 0x80 then ([codePoint n], none)
  else if n < 0xC2 then ([replacement], none)
  else if n < 0xE0 then ([], some ⟨0x80, 0xBF, 0, n - 0xC0⟩)
  else if n = 0xE0 then ([], some ⟨0xA0, 0xBF, 1, 0⟩)
  -- no surrogates behind this one
  else if n = 0xED then ([], some ⟨0x80, 0x9F, 1, 0xD⟩)
  else if n < 0xF0 then ([], some ⟨0x80, 0xBF, 1, n - 0xE0⟩)
  else if n = 0xF0 then ([], some ⟨0x90, 0xBF, 2, 0⟩)
  else if n < 0xF4 then ([], some ⟨0x80, 0xBF, 2, n - 0xF0⟩)
  else if n = 0xF4 then ([], some ⟨0x80, 0x8F, 2, 4⟩)
  else ([replacement], none)

/-- A byte within a character. -/
def nextByte (p : Pending) (b : UInt8) : PyStr × Option Pending :=
  let n := b.toNat
  if p.low ≤ n ∧ n ≤ p.high then
    let bits := p.bits * 0x40 + (n - 0x80)
    match p.more with
    | 0 => ([codePoint bits], none)
    | more + 1 => ([], some ⟨0x80, 0xBF, more, bits⟩)
  else (replacement :: (firstByte b).1, (firstByte b).2)

/-- The text of the bytes, in or between characters. -/
def decodeFrom : Option Pending → List UInt8 → PyStr
  | none, [] => []
  | some _, [] => [replacement]
  | none, b :: s => (firstByte b).1 ++ decodeFrom (firstByte b).2 s
  | some p, b :: s => (nextByte p b).1 ++ decodeFrom (nextByte p b).2 s

/-- `bytes.decode("utf-8", errors="replace")`. -/
def decodeReplace (bytes : List UInt8) : PyStr := decodeFrom none bytes

/-! ## Encoded text -/

/-- The bits of a code point are its own. -/
theorem codePoint_val (c : CodePoint) : codePoint c.val = c := dif_pos c.isLt

/-- A byte is its number. -/
theorem toNat_toUInt8 {n : ℕ} (hn : n < 256) : n.toUInt8.toNat = n := UInt8.toNat_ofNat_of_lt hn

/-- A byte in the range of the next one. -/
theorem nextByte_of_mem {p : Pending} {n : ℕ} (hn : n < 256) (h : p.low ≤ n ∧ n ≤ p.high) :
    nextByte p n.toUInt8 =
      match p.more with
      | 0 => ([codePoint (p.bits * 0x40 + (n - 0x80))], none)
      | more + 1 => ([], some ⟨0x80, 0xBF, more, p.bits * 0x40 + (n - 0x80)⟩) := by
  simp only [nextByte, toNat_toUInt8 hn, if_pos h]

/-- The last byte of a character. -/
theorem decodeFrom_last {low high bits n : ℕ} (hn : n < 256) (h : low ≤ n ∧ n ≤ high)
    (rest : List UInt8) :
    decodeFrom (some ⟨low, high, 0, bits⟩) (n.toUInt8 :: rest)
      = codePoint (bits * 0x40 + (n - 0x80)) :: decodeFrom none rest := by
  rw [decodeFrom, nextByte_of_mem hn h]
  rfl

/-- A byte of a character that is not its last. -/
theorem decodeFrom_more {low high more bits n : ℕ} (hn : n < 256) (h : low ≤ n ∧ n ≤ high)
    (rest : List UInt8) :
    decodeFrom (some ⟨low, high, more + 1, bits⟩) (n.toUInt8 :: rest)
      = decodeFrom (some ⟨0x80, 0xBF, more, bits * 0x40 + (n - 0x80)⟩) rest := by
  rw [decodeFrom, nextByte_of_mem hn h]
  rfl

/-- The first byte of a character. -/
theorem decodeFrom_first {b : UInt8} {p : Pending} (h : firstByte b = ([], some p))
    (rest : List UInt8) : decodeFrom none (b :: rest) = decodeFrom (some p) rest := by
  rw [decodeFrom, h]
  rfl

/-- The first of two bytes. -/
theorem firstByte_of_two {x : ℕ} (h : 2 ≤ x) (h' : x < 0x20) :
    firstByte (0xC0 + x).toUInt8 = ([], some ⟨0x80, 0xBF, 0, x⟩) := by
  simp only [firstByte, toNat_toUInt8 (show 0xC0 + x < 256 by omega)]
  rw [if_neg (by omega), if_neg (by omega), if_pos (by omega), Nat.add_sub_cancel_left]

/-- The first of three bytes; the second one lies in its range unless the encoding is overlong or
that of a surrogate. -/
theorem firstByte_of_three {x y : ℕ} (hx : x < 0x10) (hy : y < 0x40)
    (hshort : x = 0 → 0x20 ≤ y) (hsurrogate : x = 0xD → y < 0x20) :
    ∃ low high, firstByte (0xE0 + x).toUInt8 = ([], some ⟨low, high, 1, x⟩) ∧
      low ≤ 0x80 + y ∧ 0x80 + y ≤ high := by
  simp only [firstByte, toNat_toUInt8 (show 0xE0 + x < 256 by omega)]
  rw [if_neg (by omega), if_neg (by omega), if_neg (by omega)]
  split_ifs with hzero hd hlast
  · obtain rfl : x = 0 := by omega
    exact ⟨_, _, rfl, by omega, by omega⟩
  · obtain rfl : x = 0xD := by omega
    exact ⟨_, _, rfl, by omega, by omega⟩
  · exact ⟨_, _, by rw [Nat.add_sub_cancel_left], by omega, by omega⟩
  all_goals omega

/-- The first of four bytes; the second one lies in its range unless the encoding is overlong or
beyond the last code point. -/
theorem firstByte_of_four {x y : ℕ} (hx : x < 5) (hy : y < 0x40) (hshort : x = 0 → 0x10 ≤ y)
    (hlong : x = 4 → y < 0x10) :
    ∃ low high, firstByte (0xF0 + x).toUInt8 = ([], some ⟨low, high, 2, x⟩) ∧
      low ≤ 0x80 + y ∧ 0x80 + y ≤ high := by
  simp only [firstByte, toNat_toUInt8 (show 0xF0 + x < 256 by omega)]
  rw [if_neg (by omega), if_neg (by omega), if_neg (by omega), if_neg (by omega), if_neg (by omega),
    if_neg (by omega)]
  split_ifs with hzero hmiddle hlast
  · obtain rfl : x = 0 := by omega
    exact ⟨_, _, rfl, by omega, by omega⟩
  · exact ⟨_, _, by rw [Nat.add_sub_cancel_left], by omega, by omega⟩
  · obtain rfl : x = 4 := by omega
    exact ⟨_, _, rfl, by omega, by omega⟩
  all_goals omega

/-- **A character is decoded from its encoding**, whatever follows. -/
theorem decodeFrom_encodeCodePoint {c : CodePoint} {b : List UInt8}
    (h : PyStr.encodeCodePoint c = some b) (rest : List UInt8) :
    decodeFrom none (b ++ rest) = c :: decodeFrom none rest := by
  have hmax := c.isLt
  unfold PyStr.encodeCodePoint at h
  -- one, two, three and four bytes
  split_ifs at h with hsurrogate hone htwo hthree
  · obtain rfl := Option.some.inj h
    show decodeFrom none (c.val.toUInt8 :: rest) = _
    rw [decodeFrom, firstByte]
    simp only [toNat_toUInt8 (show c.val < 256 by omega), if_pos hone, codePoint_val]
    rfl
  · obtain rfl := Option.some.inj h
    have hfirst := firstByte_of_two (x := c.val / 0x40) (by omega) (by omega)
    have hbits : c.val / 0x40 * 0x40 + (0x80 + c.val % 0x40 - 0x80) = c.val := by omega
    rw [List.cons_append, List.cons_append, List.nil_append, decodeFrom_first hfirst,
      decodeFrom_last (by omega) (by omega), hbits, codePoint_val]
  · obtain rfl := Option.some.inj h
    have hnot : ¬ (0xD800 ≤ c.val ∧ c.val ≤ 0xDFFF) := hsurrogate
    obtain ⟨low, high, hfirst, hlow, hhigh⟩ := firstByte_of_three (x := c.val / 0x1000)
      (y := c.val / 0x40 % 0x40) (by omega) (by omega) (by omega) (by omega)
    have hbits : (c.val / 0x1000 * 0x40 + (0x80 + c.val / 0x40 % 0x40 - 0x80)) * 0x40
        + (0x80 + c.val % 0x40 - 0x80) = c.val := by omega
    rw [List.cons_append, List.cons_append, List.cons_append, List.nil_append,
      decodeFrom_first hfirst, decodeFrom_more (by omega) ⟨hlow, hhigh⟩,
      decodeFrom_last (by omega) (by omega), hbits, codePoint_val]
  · obtain rfl := Option.some.inj h
    obtain ⟨low, high, hfirst, hlow, hhigh⟩ := firstByte_of_four (x := c.val / 0x40000)
      (y := c.val / 0x1000 % 0x40) (by omega) (by omega) (by omega) (by omega)
    have hbits : ((c.val / 0x40000 * 0x40 + (0x80 + c.val / 0x1000 % 0x40 - 0x80)) * 0x40
        + (0x80 + c.val / 0x40 % 0x40 - 0x80)) * 0x40 + (0x80 + c.val % 0x40 - 0x80)
        = c.val := by omega
    rw [List.cons_append, List.cons_append, List.cons_append, List.cons_append, List.nil_append,
      decodeFrom_first hfirst, decodeFrom_more (by omega) ⟨hlow, hhigh⟩,
      decodeFrom_more (by omega) (by omega), decodeFrom_last (by omega) (by omega), hbits,
      codePoint_val]

/-- **A text is decoded back from its encoding.** -/
theorem decodeReplace_encodeUtf8 {s : PyStr} {bytes : List UInt8}
    (h : s.encodeUtf8 = some bytes) : decodeReplace bytes = s := by
  induction s generalizing bytes with
  | nil =>
    obtain rfl := Option.some.inj h
    rfl
  | cons c s ih =>
    obtain ⟨b, r, hc, hr, rfl⟩ := PyStr.encodeUtf8_cons_eq_some.mp h
    rw [decodeReplace, decodeFrom_encodeCodePoint hc]
    exact congrArg (c :: ·) (ih hr)

/-! ## Decoded text -/

/-- However the character goes on, it is not a surrogate. -/
structure Pending.Safe (p : Pending) : Prop where
  more_le : p.more ≤ 2
  low_le : 0x80 ≤ p.low
  high_le : p.high ≤ 0xBF
  bits : (p.bits * 0x40 + (p.high - 0x80) + 1) * 0x40 ^ p.more ≤ 0xD800 ∨
    0xE000 ≤ (p.bits * 0x40 + (p.low - 0x80)) * 0x40 ^ p.more

theorem Pending.safe_mk {low high more bits : ℕ} (hmore : more ≤ 2) (hlow : 0x80 ≤ low)
    (hhigh : high ≤ 0xBF)
    (hbits : (bits * 0x40 + (high - 0x80) + 1) * 0x40 ^ more ≤ 0xD800 ∨
      0xE000 ≤ (bits * 0x40 + (low - 0x80)) * 0x40 ^ more) :
    Pending.Safe ⟨low, high, more, bits⟩ :=
  ⟨hmore, hlow, hhigh, hbits⟩

/-- The step of the bound: `x` bits more, one byte fewer to come. -/
theorem bits_step {bits l h x w : ℕ} (hl : l ≤ x) (hh : x ≤ h)
    (hbits : (bits * 0x40 + h + 1) * (0x40 * w) ≤ 0xD800 ∨
      0xE000 ≤ (bits * 0x40 + l) * (0x40 * w)) :
    ((bits * 0x40 + x) * 0x40 + 0x3F + 1) * w ≤ 0xD800 ∨
      0xE000 ≤ ((bits * 0x40 + x) * 0x40) * w := by
  rcases hbits with hbelow | habove
  · left
    calc ((bits * 0x40 + x) * 0x40 + 0x3F + 1) * w
        = (bits * 0x40 + x + 1) * (0x40 * w) := by ring
      _ ≤ (bits * 0x40 + h + 1) * (0x40 * w) := by gcongr
      _ ≤ 0xD800 := hbelow
  · right
    calc 0xE000 ≤ (bits * 0x40 + l) * (0x40 * w) := habove
      _ ≤ (bits * 0x40 + x) * (0x40 * w) := by gcongr
      _ = ((bits * 0x40 + x) * 0x40) * w := by ring

/-- So is the state between characters. -/
def SafeState : Option Pending → Prop
  | none => True
  | some p => p.Safe

theorem surrogateFree_replacement : PyStr.SurrogateFree [replacement] := by
  simp [PyStr.SurrogateFree, replacement, CodePoint.IsSurrogate]

theorem surrogateFree_codePoint {n : ℕ} (h : n < 0xD800 ∨ 0xE000 ≤ n) :
    PyStr.SurrogateFree [codePoint n] := by
  unfold codePoint
  split_ifs with hn
  · intro c hc
    obtain rfl := List.mem_singleton.mp hc
    rintro ⟨hlow, hhigh⟩
    dsimp only at hlow hhigh
    omega
  · exact surrogateFree_replacement

/-- What a byte between characters yields and begins. -/
theorem safe_firstByte (b : UInt8) :
    (firstByte b).1.SurrogateFree ∧ SafeState (firstByte b).2 := by
  unfold firstByte
  dsimp only
  generalize b.toNat = n
  split_ifs
  · exact ⟨surrogateFree_codePoint (by omega), trivial⟩
  · exact ⟨surrogateFree_replacement, trivial⟩
  -- the lead bytes: the bits they can lead to lie on one side of the surrogates
  iterate 7
    · exact ⟨PyStr.surrogateFree_nil,
        Pending.safe_mk (by omega) (by omega) (by omega) (by omega)⟩
  · exact ⟨surrogateFree_replacement, trivial⟩

/-- What a byte within a character yields and leaves. -/
theorem safe_nextByte {p : Pending} (hp : p.Safe) (b : UInt8) :
    (nextByte p b).1.SurrogateFree ∧ SafeState (nextByte p b).2 := by
  obtain ⟨low, high, more, bits⟩ := p
  obtain ⟨hmore, hlow, hhigh, hbits⟩ := hp
  unfold nextByte
  dsimp only at hmore hlow hhigh hbits ⊢
  generalize b.toNat = n
  split_ifs with hrange
  · obtain ⟨hn, hn'⟩ := hrange
    cases more with
    | zero => exact ⟨surrogateFree_codePoint (by omega), trivial⟩
    | succ more =>
      rw [pow_succ'] at hbits
      refine ⟨PyStr.surrogateFree_nil, Pending.safe_mk (by omega) le_rfl le_rfl ?_⟩
      have hstep := bits_step (Nat.sub_le_sub_right hn _) (Nat.sub_le_sub_right hn' _) hbits
      simpa only [Nat.reduceSub, Nat.add_zero] using hstep
  · obtain ⟨hout, hnext⟩ := safe_firstByte b
    rw [← List.singleton_append]
    exact ⟨(PyStr.surrogateFree_append _ _).mpr ⟨surrogateFree_replacement, hout⟩, hnext⟩

/-- Decoding yields no lone surrogate, in or between characters. -/
theorem surrogateFree_decodeFrom {state : Option Pending} (hstate : SafeState state)
    (bytes : List UInt8) : (decodeFrom state bytes).SurrogateFree := by
  induction bytes generalizing state with
  | nil =>
    cases state with
    | none => exact PyStr.surrogateFree_nil
    | some p => exact surrogateFree_replacement
  | cons b bytes ih =>
    cases state with
    | none =>
      obtain ⟨hout, hnext⟩ := safe_firstByte b
      exact (PyStr.surrogateFree_append _ _).mpr ⟨hout, ih hnext⟩
    | some p =>
      obtain ⟨hout, hnext⟩ := safe_nextByte hstate b
      exact (PyStr.surrogateFree_append _ _).mpr ⟨hout, ih hnext⟩

/-- **Whatever is decoded has no lone surrogate.** -/
theorem surrogateFree_decodeReplace (bytes : List UInt8) : (decodeReplace bytes).SurrogateFree := by
  have hstart : SafeState none := trivial
  exact surrogateFree_decodeFrom hstart bytes

end Utf8Replace
