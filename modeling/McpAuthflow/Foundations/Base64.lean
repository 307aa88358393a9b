import McpAuthflow.Foundations.Text
import Mathlib.Data.List.DropRight
import Mathlib.Data.List.GetD
import Mathlib.Data.List.Nodup

/-! # URL-safe base 64

Three bytes are written as four digits of six bits each; one or two bytes that are left over are
written as two or three digits. `encode` leaves it at that, and `encodePadded` fills the last four
characters up with `=`.

* **`length_encode`** — `n` bytes take `⌈4 n / 3⌉` digits;
* **`mem_alphabet_of_mem_encode`** — a text is written with the digits of the alphabet only;
* **`encode_injective`** — no two lists of bytes have the same text;
* **`rstrip_encodePadded`** — without the padding both texts are the same. -/

namespace Base64

/-- The digits, in the order of their values. -/
def alphabet : PyStr :=
  PyStr.ofString "ABCDEFGHIJKLMNOPQRSTUVWXYZabcdefghijklmnopqrstuvwxyz0123456789-_"

/-- The digit of a six-bit value. -/
def digit (n : ℕ) : CodePoint := alphabet.getD n 0

/-- The text of a list of bytes. -/
def encode : List UInt8 → PyStr
  | [] => []
  | [a] => [digit (a.toNat / 4), digit (a.toNat % 4 * 16)]
  | [a, b] =>
    [digit (a.toNat / 4), digit (a.toNat % 4 * 16 + b.toNat / 16), digit (b.toNat % 16 * 4)]
  | a :: b :: c :: rest =>
    digit (a.toNat / 4) :: digit (a.toNat % 4 * 16 + b.toNat / 16) ::
      digit (b.toNat % 16 * 4 + c.toNat / 64) :: digit (c.toNat % 64) :: encode rest

/-- The published test vectors. -/
example :
    encode [0x66] = PyStr.ofString "Zg" ∧ encode [0x66, 0x6F] = PyStr.ofString "Zm8" ∧
      encode [0x66, 0x6F, 0x6F, 0x62] = PyStr.ofString "Zm9vYg" := by
  decide

/-- **The number of digits** is four for every three bytes, rounded up. -/
theorem length_encode (bytes : List UInt8) :
    (encode bytes).length = (4 * bytes.length + 2) / 3 := by
  induction bytes using encode.induct with
  | case1 => rfl
  | case2 a => simp [encode]
  | case3 a b => simp [encode]
  | case4 a b c rest ih =>
    simp only [encode, List.length_cons, ih]
    omega

/-- A six-bit value has a digit. -/
theorem digit_mem_alphabet {n : ℕ} (h : n < 64) : digit n ∈ alphabet := by
  have hlength : alphabet.length = 64 := by decide
  rw [digit, List.getD_eq_getElem _ _ (by omega)]
  exact List.getElem_mem _

/-- **Texts are written with the alphabet.** -/
theorem mem_alphabet_of_mem_encode (bytes : List UInt8) : ∀ c ∈ encode bytes, c ∈ alphabet := by
  have hbyte : ∀ a : UInt8, a.toNat < 256 := fun a => a.toNat_lt
  induction bytes using encode.induct with
  | case1 => simp [encode]
  | case2 a =>
    have ha := hbyte a
    intro d hd
    simp only [encode, List.mem_cons, List.not_mem_nil, or_false] at hd
    rcases hd with rfl | rfl <;> exact digit_mem_alphabet (by omega)
  | case3 a b =>
    have ha := hbyte a
    have hb := hbyte b
    intro d hd
    simp only [encode, List.mem_cons, List.not_mem_nil, or_false] at hd
    rcases hd with rfl | rfl | rfl <;> exact digit_mem_alphabet (by omega)
  | case4 a b c rest ih =>
    have ha := hbyte a
    have hb := hbyte b
    have hc := hbyte c
    intro d hd
    rw [encode] at hd
    simp only [List.mem_cons] at hd
    rcases hd with rfl | rfl | rfl | rfl | hd
    · exact digit_mem_alphabet (by omega)
    · exact digit_mem_alphabet (by omega)
    · exact digit_mem_alphabet (by omega)
    · exact digit_mem_alphabet (by omega)
    · exact ih d hd

/-! ## Injectivity -/

/-- Different values have different digits. -/
theorem digit_inj {m n : ℕ} (hm : m < 64) (hn : n < 64) (h : digit m = digit n) : m = n := by
  have hlength : alphabet.length = 64 := by decide
  have hnodup : alphabet.Nodup := by decide
  rw [digit, digit, List.getD_eq_getElem _ _ (by omega), List.getD_eq_getElem _ _ (by omega)] at h
  exact hnodup.getElem_inj_iff.mp h

/-- **A text is that of one list of bytes.** -/
theorem encode_injective : Function.Injective encode := by
  intro xs ys h
  have hbyte : ∀ a : UInt8, a.toNat < 256 := fun a => a.toNat_lt
  induction xs using encode.induct generalizing ys with
  | case1 =>
    rcases ys with _ | ⟨d, _ | ⟨e, _ | ⟨f, ys⟩⟩⟩
    · rfl
    all_goals cases h
  | case2 a =>
    have ha := hbyte a
    rcases ys with _ | ⟨d, _ | ⟨e, _ | ⟨f, ys⟩⟩⟩
    case cons.nil =>
      have hd := hbyte d
      simp only [encode, List.cons.injEq, and_true] at h
      have h₁ := digit_inj (by omega) (by omega) h.1
      have h₂ := digit_inj (by omega) (by omega) h.2
      rw [UInt8.toNat_inj.mp (show a.toNat = d.toNat by omega)]
    -- the other texts are longer or shorter
    all_goals simp [encode] at h
  | case3 a b =>
    have ha := hbyte a
    have hb := hbyte b
    rcases ys with _ | ⟨d, _ | ⟨e, _ | ⟨f, ys⟩⟩⟩
    case cons.cons.nil =>
      have hd := hbyte d
      have he := hbyte e
      simp only [encode, List.cons.injEq, and_true] at h
      have h₁ := digit_inj (by omega) (by omega) h.1
      have h₂ := digit_inj (by omega) (by omega) h.2.1
      have h₃ := digit_inj (by omega) (by omega) h.2.2
      rw [UInt8.toNat_inj.mp (show a.toNat = d.toNat by omega),
        UInt8.toNat_inj.mp (show b.toNat = e.toNat by omega)]
    all_goals simp [encode] at h
  | case4 a b c xs ih =>
    have ha := hbyte a
    have hb := hbyte b
    have hc := hbyte c
    rcases ys with _ | ⟨d, _ | ⟨e, _ | ⟨f, ys⟩⟩⟩
    case cons.cons.cons =>
      have hd := hbyte d
      have he := hbyte e
      have hf := hbyte f
      simp only [encode, List.cons.injEq] at h
      obtain ⟨h₁, h₂, h₃, h₄, hrest⟩ := h
      have h₁ := digit_inj (by omega) (by omega) h₁
      have h₂ := digit_inj (by omega) (by omega) h₂
      have h₃ := digit_inj (by omega) (by omega) h₃
      have h₄ := digit_inj (by omega) (by omega) h₄
      rw [UInt8.toNat_inj.mp (show a.toNat = d.toNat by omega),
        UInt8.toNat_inj.mp (show b.toNat = e.toNat by omega),
        UInt8.toNat_inj.mp (show c.toNat = f.toNat by omega), ih hrest]
    all_goals simp [encode] at h

/-! ## Padding -/

/-- `=`, which is no digit. -/
def pad : CodePoint := CodePoint.ofChar '='

/-- The text of a list of bytes, filled up to a multiple of four characters. -/
def encodePadded : List UInt8 → PyStr
  | [] => []
  | [a] => [digit (a.toNat / 4), digit (a.toNat % 4 * 16), pad, pad]
  | [a, b] =>
    [digit (a.toNat / 4), digit (a.toNat % 4 * 16 + b.toNat / 16), digit (b.toNat % 16 * 4), pad]
  | a :: b :: c :: rest =>
    digit (a.toNat / 4) :: digit (a.toNat % 4 * 16 + b.toNat / 16) ::
      digit (b.toNat % 16 * 4 + c.toNat / 64) :: digit (c.toNat % 64) :: encodePadded rest

/-- `rstrip("=")`. -/
def rstrip (text : PyStr) : PyStr := text.rdropWhile (· == pad)

/-- **How much is padded**: one character for two bytes that are left over, and two for one. -/
theorem encodePadded_eq (bytes : List UInt8) :
    encodePadded bytes = encode bytes ++ List.replicate ((3 - bytes.length % 3) % 3) pad := by
  induction bytes using encode.induct with
  | case1 => rfl
  | case2 a => rfl
  | case3 a b => rfl
  | case4 a b c rest ih =>
    have hlength : (a :: b :: c :: rest).length % 3 = rest.length % 3 := by
      simp only [List.length_cons]
      omega
    rw [encodePadded, encode, ih, hlength]
    rfl

/-- `=` is not in a text that is not padded. -/
theorem pad_notMem_encode (bytes : List UInt8) : pad ∉ encode bytes := by
  intro hmem
  exact absurd (mem_alphabet_of_mem_encode bytes pad hmem) (by decide)

/-- Stripping takes away what is padded, and stops before it reaches a text without padding. -/
theorem rstrip_append_replicate {text : PyStr} (h : pad ∉ text) (n : ℕ) :
    rstrip (text ++ List.replicate n pad) = text := by
  induction n with
  | zero =>
    rw [List.replicate_zero, List.append_nil]
    apply List.rdropWhile_eq_self_iff.mpr
    intro hne hlast
    have hpad : text.getLast hne = pad := by simpa using hlast
    exact h (hpad ▸ List.getLast_mem hne)
  | succ n ih =>
    rw [List.replicate_succ', ← List.append_assoc, rstrip,
      List.rdropWhile_concat_pos (· == pad) _ _ (beq_self_eq_true pad)]
    exact ih

/-- **Without its padding, the padded text is the other one.** -/
theorem rstrip_encodePadded (bytes : List UInt8) : rstrip (encodePadded bytes) = encode bytes := by
  rw [encodePadded_eq]
  exact rstrip_append_replicate (pad_notMem_encode bytes) _

end Base64
