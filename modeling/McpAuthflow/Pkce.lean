import McpAuthflow.Foundations.Base64
import McpAuthflow.Foundations.Regex
import Mathlib.Data.Vector.Defs

/-! # Proof key for code exchange (`mcp_authflow/pkce.py`)

`validate_code_verifier` and `validate_code_challenge` match their argument against
`^[A-Za-z0-9._~\-]{43,128}$`, `validate_code_challenge_method` looks a method up in a list, and
`verify_pkce` compares a verifier with the challenge that was bound to the code. SHA-256 is any
function to 32 bytes.

* **`pkceSyntax_exact_iff`** — at which texts the two syntax checks are those of RFC 7636, and
  **`pkceSyntax_newline`** one at which they are not;
* **`pkce_decisionPointsAgree`** — the checks at `/authorize` and at `/token` agree;
* **`challenge_binds`** — which verifiers a challenge accepts besides the one it was made from. -/

namespace McpAuthflow.Pkce

/-! ## Methods -/

/-- `S256`. -/
def s256 : PyStr := PyStr.ofString "S256"

/-- `PLAIN`. -/
def plain : PyStr := PyStr.ofString "plain"

/-- `ALLOWED_CODE_CHALLENGE_METHODS`. -/
def allowedCodeChallengeMethods : List PyStr := [s256, plain]

/-- `S256_ONLY_CODE_CHALLENGE_METHODS`. -/
def s256OnlyCodeChallengeMethods : List PyStr := [s256]

/-- `validate_code_challenge_method`. -/
def validateCodeChallengeMethod (method : Option PyStr) (allowPlain : Bool) : Bool :=
  let allowed := if allowPlain then allowedCodeChallengeMethods else s256OnlyCodeChallengeMethods
  match method with
  | none => false
  | some method => allowed.contains method

/-! ## Verifiers and challenges -/

/-- The class `[A-Za-z0-9._~\-]`. -/
def pkceRanges : List (CodePoint × CodePoint) :=
  [Regex.range 'A' 'Z', Regex.range 'a' 'z', Regex.range '0' '9', Regex.single '.',
    Regex.single '_', Regex.single '~', Regex.single '-']

/-- `_PKCE_CHARSET`. -/
def pkceCharset : Regex := .whole pkceRanges 43 128

/-- `validate_code_verifier`. -/
def validateCodeVerifier (codeVerifier : PyStr) : Bool := pkceCharset.isMatch codeVerifier

/-- `validate_code_challenge`. -/
def validateCodeChallenge (codeChallenge : PyStr) : Bool := pkceCharset.isMatch codeChallenge

/-- An unreserved character: `ALPHA / DIGIT / "-" / "." / "_" / "~"`. -/
def IsUnreserved (c : CodePoint) : Prop :=
  c.isAsciiAlnum = true ∨ c = CodePoint.ofChar '-' ∨ c = CodePoint.ofChar '.' ∨
    c = CodePoint.ofChar '_' ∨ c = CodePoint.ofChar '~'

/-- A `code_verifier` or `code_challenge` of RFC 7636: from 43 to 128 unreserved characters. -/
def IsPkceValue (s : PyStr) : Prop :=
  43 ≤ s.length ∧ s.length ≤ 128 ∧ ∀ c ∈ s, IsUnreserved c

/-- **Both syntax checks are right** about a text. -/
def PkceSyntaxExact (s : PyStr) : Prop :=
  (validateCodeVerifier s = true ↔ IsPkceValue s) ∧ (validateCodeChallenge s = true ↔ IsPkceValue s)

/-- The class holds the unreserved characters. -/
theorem inRanges_pkceRanges_iff (c : CodePoint) :
    Regex.inRanges pkceRanges c = true ↔ IsUnreserved c := by
  simp only [pkceRanges, Regex.inRanges_cons_iff, Regex.inRanges_nil, Bool.false_eq_true, or_false]
  rw [IsUnreserved, CodePoint.isAsciiAlnum_iff, Fin.ext_iff, Fin.ext_iff, Fin.ext_iff, Fin.ext_iff]
  show (0x41 ≤ c.val ∧ c.val ≤ 0x5A) ∨ (0x61 ≤ c.val ∧ c.val ≤ 0x7A) ∨
    (0x30 ≤ c.val ∧ c.val ≤ 0x39) ∨ (0x2E ≤ c.val ∧ c.val ≤ 0x2E) ∨
    (0x5F ≤ c.val ∧ c.val ≤ 0x5F) ∨ (0x7E ≤ c.val ∧ c.val ≤ 0x7E) ∨
    (0x2D ≤ c.val ∧ c.val ≤ 0x2D) ↔
    _ ∨ c.val = 0x2D ∨ c.val = 0x2E ∨ c.val = 0x5F ∨ c.val = 0x7E
  omega

/-- The runs of the class are the values of RFC 7636. -/
theorem isRun_pkceRanges_iff (s : PyStr) : Regex.IsRun pkceRanges 43 128 s ↔ IsPkceValue s := by
  simp only [Regex.IsRun, IsPkceValue, inRanges_pkceRanges_iff]

/-- **When the syntax checks are those of RFC 7636**: at every text but its values with a newline
behind them. -/
theorem pkceSyntax_exact_iff (s : PyStr) :
    PkceSyntaxExact s ↔ ¬ ∃ word, IsPkceValue word ∧ s = word ++ PyStr.ofString "\n" := by
  have hnewline : Regex.inRanges pkceRanges (CodePoint.ofChar '\n') = false := by decide
  have hexact : (pkceCharset.isMatch s = true ↔ IsPkceValue s) ↔
      ¬ ∃ word, IsPkceValue word ∧ s = word ++ PyStr.ofString "\n" := by
    simp only [← isRun_pkceRanges_iff]
    exact Regex.whole_exact_iff hnewline
  -- the two functions share their pattern
  rw [PkceSyntaxExact, validateCodeVerifier, validateCodeChallenge, and_self]
  exact hexact

/-- 43 letters and a newline are accepted. -/
theorem pkceSyntax_newline :
    ¬ PkceSyntaxExact (List.replicate 43 (CodePoint.ofChar 'a') ++ PyStr.ofString "\n") := by
  intro hexact
  have haccepted : pkceCharset.isMatch
      (List.replicate 43 (CodePoint.ofChar 'a') ++ PyStr.ofString "\n") = true := by
    refine Regex.isMatch_whole_iff.mpr ⟨_, _, rfl, (isRun_pkceRanges_iff _).mpr ?_, .inr rfl⟩
    refine ⟨by simp, by simp, fun c hc => ?_⟩
    rw [List.eq_of_mem_replicate hc]
    exact .inl (by decide)
  obtain ⟨-, -, hall⟩ := hexact.1.mp haccepted
  have hnewline := hall (CodePoint.ofChar '\n') (by simp [PyStr.ofString])
  rw [← inRanges_pkceRanges_iff] at hnewline
  exact absurd hnewline (by decide)

/-! ## Verification -/

/-- `secrets.compare_digest` on the UTF-8 bytes of two texts; `none` is a `UnicodeEncodeError`. -/
def compareDigest (s t : PyStr) : Option Bool := do
  let a ← s.encodeUtf8
  let b ← t.encodeUtf8
  return a == b

/-- `verify_pkce`; `none` is a `UnicodeEncodeError`. -/
def verifyPkce (sha256 : List UInt8 → List.Vector UInt8 32)
    (codeVerifier codeChallenge method : PyStr) (allowPlain : Bool) : Option Bool :=
  if method = s256 then do
    let bytes ← codeVerifier.encodeUtf8
    let digest := sha256 bytes
    -- the bytes of the digits, `rstrip(b"=")` and `decode("ascii")`, with texts throughout
    let computed := Base64.rstrip (Base64.encodePadded digest.toList)
    compareDigest computed codeChallenge
  else if method = plain && allowPlain then compareDigest codeVerifier codeChallenge
  else some false

/-- The S256 challenge of a verifier: `BASE64URL-ENCODE(SHA256(verifier))`, without padding. -/
def IsS256Challenge (sha256 : List UInt8 → List.Vector UInt8 32) (v c : PyStr) : Prop :=
  ∃ bytes, v.encodeUtf8 = some bytes ∧ c = Base64.encode (sha256 bytes).toList

/-- **The decision points agree**: what `verify_pkce` decides at `/token`, and what the syntax and
method checks decide at `/authorize`. -/
structure DecisionPointsAgree (sha256 : List UInt8 → List.Vector UInt8 32) : Prop where
  /-- A verifier that can be encoded has exactly one challenge. -/
  unique : ∀ v : PyStr, v.SurrogateFree → ∀ allowPlain,
    ∃! c, verifyPkce sha256 v c s256 allowPlain = some true
  /-- That challenge passes the check at `/authorize`. -/
  admitted : ∀ v c allowPlain, verifyPkce sha256 v c s256 allowPlain = some true →
    c.length = 43 ∧ validateCodeChallenge c = true
  /-- A client that sent the challenge of its verifier is not rejected. -/
  honest : ∀ v c allowPlain, IsS256Challenge sha256 v c →
    verifyPkce sha256 v c s256 allowPlain = some true
  /-- Nothing is verified under a method that `/authorize` does not allow. -/
  allowed : ∀ v c method allowPlain, verifyPkce sha256 v c method allowPlain = some true →
    validateCodeChallengeMethod (some method) allowPlain = true
  /-- Without `plain` nothing but S256 challenges is verified. -/
  s256Only : ∀ v c method, verifyPkce sha256 v c method false = some true →
    IsS256Challenge sha256 v c

section

variable {sha256 : List UInt8 → List.Vector UInt8 32} {v c method : PyStr} {allowPlain : Bool}

/-- Equal bytes are those of equal texts. -/
theorem compareDigest_eq_some_true_iff {s t : PyStr} :
    compareDigest s t = some true ↔ s.SurrogateFree ∧ t = s := by
  rw [compareDigest, ← PyStr.encodeUtf8_isSome_iff]
  cases ha : s.encodeUtf8 with
  | none => simp
  | some a =>
    cases hb : t.encodeUtf8 with
    | none =>
      -- the second text has no encoding, so it is not the first
      have hne : t ≠ s := by
        rintro rfl
        rw [ha] at hb
        cases hb
      simp [hne]
    | some b =>
      show some (a == b) = some true ↔ (some a).isSome = true ∧ t = s
      rw [Option.some_inj, beq_iff_eq, PyStr.encodings_eq_iff ha hb]
      simp [eq_comm]

/-- The characters of a challenge can be encoded. -/
theorem surrogateFree_encode (bytes : List UInt8) : (Base64.encode bytes).SurrogateFree := by
  intro d hd
  exact PyStr.surrogateFree_ofString _ d (Base64.mem_alphabet_of_mem_encode bytes d hd)

/-- Under `S256` the challenge of the verifier is verified, and nothing else. -/
theorem verifyPkce_s256_iff :
    verifyPkce sha256 v c s256 allowPlain = some true ↔ IsS256Challenge sha256 v c := by
  rw [verifyPkce, if_pos rfl, IsS256Challenge]
  cases v.encodeUtf8 with
  | none => simp
  | some bytes =>
    show compareDigest (Base64.rstrip (Base64.encodePadded (sha256 bytes).toList)) c = some true ↔ _
    rw [Base64.rstrip_encodePadded, compareDigest_eq_some_true_iff]
    simp [surrogateFree_encode]

/-- Any other method that verifies is `plain`, and is allowed. -/
theorem verifyPkce_of_ne_s256 (hmethod : method ≠ s256)
    (h : verifyPkce sha256 v c method allowPlain = some true) :
    method = plain ∧ allowPlain = true := by
  rw [verifyPkce, if_neg hmethod] at h
  split_ifs at h with hplain
  · simpa using hplain
  · cases h

/-- **A challenge has 43 characters**, one for every six bits of the digest. -/
theorem IsS256Challenge.length_eq (h : IsS256Challenge sha256 v c) : c.length = 43 := by
  obtain ⟨bytes, -, rfl⟩ := h
  rw [Base64.length_encode, List.Vector.toList_length]

/-- Digits of base 64 are unreserved. -/
theorem isUnreserved_of_mem_alphabet : ∀ d ∈ Base64.alphabet, IsUnreserved d := by
  have hall : Base64.alphabet.all (Regex.inRanges pkceRanges) = true := by decide
  intro d hd
  exact (inRanges_pkceRanges_iff d).mp (List.all_eq_true.mp hall d hd)

/-- **A challenge passes `validate_code_challenge`.** -/
theorem IsS256Challenge.validateCodeChallenge (h : IsS256Challenge sha256 v c) :
    validateCodeChallenge c = true := by
  have hlength := h.length_eq
  obtain ⟨bytes, -, rfl⟩ := h
  refine Regex.isMatch_whole_iff.mpr ⟨_, [], (List.append_nil _).symm, ?_, .inl rfl⟩
  rw [isRun_pkceRanges_iff]
  refine ⟨by omega, by omega, fun d hd => ?_⟩
  exact isUnreserved_of_mem_alphabet d (Base64.mem_alphabet_of_mem_encode _ d hd)

end

/-- **The decision points agree**, for any hash function with 32 bytes. -/
theorem pkce_decisionPointsAgree (sha256 : List UInt8 → List.Vector UInt8 32) :
    DecisionPointsAgree sha256 where
  unique v hv allowPlain := by
    obtain ⟨bytes, hbytes⟩ := Option.isSome_iff_exists.mp ((PyStr.encodeUtf8_isSome_iff v).mpr hv)
    refine ⟨Base64.encode (sha256 bytes).toList, verifyPkce_s256_iff.mpr ⟨bytes, hbytes, rfl⟩, ?_⟩
    intro c hc
    obtain ⟨bytes', hbytes', rfl⟩ := verifyPkce_s256_iff.mp hc
    rw [hbytes] at hbytes'
    cases hbytes'
    rfl
  admitted v c allowPlain h := by
    have hchallenge := verifyPkce_s256_iff.mp h
    exact ⟨hchallenge.length_eq, hchallenge.validateCodeChallenge⟩
  honest v c allowPlain h := verifyPkce_s256_iff.mpr h
  allowed v c method allowPlain h := by
    by_cases hmethod : method = s256
    · subst hmethod
      cases allowPlain <;> decide
    · obtain ⟨rfl, rfl⟩ := verifyPkce_of_ne_s256 hmethod h
      decide
  s256Only v c method h := by
    by_cases hmethod : method = s256
    · subst hmethod
      exact verifyPkce_s256_iff.mp h
    · cases (verifyPkce_of_ne_s256 hmethod h).2

/-! ## What a challenge binds -/

/-- **Two verifiers are the same to a method**: they are equal, or under `S256` have one digest. -/
def SameSecret (sha256 : List UInt8 → List.Vector UInt8 32) (method v v' : PyStr) : Prop :=
  if method = s256 then
    ∃ bytes bytes', v.encodeUtf8 = some bytes ∧ v'.encodeUtf8 = some bytes' ∧
      sha256 bytes' = sha256 bytes
  else v' = v

section

variable {sha256 : List UInt8 → List.Vector UInt8 32} {v v' c method : PyStr} {allowPlain : Bool}

/-- Under `plain` the verifier is the challenge. -/
theorem verifyPkce_plain_iff :
    verifyPkce sha256 v c plain true = some true ↔ v.SurrogateFree ∧ c = v := by
  rw [verifyPkce, if_neg (by decide), if_pos (by decide), compareDigest_eq_some_true_iff]

/-- Verifiers have one challenge iff they have one digest: base 64 keeps digests apart. -/
theorem isS256Challenge_iff_of_isS256Challenge (h : IsS256Challenge sha256 v c) :
    IsS256Challenge sha256 v' c ↔ SameSecret sha256 s256 v v' := by
  obtain ⟨bytes, hbytes, rfl⟩ := h
  rw [SameSecret, if_pos rfl, IsS256Challenge]
  constructor
  · rintro ⟨bytes', hbytes', heq⟩
    have hdigits := Base64.encode_injective heq
    exact ⟨bytes, bytes', hbytes, hbytes', List.Vector.eq _ _ hdigits.symm⟩
  · rintro ⟨bytes₀, bytes', hbytes₀, hbytes', heq⟩
    obtain rfl := Option.some_inj.mp (hbytes.symm.trans hbytes₀)
    exact ⟨bytes', hbytes', by rw [heq]⟩

/-- **A challenge binds its verifier**: whatever verifier it accepts, it accepts another one iff the
method cannot tell them apart, so that under `S256` whoever finds another has found two inputs of
SHA-256 with one digest. -/
theorem challenge_binds (h : verifyPkce sha256 v c method allowPlain = some true) (v' : PyStr) :
    verifyPkce sha256 v' c method allowPlain = some true ↔ SameSecret sha256 method v v' := by
  by_cases hmethod : method = s256
  · subst hmethod
    rw [verifyPkce_s256_iff] at h ⊢
    exact isS256Challenge_iff_of_isS256Challenge h
  · obtain ⟨rfl, rfl⟩ := verifyPkce_of_ne_s256 hmethod h
    rw [verifyPkce_plain_iff] at h ⊢
    obtain ⟨hfree, rfl⟩ := h
    rw [SameSecret, if_neg hmethod]
    constructor
    · exact fun hother => hother.2.symm
    · rintro rfl
      exact ⟨hfree, rfl⟩

/-- A hash that sees the length of its input alone accepts any verifier of that length. -/
theorem challenge_binds_length :
    verifyPkce (fun bytes => .ofFn fun _ => bytes.length.toUInt8) (PyStr.ofString "b")
      (Base64.encode (List.replicate 32 1)) s256 false = some true :=
  (challenge_binds (v := PyStr.ofString "a") (by decide +kernel) (PyStr.ofString "b")).mpr
    ⟨[97], [98], rfl, rfl, rfl⟩

end

end McpAuthflow.Pkce
