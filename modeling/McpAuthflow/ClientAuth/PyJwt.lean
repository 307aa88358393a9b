import McpAuthflow.Foundations.Json
import McpAuthflow.Foundations.Numbers
import Mathlib.Tactic.Linarith

/-! # PyJWT, as the authenticator uses it

PyJWT is not part of the repository. `PyJWT` lists the three functions the authenticator calls and
`PyJWT.Documented` what their documentation promises of `jwt.decode`: it returns the payload of the
assertion when the assertion verifies and its claims are valid (`ClaimsValid`), and nothing else. Of
an `exp` or `iat` that is not a number only the first half is promised. Dates are compared as they
are; the library itself compares their integer parts (`PyJWT.Truncating`), which differ where a date
has a fraction. `datedJwt` is a stand-in that keeps either promise for assertions that always
verify. -/

namespace McpAuthflow.ClientAuth

/-- The exceptions of PyJWT, as far as an `except` clause tells them apart. -/
inductive JwtException where
  /-- `ExpiredSignatureError`. -/
  | expiredSignature
  /-- `InvalidAudienceError`. -/
  | invalidAudience
  /-- `InvalidIssuerError`. -/
  | invalidIssuer
  /-- `DecodeError` and its subclasses. -/
  | decode (text : PyStr)
  /-- Any other `InvalidTokenError`. -/
  | invalidToken (text : PyStr)
  /-- Any other `Exception`. -/
  | other (text : PyStr)

/-- The arguments of `jwt.decode`, called with every `verify_*` option on. -/
structure DecodeArgs (κ : Type*) where
  assertion : PyStr
  key : κ
  algorithms : List PyStr
  audience : PyStr
  issuer : PyStr
  require : List String
  leeway : ℚ

/-- The functions of PyJWT: `get_unverified_header`, the key of `PyJWK.from_dict`, which may raise,
and `decode` at a reading of the clock. -/
structure PyJWT (κ : Type*) where
  getUnverifiedHeader : PyStr → Except JwtException JsonObject
  keyFromDict : JsonObject → Option κ
  decode : DecodeArgs κ → ℚ → Except JwtException JsonObject

/-- The `aud` claim names the audience: it is the audience, or a list of strings that has it. -/
def AudienceMatches (aud : Json) (audience : PyStr) : Prop :=
  aud = .str audience ∨
    ∃ items, aud = .arr items ∧ (∀ item ∈ items, ∃ s, item = .str s) ∧ .str audience ∈ items

/-- The claims `decode` checks, at the time `now`; `date` is what it compares of a date. -/
structure ClaimsValid {κ : Type*} (date : ℚ → ℚ) (args : DecodeArgs κ) (payload : JsonObject)
    (now : ℚ) : Prop where
  required : ∀ name ∈ args.require, Json.member payload name ≠ .null
  issuer : Json.member payload "iss" = .str args.issuer
  audience : AudienceMatches (Json.member payload "aud") args.audience
  expires : ∀ exp, (Json.member payload "exp").num? = some exp →
    now - args.leeway < date exp
  issued : ∀ iat, (Json.member payload "iat").num? = some iat → date iat ≤ now + args.leeway

/-- **What is known of `decode`**, when it compares `date` of the dates. `claims` is the payload of
an assertion. `verifies` says that PyJWT accepts an assertion under a key and an algorithm at some
time, the checks of `ClaimsValid` aside: the signature, and what else it checks by itself, such as
`nbf`. -/
structure PyJWT.Comparing {κ : Type*} (jwt : PyJWT κ) (date : ℚ → ℚ) (claims : PyStr → JsonObject)
    (verifies : κ → PyStr → PyStr → ℚ → Prop) : Prop where
  sound : ∀ args now payload, jwt.decode args now = .ok payload →
    payload = claims args.assertion ∧
      (∃ alg ∈ args.algorithms, verifies args.key alg args.assertion now) ∧
      ClaimsValid date args payload now
  complete : ∀ args now, (∃ alg ∈ args.algorithms, verifies args.key alg args.assertion now) →
    ClaimsValid date args (claims args.assertion) now →
    (Json.member (claims args.assertion) "exp").num?.isSome →
    (Json.member (claims args.assertion) "iat").num?.isSome →
    jwt.decode args now = .ok (claims args.assertion)

/-- **What is documented of `decode`**: the dates are compared as they are. -/
abbrev PyJWT.Documented {κ : Type*} (jwt : PyJWT κ) (claims : PyStr → JsonObject)
    (verifies : κ → PyStr → PyStr → ℚ → Prop) : Prop :=
  jwt.Comparing id claims verifies

/-- `int(..)` of a date. -/
def truncate (q : ℚ) : ℚ := pyInt q

/-- What PyJWT does: the dates are compared as integers. -/
abbrev PyJWT.Truncating {κ : Type*} (jwt : PyJWT κ) (claims : PyStr → JsonObject)
    (verifies : κ → PyStr → PyStr → ℚ → Prop) : Prop :=
  jwt.Comparing truncate claims verifies

theorem truncate_intCast (n : ℤ) : truncate n = n := by
  simp [truncate, pyInt]

/-! ## A stand-in -/

/-- A test of `AudienceMatches`. -/
def audienceMatches (aud : Json) (audience : PyStr) : Bool :=
  match aud with
  | .str s => s = audience
  | .arr items => items.all (fun item => item.str?.isSome) && items.any fun item =>
      item.pyEq (.str audience)
  | _ => false

theorem audienceMatches_iff (aud : Json) (audience : PyStr) :
    audienceMatches aud audience = true ↔ AudienceMatches aud audience := by
  unfold AudienceMatches
  cases aud <;> simp [audienceMatches, Json.isSome_str?]

/-- A test of `ClaimsValid`, for numeric `exp` and `iat`. -/
def claimsValid {κ : Type*} (date : ℚ → ℚ) (args : DecodeArgs κ) (payload : JsonObject) (now : ℚ) :
    Bool :=
  args.require.all (fun name => !(Json.member payload name).pyEq .null) &&
    (Json.member payload "iss").pyEq (.str args.issuer) &&
    audienceMatches (Json.member payload "aud") args.audience &&
    (match (Json.member payload "exp").num? with
      | some exp => now - args.leeway < date exp
      | none => false) &&
    (match (Json.member payload "iat").num? with
      | some iat => date iat ≤ now + args.leeway
      | none => false)

theorem claimsValid_iff {κ : Type*} (date : ℚ → ℚ) (args : DecodeArgs κ) (payload : JsonObject)
    (now : ℚ) :
    claimsValid date args payload now = true ↔
      ClaimsValid date args payload now ∧ (Json.member payload "exp").num?.isSome ∧
        (Json.member payload "iat").num?.isSome := by
  have hrequired : (args.require.all fun name => !(Json.member payload name).pyEq .null) = true ↔
      ∀ name ∈ args.require, Json.member payload name ≠ .null := by
    simp [← Json.pyEq_null]
  unfold claimsValid
  simp only [Bool.and_eq_true, hrequired, Json.pyEq_str, audienceMatches_iff]
  constructor
  · rintro ⟨⟨⟨⟨hreq, hiss⟩, haud⟩, hexp⟩, hiat⟩
    cases hexp' : (Json.member payload "exp").num? with
    | none => simp [hexp'] at hexp
    | some exp =>
      cases hiat' : (Json.member payload "iat").num? with
      | none => simp [hiat'] at hiat
      | some iat =>
        simp only [hexp', hiat', decide_eq_true_eq] at hexp hiat
        exact ⟨⟨hreq, hiss, haud, by simpa [hexp'] using hexp, by simpa [hiat'] using hiat⟩, rfl,
          rfl⟩
  · rintro ⟨⟨hreq, hiss, haud, hexp, hiat⟩, hexp', hiat'⟩
    obtain ⟨exp, hexp'⟩ := Option.isSome_iff_exists.mp hexp'
    obtain ⟨iat, hiat'⟩ := Option.isSome_iff_exists.mp hiat'
    simp only [hexp', hiat', decide_eq_true_eq]
    exact ⟨⟨⟨⟨hreq, hiss⟩, haud⟩, hexp exp hexp'⟩, hiat iat hiat'⟩

/-- A library whose assertions always verify, with RS256 headers and the given payloads. -/
def datedJwt (date : ℚ → ℚ) (claims : PyStr → JsonObject) : PyJWT Unit where
  getUnverifiedHeader _ := .ok [(PyStr.ofString "alg", .str "RS256")]
  keyFromDict _ := some ()
  decode args now :=
    if args.algorithms ≠ [] ∧ claimsValid date args (claims args.assertion) now = true then
      .ok (claims args.assertion)
    else .error (.invalidToken [])

/-- Its dates are compared as they are. -/
def claimsJwt (claims : PyStr → JsonObject) : PyJWT Unit := datedJwt id claims

/-- The stand-in keeps the promise. -/
theorem comparing_datedJwt (date : ℚ → ℚ) (claims : PyStr → JsonObject) :
    (datedJwt date claims).Comparing date claims fun _ _ _ _ => True := by
  constructor
  · intro args now payload h
    simp only [datedJwt] at h
    split at h
    case isFalse => cases h
    case isTrue hvalid =>
      obtain rfl := Except.ok.inj h
      obtain ⟨alg, halg⟩ := List.exists_mem_of_ne_nil _ hvalid.1
      exact ⟨rfl, ⟨alg, halg, trivial⟩, ((claimsValid_iff _ _ _ _).mp hvalid.2).1⟩
  · rintro args now ⟨alg, halg, -⟩ hvalid hexp hiat
    have htest := (claimsValid_iff date args (claims args.assertion) now).mpr ⟨hvalid, hexp, hiat⟩
    simp only [datedJwt]
    rw [if_pos ⟨List.ne_nil_of_mem halg, htest⟩]

theorem documented_claimsJwt (claims : PyStr → JsonObject) :
    (claimsJwt claims).Documented claims fun _ _ _ _ => True :=
  comparing_datedJwt id claims

end McpAuthflow.ClientAuth
