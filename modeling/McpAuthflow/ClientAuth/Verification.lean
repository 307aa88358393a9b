import McpAuthflow.ClientAuth.Authenticator

/-! # What a verified assertion satisfies

One lemma for each stage of `_verify_jwt` before the replay check. The algorithm check lets exactly
the allowed algorithms through. The key search returns the first usable entry of the JWKS, provided
every entry before it is an object (`searchKeys_eq_some_iff`). Under what is documented of PyJWT the
claims of a verified assertion are those the endpoint asks for, at the clock readings of the call
(`verifyClaims_sound`, `verifyClaims_complete`). -/

namespace McpAuthflow.ClientAuth

variable {κ : Type*} {jwt : PyJWT κ}

/-! ## The algorithm -/

/-- No allowed algorithm is blocked. -/
theorem notMem_blocked_of_mem_allowed {alg : PyStr} (h : alg ∈ allowedJwtAlgorithms) :
    alg ∉ blockedJwtAlgorithms := by
  have hall : ∀ alg ∈ allowedJwtAlgorithms, alg ∉ blockedJwtAlgorithms := by decide +kernel
  exact hall alg h

/-- **The algorithm check** returns the header's algorithm iff it is an allowed one. -/
theorem checkAlgorithm_eq_ok {header : JsonObject} {alg : PyStr} :
    checkAlgorithm header = .ok alg ↔
      headerAlg header = .str alg ∧ alg ∈ allowedJwtAlgorithms := by
  unfold checkAlgorithm
  split
  case h_1 given hgiven =>
    rw [hgiven]
    -- a string is looked up in both sets
    by_cases hblocked : given ∈ blockedJwtAlgorithms
    · rw [if_pos hblocked]
      refine iff_of_false (by simp) ?_
      rintro ⟨heq, hallowed⟩
      obtain rfl := Json.str.inj heq
      exact notMem_blocked_of_mem_allowed hallowed hblocked
    · rw [if_neg hblocked]
      split
      case isTrue hallowed =>
        constructor
        · intro h
          obtain rfl := Except.ok.inj h
          exact ⟨rfl, hallowed⟩
        · rintro ⟨heq, -⟩
          rw [Json.str.inj heq]
      case isFalse hallowed =>
        refine iff_of_false (by simp) ?_
        rintro ⟨heq, hmem⟩
        obtain rfl := Json.str.inj heq
        exact hallowed hmem
  case h_2 v hv =>
    -- any other value is refused, one way or the other
    refine iff_of_false ?_ fun h => hv alg h.1
    split <;> simp

/-! ## The key search -/

/-- The key type an algorithm needs: EC for the ES family, RSA for RS and PS. -/
def requiredKty (alg : PyStr) : PyStr :=
  if PyStr.ofString "ES" <+: alg then PyStr.ofString "EC" else PyStr.ofString "RSA"

/-- The members of a key fit an assertion: its `kid` if the assertion names one, its `alg` and its
`use` if they are given, and its `kty`. -/
structure Fits (keyData : JsonObject) (kid : Json) (alg : PyStr) : Prop where
  kid_eq : kid.truthy = true → (Json.member keyData "kid").pyEq kid = true
  alg_eq : (Json.member keyData "alg").truthy = true → Json.member keyData "alg" = .str alg
  use_eq : (Json.member keyData "use").truthy = true → Json.member keyData "use" = .str "sig"
  kty_eq : Json.member keyData "kty" = .str (requiredKty alg)

/-- The entry is a JWK that fits the assertion, and `key` can be constructed from it. -/
def Usable (jwt : PyJWT κ) (kid : Json) (alg : PyStr) (entry : Json) (key : κ) : Prop :=
  ∃ keyData, entry = .obj keyData ∧ Fits keyData kid alg ∧ jwt.keyFromDict keyData = some key

/-- `key` is that of the first usable entry; the entries `before` it are not usable. -/
def FirstUsable (jwt : PyJWT κ) (kid : Json) (alg : PyStr) (entries before : List Json) (key : κ) :
    Prop :=
  ∃ entry after, entries = before ++ entry :: after ∧ Usable jwt kid alg entry key ∧
    ∀ e ∈ before, ∀ k, ¬ Usable jwt kid alg e k

/-- Every value is a JSON object. -/
def AllObjects (entries : List Json) : Prop := ∀ e ∈ entries, ∃ members, e = .obj members

/-- The prefix table knows the key type of every allowed algorithm. -/
theorem lookup_algPrefixToKty {alg : PyStr} (h : alg ∈ allowedJwtAlgorithms) :
    algPrefixToKty.lookup (alg.take 2) = some (requiredKty alg) := by
  have hall : ∀ alg ∈ allowedJwtAlgorithms,
      algPrefixToKty.lookup (alg.take 2) = some (requiredKty alg) := by decide +kernel
  exact hall alg h

/-- `_key_matches` decides whether a key fits. -/
theorem keyMatches_iff {alg : PyStr} (h : alg ∈ allowedJwtAlgorithms) (keyData : JsonObject)
    (kid : Json) : keyMatches keyData kid alg = true ↔ Fits keyData kid alg := by
  unfold keyMatches
  rw [lookup_algPrefixToKty h]
  constructor
  · intro hmatch
    split_ifs at hmatch with hkid halg huse
    refine ⟨?_, ?_, ?_, (Json.pyEq_str _ _).mp hmatch⟩
    · intro htruthy
      simpa [htruthy] using hkid
    · intro htruthy
      simpa [htruthy] using halg
    · intro htruthy
      simpa [htruthy] using huse
  · rintro ⟨hkid, halg, huse, hkty⟩
    rw [if_neg, if_neg, if_neg]
    · exact (Json.pyEq_str _ _).mpr hkty
    · simpa using huse
    · simpa using halg
    · simpa using hkid

/-- The search goes past an entry that is an object and not usable. -/
theorem searchKeys_cons_of_not_usable {kid : Json} {alg : PyStr} (h : alg ∈ allowedJwtAlgorithms)
    {keyData : JsonObject} (hnot : ∀ k, ¬ Usable jwt kid alg (.obj keyData) k)
    (entries : List Json) :
    searchKeys jwt kid alg (.obj keyData :: entries) = searchKeys jwt kid alg entries := by
  rw [searchKeys]
  split
  case isTrue hmatch =>
    cases hkey : jwt.keyFromDict keyData with
    | none => rfl
    | some key => exact absurd ⟨keyData, rfl, (keyMatches_iff h _ _).mp hmatch, hkey⟩ (hnot key)
  case isFalse => rfl

/-- The search stops at a usable entry. -/
theorem searchKeys_cons_of_usable {kid : Json} {alg : PyStr} (h : alg ∈ allowedJwtAlgorithms)
    {entry : Json} {key : κ} (husable : Usable jwt kid alg entry key) (entries : List Json) :
    searchKeys jwt kid alg (entry :: entries) = .ok (some key) := by
  obtain ⟨keyData, rfl, hfits, hkey⟩ := husable
  rw [searchKeys, if_pos ((keyMatches_iff h _ _).mpr hfits), hkey]

/-- **The key search** returns the key of the first usable entry, if every entry before it is an
object; otherwise it returns no key. -/
theorem searchKeys_eq_some_iff {kid : Json} {alg : PyStr} (h : alg ∈ allowedJwtAlgorithms)
    (entries : List Json) (key : κ) :
    searchKeys jwt kid alg entries = .ok (some key) ↔
      ∃ before, FirstUsable jwt kid alg entries before key ∧ AllObjects before := by
  constructor
  · intro hsearch
    -- along the entries the search has gone past
    induction entries with
    | nil => cases hsearch
    | cons entry entries ih =>
      by_cases husable : ∃ k, Usable jwt kid alg entry k
      · obtain ⟨k, hk⟩ := husable
        rw [searchKeys_cons_of_usable h hk] at hsearch
        obtain rfl : k = key := by simpa using hsearch
        exact ⟨[], ⟨entry, entries, rfl, hk, by simp⟩, by simp [AllObjects]⟩
      · cases entry with
        | obj keyData =>
          rw [searchKeys_cons_of_not_usable h (fun k hk => husable ⟨k, hk⟩)] at hsearch
          obtain ⟨before, ⟨found, after, rfl, hfound, hbefore⟩, hobjects⟩ := ih hsearch
          refine ⟨.obj keyData :: before, ⟨found, after, rfl, hfound, ?_⟩, ?_⟩
          · intro e he k hk
            rcases List.mem_cons.mp he with rfl | he
            · exact husable ⟨k, hk⟩
            · exact hbefore e he k hk
          · intro e he
            rcases List.mem_cons.mp he with rfl | he
            · exact ⟨keyData, rfl⟩
            · exact hobjects e he
        | null | bool | num | str | arr => cases hsearch
  · rintro ⟨before, ⟨found, after, rfl, hfound, hbefore⟩, hobjects⟩
    induction before with
    | nil => exact searchKeys_cons_of_usable h hfound after
    | cons entry before ih =>
      obtain ⟨keyData, rfl⟩ := hobjects _ (List.mem_cons_self ..)
      rw [List.cons_append, searchKeys_cons_of_not_usable h (hbefore _ (List.mem_cons_self ..))]
      exact ih (fun e he => hobjects e (List.mem_cons_of_mem _ he))
        (fun e he => hbefore e (List.mem_cons_of_mem _ he))

/-- The key an assertion must verify under: its header parses and names an allowed algorithm, and
`key` is that of the first usable entry of the JWKS. -/
def SigningKey (jwt : PyJWT κ) (assertion : PyStr) (jwks : Json) (alg : PyStr) (before : List Json)
    (key : κ) : Prop :=
  ∃ header members entries, jwt.getUnverifiedHeader assertion = .ok header ∧
    headerAlg header = .str alg ∧ alg ∈ allowedJwtAlgorithms ∧ jwks = .obj members ∧
    jwksKeys members = .arr entries ∧
    FirstUsable jwt (Json.member header "kid") alg entries before key

/-- `_find_signing_key` searches the list of keys, if there is one. -/
theorem findSigningKey_eq_some_iff {jwks kid : Json} {alg : PyStr}
    (h : alg ∈ allowedJwtAlgorithms) (key : κ) :
    findSigningKey jwt jwks kid alg = .ok (some key) ↔
      ∃ members entries before, jwks = .obj members ∧ jwksKeys members = .arr entries ∧
        FirstUsable jwt kid alg entries before key ∧ AllObjects before := by
  constructor
  · intro hfind
    unfold findSigningKey at hfind
    split at hfind
    case h_1 members =>
      split at hfind
      case h_1 entries hentries =>
        obtain ⟨before, hfirst, hobjects⟩ := (searchKeys_eq_some_iff h entries key).mp hfind
        exact ⟨members, entries, before, rfl, hentries, hfirst, hobjects⟩
      case h_2 =>
        split at hfind
        · split at hfind <;> cases hfind
        · cases hfind
    case h_2 => cases hfind
  · rintro ⟨members, entries, before, rfl, hentries, hfirst, hobjects⟩
    simp only [findSigningKey, hentries]
    exact (searchKeys_eq_some_iff h entries key).mpr ⟨before, hfirst, hobjects⟩

/-- **The key selection**, from the header to the JWKS. -/
theorem selectKey_eq_ok_iff {call : AuthCall} {jwks : Json} {alg : PyStr} {key : κ} :
    selectKey jwt call jwks = .ok (alg, key) ↔
      ∃ before, SigningKey jwt call.clientAssertion jwks alg before key ∧ AllObjects before := by
  constructor
  · intro hselect
    -- every branch but the last one ends in an error
    unfold selectKey at hselect
    split at hselect
    · cases hselect
    · cases hselect
    case h_3 header hheader =>
      split at hselect
      · cases hselect
      case h_2 alg' halg =>
        obtain ⟨hgiven, hallowed⟩ := checkAlgorithm_eq_ok.mp halg
        split at hselect
        · cases hselect
        · cases hselect
        case h_3 key' hkey =>
          obtain ⟨rfl, rfl⟩ := Prod.mk.inj (Except.ok.inj hselect)
          obtain ⟨members, entries, before, hjwks, hentries, hfirst, hobjects⟩ :=
            (findSigningKey_eq_some_iff hallowed key').mp hkey
          exact ⟨before, ⟨header, members, entries, hheader, hgiven, hallowed, hjwks, hentries,
            hfirst⟩, hobjects⟩
  · rintro ⟨before, ⟨header, members, entries, hheader, hgiven, hallowed, hjwks, hentries, hfirst⟩,
      hobjects⟩
    have halg := checkAlgorithm_eq_ok.mpr ⟨hgiven, hallowed⟩
    have hkey : findSigningKey jwt jwks (Json.member header "kid") alg = .ok (some key) :=
      (findSigningKey_eq_some_iff hallowed key).mpr
        ⟨members, entries, before, hjwks, hentries, hfirst, hobjects⟩
    simp only [selectKey, hheader, halg, hkey]

/-! ## The claims -/

/-- What the endpoint asks of the claims of an assertion, the dates aside. -/
structure ClaimsAccepted (tokenEndpoint : PyStr) (call : AuthCall) (payload : JsonObject) :
    Prop where
  present : ∀ name ∈ requiredClaims, Json.member payload name ≠ .null
  issuer : Json.member payload "iss" = .str call.clientId
  subject : Json.member payload "sub" = .str call.clientId
  audience : AudienceMatches (Json.member payload "aud") tokenEndpoint

/-- The assertion is at most so old. -/
def Young (iat verifyAt : ℚ) : Prop :=
  verifyAt - iat ≤ jwtMaxLifetimeSeconds + jwtMaxClockSkewSeconds

/-- At these readings the assertion would pass the checks of its `exp` and of its age. -/
def InWindow (payload : JsonObject) (r : Readings) : Prop :=
  ∃ exp iat, (Json.member payload "exp").num? = some exp ∧
    (Json.member payload "iat").num? = some iat ∧ r.decode - jwtMaxClockSkewSeconds < exp ∧
    r.verify - iat ≤ jwtMaxLifetimeSeconds + jwtMaxClockSkewSeconds

/-- A test of `InWindow`. -/
def inWindow (payload : JsonObject) (r : Readings) : Bool :=
  match (Json.member payload "exp").num?, (Json.member payload "iat").num? with
  | some exp, some iat => r.decode - jwtMaxClockSkewSeconds < exp ∧
      r.verify - iat ≤ jwtMaxLifetimeSeconds + jwtMaxClockSkewSeconds
  | _, _ => false

theorem inWindow_iff (payload : JsonObject) (r : Readings) :
    inWindow payload r = true ↔ InWindow payload r := by
  unfold inWindow InWindow
  cases (Json.member payload "exp").num? <;> cases (Json.member payload "iat").num? <;> simp

instance (payload : JsonObject) (r : Readings) : Decidable (InWindow payload r) :=
  decidable_of_iff _ (inWindow_iff payload r)

section Claims

variable {date : ℚ → ℚ} {claims : PyStr → JsonObject} {verifies : κ → PyStr → PyStr → ℚ → Prop}

/-- **What `_verify_jwt` has established** when it comes to the replay check. -/
theorem verifyClaims_sound (h : jwt.Comparing date claims verifies) {tokenEndpoint : PyStr}
    {call : AuthCall} {alg : PyStr} {key : κ} {verifyAt decodeAt : ℚ} {payload : JsonObject}
    (hok : verifyClaims jwt tokenEndpoint call alg key verifyAt decodeAt = .ok payload) :
    payload = claims call.clientAssertion ∧ verifies key alg call.clientAssertion decodeAt ∧
      ClaimsAccepted tokenEndpoint call payload ∧
      (∃ iat, (Json.member payload "iat").num? = some iat ∧ FitsFloat iat ∧
        date iat ≤ decodeAt + jwtMaxClockSkewSeconds ∧ Young iat verifyAt) ∧
      ∀ exp, (Json.member payload "exp").num? = some exp →
        decodeAt - jwtMaxClockSkewSeconds < date exp := by
  unfold verifyClaims at hok
  split at hok
  · cases hok
  case h_2 payload' hdecode =>
    obtain ⟨hpayload, ⟨alg', halg, hverifies⟩, hvalid⟩ := h.sound _ _ _ hdecode
    obtain rfl := List.mem_singleton.mp halg
    split_ifs at hok with hsub
    split at hok
    · cases hok
    case h_2 iat hoperand =>
      split_ifs at hok with hold
      obtain rfl := Except.ok.inj hok
      -- `iat` is required, so the default of `get` is never used
      have hpresent : Json.member payload' "iat" ≠ .null :=
        hvalid.required "iat" (by simp [decodeArgs, requiredClaims])
      rw [Json.lookup_of_member_ne_null hpresent, Option.getD_some] at hoperand
      obtain ⟨hiat, hfits⟩ := floatOperand_eq_ok.mp hoperand
      exact ⟨hpayload, hverifies, ⟨hvalid.required, hvalid.issuer, (Json.pyEq_str _ _).mp hsub,
        hvalid.audience⟩, ⟨iat, hiat, hfits, hvalid.issued iat hiat, not_lt.mp hold⟩,
        hvalid.expires⟩

/-- Conversely, an assertion that verifies and whose claims are as asked reaches the replay
check. -/
theorem verifyClaims_complete (h : jwt.Comparing date claims verifies) {tokenEndpoint : PyStr}
    {call : AuthCall} {alg : PyStr} {key : κ} {verifyAt decodeAt exp iat : ℚ}
    (hverifies : verifies key alg call.clientAssertion decodeAt)
    (hclaims : ClaimsAccepted tokenEndpoint call (claims call.clientAssertion))
    (hiat : (Json.member (claims call.clientAssertion) "iat").num? = some iat)
    (hfits : FitsFloat iat) (hissued : date iat ≤ decodeAt + jwtMaxClockSkewSeconds)
    (hyoung : Young iat verifyAt)
    (hexp : (Json.member (claims call.clientAssertion) "exp").num? = some exp)
    (hexpires : decodeAt - jwtMaxClockSkewSeconds < date exp) :
    verifyClaims jwt tokenEndpoint call alg key verifyAt decodeAt
      = .ok (claims call.clientAssertion) := by
  obtain ⟨hpresent, hissuer, hsubject, haudience⟩ := hclaims
  have hvalid : ClaimsValid date (decodeArgs tokenEndpoint call alg key)
      (claims call.clientAssertion) decodeAt := by
    refine ⟨hpresent, hissuer, haudience, ?_, ?_⟩
    · intro exp' hexp'
      obtain rfl := Option.some_inj.mp (hexp.symm.trans hexp')
      exact hexpires
    · intro iat' hiat'
      obtain rfl := Option.some_inj.mp (hiat.symm.trans hiat')
      exact hissued
  -- the library returns the claims of what verifies and is valid
  have hdecode : jwt.decode (decodeArgs tokenEndpoint call alg key) decodeAt
      = .ok (claims call.clientAssertion) :=
    h.complete _ _ ⟨alg, List.mem_singleton_self alg, hverifies⟩ hvalid
      (Option.isSome_of_eq_some hexp) (Option.isSome_of_eq_some hiat)
  -- what is left are the checks of the endpoint itself
  have hlookup := Json.lookup_of_member_ne_null (hpresent "iat" (by simp [requiredClaims]))
  have hoperand := floatOperand_eq_ok.mpr ⟨hiat, hfits⟩
  have hnotOld : ¬ jwtMaxLifetimeSeconds + jwtMaxClockSkewSeconds < verifyAt - iat :=
    not_lt.mpr hyoung
  simp only [verifyClaims, hdecode, (Json.pyEq_str _ _).mpr hsubject, if_true, hlookup,
    Option.getD_some, hoperand, if_neg hnotOld]

end Claims

/-! ## The stages together -/

/-- The steps up to the JWKS. -/
theorem resolveJwks_eq_ok_iff {call : AuthCall} {jwks : Json} :
    resolveJwks call = .ok jwks ↔ call.clientAssertionType = jwtClientAssertionType ∧
      call.clientAssertion ≠ [] ∧ call.provided = .ok jwks ∧ jwks.truthy = true := by
  unfold resolveJwks
  constructor
  · intro h
    split_ifs at h with htype hassertion
    split at h
    · cases h
    case h_2 jwks' hprovided =>
      split_ifs at h with htruthy
      obtain rfl := Except.ok.inj h
      exact ⟨not_ne_iff.mp htype, hassertion, hprovided, htruthy⟩
  · rintro ⟨htype, hassertion, hprovided, htruthy⟩
    simp [htype, hassertion, hprovided, htruthy]

/-- The stages before the replay check succeed together. -/
theorem verified_eq_ok_iff {tokenEndpoint : PyStr} {call : AuthCall} {verifyAt decodeAt : ℚ}
    {payload : JsonObject} :
    verified jwt tokenEndpoint call verifyAt decodeAt = .ok payload ↔
      ∃ jwks alg key, resolveJwks call = .ok jwks ∧ selectKey jwt call jwks = .ok (alg, key) ∧
        verifyClaims jwt tokenEndpoint call alg key verifyAt decodeAt = .ok payload := by
  unfold verified
  constructor
  · intro h
    split at h
    · cases h
    case h_2 jwks hjwks =>
      split at h
      · cases h
      case h_2 alg key hkey =>
        split at h
        · cases h
        case h_2 payload' hclaims =>
          obtain rfl := Except.ok.inj h
          exact ⟨jwks, alg, key, hjwks, hkey, hclaims⟩
  · rintro ⟨jwks, alg, key, hjwks, hkey, hclaims⟩
    simp only [hjwks, hkey, hclaims]

/-- Only the provider raises anything but a `JWTAuthError`, over a replay cache of any kind. -/
theorem provided_of_authenticate_error {σ : Type*} {tokenEndpoint : PyStr} {call : AuthCall}
    {r : Readings} {checkAndRecord : Json → Json → Readings → σ → σ × Except Caught Bool} {s : σ}
    {text : PyStr}
    (h : (authenticate jwt tokenEndpoint checkAndRecord call r s).2 = .error (.provider text)) :
    call.provided = .error text := by
  unfold authenticate verified at h
  cases hjwks : resolveJwks call with
  | error e =>
    simp only [hjwks] at h
    obtain rfl := Except.error.inj h
    unfold resolveJwks at hjwks
    split_ifs at hjwks
    · cases hjwks
    · cases hjwks
    · split at hjwks
      case h_1 text' hprovided =>
        cases hjwks
        exact hprovided
      case h_2 => split_ifs at hjwks; cases hjwks
  | ok jwks =>
    simp only [hjwks] at h
    -- from the JWKS on, every exception is turned into a `JWTAuthError`
    cases hkey : selectKey jwt call jwks with
    | error e => simp [hkey] at h
    | ok p =>
      simp only [hkey] at h
      cases hclaims : verifyClaims jwt tokenEndpoint call p.1 p.2 r.verify r.decode with
      | error e => simp [hclaims] at h
      | ok payload =>
        simp only [hclaims, recordJti] at h
        split at h
        · cases h
        · split at h
          all_goals cases h

/-- **What a call has established** when it comes to the replay check. -/
theorem verified_sound {date : ℚ → ℚ} {claims : PyStr → JsonObject}
    {verifies : κ → PyStr → PyStr → ℚ → Prop} (h : jwt.Comparing date claims verifies)
    {tokenEndpoint : PyStr} {call : AuthCall} {verifyAt decodeAt : ℚ} {payload : JsonObject}
    (hok : verified jwt tokenEndpoint call verifyAt decodeAt = .ok payload) :
    payload = claims call.clientAssertion ∧ ClaimsAccepted tokenEndpoint call payload ∧
      (∃ iat, (Json.member payload "iat").num? = some iat ∧ FitsFloat iat ∧
        date iat ≤ decodeAt + jwtMaxClockSkewSeconds ∧ Young iat verifyAt) ∧
      ∀ exp, (Json.member payload "exp").num? = some exp →
        decodeAt - jwtMaxClockSkewSeconds < date exp := by
  obtain ⟨jwks, alg, key, -, -, hclaims⟩ := verified_eq_ok_iff.mp hok
  obtain ⟨hpayload, -, hrest⟩ := verifyClaims_sound h hclaims
  exact ⟨hpayload, hrest⟩

/-! ## Sample data -/

theorem members_sampleClaims (iat exp : ℚ) :
    Json.member (sampleClaims iat exp) "iss" = .str "client" ∧
      Json.member (sampleClaims iat exp) "sub" = .str "client" ∧
      Json.member (sampleClaims iat exp) "aud" = .str "token" ∧
      Json.member (sampleClaims iat exp) "iat" = .num iat ∧
      Json.member (sampleClaims iat exp) "exp" = .num exp ∧
      Json.member (sampleClaims iat exp) "jti" = .str "j" := by
  simp [Json.member, Json.get, sampleClaims, List.lookup_cons]

theorem lookup_jti_sampleClaims (iat exp : ℚ) :
    (sampleClaims iat exp).lookup (PyStr.ofString "jti") = some (.str (PyStr.ofString "j")) := by
  simp [sampleClaims, List.lookup_cons]

theorem lookup_exp_sampleClaims (iat exp : ℚ) :
    (sampleClaims iat exp).lookup (PyStr.ofString "exp") = some (.num exp) := by
  simp [sampleClaims, List.lookup_cons]

/-- The sample claims are those the endpoint asks for. -/
theorem claimsAccepted_sampleClaims (iat exp : ℚ) (entries : List Json) :
    ClaimsAccepted (PyStr.ofString "token") (sampleCall entries) (sampleClaims iat exp) := by
  obtain ⟨hiss, hsub, haud, hiat, hexp, hjti⟩ := members_sampleClaims iat exp
  refine ⟨?_, hiss, hsub, Or.inl haud⟩
  simp [requiredClaims, hiss, hsub, haud, hiat, hexp, hjti]

theorem fits_sampleKey : Fits sampleKey .null (PyStr.ofString "RS256") := by
  have hrsa : requiredKty (PyStr.ofString "RS256") = PyStr.ofString "RSA" := by decide +kernel
  constructor <;> simp [sampleKey, Json.member, Json.get, Json.truthy, List.lookup_cons, hrsa]

/-- The sample key signs the sample assertion, if nothing usable precedes it. -/
theorem signingKey_sampleCall (date : ℚ → ℚ) (claims : PyStr → JsonObject) {before : List Json}
    (hbefore : ∀ e ∈ before, ∀ keyData, e ≠ .obj keyData) :
    SigningKey (datedJwt date claims) (PyStr.ofString "assertion")
      (.obj [(PyStr.ofString "keys", .arr (before ++ [.obj sampleKey]))]) (PyStr.ofString "RS256")
      before () := by
  refine ⟨_, _, _, rfl, ?_, by decide +kernel, rfl, ?_, .obj sampleKey, [], rfl, ?_, ?_⟩
  · simp [headerAlg]
  · simp [jwksKeys]
  · refine ⟨sampleKey, rfl, ?_, rfl⟩
    have hkid : Json.member [(PyStr.ofString "alg", .str "RS256")] "kid" = .null := by
      simp [Json.member, Json.get, List.lookup_cons]
    rw [hkid]
    exact fits_sampleKey
  · rintro e he k ⟨keyData, hobj, -⟩
    exact hbefore e he keyData hobj

/-- The sample assertion verifies while its dates are accepted. -/
theorem verified_sampleCall {iat exp t : ℚ} (hfits : FitsFloat iat) (hiat : iat ≤ t + 60)
    (hage : t - iat ≤ 360) (hexp : t - 60 < exp) :
    verified (claimsJwt fun _ => sampleClaims iat exp) (PyStr.ofString "token")
      (sampleCall [.obj sampleKey]) t t = .ok (sampleClaims iat exp) := by
  have hassertion : (sampleCall [.obj sampleKey]).clientAssertion ≠ [] := by
    show PyStr.ofString "assertion" ≠ []
    simp [PyStr.ofString]
  obtain ⟨-, -, -, hiat', hexp', -⟩ := members_sampleClaims iat exp
  have hissuedAt : (Json.member (sampleClaims iat exp) "iat").num? = some iat := by
    rw [hiat']
    rfl
  have hexpiresAt : (Json.member (sampleClaims iat exp) "exp").num? = some exp := by
    rw [hexp']
    rfl
  have hyoung : Young iat t := by
    rw [Young, jwtMaxLifetimeSeconds, jwtMaxClockSkewSeconds]
    linarith
  have hsigning := signingKey_sampleCall id (fun _ => sampleClaims iat exp) (List.forall_mem_nil _)
  refine verified_eq_ok_iff.mpr ⟨_, _, (), resolveJwks_eq_ok_iff.mpr ⟨rfl, hassertion, rfl, rfl⟩,
    selectKey_eq_ok_iff.mpr ⟨[], hsigning, by simp [AllObjects]⟩, ?_⟩
  exact verifyClaims_complete (documented_claimsJwt _) trivial
    (claimsAccepted_sampleClaims iat exp _) hissuedAt hfits hiat hyoung hexpiresAt hexp

end McpAuthflow.ClientAuth
