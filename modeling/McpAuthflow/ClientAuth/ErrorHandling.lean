import McpAuthflow.ClientAuth.Verification

/-! # The exceptions of `authenticate` and their handlers

`Authenticator.authenticate` is the method with its `try` statements: an exception is raised where
it arises and passed on from call to call, and a handler, which in this module always raises again,
is a function on exceptions. What the collaborators do is arbitrary: the JWKS provider and the Redis
client return or raise anything, and nothing is assumed of PyJWT. `outcome_authenticate_eq` connects
this reading with the one where every exception is translated at its origin.

Whatever is raised in `_verify_jwt` leaves as a `JWTAuthError`. The provider is asked before the
`try`, so its exceptions leave as they are: **`authenticate_fails_closed_iff`**, with
**`provider_error_escapes`**. -/

namespace McpAuthflow.ClientAuth

/-- An exception, as far as the handlers tell exceptions apart. Those of the provider and of Redis
are of any kind; `.jwt (.other text)` is one of a kind no handler knows. -/
inductive PyException where
  | jwtAuth (e : JWTAuthError)
  | other (e : Caught)

/-! ## The handlers -/

/-- Around `jwt.get_unverified_header`. -/
def handleHeader : PyException → PyException
  | .other (.jwt (.decode text)) => .jwtAuth (.invalidFormat text)
  | e => e

/-- Around `jwt.decode`. -/
def handleDecode (tokenEndpoint clientId : PyStr) : PyException → PyException
  | .other (.jwt .expiredSignature) => .jwtAuth .expired
  | .other (.jwt .invalidAudience) => .jwtAuth (.invalidAudience tokenEndpoint)
  | .other (.jwt .invalidIssuer) => .jwtAuth (.invalidIssuer clientId)
  | .other (.jwt (.decode text)) => .jwtAuth (.decodeError text)
  | .other (.jwt (.invalidToken text)) => .jwtAuth (.invalidToken text)
  | e => e

/-- Around `_verify_jwt`: a `JWTAuthError` is raised again, anything else is wrapped in one. -/
def handleVerification : PyException → PyException
  | .jwtAuth e => .jwtAuth e
  | .other e => .jwtAuth (.verificationFailed e)

/-! ## The method -/

/-- The attributes of an authenticator, with the `get_jwks` of its provider, the `set` of its Redis
client, if there is one, and the PyJWT it calls. `set` gets the name and the `px`. -/
structure Authenticator (κ : Type) where
  tokenEndpoint : PyStr
  getJwks : PyStr → Except PyException Json
  redis : Option (PyStr → ℤ → Except PyException Json)
  jwt : PyJWT κ

namespace Authenticator

variable {κ : Type} (self : Authenticator κ)

/-- `alg in BLOCKED_JWT_ALGORITHMS` and `alg not in ALLOWED_JWT_ALGORITHMS`; an unhashable value
raises. -/
def checkAlg : Json → Except PyException PyStr
  | .str alg =>
    if alg ∈ blockedJwtAlgorithms then .error (.jwtAuth (.blockedAlgorithm alg))
    else if alg ∈ allowedJwtAlgorithms then .ok alg
    else .error (.jwtAuth (.algorithmNotAllowed (.str alg)))
  | v =>
    if v.hashKey = none then .error (.other .typeError)
    else .error (.jwtAuth (.algorithmNotAllowed v))

/-- The arguments `_decode_and_validate_claims` calls `jwt.decode` with. -/
def decodeArgs (assertion : PyStr) (signingKey : κ) (alg clientId : PyStr) : DecodeArgs κ where
  assertion := assertion
  key := signingKey
  algorithms := [alg]
  audience := self.tokenEndpoint
  issuer := clientId
  require := requiredClaims
  leeway := jwtMaxClockSkewSeconds

/-- `_decode_and_validate_claims`. -/
def decodeAndValidateClaims (assertion : PyStr) (signingKey : κ) (alg clientId : PyStr)
    (now : ℚ) : Except PyException JsonObject :=
  match self.jwt.decode (self.decodeArgs assertion signingKey alg clientId) now with
  | .ok payload => .ok payload
  | .error e => .error (handleDecode self.tokenEndpoint clientId (.other (.jwt e)))

/-- `_verify_jwt` on the payload: its subject and its age. -/
def checkClaims (clientId : PyStr) (payload : JsonObject) (now : ℚ) : Except PyException Unit :=
  if (Json.member payload "sub").pyEq (.str clientId) then
    match floatOperand ((payload.lookup (PyStr.ofString "iat")).getD (.num 0)) with
    | .error e => .error (.other e)
    | .ok iat =>
      if jwtMaxLifetimeSeconds + jwtMaxClockSkewSeconds < now - iat then .error (.jwtAuth .tooOld)
      else .ok ()
  else .error (.jwtAuth (.subjectMismatch clientId (Json.member payload "sub")))

/-- `_verify_jwt` up to the replay check. -/
def verifyAssertion (clientId assertion : PyStr) (jwks : Json) (r : Readings) :
    Except PyException JsonObject :=
  match self.jwt.getUnverifiedHeader assertion with
  | .error e => .error (handleHeader (.other (.jwt e)))
  | .ok header =>
    match checkAlg (headerAlg header) with
    | .error e => .error e
    | .ok alg =>
      match findSigningKey self.jwt jwks (Json.member header "kid") alg with
      | .error e => .error (.other e)
      | .ok none => .error (.jwtAuth (.noMatchingKey (Json.member header "kid") alg))
      | .ok (some signingKey) =>
        match self.decodeAndValidateClaims assertion signingKey alg clientId r.decode with
        | .error e => .error e
        | .ok payload =>
          match checkClaims clientId payload r.verify with
          | .error e => .error e
          | .ok () => .ok payload

/-- `_check_and_record_jti_redis`, over what the client makes of the command. -/
def checkAndRecordJtiRedis (format : Json → PyStr) (set : PyStr → ℤ → Except PyException Json)
    (jti exp : Json) (r : Readings) : Except PyException Bool :=
  match floatOperand exp with
  | .error e => .error (.other e)
  | .ok exp =>
    match set (redisJtiKey format jti) (redisTtlMs exp r.check) with
    | .error e => .error e
    | .ok (.bool true) => .ok true
    -- `result is True`, so no other value will do
    | .ok _ => .ok false

/-- The replay check: Redis if there is a client, the cache in memory otherwise. -/
def checkAndRecord (format : Json → PyStr) (jti exp : Json) (r : Readings) (s : JtiCache) :
    JtiCache × Except PyException Bool :=
  match self.redis with
  | some set => (s, checkAndRecordJtiRedis format set jti exp r)
  | none =>
    let (s, accepted) := checkAndRecordJti jti exp r s
    (s, accepted.mapError .other)

/-- `_verify_jwt`. -/
def verifyJwt (format : Json → PyStr) (clientId assertion : PyStr) (jwks : Json) (r : Readings)
    (s : JtiCache) : JtiCache × Except PyException JsonObject :=
  match self.verifyAssertion clientId assertion jwks r with
  | .error e => (s, .error e)
  | .ok payload =>
    match payload.lookup (PyStr.ofString "jti") with
    | none => (s, .error (.other .keyError))
    | some jti =>
      let exp := (payload.lookup (PyStr.ofString "exp")).getD
        (.num (r.verify + jwtMaxLifetimeSeconds))
      match self.checkAndRecord format jti exp r s with
      | (s, .error e) => (s, .error e)
      | (s, .ok true) => (s, .ok payload)
      | (s, .ok false) => (s, .error (.jwtAuth .replay))

/-- The `try` of `_authenticate`, around `_verify_jwt`. -/
def guarded : JtiCache × Except PyException JsonObject → JtiCache × Except PyException Bool
  | (s, .ok _) => (s, .ok true)
  | (s, .error e) => (s, .error (handleVerification e))

/-- `_authenticate`, and `authenticate`, which only logs a `JWTAuthError` on its way. -/
def authenticate (format : Json → PyStr) (clientId clientAssertion clientAssertionType : PyStr)
    (r : Readings) (s : JtiCache) : JtiCache × Except PyException Bool :=
  if clientAssertionType ≠ jwtClientAssertionType then
    (s, .error (.jwtAuth (.invalidAssertionType clientAssertionType)))
  else if clientAssertion = [] then (s, .error (.jwtAuth .missingAssertion))
  else
    -- the provider is asked outside of the `try`
    match self.getJwks clientId with
    | .error e => (s, .error e)
    | .ok jwks =>
      if jwks.truthy then guarded (self.verifyJwt format clientId clientAssertion jwks r s)
      else (s, .error (.jwtAuth (.noJwks clientId)))

end Authenticator

/-! ## What a call has to satisfy -/

section

variable {κ : Type} (self : Authenticator κ) (format : Json → PyStr)
  (clientId clientAssertion : PyStr) (r : Readings) (s : JtiCache)

/-- No collaborator has failed: the provider returned a JWKS, PyJWT parsed the header, constructed a
key from an entry and returned the payload of the assertion for it, and the replay check accepted
the `jti` of that payload, a Redis client by returning `True`. -/
structure NoFailure : Prop where
  provider : ∃ jwks, self.getJwks clientId = .ok jwks ∧ jwks.truthy = true
  header : ∃ header, self.jwt.getUnverifiedHeader clientAssertion = .ok header
  replay : ∃ keyData key alg payload jti exp, self.jwt.keyFromDict keyData = some key ∧
    self.jwt.decode (self.decodeArgs clientAssertion key alg clientId) r.decode = .ok payload ∧
    payload.lookup (PyStr.ofString "jti") = some jti ∧
    (self.checkAndRecord format jti exp r s).2 = .ok true
  redis : ∀ set, self.redis = some set → ∃ key ttlMs, set key ttlMs = .ok (.bool true)

/-- **What `authenticate` is to do**, as `_authenticate` hands it on: `True` or a `JWTAuthError`,
and `True` only if no collaborator has failed. -/
structure FailsClosed (clientAssertionType : PyStr) : Prop where
  onlyJWTAuthError :
    (self.authenticate format clientId clientAssertion clientAssertionType r s).2 = .ok true ∨
      ∃ e, (self.authenticate format clientId clientAssertion clientAssertionType r s).2
        = .error (.jwtAuth e)
  noFailure :
    (self.authenticate format clientId clientAssertion clientAssertionType r s).2 = .ok true →
      NoFailure self format clientId clientAssertion r s

end

/-! ## Stage by stage -/

/-- The last handler raises nothing but a `JWTAuthError`. -/
theorem handleVerification_eq (e : PyException) : ∃ e', handleVerification e = .jwtAuth e' := by
  cases e with
  | jwtAuth e => exact ⟨e, rfl⟩
  | other e => exact ⟨.verificationFailed e, rfl⟩

namespace Authenticator

variable {κ : Type} {self : Authenticator κ} {format : Json → PyStr}
  {clientId clientAssertion : PyStr} {r : Readings} {s s' : JtiCache}

/-- A payload is what PyJWT returned. -/
theorem decode_of_decodeAndValidateClaims {signingKey : κ} {alg : PyStr} {now : ℚ}
    {payload : JsonObject}
    (h : self.decodeAndValidateClaims clientAssertion signingKey alg clientId now = .ok payload) :
    self.jwt.decode (self.decodeArgs clientAssertion signingKey alg clientId) now
      = .ok payload := by
  unfold decodeAndValidateClaims at h
  split at h
  case h_1 payload' hdecode => rw [hdecode, Except.ok.inj h]
  case h_2 => cases h

/-- A key found in a JWKS has been constructed from one of its entries. -/
theorem exists_keyFromDict {jwt : PyJWT κ} {kid : Json} {alg : PyStr} {entries : List Json}
    {key : κ} (h : searchKeys jwt kid alg entries = .ok (some key)) :
    ∃ keyData, .obj keyData ∈ entries ∧ jwt.keyFromDict keyData = some key := by
  induction entries with
  | nil => cases h
  | cons entry entries ih =>
    cases entry with
    | obj keyData =>
      have hrest (h : searchKeys jwt kid alg entries = .ok (some key)) :
          ∃ keyData', .obj keyData' ∈ Json.obj keyData :: entries ∧
            jwt.keyFromDict keyData' = some key := by
        obtain ⟨keyData', hmem, hkey⟩ := ih h
        exact ⟨keyData', List.mem_cons_of_mem _ hmem, hkey⟩
      rw [searchKeys] at h
      split at h
      -- a match whose construction fails is passed over
      · split at h
        case h_1 key' hkey =>
          obtain rfl : key' = key := by simpa using h
          exact ⟨keyData, List.mem_cons_self, hkey⟩
        case h_2 => exact hrest h
      · exact hrest h
    | null | bool | num | str | arr => cases h

/-- So has the key `_find_signing_key` returns. -/
theorem exists_keyFromDict_of_findSigningKey {jwt : PyJWT κ} {jwks kid : Json} {alg : PyStr}
    {key : κ} (h : findSigningKey jwt jwks kid alg = .ok (some key)) :
    ∃ keyData, jwt.keyFromDict keyData = some key := by
  unfold findSigningKey at h
  split at h
  case h_1 members =>
    split at h
    · obtain ⟨keyData, -, hkey⟩ := exists_keyFromDict h
      exact ⟨keyData, hkey⟩
    · split at h
      · split at h <;> cases h
      · cases h
  case h_2 => cases h

/-- What `_verify_jwt` has got from PyJWT when it comes to the replay check. -/
theorem verifyAssertion_eq_ok {jwks : Json} {payload : JsonObject}
    (h : self.verifyAssertion clientId clientAssertion jwks r = .ok payload) :
    (∃ header, self.jwt.getUnverifiedHeader clientAssertion = .ok header) ∧
      ∃ keyData key alg, self.jwt.keyFromDict keyData = some key ∧
        self.jwt.decode (self.decodeArgs clientAssertion key alg clientId) r.decode
          = .ok payload := by
  unfold verifyAssertion at h
  split at h
  · cases h
  case h_2 header hheader =>
    refine ⟨⟨header, hheader⟩, ?_⟩
    split at h
    · cases h
    case h_2 alg halg =>
      split at h
      · cases h
      · cases h
      case h_3 key hkey =>
        obtain ⟨keyData, hkeyData⟩ := exists_keyFromDict_of_findSigningKey hkey
        split at h
        · cases h
        case h_2 payload' hdecode =>
          split at h
          · cases h
          · obtain rfl := Except.ok.inj h
            exact ⟨keyData, key, alg, hkeyData, decode_of_decodeAndValidateClaims hdecode⟩

/-- With a Redis client the replay check accepts only if the client returned `True`. -/
theorem exists_set_of_checkAndRecord {set : PyStr → ℤ → Except PyException Json}
    (hredis : self.redis = some set) {jti exp : Json}
    (h : (self.checkAndRecord format jti exp r s).2 = .ok true) :
    ∃ key ttlMs, set key ttlMs = .ok (.bool true) := by
  simp only [checkAndRecord, hredis, checkAndRecordJtiRedis] at h
  split at h
  · cases h
  · split at h
    · cases h
    case h_2 hset => exact ⟨_, _, hset⟩
    · cases h

/-- `_verify_jwt` returns only if no collaborator it calls has failed. -/
theorem noFailure_of_verifyJwt {jwks : Json} (hprovider : self.getJwks clientId = .ok jwks)
    (htruthy : jwks.truthy = true) {payload : JsonObject}
    (h : self.verifyJwt format clientId clientAssertion jwks r s = (s', .ok payload)) :
    NoFailure self format clientId clientAssertion r s := by
  unfold verifyJwt at h
  split at h
  · cases h
  case h_2 payload' hverify =>
    obtain ⟨hheader, keyData, key, alg, hkey, hdecode⟩ := verifyAssertion_eq_ok hverify
    split at h
    · cases h
    case h_2 jti hjti =>
      simp only at h
      split at h
      · cases h
      case h_2 hcheck =>
        have hreplay := congrArg Prod.snd hcheck
        exact ⟨⟨jwks, hprovider, htruthy⟩, hheader,
          ⟨keyData, key, alg, payload', jti, _, hkey, hdecode, hjti, hreplay⟩,
          fun set hset => exists_set_of_checkAndRecord hset hreplay⟩
      · cases h

/-- Whatever is raised in the `try` leaves it as a `JWTAuthError`. -/
theorem snd_guarded (x : JtiCache × Except PyException JsonObject) :
    (guarded x).2 = .ok true ∨ ∃ e, (guarded x).2 = .error (.jwtAuth e) := by
  rcases x with ⟨s, e | payload⟩
  · obtain ⟨e', he'⟩ := handleVerification_eq e
    exact .inr ⟨e', congrArg Except.error he'⟩
  · exact .inl rfl

/-- It ends with `True` only if `_verify_jwt` has returned. -/
theorem eq_ok_of_guarded {x : JtiCache × Except PyException JsonObject}
    (h : (guarded x).2 = .ok true) : ∃ payload, x = (x.1, .ok payload) := by
  rcases x with ⟨s, e | payload⟩
  · cases h
  · exact ⟨payload, rfl⟩

/-- A call that comes to ask the provider, by its answer. -/
theorem authenticate_of_asked (hassertion : clientAssertion ≠ []) :
    self.authenticate format clientId clientAssertion jwtClientAssertionType r s
      = match self.getJwks clientId with
        | .error e => (s, .error e)
        | .ok jwks =>
          if jwks.truthy then guarded (self.verifyJwt format clientId clientAssertion jwks r s)
          else (s, .error (.jwtAuth (.noJwks clientId))) := by
  simp [authenticate, hassertion]

end Authenticator

/-- The call asks the provider for the JWKS of the client: it has the right type and an
assertion. -/
def AsksProvider (clientAssertion clientAssertionType : PyStr) : Prop :=
  clientAssertionType = jwtClientAssertionType ∧ clientAssertion ≠ []

section

variable {κ : Type} (self : Authenticator κ) (format : Json → PyStr)
  (clientId clientAssertion clientAssertionType : PyStr) (r : Readings) (s : JtiCache)

/-- A call that does not ask the provider ends in a `JWTAuthError`. -/
theorem authenticate_of_not_asksProvider (h : ¬ AsksProvider clientAssertion clientAssertionType) :
    ∃ e, (self.authenticate format clientId clientAssertion clientAssertionType r s).2
      = .error (.jwtAuth e) := by
  by_cases htype : clientAssertionType = jwtClientAssertionType
  · have hassertion : clientAssertion = [] := by
      by_contra hassertion
      exact h ⟨htype, hassertion⟩
    exact ⟨.missingAssertion, by simp [Authenticator.authenticate, htype, hassertion]⟩
  · exact ⟨.invalidAssertionType clientAssertionType, by simp [Authenticator.authenticate, htype]⟩

/-- Unless the provider raises something else, `True` or a `JWTAuthError` comes out. -/
theorem onlyJWTAuthError_of_provider
    (h : AsksProvider clientAssertion clientAssertionType →
      ∀ e, self.getJwks clientId ≠ .error (.other e)) :
    (self.authenticate format clientId clientAssertion clientAssertionType r s).2 = .ok true ∨
      ∃ e, (self.authenticate format clientId clientAssertion clientAssertionType r s).2
        = .error (.jwtAuth e) := by
  by_cases hasks : AsksProvider clientAssertion clientAssertionType
  · have hraises := h hasks
    obtain ⟨rfl, hassertion⟩ := hasks
    rw [Authenticator.authenticate_of_asked hassertion]
    cases hjwks : self.getJwks clientId with
    | error e =>
      cases e with
      | jwtAuth e => exact .inr ⟨e, rfl⟩
      | other e => exact absurd hjwks (hraises e)
    | ok jwks =>
      by_cases htruthy : jwks.truthy = true
      · simp only [htruthy, if_true]
        exact Authenticator.snd_guarded _
      · exact .inr ⟨.noJwks clientId, by simp [htruthy]⟩
  · exact .inr (authenticate_of_not_asksProvider self format clientId clientAssertion
      clientAssertionType r s hasks)

/-- **No failure of a collaborator results in `True`.** -/
theorem noFailure_of_authenticate
    (h : (self.authenticate format clientId clientAssertion clientAssertionType r s).2 = .ok true) :
    NoFailure self format clientId clientAssertion r s := by
  by_cases hasks : AsksProvider clientAssertion clientAssertionType
  · obtain ⟨rfl, hassertion⟩ := hasks
    rw [Authenticator.authenticate_of_asked hassertion] at h
    cases hjwks : self.getJwks clientId with
    | error e => simp [hjwks] at h
    | ok jwks =>
      simp only [hjwks] at h
      split_ifs at h with htruthy
      obtain ⟨payload, hverify⟩ := Authenticator.eq_ok_of_guarded h
      exact Authenticator.noFailure_of_verifyJwt hjwks htruthy hverify
  · obtain ⟨e, he⟩ := authenticate_of_not_asksProvider self format clientId clientAssertion
      clientAssertionType r s hasks
    rw [he] at h
    cases h

/-- **When `authenticate` fails closed.** For every behaviour of the provider, of PyJWT and of the
Redis client, it does so iff the provider, if it is asked, raises nothing but a `JWTAuthError`. -/
theorem authenticate_fails_closed_iff :
    FailsClosed self format clientId clientAssertion r s clientAssertionType ↔
      (AsksProvider clientAssertion clientAssertionType →
        ∀ e, self.getJwks clientId ≠ .error (.other e)) := by
  constructor
  · -- the provider is asked outside of the `try`
    rintro ⟨honly, -⟩ ⟨rfl, hassertion⟩ e hraised
    rw [Authenticator.authenticate_of_asked hassertion, hraised] at honly
    simp at honly
  · intro hprovider
    exact ⟨onlyJWTAuthError_of_provider self format clientId clientAssertion clientAssertionType r s
      hprovider, noFailure_of_authenticate self format clientId clientAssertion clientAssertionType
      r s⟩

end

/-- An authenticator without Redis, over the stand-in for PyJWT. -/
def sampleAuthenticator (getJwks : PyStr → Except PyException Json) : Authenticator Unit where
  tokenEndpoint := PyStr.ofString "token"
  getJwks := getJwks
  redis := none
  jwt := claimsJwt fun _ => sampleClaims 0 300

/-- The provider is down: what it raises leaves `authenticate` as it is. -/
theorem provider_error_escapes :
    ¬ FailsClosed
      (sampleAuthenticator fun _ => .error (.other (.jwt (.other (PyStr.ofString "down")))))
      (fun _ => []) (PyStr.ofString "client") (PyStr.ofString "assertion") (Readings.constant 0)
      (JtiCache.init 0) jwtClientAssertionType := by
  rintro ⟨honly, -⟩
  have hassertion : PyStr.ofString "assertion" ≠ [] := by simp [PyStr.ofString]
  rw [Authenticator.authenticate_of_asked hassertion] at honly
  simp [sampleAuthenticator] at honly

/-! ## The handlers and the exceptions translated at their origin -/

/-- `x`, with its exceptions handled, is `y`. -/
def Handled {α : Type} (x : Except PyException α) (y : Except JWTAuthError α) : Prop :=
  x.mapError handleVerification = y.mapError .jwtAuth

theorem Handled.eq_ok {α : Type} {x : Except PyException α} {a : α} (h : Handled x (.ok a)) :
    x = .ok a := by
  cases x with
  | ok a' => simpa [Handled, Except.mapError] using h
  | error e => simp [Handled, Except.mapError] at h

theorem Handled.eq_error {α : Type} {x : Except PyException α} {e : JWTAuthError}
    (h : Handled x (.error e)) : ∃ e', x = .error e' ∧ handleVerification e' = .jwtAuth e := by
  cases x with
  | ok a => simp [Handled, Except.mapError] at h
  | error e' => exact ⟨e', rfl, by simpa [Handled, Except.mapError] using h⟩

namespace Authenticator

variable {κ : Type} {self : Authenticator κ} {format : Json → PyStr} {call : AuthCall}
  {r : Readings} {s : JtiCache}

theorem handled_checkAlg (header : JsonObject) :
    Handled (checkAlg (headerAlg header)) (checkAlgorithm header) := by
  unfold checkAlg checkAlgorithm
  cases headerAlg header with
  | str alg =>
    simp only
    split_ifs <;> rfl
  | null | bool | num | arr | obj =>
    simp only
    split_ifs <;> rfl

/-- The handlers around `jwt.decode` and around `_verify_jwt` are `translate`. -/
theorem handleVerification_handleDecode (tokenEndpoint clientId : PyStr) (e : JwtException) :
    handleVerification (handleDecode tokenEndpoint clientId (.other (.jwt e)))
      = .jwtAuth (translate tokenEndpoint clientId e) := by
  cases e <;> rfl

/-- `_verify_jwt` up to the replay check. -/
theorem handled_verifyAssertion (jwks : Json) :
    Handled (self.verifyAssertion call.clientId call.clientAssertion jwks r)
      (match selectKey self.jwt call jwks with
        | .error e => .error e
        | .ok (alg, key) =>
          verifyClaims self.jwt self.tokenEndpoint call alg key r.verify r.decode) := by
  unfold verifyAssertion selectKey
  cases hheader : self.jwt.getUnverifiedHeader call.clientAssertion with
  | error e => cases e <;> rfl
  | ok header =>
    have hhandled := handled_checkAlg header
    -- both check the algorithm alike, one with exceptions and one with refusals
    cases halg' : checkAlgorithm header with
    | error e =>
      rw [halg'] at hhandled
      obtain ⟨e', halg, he⟩ := hhandled.eq_error
      simp only [halg, halg', Handled, Except.mapError, he]
    | ok alg =>
      rw [halg'] at hhandled
      simp only [hhandled.eq_ok, halg']
      rcases hkey : findSigningKey self.jwt jwks (Json.member header "kid") alg with e | (_ | key)
      · rfl
      · rfl
      · simp only [decodeAndValidateClaims, verifyClaims, checkClaims]
        rw [show self.decodeArgs call.clientAssertion key alg call.clientId
          = ClientAuth.decodeArgs self.tokenEndpoint call alg key from rfl]
        cases hdecode : self.jwt.decode (ClientAuth.decodeArgs self.tokenEndpoint call alg key)
          r.decode with
        | error e =>
          simp only [Handled, Except.mapError, handleVerification_handleDecode]
        | ok payload =>
          simp only
          -- `sub` is compared first, and `iat` may be no operand
          split_ifs with hsub
          · cases floatOperand ((payload.lookup (PyStr.ofString "iat")).getD (.num 0)) with
            | error e => rfl
            | ok iat =>
              simp only
              split_ifs <;> rfl
          · rfl

/-- What leaves `ClientAuth.authenticate`, as an exception of this module. -/
def outcome : Except AuthError Unit → Except PyException Bool
  | .ok () => .ok true
  | .error (.jwtAuth e) => .error (.jwtAuth e)
  | .error (.provider text) => .error (.other (.jwt (.other text)))

/-- An exception before the replay check. -/
theorem snd_guarded_of_raised {jwks : Json} {e : PyException}
    (hverify : self.verifyAssertion call.clientId call.clientAssertion jwks r = .error e) :
    (guarded (self.verifyJwt format call.clientId call.clientAssertion jwks r s)).2
      = .error (handleVerification e) := by
  simp only [verifyJwt, hverify, guarded]

/-- From the payload on, over the same answers of the replay check. -/
theorem outcome_recordJti {σ : Type*} {db : σ}
    {check : Json → Json → Readings → σ → σ × Except Caught Bool}
    (hreplay : ∀ jti exp,
      (self.checkAndRecord format jti exp r s).2 = (check jti exp r db).2.mapError .other)
    {jwks : Json} {payload : JsonObject}
    (hverify : self.verifyAssertion call.clientId call.clientAssertion jwks r = .ok payload) :
    (guarded (self.verifyJwt format call.clientId call.clientAssertion jwks r s)).2
      = outcome (recordJti check payload r db).2 := by
  simp only [verifyJwt, hverify, recordJti]
  cases payload.lookup (PyStr.ofString "jti") with
  | none => rfl
  | some jti =>
    simp only
    generalize (payload.lookup (PyStr.ofString "exp")).getD _ = exp
    have hsame := hreplay jti exp
    revert hsame
    rcases self.checkAndRecord format jti exp r s with ⟨s', answer⟩
    rcases check jti exp r db with ⟨db', answer'⟩
    rintro rfl
    rcases answer' with e | (_ | _)
    · rfl
    · rfl
    · rfl

/-- From the JWKS on. -/
theorem outcome_of_resolved {σ : Type*} {db : σ}
    {check : Json → Json → Readings → σ → σ × Except Caught Bool}
    (hreplay : ∀ jti exp,
      (self.checkAndRecord format jti exp r s).2 = (check jti exp r db).2.mapError .other)
    {jwks : Json} (hresolved : resolveJwks call = .ok jwks) :
    (guarded (self.verifyJwt format call.clientId call.clientAssertion jwks r s)).2
      = outcome (ClientAuth.authenticate self.jwt self.tokenEndpoint check call r db).2 := by
  simp only [ClientAuth.authenticate, verified, hresolved]
  have hverify : Handled (self.verifyAssertion call.clientId call.clientAssertion jwks r) _ :=
    handled_verifyAssertion jwks
  rcases hselect : selectKey self.jwt call jwks with e | ⟨alg, key⟩
  · rw [hselect] at hverify
    obtain ⟨e', hraised, he'⟩ := hverify.eq_error
    rw [snd_guarded_of_raised hraised, he']
    rfl
  · simp only [hselect] at hverify
    cases hclaims : verifyClaims self.jwt self.tokenEndpoint call alg key r.verify r.decode with
    | error e =>
      rw [hclaims] at hverify
      obtain ⟨e', hraised, he'⟩ := hverify.eq_error
      simp only [hclaims, snd_guarded_of_raised hraised, he', outcome]
    | ok payload =>
      rw [hclaims] at hverify
      simp only [hclaims]
      exact outcome_recordJti hreplay hverify.eq_ok

/-- **With its handlers the method is `ClientAuth.authenticate`**, over every replay check with the
answers of this authenticator's. -/
theorem outcome_authenticate_eq {σ : Type*} {db : σ}
    {check : Json → Json → Readings → σ → σ × Except Caught Bool}
    (hprovider : self.getJwks call.clientId
      = call.provided.mapError fun text => .other (.jwt (.other text)))
    (hreplay : ∀ jti exp,
      (self.checkAndRecord format jti exp r s).2 = (check jti exp r db).2.mapError .other) :
    (self.authenticate format call.clientId call.clientAssertion call.clientAssertionType r s).2
      = outcome (ClientAuth.authenticate self.jwt self.tokenEndpoint check call r db).2 := by
  by_cases htype : call.clientAssertionType = jwtClientAssertionType
  · by_cases hassertion : call.clientAssertion = []
    · simp [authenticate, ClientAuth.authenticate, verified, resolveJwks, htype, hassertion,
        outcome]
    · rw [htype, authenticate_of_asked hassertion, hprovider]
      cases hprovided : call.provided with
      | error text =>
        simp [ClientAuth.authenticate, verified, resolveJwks, htype, hassertion, hprovided, outcome,
          Except.mapError]
      | ok jwks =>
        by_cases htruthy : jwks.truthy = true
        · have hresolved := resolveJwks_eq_ok_iff.mpr ⟨htype, hassertion, hprovided, htruthy⟩
          simp only [Except.mapError, htruthy, if_true]
          exact outcome_of_resolved hreplay hresolved
        · simp [ClientAuth.authenticate, verified, resolveJwks, htype, hassertion, hprovided,
            htruthy, outcome, Except.mapError]
  · simp [authenticate, ClientAuth.authenticate, verified, resolveJwks, htype, outcome]

/-- Without Redis it is `ClientAuth.authenticate` over the cache in memory. -/
theorem outcome_authenticate_memory (hredis : self.redis = none)
    (hprovider : self.getJwks call.clientId
      = call.provided.mapError fun text => .other (.jwt (.other text))) :
    (self.authenticate format call.clientId call.clientAssertion call.clientAssertionType r s).2
      = outcome
          (ClientAuth.authenticate self.jwt self.tokenEndpoint checkAndRecordJti call r s).2 := by
  refine outcome_authenticate_eq hprovider fun jti exp => ?_
  simp only [checkAndRecord, hredis]

/-- With a client of a Redis server it is `ClientAuth.authenticate` over the keys of the server. -/
theorem outcome_authenticate_redis {db : RedisJtis}
    (hredis : self.redis = some fun key ttlMs =>
      .ok (if (redisSet db r.record key ttlMs).1 then .bool true else .null))
    (hprovider : self.getJwks call.clientId
      = call.provided.mapError fun text => .other (.jwt (.other text))) :
    (self.authenticate format call.clientId call.clientAssertion call.clientAssertionType r s).2
      = outcome (ClientAuth.authenticate self.jwt self.tokenEndpoint
          (ClientAuth.checkAndRecordJtiRedis format) call r db).2 := by
  refine outcome_authenticate_eq hprovider fun jti exp => ?_
  simp only [checkAndRecord, hredis, checkAndRecordJtiRedis, ClientAuth.checkAndRecordJtiRedis]
  cases floatOperand exp with
  | error e => rfl
  | ok exp =>
    simp only
    cases (redisSet db r.record (redisJtiKey format jti) (redisTtlMs exp r.check)).1 <;> rfl

end Authenticator

end McpAuthflow.ClientAuth
