import McpAuthflow.ClientAuth.PyJwt
import McpAuthflow.Foundations.Keyspace
import Mathlib.Data.Rat.Floor

/-! # `JWTClientAuthenticator` (`mcp_authflow/client_auth/jwt.py`)

A call of `authenticate` first looks for the key the assertion must be signed with (`selectKey`),
then has PyJWT verify the assertion and its claims (`verifyClaims`), and last records the `jti` in
the replay cache. The cache is a dict with a periodic cleanup (`checkAndRecordJti`) or a key in
Redis (`checkAndRecordJtiRedis`); `ReplayCache` is either. The clock is read four times along the
way (`Readings`). Python exceptions other than `JWTAuthError` that arise on the way are caught once,
in `_authenticate`; here each is translated where it arises. -/

namespace McpAuthflow.ClientAuth

/-! ## Constants -/

def jwtClientAssertionType : PyStr :=
  PyStr.ofString "urn:ietf:params:oauth:client-assertion-type:jwt-bearer"

def jwtMaxClockSkewSeconds : ℚ := 60

def jwtMaxLifetimeSeconds : ℚ := 300

def jwtReplayCacheCleanupInterval : ℚ := 60

def jwtReplayCacheMaxTtlSeconds : ℚ := jwtMaxLifetimeSeconds + jwtMaxClockSkewSeconds

def redisJtiPrefix : PyStr := PyStr.ofString "mcp_authflow:jti:"

def allowedJwtAlgorithms : List PyStr :=
  ["RS256", "RS384", "RS512", "ES256", "ES384", "ES512", "PS256", "PS384", "PS512"].map
    PyStr.ofString

def blockedJwtAlgorithms : List PyStr :=
  ["none", "HS256", "HS384", "HS512"].map PyStr.ofString

/-- `_ALG_PREFIX_TO_KTY`. -/
def algPrefixToKty : List (PyStr × PyStr) :=
  [("RS", "RSA"), ("ES", "EC"), ("PS", "RSA")].map fun e => (PyStr.ofString e.1, PyStr.ofString e.2)

/-- The claims `decode` is told to require. -/
def requiredClaims : List String := ["iss", "sub", "aud", "exp", "iat", "jti"]

/-! ## Errors -/

/-- The exceptions `_authenticate` turns into a `JWTAuthError`. -/
inductive Caught where
  | typeError
  | overflowError
  | attributeError
  | keyError
  | jwt (e : JwtException)
  | redis (text : PyStr)

/-- `JWTAuthError`, by the place that raises it. -/
inductive JWTAuthError where
  /-- `Invalid client_assertion_type: {given}. Expected {JWT_CLIENT_ASSERTION_TYPE}` -/
  | invalidAssertionType (given : PyStr)
  /-- `Missing client_assertion` -/
  | missingAssertion
  /-- `Could not retrieve JWKS for client {client_id}` -/
  | noJwks (clientId : PyStr)
  /-- `Invalid JWT format: {e}` -/
  | invalidFormat (e : PyStr)
  /-- `Algorithm '{alg}' is explicitly blocked for security reasons` -/
  | blockedAlgorithm (alg : PyStr)
  /-- `Algorithm '{alg}' is not allowed. Allowed algorithms: {sorted(ALLOWED_JWT_ALGORITHMS)}` -/
  | algorithmNotAllowed (alg : Json)
  /-- `No matching key found in JWKS for kid={kid}, alg={alg}` -/
  | noMatchingKey (kid : Json) (alg : PyStr)
  /-- `JWT has expired` -/
  | expired
  /-- `Invalid audience: expected {self.token_endpoint}` -/
  | invalidAudience (tokenEndpoint : PyStr)
  /-- `Invalid issuer: expected {client_id}` -/
  | invalidIssuer (clientId : PyStr)
  /-- `JWT decode error: {e}` -/
  | decodeError (e : PyStr)
  /-- `Invalid JWT: {e}` -/
  | invalidToken (e : PyStr)
  /-- `Subject mismatch: expected {client_id}, got {payload.get('sub')}` -/
  | subjectMismatch (clientId : PyStr) (sub : Json)
  /-- `JWT is too old (iat too far in the past)` -/
  | tooOld
  /-- `JWT replay detected: this token has already been used` -/
  | replay
  /-- `JWT verification failed: {e}` -/
  | verificationFailed (e : Caught)

/-- What leaves `authenticate`: a `JWTAuthError`, or what the JWKS provider raised. -/
inductive AuthError where
  | jwtAuth (e : JWTAuthError)
  | provider (text : PyStr)

/-! ## Arithmetic with readings of the clock -/

/-- The numbers a `float` can hold, rounded: an `int` beyond them overflows. -/
def FitsFloat (q : ℚ) : Prop := |q| < 2 ^ 1024 - 2 ^ 970

instance (q : ℚ) : Decidable (FitsFloat q) := inferInstanceAs (Decidable (_ < _))

theorem fitsFloat_zero : FitsFloat 0 := by
  decide +kernel

/-- A claim as an operand of `-`, whose other operand is a reading of the clock, a `float`. -/
def floatOperand (v : Json) : Except Caught ℚ :=
  match v.num? with
  | none => .error .typeError
  | some q => if FitsFloat q then .ok q else .error .overflowError

theorem floatOperand_eq_ok {v : Json} {q : ℚ} :
    floatOperand v = .ok q ↔ v.num? = some q ∧ FitsFloat q := by
  unfold floatOperand
  cases v.num? with
  | none => simp
  | some q' =>
    by_cases hfits : FitsFloat q'
    · simp only [if_pos hfits, Except.ok.injEq, Option.some.injEq]
      exact ⟨fun h => ⟨h, h ▸ hfits⟩, And.left⟩
    · simp only [if_neg hfits, reduceCtorEq, Option.some.injEq, false_iff, not_and]
      rintro rfl
      exact hfits

/-! ## Calls -/

/-- The arguments of `authenticate`, with what the JWKS provider answers or raises when it is asked
for the keys of the client. -/
structure AuthCall where
  clientId : PyStr
  clientAssertion : PyStr
  clientAssertionType : PyStr
  provided : Except PyStr Json

/-- The clock readings of a call, in the order they are made: in `_verify_jwt`, by PyJWT, at the
start of the replay check, and when the `jti` is recorded. -/
structure Readings where
  verify : ℚ
  decode : ℚ
  check : ℚ
  record : ℚ
  verify_le_decode : verify ≤ decode
  decode_le_check : decode ≤ check
  check_le_record : check ≤ record

/-! ## The signing key -/

section Key

variable {κ : Type*} (jwt : PyJWT κ)

/-- The first steps of `_authenticate`, up to the JWKS. -/
def resolveJwks (call : AuthCall) : Except AuthError Json :=
  if call.clientAssertionType ≠ jwtClientAssertionType then
    .error (.jwtAuth (.invalidAssertionType call.clientAssertionType))
  else if call.clientAssertion = [] then .error (.jwtAuth .missingAssertion)
  else
    match call.provided with
    | .error text => .error (.provider text)
    | .ok jwks => if jwks.truthy then .ok jwks else .error (.jwtAuth (.noJwks call.clientId))

/-- `unverified_header.get("alg", "RS256")`. -/
def headerAlg (header : JsonObject) : Json :=
  (header.lookup (PyStr.ofString "alg")).getD (.str "RS256")

/-- The algorithm of an assertion, if it is allowed; an unhashable one cannot be looked up. -/
def checkAlgorithm (header : JsonObject) : Except JWTAuthError PyStr :=
  match headerAlg header with
  | .str alg =>
    if alg ∈ blockedJwtAlgorithms then .error (.blockedAlgorithm alg)
    else if alg ∈ allowedJwtAlgorithms then .ok alg
    else .error (.algorithmNotAllowed (.str alg))
  | v =>
    if v.hashKey = none then .error (.verificationFailed .typeError)
    else .error (.algorithmNotAllowed v)

/-- `_key_matches`, on an entry that is an object. -/
def keyMatches (keyData : JsonObject) (kid : Json) (alg : PyStr) : Bool :=
  if kid.truthy && !(Json.member keyData "kid").pyEq kid then false
  else if (Json.member keyData "alg").truthy && !(Json.member keyData "alg").pyEq (.str alg) then
    false
  else if (Json.member keyData "use").truthy && !(Json.member keyData "use").pyEq (.str "sig") then
    false
  else
    match algPrefixToKty.lookup (alg.take 2) with
    | none => true
    | some kty => (Json.member keyData "kty").pyEq (.str kty)

/-- The loop of `_find_signing_key`. `_key_matches` calls `.get` on the entry, outside the `try`. -/
def searchKeys (kid : Json) (alg : PyStr) : List Json → Except Caught (Option κ)
  | [] => .ok none
  | .obj keyData :: entries =>
    if keyMatches keyData kid alg then
      match jwt.keyFromDict keyData with
      | some key => .ok (some key)
      -- a key that cannot be constructed is skipped
      | none => searchKeys kid alg entries
    else searchKeys kid alg entries
  | _ :: _ => .error .attributeError

/-- `jwks.get("keys", [])`. -/
def jwksKeys (jwks : JsonObject) : Json := (jwks.lookup (PyStr.ofString "keys")).getD (.arr [])

/-- `_find_signing_key`. Iterating over a string or a dict yields strings, which have no `.get`;
other values cannot be iterated over. -/
def findSigningKey (jwks : Json) (kid : Json) (alg : PyStr) : Except Caught (Option κ) :=
  match jwks with
  | .obj members =>
    match jwksKeys members with
    | .arr entries => searchKeys jwt kid alg entries
    | keys =>
      -- an empty value has no entries to go through
      if keys.truthy then
        match keys with
        | .str _ | .obj _ => .error .attributeError
        | _ => .error .typeError
      else .ok none
  | _ => .error .attributeError

/-- `_verify_jwt` up to the signing key, with the algorithm it is for. -/
def selectKey (call : AuthCall) (jwks : Json) : Except JWTAuthError (PyStr × κ) :=
  match jwt.getUnverifiedHeader call.clientAssertion with
  | .error (.decode text) => .error (.invalidFormat text)
  | .error e => .error (.verificationFailed (.jwt e))
  | .ok header =>
    match checkAlgorithm header with
    | .error e => .error e
    | .ok alg =>
      match findSigningKey jwt jwks (Json.member header "kid") alg with
      | .error e => .error (.verificationFailed e)
      | .ok none => .error (.noMatchingKey (Json.member header "kid") alg)
      | .ok (some key) => .ok (alg, key)

/-! ## The claims -/

variable (tokenEndpoint : PyStr)

/-- The arguments `_decode_and_validate_claims` calls `jwt.decode` with. -/
def decodeArgs (call : AuthCall) (alg : PyStr) (key : κ) : DecodeArgs κ where
  assertion := call.clientAssertion
  key := key
  algorithms := [alg]
  audience := tokenEndpoint
  issuer := call.clientId
  require := requiredClaims
  leeway := jwtMaxClockSkewSeconds

/-- The `except` clauses of `_decode_and_validate_claims`. -/
def translate (clientId : PyStr) : JwtException → JWTAuthError
  | .expiredSignature => .expired
  | .invalidAudience => .invalidAudience tokenEndpoint
  | .invalidIssuer => .invalidIssuer clientId
  | .decode text => .decodeError text
  | .invalidToken text => .invalidToken text
  | .other text => .verificationFailed (.jwt (.other text))

/-- `_verify_jwt` from the signing key to the replay check: PyJWT, then the subject and the age. -/
def verifyClaims (call : AuthCall) (alg : PyStr) (key : κ) (verifyAt decodeAt : ℚ) :
    Except JWTAuthError JsonObject :=
  match jwt.decode (decodeArgs tokenEndpoint call alg key) decodeAt with
  | .error e => .error (translate tokenEndpoint call.clientId e)
  | .ok payload =>
    if (Json.member payload "sub").pyEq (.str call.clientId) then
      match floatOperand ((payload.lookup (PyStr.ofString "iat")).getD (.num 0)) with
      | .error e => .error (.verificationFailed e)
      | .ok iat =>
        if jwtMaxLifetimeSeconds + jwtMaxClockSkewSeconds < verifyAt - iat then .error .tooOld
        else .ok payload
    else .error (.subjectMismatch call.clientId (Json.member payload "sub"))

/-- Everything before the replay check: the payload of a verified assertion. -/
def verified (call : AuthCall) (verifyAt decodeAt : ℚ) : Except AuthError JsonObject :=
  match resolveJwks call with
  | .error e => .error e
  | .ok jwks =>
    match selectKey jwt call jwks with
    | .error e => .error (.jwtAuth e)
    | .ok (alg, key) =>
      match verifyClaims jwt tokenEndpoint call alg key verifyAt decodeAt with
      | .error e => .error (.jwtAuth e)
      | .ok payload => .ok payload

end Key

/-! ## The replay cache in memory -/

/-- `_used_jtis` and `_last_cleanup`. -/
structure JtiCache where
  usedJtis : Dict Json.HashKey ℚ
  lastCleanup : ℚ

/-- A cache as `__init__` leaves it. -/
def JtiCache.init (now : ℚ) : JtiCache := ⟨∅, now⟩

/-- `_cleanup_expired_jtis`: at most once a minute, drop the entries past their tracked expiry. -/
def cleanupExpiredJtis (now : ℚ) (s : JtiCache) : JtiCache :=
  if now - s.lastCleanup < jwtReplayCacheCleanupInterval then s
  else ⟨s.usedJtis.filter fun _ exp => !decide (exp < now), now⟩

/-- `_check_and_record_jti`. -/
def checkAndRecordJti (jti exp : Json) (r : Readings) (s : JtiCache) :
    JtiCache × Except Caught Bool :=
  let s := cleanupExpiredJtis r.check s
  match exp.num? with
  | none => (s, .error .typeError)
  | some exp =>
    -- the clock is read again for the cap
    let cappedExp := min exp (r.record + jwtReplayCacheMaxTtlSeconds)
    match jti.hashKey with
    | none => (s, .error .typeError)
    | some key =>
      match s.usedJtis.lookup key with
      | some _ => (s, .ok false)
      | none => ({ s with usedJtis := s.usedJtis.insert key cappedExp }, .ok true)

/-! ## The replay cache in Redis -/

/-- The keyspace of the Redis server, as far as the authenticator uses it. -/
abbrev RedisJtis := Keyspace ℚ PyStr PyStr

/-- `ttl_ms`. -/
def redisTtlMs (exp now : ℚ) : ℤ :=
  ⌈min (max 0 (exp - now) + jwtMaxClockSkewSeconds) jwtReplayCacheMaxTtlSeconds * 1000⌉

/-- The key of a `jti`. `format` is Python's `str()` on the values that are not strings. -/
def redisJtiKey (format : Json → PyStr) (jti : Json) : PyStr :=
  redisJtiPrefix ++
    match jti with
    | .str s => s
    | v => format v

/-- `SET key "1" NX PX ttl_ms` at the time `now`. -/
def redisSet (db : RedisJtis) (now : ℚ) (key : PyStr) (ttlMs : ℤ) : Bool × RedisJtis :=
  Keyspace.setIfAbsent db now key (PyStr.ofString "1") (now + ttlMs / 1000)

/-- `_check_and_record_jti_redis`; the server executes the command at the last reading. -/
def checkAndRecordJtiRedis (format : Json → PyStr) (jti exp : Json) (r : Readings)
    (db : RedisJtis) : RedisJtis × Except Caught Bool :=
  match floatOperand exp with
  | .error e => (db, .error e)
  | .ok exp =>
    let (written, db) := redisSet db r.record (redisJtiKey format jti) (redisTtlMs exp r.check)
    (db, .ok written)

/-! ## `authenticate` -/

/-- The last step of `_verify_jwt`, for either kind of cache: the `jti` and the expiry of the
payload are handed to the replay check. -/
def recordJti {σ : Type*} (checkAndRecord : Json → Json → Readings → σ → σ × Except Caught Bool)
    (payload : JsonObject) (r : Readings) (s : σ) : σ × Except AuthError Unit :=
  match payload.lookup (PyStr.ofString "jti") with
  | none => (s, .error (.jwtAuth (.verificationFailed .keyError)))
  | some jti =>
    let exp := (payload.lookup (PyStr.ofString "exp")).getD
      (.num (r.verify + jwtMaxLifetimeSeconds))
    match checkAndRecord jti exp r s with
    | (s, .error e) => (s, .error (.jwtAuth (.verificationFailed e)))
    | (s, .ok false) => (s, .error (.jwtAuth .replay))
    | (s, .ok true) => (s, .ok ())

/-- `authenticate` over a replay cache of any kind; `.ok ()` is `True`. -/
def authenticate {κ σ : Type*} (jwt : PyJWT κ) (tokenEndpoint : PyStr)
    (checkAndRecord : Json → Json → Readings → σ → σ × Except Caught Bool) (call : AuthCall)
    (r : Readings) (s : σ) : σ × Except AuthError Unit :=
  match verified jwt tokenEndpoint call r.verify r.decode with
  | .error e => (s, .error e)
  | .ok payload => recordJti checkAndRecord payload r s

/-- The replay cache of an authenticator, without or with Redis. -/
inductive ReplayCache where
  | memory (s : JtiCache)
  | redis (db : RedisJtis)

/-- The replay check of `_verify_jwt`: Redis if there is one. -/
def ReplayCache.checkAndRecord (format : Json → PyStr) (jti exp : Json) (r : Readings) :
    ReplayCache → ReplayCache × Except Caught Bool
  | .memory s =>
    let (s, accepted) := checkAndRecordJti jti exp r s
    (.memory s, accepted)
  | .redis db =>
    let (db, accepted) := checkAndRecordJtiRedis format jti exp r db
    (.redis db, accepted)

/-! ## Sample data -/

/-- A call whose readings are all the same. -/
def Readings.constant (now : ℚ) : Readings := ⟨now, now, now, now, le_rfl, le_rfl, le_rfl⟩

@[simp] theorem Readings.verify_constant (now : ℚ) : (Readings.constant now).verify = now := rfl

@[simp] theorem Readings.decode_constant (now : ℚ) : (Readings.constant now).decode = now := rfl

@[simp] theorem Readings.check_constant (now : ℚ) : (Readings.constant now).check = now := rfl

@[simp] theorem Readings.record_constant (now : ℚ) : (Readings.constant now).record = now := rfl

/-- The claims of an assertion by `client` for the token endpoint `token`. -/
def sampleClaims (iat exp : ℚ) : JsonObject :=
  [(PyStr.ofString "iss", .str "client"), (PyStr.ofString "sub", .str "client"),
    (PyStr.ofString "aud", .str "token"), (PyStr.ofString "iat", .num iat),
    (PyStr.ofString "exp", .num exp), (PyStr.ofString "jti", .str "j")]

/-- An RSA key. -/
def sampleKey : JsonObject := [(PyStr.ofString "kty", .str "RSA")]

/-- A presentation of an assertion by `client`, whose JWKS has the given entries. -/
def sampleCall (entries : List Json) : AuthCall where
  clientId := PyStr.ofString "client"
  clientAssertion := PyStr.ofString "assertion"
  clientAssertionType := jwtClientAssertionType
  provided := .ok (.obj [(PyStr.ofString "keys", .arr entries)])

end McpAuthflow.ClientAuth
