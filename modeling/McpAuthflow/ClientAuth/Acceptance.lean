import McpAuthflow.ClientAuth.Verification

/-! # When `authenticate` accepts an assertion

`Acceptable` collects everything that is asked of an assertion: its type, the key it must verify
under, its claims at the clock readings of the call, and a `jti` the replay cache does not hold.
`authenticate` rejects with a `JWTAuthError` what it does not accept, and accepts the acceptable
assertions but for three kinds of input: the key search raises on an entry of the JWKS that is not
an object, even if a usable key follows; PyJWT compares the integer parts of the dates; and an
integer beyond the range of a `float` cannot be subtracted from the clock.
**`exact_acceptance_iff`**: the acceptance condition is exact for a call iff, should everything else
hold, these three and the comparison of the dates themselves come to the same. -/

namespace McpAuthflow.ClientAuth

variable {κ : Type*} {jwt : PyJWT κ} {claims : PyStr → JsonObject}
  {verifies : κ → PyStr → PyStr → ℚ → Prop} {tokenEndpoint : PyStr} {format : Json → PyStr}
  {call : AuthCall} {r : Readings} {cache : ReplayCache}

/-! ## The condition -/

/-- The replay cache does not hold the `jti`: in memory after the cleanup of the call, in Redis when
the command is executed. -/
def JtiUnused (format : Json → PyStr) (r : Readings) (cache : ReplayCache) (jti : Json) : Prop :=
  match cache with
  | .memory s => ∃ key, jti.hashKey = some key ∧
      (cleanupExpiredJtis r.check s).usedJtis.lookup key = none
  | .redis db => Keyspace.read db r.record (redisJtiKey format jti) = none

/-- All that is asked of an assertion, but how its dates `exp` and `iat` compare with the clock of
PyJWT. `before` are the entries of the JWKS that come before the key it verifies under. -/
structure Asked (jwt : PyJWT κ) (claims : PyStr → JsonObject)
    (verifies : κ → PyStr → PyStr → ℚ → Prop) (tokenEndpoint : PyStr) (format : Json → PyStr)
    (call : AuthCall) (r : Readings) (cache : ReplayCache) (before : List Json) (exp iat : ℚ) :
    Prop where
  assertionType : call.clientAssertionType = jwtClientAssertionType
  assertion : call.clientAssertion ≠ []
  signed : ∃ jwks alg key, call.provided = .ok jwks ∧ jwks.truthy = true ∧
    SigningKey jwt call.clientAssertion jwks alg before key ∧
    verifies key alg call.clientAssertion r.decode
  accepted : ClaimsAccepted tokenEndpoint call (claims call.clientAssertion)
  expNumber : (Json.member (claims call.clientAssertion) "exp").num? = some exp
  iatNumber : (Json.member (claims call.clientAssertion) "iat").num? = some iat
  young : Young iat r.verify
  unused : JtiUnused format r cache (Json.member (claims call.clientAssertion) "jti")

/-- At the time `now` the one date has not passed and the other has come, give or take the skew. -/
def DatesValid (now exp iat : ℚ) : Prop :=
  now - jwtMaxClockSkewSeconds < exp ∧ iat ≤ now + jwtMaxClockSkewSeconds

/-- **All that is asked of an assertion.** -/
def Acceptable (jwt : PyJWT κ) (claims : PyStr → JsonObject)
    (verifies : κ → PyStr → PyStr → ℚ → Prop) (tokenEndpoint : PyStr) (format : Json → PyStr)
    (call : AuthCall) (r : Readings) (cache : ReplayCache) : Prop :=
  ∃ before exp iat, Asked jwt claims verifies tokenEndpoint format call r cache before exp iat ∧
    DatesValid r.decode exp iat

/-- **The acceptance condition is exact**: `True` iff everything holds, a `JWTAuthError`
otherwise. -/
structure ExactAcceptance (jwt : PyJWT κ) (claims : PyStr → JsonObject)
    (verifies : κ → PyStr → PyStr → ℚ → Prop) (tokenEndpoint : PyStr) (format : Json → PyStr)
    (call : AuthCall) (r : Readings) (cache : ReplayCache) : Prop where
  accepts : (authenticate jwt tokenEndpoint (ReplayCache.checkAndRecord format) call r cache).2
      = .ok () ↔ Acceptable jwt claims verifies tokenEndpoint format call r cache
  rejects : (authenticate jwt tokenEndpoint (ReplayCache.checkAndRecord format) call r cache).2
      ≠ .ok () →
    ∃ e, (authenticate jwt tokenEndpoint (ReplayCache.checkAndRecord format) call r cache).2
      = .error (.jwtAuth e)

/-! ## Stage by stage -/

/-- The replay check can compute with the expiry: for Redis it is subtracted from the clock. -/
def ReplayCache.Handles : ReplayCache → ℚ → Prop
  | .memory _, _ => True
  | .redis _, exp => FitsFloat exp

/-- The replay check accepts iff it can compute with the expiry and the `jti` is not held. -/
theorem checkAndRecord_eq_ok_true {jti exp : Json} :
    (ReplayCache.checkAndRecord format jti exp r cache).2 = .ok true ↔
      (∃ q, exp.num? = some q ∧ cache.Handles q) ∧ JtiUnused format r cache jti := by
  unfold JtiUnused
  cases cache with
  | memory s =>
    simp only [ReplayCache.checkAndRecord, checkAndRecordJti, ReplayCache.Handles]
    cases exp.num? with
    | none => simp
    | some exp =>
      cases jti.hashKey with
      | none => simp
      | some key =>
        cases hheld : (cleanupExpiredJtis r.check s).usedJtis.lookup key <;> simp [hheld]
  | redis db =>
    simp only [ReplayCache.checkAndRecord, checkAndRecordJtiRedis, ReplayCache.Handles,
      ← floatOperand_eq_ok]
    cases floatOperand exp with
    | error e => simp
    | ok q =>
      simp only [redisSet]
      cases hheld : Keyspace.read db r.record (redisJtiKey format jti) with
      | some v => simp [Keyspace.setIfAbsent_of_some hheld]
      | none => simp [Keyspace.setIfAbsent_of_none hheld]

/-- The last step, on a payload that has its `jti` and its `exp`. -/
theorem recordJti_eq_ok_iff {payload : JsonObject} (hjti : Json.member payload "jti" ≠ .null)
    (hexp : Json.member payload "exp" ≠ .null) :
    (recordJti (ReplayCache.checkAndRecord format) payload r cache).2 = .ok () ↔
      (∃ exp, (Json.member payload "exp").num? = some exp ∧ cache.Handles exp) ∧
        JtiUnused format r cache (Json.member payload "jti") := by
  rw [← checkAndRecord_eq_ok_true]
  simp only [recordJti, Json.lookup_of_member_ne_null hjti, Json.lookup_of_member_ne_null hexp,
    Option.getD_some]
  rcases ReplayCache.checkAndRecord format (Json.member payload "jti") (Json.member payload "exp") r
    cache with ⟨s, e | accepted⟩
  · simp
  · cases accepted <;> simp

/-! ## The whole call -/

/-- The key search gets to the key, and no subtraction overflows. -/
structure Computable (cache : ReplayCache) (before : List Json) (exp iat : ℚ) : Prop where
  objects : AllObjects before
  iatFits : FitsFloat iat
  expFits : cache.Handles exp

/-- **`authenticate` accepts** the assertions of which all is asked, whose dates are valid as PyJWT
compares them, and on which nothing raises. -/
theorem authenticate_eq_ok_iff {date : ℚ → ℚ} (h : jwt.Comparing date claims verifies) :
    (authenticate jwt tokenEndpoint (ReplayCache.checkAndRecord format) call r cache).2 = .ok () ↔
      ∃ before exp iat,
        Asked jwt claims verifies tokenEndpoint format call r cache before exp iat ∧
        DatesValid r.decode (date exp) (date iat) ∧ Computable cache before exp iat := by
  constructor
  · intro hok
    unfold authenticate at hok
    split at hok
    · cases hok
    case h_2 payload hverified =>
      -- stage by stage, each with its own lemma
      obtain ⟨jwks, alg, key, hjwks, hkey, hclaims⟩ := verified_eq_ok_iff.mp hverified
      obtain ⟨htype, hassertion, hprovided, htruthy⟩ := resolveJwks_eq_ok_iff.mp hjwks
      obtain ⟨before, hsigning, hobjects⟩ := selectKey_eq_ok_iff.mp hkey
      obtain ⟨rfl, hverifies, haccepted, ⟨iat, hiat, hiatFits, hissued, hyoung⟩, hexpires⟩ :=
        verifyClaims_sound h hclaims
      obtain ⟨⟨exp, hexp, hexpFits⟩, hunused⟩ := (recordJti_eq_ok_iff
        (haccepted.present "jti" (by simp [requiredClaims]))
        (haccepted.present "exp" (by simp [requiredClaims]))).mp hok
      exact ⟨before, exp, iat, ⟨htype, hassertion,
        ⟨jwks, alg, key, hprovided, htruthy, hsigning, hverifies⟩, haccepted, hexp, hiat, hyoung,
        hunused⟩, ⟨hexpires exp hexp, hissued⟩, ⟨hobjects, hiatFits, hexpFits⟩⟩
  · rintro ⟨before, exp, iat, ⟨htype, hassertion,
      ⟨jwks, alg, key, hprovided, htruthy, hsigning, hverifies⟩, haccepted, hexp, hiat, hyoung,
      hunused⟩, ⟨hexpires, hissued⟩, ⟨hobjects, hiatFits, hexpFits⟩⟩
    have hverified : verified jwt tokenEndpoint call r.verify r.decode
        = .ok (claims call.clientAssertion) :=
      verified_eq_ok_iff.mpr ⟨jwks, alg, key,
        resolveJwks_eq_ok_iff.mpr ⟨htype, hassertion, hprovided, htruthy⟩,
        selectKey_eq_ok_iff.mpr ⟨before, hsigning, hobjects⟩,
        verifyClaims_complete h hverifies haccepted hiat hiatFits hissued hyoung hexp hexpires⟩
    rw [authenticate, hverified]
    exact (recordJti_eq_ok_iff (haccepted.present "jti" (by simp [requiredClaims]))
      (haccepted.present "exp" (by simp [requiredClaims]))).mpr ⟨⟨exp, hexp, hexpFits⟩, hunused⟩

/-- The entries before the first usable one are the same however it is found. -/
theorem FirstUsable.unique {kid : Json} {alg : PyStr} {entries before before' : List Json}
    {key key' : κ} (h : FirstUsable jwt kid alg entries before key)
    (h' : FirstUsable jwt kid alg entries before' key') : before = before' := by
  obtain ⟨found, after, rfl, hfound, hbefore⟩ := h
  obtain ⟨found', after', heq, hfound', hbefore'⟩ := h'
  induction before generalizing before' with
  | nil =>
    cases before' with
    | nil => rfl
    | cons e before' =>
      obtain ⟨rfl, -⟩ := List.cons.inj heq
      exact absurd hfound (hbefore' _ (List.mem_cons_self ..) key)
  | cons e before ih =>
    cases before' with
    | nil =>
      obtain ⟨rfl, -⟩ := List.cons.inj heq
      exact absurd hfound' (hbefore _ (List.mem_cons_self ..) key')
    | cons e' before' =>
      obtain ⟨rfl, htail⟩ := List.cons.inj heq
      rw [ih (fun e he => hbefore e (List.mem_cons_of_mem _ he)) htail
        (fun e he => hbefore' e (List.mem_cons_of_mem _ he))]

/-- What is asked determines what precedes the key, and the dates. -/
theorem Asked.unique {before before' : List Json} {exp exp' iat iat' : ℚ}
    (h : Asked jwt claims verifies tokenEndpoint format call r cache before exp iat)
    (h' : Asked jwt claims verifies tokenEndpoint format call r cache before' exp' iat') :
    before = before' ∧ exp = exp' ∧ iat = iat' := by
  obtain ⟨jwks, alg, key, hprovided, -, ⟨header, members, entries, hheader, halg, -, rfl, hkeys,
    hfirst⟩, -⟩ := h.signed
  obtain ⟨jwks', alg', key', hprovided', -, ⟨header', members', entries', hheader', halg', -, rfl,
    hkeys', hfirst'⟩, -⟩ := h'.signed
  obtain rfl := Except.ok.inj (hheader.symm.trans hheader')
  obtain rfl := Json.str.inj (halg.symm.trans halg')
  obtain rfl := Json.obj.inj (Except.ok.inj (hprovided.symm.trans hprovided'))
  obtain rfl := Json.arr.inj (hkeys.symm.trans hkeys')
  exact ⟨hfirst.unique hfirst', Option.some_inj.mp (h.expNumber.symm.trans h'.expNumber),
    Option.some_inj.mp (h.iatNumber.symm.trans h'.iatNumber)⟩

/-- What is not accepted is rejected with a `JWTAuthError`, if the provider answers. -/
theorem rejected_of_ne_ok (hprovided : ∃ jwks, call.provided = .ok jwks)
    (hne : (authenticate jwt tokenEndpoint (ReplayCache.checkAndRecord format) call r cache).2
      ≠ .ok ()) :
    ∃ e, (authenticate jwt tokenEndpoint (ReplayCache.checkAndRecord format) call r cache).2
      = .error (.jwtAuth e) := by
  cases hresult : (authenticate jwt tokenEndpoint (ReplayCache.checkAndRecord format) call r
    cache).2 with
  | ok accepted => exact absurd hresult hne
  | error e =>
    cases e with
    | jwtAuth e => exact ⟨e, rfl⟩
    -- the provider has answered, so it cannot have raised
    | provider text =>
      obtain ⟨jwks, hjwks⟩ := hprovided
      rw [provided_of_authenticate_error hresult] at hjwks
      cases hjwks

/-- **When acceptance is exact**: iff, should everything else hold that is asked, the dates are
valid exactly when their integer parts are and nothing raises: the entries before the first usable
one are objects, `iat` and, with Redis, `exp` are in the range of a `float`. For every call, clock
and replay cache, given that the provider answers. -/
theorem exact_acceptance_iff (h : jwt.Truncating claims verifies) (tokenEndpoint : PyStr)
    (format : Json → PyStr) (call : AuthCall) (hprovided : ∃ jwks, call.provided = .ok jwks)
    (r : Readings) (cache : ReplayCache) :
    ExactAcceptance jwt claims verifies tokenEndpoint format call r cache ↔
      ∀ before exp iat,
        Asked jwt claims verifies tokenEndpoint format call r cache before exp iat →
        (DatesValid r.decode exp iat ↔
          DatesValid r.decode (truncate exp) (truncate iat) ∧ Computable cache before exp iat) := by
  constructor
  · intro hexact before exp iat hasked
    have hiff := hexact.accepts
    rw [authenticate_eq_ok_iff h] at hiff
    constructor
    · intro hdates
      obtain ⟨before', exp', iat', hasked', hcompared⟩ :=
        hiff.mpr ⟨before, exp, iat, hasked, hdates⟩
      obtain ⟨rfl, rfl, rfl⟩ := hasked.unique hasked'
      exact hcompared
    · intro hcompared
      obtain ⟨before', exp', iat', hasked', hdates⟩ :=
        hiff.mp ⟨before, exp, iat, hasked, hcompared⟩
      obtain ⟨rfl, rfl, rfl⟩ := hasked.unique hasked'
      exact hdates
  · intro hcondition
    refine ⟨?_, rejected_of_ne_ok hprovided⟩
    rw [authenticate_eq_ok_iff h]
    constructor
    · rintro ⟨before, exp, iat, hasked, hcompared⟩
      exact ⟨before, exp, iat, hasked, (hcondition before exp iat hasked).mpr hcompared⟩
    · rintro ⟨before, exp, iat, hasked, hdates⟩
      exact ⟨before, exp, iat, hasked, (hcondition before exp iat hasked).mp hdates⟩

/-! ## A bad entry before the key -/

/-- The library on the sample assertion, issued at second 0 for five minutes. -/
def sampleJwt : PyJWT Unit := datedJwt truncate fun _ => sampleClaims 0 300

theorem truncating_sampleJwt :
    sampleJwt.Truncating (fun _ => sampleClaims 0 300) fun _ _ _ _ => True :=
  comparing_datedJwt truncate _

/-- All is asked of the sample assertion, whatever precedes its key that is not an object. -/
theorem asked_sampleCall (before : List Json)
    (hbefore : ∀ e ∈ before, ∀ keyData, e ≠ .obj keyData) :
    Asked sampleJwt (fun _ => sampleClaims 0 300) (fun _ _ _ _ => True) (PyStr.ofString "token")
      (fun _ => []) (sampleCall (before ++ [.obj sampleKey])) (Readings.constant 0)
      (.memory (JtiCache.init 0)) before 300 0 := by
  obtain ⟨-, -, -, hiat, hexp, hjti⟩ := members_sampleClaims 0 300
  refine ⟨rfl, ?_, ⟨_, _, (), rfl, rfl, signingKey_sampleCall truncate _ hbefore, trivial⟩,
    claimsAccepted_sampleClaims 0 300 _, ?_, ?_, ?_, ?_⟩
  · show PyStr.ofString "assertion" ≠ []
    simp [PyStr.ofString]
  · rw [hexp]
    rfl
  · rw [hiat]
    rfl
  · norm_num [Young, jwtMaxLifetimeSeconds, jwtMaxClockSkewSeconds]
  · rw [hjti]
    refine ⟨_, rfl, ?_⟩
    simp [cleanupExpiredJtis, JtiCache.init, Readings.constant, jwtReplayCacheCleanupInterval]

/-- Its dates are valid at second 0. -/
theorem datesValid_sampleCall : DatesValid (Readings.constant 0).decode 300 0 := by
  constructor <;> norm_num [jwtMaxClockSkewSeconds]

/-- Acceptance is exact on the sample assertion with its key alone. -/
theorem exact_acceptance_iff_sampleCall :
    (∃ jwks, (sampleCall [.obj sampleKey]).provided = .ok jwks) ∧
    ExactAcceptance sampleJwt (fun _ => sampleClaims 0 300)
      (fun _ _ _ _ => True) (PyStr.ofString "token") (fun _ => []) (sampleCall [.obj sampleKey])
      (Readings.constant 0) (.memory (JtiCache.init 0)) := by
  refine ⟨⟨_, rfl⟩, (exact_acceptance_iff truncating_sampleJwt _ _ _ ⟨_, rfl⟩ _ _).mpr ?_⟩
  intro before exp iat hasked
  -- the key is the only entry, so nothing precedes it; the dates are whole numbers
  obtain ⟨rfl, rfl, rfl⟩ := hasked.unique (asked_sampleCall [] (by simp))
  have hexp := truncate_intCast 300
  have hiat := truncate_intCast 0
  norm_num at hexp hiat
  rw [hexp, hiat]
  exact (and_iff_left ⟨by simp [AllObjects], fitsFloat_zero, trivial⟩).symm

/-- **The JWKS `{"keys": [42, key]}` hides its key.** -/
theorem acceptance_not_exact :
    ¬ ExactAcceptance sampleJwt (fun _ => sampleClaims 0 300)
      (fun _ _ _ _ => True) (PyStr.ofString "token") (fun _ => [])
      (sampleCall [.num 42, .obj sampleKey]) (Readings.constant 0)
      (.memory (JtiCache.init 0)) := by
  intro hexact
  have hasked := asked_sampleCall [.num 42] (by simp)
  have hok := hexact.accepts.mpr ⟨_, _, _, hasked, datesValid_sampleCall⟩
  obtain ⟨before, exp, iat, hasked', -, hcomputable⟩ :=
    (authenticate_eq_ok_iff truncating_sampleJwt).mp hok
  obtain ⟨rfl, -, -⟩ := hasked.unique hasked'
  obtain ⟨members, hobj⟩ := hcomputable.objects (.num 42) (by simp)
  cases hobj

end McpAuthflow.ClientAuth
