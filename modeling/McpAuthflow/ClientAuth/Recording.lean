import McpAuthflow.ClientAuth.MemoryReplay

/-! # Only accepted assertions are recorded

A call that passes every other check hands a `jti` and an expiry to the replay check (`presented`);
a call that fails one of them never reaches the cache. What the replay check does to the cache is
the same with and without Redis (`checkAndRecord_cases`): it adds one entry and accepts, or adds
none and rejects. So an entry can only stem from an accepted assertion, and nobody can have the
`jti` of another assertion refused without having an assertion with it accepted:
**`recorded_only_by_acceptance`**.

The calls of a run stand in the order in which they reach the cache. Everything before that depends
on the call alone, so the order in which concurrent calls do it does not matter, and neither do
their clock readings. -/

namespace McpAuthflow.ClientAuth

variable {κ : Type*} (jwt : PyJWT κ) (tokenEndpoint : PyStr) (format : Json → PyStr)

/-! ## What reaches the replay check -/

/-- The `jti` and the expiry a call hands to the replay check, or the error it stops with before. -/
def presented (c : TimedCall) : Except AuthError (Json × Json) :=
  match verified jwt tokenEndpoint c.call c.readings.verify c.readings.decode with
  | .error e => .error e
  | .ok payload =>
    match payload.lookup (PyStr.ofString "jti") with
    | none => .error (.jwtAuth (.verificationFailed .keyError))
    | some jti => .ok (jti, (payload.lookup (PyStr.ofString "exp")).getD
        (.num (c.readings.verify + jwtMaxLifetimeSeconds)))

/-- What a call makes of the outcome of the replay check. -/
def settle : Except Caught Bool → Except AuthError Unit
  | .error e => .error (.jwtAuth (.verificationFailed e))
  | .ok false => .error (.jwtAuth .replay)
  | .ok true => .ok ()

/-- A call is accepted iff the replay check accepts. -/
theorem settle_eq_ok_iff {outcome : Except Caught Bool} :
    settle outcome = .ok () ↔ outcome = .ok true := by
  rcases outcome with e | accepted
  · simp [settle]
  · cases accepted <;> simp [settle]

/-- A call is rejected as a replay iff the replay check says so. -/
theorem settle_eq_replay_iff {outcome : Except Caught Bool} :
    settle outcome = .error (.jwtAuth .replay) ↔ outcome = .ok false := by
  rcases outcome with e | accepted
  · simp [settle]
  · cases accepted <;> simp [settle]

/-- **A call on any cache**: it stops before the cache, or does what the replay check does. -/
theorem authenticate_eq {σ : Type*}
    (checkAndRecord : Json → Json → Readings → σ → σ × Except Caught Bool) (c : TimedCall) (s : σ) :
    authenticate jwt tokenEndpoint checkAndRecord c.call c.readings s
      = match presented jwt tokenEndpoint c with
        | .error e => (s, .error e)
        | .ok (jti, exp) =>
          ((checkAndRecord jti exp c.readings s).1,
            settle (checkAndRecord jti exp c.readings s).2) := by
  unfold authenticate presented
  cases verified jwt tokenEndpoint c.call c.readings.verify c.readings.decode with
  | error e => rfl
  | ok payload =>
    simp only [recordJti]
    cases payload.lookup (PyStr.ofString "jti") with
    | none => rfl
    | some jti =>
      simp only
      generalize checkAndRecord jti _ c.readings s = outcome
      obtain ⟨s', e | accepted⟩ := outcome
      · rfl
      · cases accepted <;> rfl

/-- The algorithm is not refused as a replay. -/
theorem checkAlgorithm_ne_replay (header : JsonObject) :
    checkAlgorithm header ≠ .error .replay := by
  unfold checkAlgorithm
  split
  · split_ifs <;> simp
  · split_ifs <;> simp

/-- The key is not refused as a replay. -/
theorem selectKey_ne_replay (call : AuthCall) (jwks : Json) :
    selectKey jwt call jwks ≠ .error .replay := by
  have halg := checkAlgorithm_ne_replay
  unfold selectKey
  split
  · simp
  · simp
  · split
    · next e he => exact fun h => halg _ (he.trans (congrArg Except.error (Except.error.inj h)))
    · split <;> simp

/-- The claims are not refused as a replay. -/
theorem verifyClaims_ne_replay (call : AuthCall) (alg : PyStr) (key : κ) (verifyAt decodeAt : ℚ) :
    verifyClaims jwt tokenEndpoint call alg key verifyAt decodeAt ≠ .error .replay := by
  unfold verifyClaims
  split
  · next e _ => cases e <;> simp [translate]
  · split
    · split
      · simp
      · split_ifs <;> simp
    · simp

/-- Nothing before the replay check is refused as a replay. -/
theorem presented_ne_replay (c : TimedCall) :
    presented jwt tokenEndpoint c ≠ .error (.jwtAuth .replay) := by
  have hverified : verified jwt tokenEndpoint c.call c.readings.verify c.readings.decode
      ≠ .error (.jwtAuth .replay) := by
    unfold verified resolveJwks
    split_ifs
    · simp
    · simp
    · cases c.call.provided with
      | error text => simp
      | ok jwks =>
        simp only
        split_ifs
        · simp only
          split
          · next e he =>
            intro h
            rw [AuthError.jwtAuth.inj (Except.error.inj h)] at he
            exact selectKey_ne_replay jwt c.call jwks he
          · split
            · next e he =>
              intro h
              rw [AuthError.jwtAuth.inj (Except.error.inj h)] at he
              exact verifyClaims_ne_replay jwt tokenEndpoint c.call _ _ _ _ he
            · simp
        · simp
  -- what is presented is what was verified, with its `jti` and `exp`
  unfold presented
  split
  · next e he => exact fun h => hverified (he.trans (congrArg Except.error (Except.error.inj h)))
  · split <;> simp

/-! ## The entries of a cache -/

/-- The identity of an entry, in a cache of either kind. -/
inductive CacheKey where
  | inMemory (key : Json.HashKey)
  | inRedis (key : PyStr)

/-- The entry is the one a `jti` is recorded under. -/
def CacheKey.IsFor (jti : Json) : CacheKey → Prop
  | .inMemory key => jti.hashKey = some key
  | .inRedis key => redisJtiKey format jti = key

/-- Two strings are recorded under different entries. -/
theorem CacheKey.IsFor.str_inj {key : CacheKey} {x y : PyStr} (hx : key.IsFor format (.str x))
    (hy : key.IsFor format (.str y)) : x = y := by
  cases key with
  | inMemory key =>
    have h : some (Json.HashKey.str x) = some (Json.HashKey.str y) := hx.trans hy.symm
    exact Json.HashKey.str.inj (Option.some.inj h)
  | inRedis key =>
    have h : redisJtiPrefix ++ x = redisJtiPrefix ++ y := hx.trans hy.symm
    exact List.append_cancel_left h

/-- Until when an entry is held: its tracked expiry, or the deadline of the key, if it has one. -/
def ReplayCache.held : ReplayCache → CacheKey → Option (Option ℚ)
  | .memory s, .inMemory key => (s.usedJtis.lookup key).map some
  | .redis db, .inRedis key => (db.lookup key).map KeyspaceEntry.deadline
  | .memory _, .inRedis _ => none
  | .redis _, .inMemory _ => none

/-- The cache an authenticator starts with: a dict, or a Redis server without keys. -/
def ReplayCache.init (withRedis : Bool) (createdAt : ℚ) : ReplayCache :=
  if withRedis then .redis ∅ else .memory (.init createdAt)

theorem ReplayCache.held_init (withRedis : Bool) (createdAt : ℚ) (key : CacheKey) :
    (ReplayCache.init withRedis createdAt).held key = none := by
  cases withRedis <;> cases key <;> rfl

/-! ## One replay check -/

/-- The entry a replay check in memory is about, with its tracked expiry; `none` is a
`TypeError`. -/
def memoryEntry (jti exp : Json) (r : Readings) : Option (Json.HashKey × ℚ) :=
  match exp.num?, jti.hashKey with
  | some exp, some key => some (key, min exp (r.record + jwtReplayCacheMaxTtlSeconds))
  | _, _ => none

/-- The entry is that of the `jti`, tracked for six minutes at most. -/
theorem memoryEntry_eq_some {jti exp : Json} {r : Readings} {key : Json.HashKey} {tracked : ℚ}
    (h : memoryEntry jti exp r = some (key, tracked)) :
    jti.hashKey = some key ∧ tracked ≤ r.record + jwtReplayCacheMaxTtlSeconds := by
  unfold memoryEntry at h
  split at h
  · next exp' key' hexp hkey =>
    rw [Option.some_inj, Prod.mk.injEq] at h
    obtain ⟨rfl, rfl⟩ := h
    exact ⟨hkey, min_le_right _ _⟩
  · cases h

/-- **The replay check in memory**: after the cleanup, the entry is found or added. -/
theorem checkAndRecordJti_eq (jti exp : Json) (r : Readings) (s : JtiCache) :
    checkAndRecordJti jti exp r s
      = match memoryEntry jti exp r with
        | none => (cleanupExpiredJtis r.check s, .error .typeError)
        | some (key, tracked) =>
          match (cleanupExpiredJtis r.check s).usedJtis.lookup key with
          | some _ => (cleanupExpiredJtis r.check s, .ok false)
          | none =>
            ({ cleanupExpiredJtis r.check s with
                usedJtis := (cleanupExpiredJtis r.check s).usedJtis.insert key tracked },
              .ok true) := by
  unfold checkAndRecordJti memoryEntry
  cases exp.num? with
  | none => rfl
  | some exp =>
    cases jti.hashKey with
    | none => rfl
    | some key => cases (cleanupExpiredJtis r.check s).usedJtis.lookup key <;> rfl

/-- A cleanup adds no entry and changes none. -/
theorem lookup_of_cleanupExpiredJtis {now : ℚ} {s : JtiCache} {key : Json.HashKey} {tracked : ℚ}
    (h : (cleanupExpiredJtis now s).usedJtis.lookup key = some tracked) :
    s.usedJtis.lookup key = some tracked := by
  unfold cleanupExpiredJtis at h
  split at h
  · exact h
  · rw [AList.lookup_filter] at h
    exact Option.eq_some_of_filter_eq_some h

/-- What the replay check in memory does to the entries. -/
theorem checkAndRecordJti_cases (jti exp : Json) (r : Readings) (s : JtiCache) :
    (∀ key tracked, (checkAndRecordJti jti exp r s).1.usedJtis.lookup key = some tracked →
        s.usedJtis.lookup key = some tracked ∨
          (checkAndRecordJti jti exp r s).2 = .ok true ∧ jti.hashKey = some key) ∧
      ((checkAndRecordJti jti exp r s).2 = .ok false →
        ∃ key tracked, jti.hashKey = some key ∧ s.usedJtis.lookup key = some tracked) := by
  rw [checkAndRecordJti_eq]
  cases hentry : memoryEntry jti exp r with
  | none => exact ⟨fun key tracked h => Or.inl (lookup_of_cleanupExpiredJtis h), by simp⟩
  | some entry =>
    obtain ⟨key, tracked⟩ := entry
    have hkey := (memoryEntry_eq_some hentry).1
    cases hheld : (cleanupExpiredJtis r.check s).usedJtis.lookup key with
    | some old =>
      simp only [hheld]
      exact ⟨fun key' tracked' h => Or.inl (lookup_of_cleanupExpiredJtis h),
        fun _ => ⟨key, old, hkey, lookup_of_cleanupExpiredJtis hheld⟩⟩
    | none =>
      simp only [hheld]
      refine ⟨?_, by simp⟩
      apply AList.forall_lookup_insert
      · intro key' tracked' h
        exact Or.inl (lookup_of_cleanupExpiredJtis h)
      · exact Or.inr ⟨trivial, hkey⟩

/-- What the replay check in Redis does to the keys. -/
theorem checkAndRecordJtiRedis_cases (jti exp : Json) (r : Readings) (db : RedisJtis) :
    (∀ key entry, (checkAndRecordJtiRedis format jti exp r db).1.lookup key = some entry →
        db.lookup key = some entry ∨
          (checkAndRecordJtiRedis format jti exp r db).2 = .ok true ∧
            redisJtiKey format jti = key) ∧
      ((checkAndRecordJtiRedis format jti exp r db).2 = .ok false →
        ∃ entry, db.lookup (redisJtiKey format jti) = some entry) := by
  unfold checkAndRecordJtiRedis
  cases floatOperand exp with
  | error e => exact ⟨fun key entry h => Or.inl h, by simp⟩
  | ok exp =>
    simp only [redisSet]
    cases hread : db.read r.record (redisJtiKey format jti) with
    | some value =>
      rw [Keyspace.setIfAbsent_of_some hread]
      refine ⟨fun key entry h => Or.inl h, fun _ => ?_⟩
      -- a key that is read is held
      by_contra hnone
      rw [not_exists, ← Option.eq_none_iff_forall_ne_some] at hnone
      rw [Keyspace.read_of_lookup_none hnone] at hread
      cases hread
    | none =>
      rw [Keyspace.setIfAbsent_of_none hread]
      refine ⟨?_, by simp⟩
      -- the key is written, and the others are as they were
      apply AList.forall_lookup_insert
      · intro key entry h
        exact Or.inl h
      · exact Or.inr ⟨rfl, rfl⟩

/-- **What a replay check can do to a cache** of either kind: it adds or changes no entry but that
of the `jti`, and that one only if it accepts; and it says replay only of an entry that is held. -/
theorem checkAndRecord_cases (jti exp : Json) (r : Readings) (s : ReplayCache) :
    (∀ key deadline, (s.checkAndRecord format jti exp r).1.held key = some deadline →
        s.held key = some deadline ∨
          (s.checkAndRecord format jti exp r).2 = .ok true ∧ key.IsFor format jti) ∧
      ((s.checkAndRecord format jti exp r).2 = .ok false →
        ∃ key deadline, key.IsFor format jti ∧ s.held key = some deadline) := by
  cases s with
  | memory s =>
    obtain ⟨hkept, hreplay⟩ := checkAndRecordJti_cases jti exp r s
    constructor
    · intro key deadline h
      cases key with
      | inRedis key => cases h
      | inMemory key =>
        obtain ⟨tracked, htracked, rfl⟩ := Option.map_eq_some_iff.mp h
        exact (hkept key tracked htracked).imp_left fun hold => by
          rw [ReplayCache.held, hold, Option.map_some]
    · intro h
      obtain ⟨key, tracked, hkey, hheld⟩ := hreplay h
      exact ⟨.inMemory key, some tracked, hkey, by rw [ReplayCache.held, hheld, Option.map_some]⟩
  | redis db =>
    obtain ⟨hkept, hreplay⟩ := checkAndRecordJtiRedis_cases format jti exp r db
    constructor
    · intro key deadline h
      cases key with
      | inMemory key => cases h
      | inRedis key =>
        obtain ⟨entry, hentry, rfl⟩ := Option.map_eq_some_iff.mp h
        exact (hkept key entry hentry).imp_left fun hold => by
          rw [ReplayCache.held, hold, Option.map_some]
    · intro h
      obtain ⟨entry, hheld⟩ := hreplay h
      exact ⟨.inRedis (redisJtiKey format jti), entry.deadline, rfl,
        by rw [ReplayCache.held, hheld, Option.map_some]⟩

/-! ## Runs -/

/-- A call on an authenticator, with or without Redis. -/
def cacheStep (s : ReplayCache) (c : TimedCall) : ReplayCache × Except AuthError Unit :=
  authenticate jwt tokenEndpoint (ReplayCache.checkAndRecord format) c.call c.readings s

/-- The run has accepted an assertion whose `jti` is recorded under the entry. -/
def AcceptedUnder (tr : List (TimedCall × Except AuthError Unit)) (key : CacheKey) : Prop :=
  ∃ a ∈ tr, a.2 = .ok () ∧
    ∃ jti exp, presented jwt tokenEndpoint a.1 = .ok (jti, exp) ∧ key.IsFor format jti

variable {jwt tokenEndpoint format}

/-- **What a call can do to the entries**: those it leaves were there before, with the same
deadline, or it is accepted and the entry is that of its `jti`. -/
theorem held_cacheStep {s : ReplayCache} {c : TimedCall} {key : CacheKey} {deadline : Option ℚ}
    (h : (cacheStep jwt tokenEndpoint format s c).1.held key = some deadline) :
    s.held key = some deadline ∨ (cacheStep jwt tokenEndpoint format s c).2 = .ok () ∧
      ∃ jti exp, presented jwt tokenEndpoint c = .ok (jti, exp) ∧ key.IsFor format jti := by
  rw [cacheStep, authenticate_eq] at h ⊢
  cases hpresented : presented jwt tokenEndpoint c with
  | error e =>
    rw [hpresented] at h
    exact Or.inl h
  | ok shown =>
    obtain ⟨jti, exp⟩ := shown
    rw [hpresented] at h
    have hcases := (checkAndRecord_cases format jti exp c.readings s).1 key deadline h
    refine hcases.imp_right ?_
    rintro ⟨haccepted, hkey⟩
    exact ⟨settle_eq_ok_iff.mpr haccepted, jti, exp, rfl, hkey⟩

/-- A call that is rejected as a replay finds the entry of its `jti`. -/
theorem held_of_replay {s : ReplayCache} {c : TimedCall}
    (h : (cacheStep jwt tokenEndpoint format s c).2 = .error (.jwtAuth .replay)) :
    ∃ jti exp key deadline, presented jwt tokenEndpoint c = .ok (jti, exp) ∧
      key.IsFor format jti ∧ s.held key = some deadline := by
  rw [cacheStep, authenticate_eq] at h
  cases hpresented : presented jwt tokenEndpoint c with
  | error e =>
    rw [hpresented] at h
    simp only [Except.error.injEq] at h
    rw [h] at hpresented
    exact absurd hpresented (presented_ne_replay jwt tokenEndpoint c)
  | ok shown =>
    obtain ⟨jti, exp⟩ := shown
    rw [hpresented] at h
    obtain ⟨key, deadline, hkey, hheld⟩ :=
      (checkAndRecord_cases format jti exp c.readings s).2 (settle_eq_replay_iff.mp h)
    exact ⟨jti, exp, key, deadline, rfl, hkey, hheld⟩

/-- **Every entry stems from an accepted call**, at the end of every run. -/
theorem acceptedUnder_of_held (withRedis : Bool) (createdAt : ℚ) (calls : List TimedCall) :
    ∀ key deadline,
      (Machine.final (cacheStep jwt tokenEndpoint format) (.init withRedis createdAt) calls).held
        key = some deadline →
      AcceptedUnder jwt tokenEndpoint format
        (Machine.trace (cacheStep jwt tokenEndpoint format) (.init withRedis createdAt) calls)
        key := by
  refine Machine.trace_invariant (cacheStep jwt tokenEndpoint format)
    (fun s tr => ∀ key deadline, s.held key = some deadline →
      AcceptedUnder jwt tokenEndpoint format tr key) ?_ ?_ calls
  · intro s tr c hinv key deadline h
    rcases held_cacheStep h with hold | ⟨hok, jti, exp, hpresented, hkey⟩
    · obtain ⟨a, ha, haccepted⟩ := hinv key deadline hold
      exact ⟨a, List.mem_append_left _ ha, haccepted⟩
    · exact ⟨(c, _), List.mem_append_right _ List.mem_cons_self, hok, jti, exp, hpresented, hkey⟩
  · intro key deadline h
    rw [ReplayCache.held_init] at h
    cases h

/-- **What only accepted assertions can do**, at a call `c` after a run with the trace `tr` that has
left the cache `s`. -/
structure RecordedByAcceptance (jwt : PyJWT κ) (tokenEndpoint : PyStr) (format : Json → PyStr)
    (s : ReplayCache) (tr : List (TimedCall × Except AuthError Unit)) (c : TimedCall) : Prop where
  /-- Every entry of the cache is that of an assertion accepted before. -/
  stems : ∀ key, s.held key ≠ none → AcceptedUnder jwt tokenEndpoint format tr key
  /-- A call that raises leaves no entry that was not there before, with the same deadline. -/
  rejected : ∀ e, (cacheStep jwt tokenEndpoint format s c).2 = .error e → ∀ key deadline,
    (cacheStep jwt tokenEndpoint format s c).1.held key = some deadline →
      s.held key = some deadline
  /-- A replay is one: an assertion with the same `jti` was accepted before, or one whose `jti` is
  not a string and is recorded under the same entry. -/
  replay : (cacheStep jwt tokenEndpoint format s c).2 = .error (.jwtAuth .replay) →
    ∃ jti exp, presented jwt tokenEndpoint c = .ok (jti, exp) ∧
      ∃ a ∈ tr, a.2 = .ok () ∧ ∃ jti' exp', presented jwt tokenEndpoint a.1 = .ok (jti', exp') ∧
        (∃ key : CacheKey, key.IsFor format jti ∧ key.IsFor format jti') ∧
        ∀ x y, jti = .str x → jti' = .str y → x = y

/-- **Rejected assertions never burn a `jti`**: for any library behind `decode`, any calls with any
assertions by any clients, and either cache. -/
theorem recorded_only_by_acceptance (jwt : PyJWT κ) (tokenEndpoint : PyStr)
    (format : Json → PyStr) (withRedis : Bool) (createdAt : ℚ) (calls : List TimedCall)
    (c : TimedCall) :
    RecordedByAcceptance jwt tokenEndpoint format
      (Machine.final (cacheStep jwt tokenEndpoint format) (.init withRedis createdAt) calls)
      (Machine.trace (cacheStep jwt tokenEndpoint format) (.init withRedis createdAt) calls) c := by
  have hstems : ∀ key deadline,
      (Machine.final (cacheStep jwt tokenEndpoint format) (.init withRedis createdAt) calls).held
        key = some deadline →
      AcceptedUnder jwt tokenEndpoint format
        (Machine.trace (cacheStep jwt tokenEndpoint format) (.init withRedis createdAt) calls)
        key := acceptedUnder_of_held withRedis createdAt calls
  refine ⟨?_, ?_, ?_⟩
  · intro key hheld
    obtain ⟨deadline, hdeadline⟩ := Option.ne_none_iff_exists'.mp hheld
    exact hstems key deadline hdeadline
  · intro e he key deadline h
    rcases held_cacheStep h with hold | ⟨hok, -⟩
    · exact hold
    · rw [he] at hok
      cases hok
  · intro h
    obtain ⟨jti, exp, key, deadline, hpresented, hkey, hheld⟩ := held_of_replay h
    obtain ⟨a, ha, hok, jti', exp', hpresented', hkey'⟩ := hstems key deadline hheld
    refine ⟨jti, exp, hpresented, a, ha, hok, jti', exp', hpresented', ⟨key, hkey, hkey'⟩, ?_⟩
    rintro x y rfl rfl
    exact CacheKey.IsFor.str_inj format hkey hkey'

end McpAuthflow.ClientAuth
