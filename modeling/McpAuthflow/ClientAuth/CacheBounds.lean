import McpAuthflow.ClientAuth.Recording

/-! # The replay cache is bounded

The expiry an entry is tracked under is the client's to choose, but it is capped at six minutes from
the recording; and a cleanup pass that is due is run before anything is recorded. So after a call
that reaches the replay check the last pass is less than a minute old (`lastCleanup_cleanup`), and
an entry was recorded after the last pass or survived it, with a tracked expiry that had not passed
(`TrackedInv`). An entry is therefore never older than seven minutes: **`replay_cache_bounded`**.
The TTL of a key in Redis is capped in the same way. -/

namespace McpAuthflow.ClientAuth

variable {κ : Type*} {jwt : PyJWT κ} {tokenEndpoint : PyStr}

/-! ## One call -/

/-- **A call on an authenticator without Redis**, by the entry it is about. -/
theorem memoryStep_eq (s : JtiCache) (c : TimedCall) :
    memoryStep jwt tokenEndpoint s c
      = match presented jwt tokenEndpoint c with
        | .error e => (s, .error e)
        | .ok (jti, exp) =>
          match memoryEntry jti exp c.readings with
          | none => (cleanupExpiredJtis c.readings.check s,
              .error (.jwtAuth (.verificationFailed .typeError)))
          | some (key, tracked) =>
            match (cleanupExpiredJtis c.readings.check s).usedJtis.lookup key with
            | some _ => (cleanupExpiredJtis c.readings.check s, .error (.jwtAuth .replay))
            | none =>
              ({ cleanupExpiredJtis c.readings.check s with
                  usedJtis :=
                    (cleanupExpiredJtis c.readings.check s).usedJtis.insert key tracked },
                .ok ()) := by
  rw [memoryStep, authenticate_eq]
  cases presented jwt tokenEndpoint c with
  | error e => rfl
  | ok shown =>
    obtain ⟨jti, exp⟩ := shown
    simp only [checkAndRecordJti_eq]
    cases memoryEntry jti exp c.readings with
    | none => rfl
    | some entry =>
      obtain ⟨key, tracked⟩ := entry
      simp only
      cases (cleanupExpiredJtis c.readings.check s).usedJtis.lookup key <;> rfl

/-- After a cleanup the last pass is less than a minute old. -/
theorem lastCleanup_cleanup (now : ℚ) (s : JtiCache) :
    now - (cleanupExpiredJtis now s).lastCleanup < jwtReplayCacheCleanupInterval := by
  unfold cleanupExpiredJtis
  split
  · assumption
  · norm_num [jwtReplayCacheCleanupInterval]

/-- No pass is later than the clock. -/
theorem lastCleanup_cleanup_le {now : ℚ} {s : JtiCache} (h : s.lastCleanup ≤ now) :
    (cleanupExpiredJtis now s).lastCleanup ≤ now := by
  unfold cleanupExpiredJtis
  split
  · exact h
  · exact le_rfl

/-- An entry that a cleanup leaves has not expired by the last pass, if it had not before. -/
theorem lastCleanup_cleanup_le_of_lookup {now : ℚ} {s : JtiCache} {key : Json.HashKey}
    {tracked bound : ℚ}
    (h : (cleanupExpiredJtis now s).usedJtis.lookup key = some tracked)
    (hbefore : s.lastCleanup ≤ max tracked bound) :
    (cleanupExpiredJtis now s).lastCleanup ≤ max tracked bound := by
  unfold cleanupExpiredJtis at h ⊢
  split
  · exact hbefore
  · next hdue =>
    rw [if_neg hdue, AList.lookup_filter, Option.filter_eq_some_iff] at h
    have hkept : ¬ tracked < now := by simpa using h.2
    exact le_max_of_le_left (not_lt.mp hkept)

/-! ## The invariant -/

/-- A call records an entry, if it is accepted. -/
def Records (jwt : PyJWT κ) (tokenEndpoint : PyStr) (c : TimedCall) (key : Json.HashKey)
    (tracked : ℚ) : Prop :=
  ∃ jti exp, presented jwt tokenEndpoint c = .ok (jti, exp) ∧
    memoryEntry jti exp c.readings = some (key, tracked)

/-- An entry that a call records is tracked for six minutes at most. -/
theorem Records.tracked_le {c : TimedCall} {key : Json.HashKey} {tracked : ℚ}
    (h : Records jwt tokenEndpoint c key tracked) :
    tracked ≤ c.readings.record + jwtReplayCacheMaxTtlSeconds := by
  obtain ⟨jti, exp, -, hentry⟩ := h
  exact (memoryEntry_eq_some hentry).2

/-- An entry stems from an accepted call of the run, and was recorded after the pass `lastCleanup`
or has outlived it. -/
def StemsFrom (jwt : PyJWT κ) (tokenEndpoint : PyStr)
    (tr : List (TimedCall × Except AuthError Unit)) (lastCleanup : ℚ) (key : Json.HashKey)
    (tracked : ℚ) : Prop :=
  ∃ a ∈ tr, a.2 = .ok () ∧ Records jwt tokenEndpoint a.1 key tracked ∧
    lastCleanup ≤ max tracked a.1.readings.record

/-- **The invariant** of the cache at the time `t`. -/
structure TrackedInv (jwt : PyJWT κ) (tokenEndpoint : PyStr) (t : ℚ) (s : JtiCache)
    (tr : List (TimedCall × Except AuthError Unit)) : Prop where
  lastCleanup_le : s.lastCleanup ≤ t
  stems : ∀ key tracked, s.usedJtis.lookup key = some tracked →
    StemsFrom jwt tokenEndpoint tr s.lastCleanup key tracked

/-- The run goes on. -/
theorem StemsFrom.append {tr : List (TimedCall × Except AuthError Unit)} {lastCleanup : ℚ}
    {key : Json.HashKey} {tracked : ℚ} (h : StemsFrom jwt tokenEndpoint tr lastCleanup key tracked)
    (more : List (TimedCall × Except AuthError Unit)) :
    StemsFrom jwt tokenEndpoint (tr ++ more) lastCleanup key tracked := by
  obtain ⟨a, ha, hrest⟩ := h
  exact ⟨a, List.mem_append_left _ ha, hrest⟩

/-- A cleanup keeps the invariant. -/
theorem TrackedInv.cleanup {t now : ℚ} {s : JtiCache}
    {tr : List (TimedCall × Except AuthError Unit)} (h : TrackedInv jwt tokenEndpoint t s tr)
    (ht : t ≤ now) : TrackedInv jwt tokenEndpoint now (cleanupExpiredJtis now s) tr := by
  constructor
  · exact lastCleanup_cleanup_le (le_trans h.lastCleanup_le ht)
  · intro key tracked hlookup
    obtain ⟨a, ha, hok, hrecords, hbefore⟩ :=
      h.stems key tracked (lookup_of_cleanupExpiredJtis hlookup)
    exact ⟨a, ha, hok, hrecords, lastCleanup_cleanup_le_of_lookup hlookup hbefore⟩

/-- Time passes and the run goes on. -/
theorem TrackedInv.extend {t later : ℚ} {s : JtiCache}
    {tr : List (TimedCall × Except AuthError Unit)} (h : TrackedInv jwt tokenEndpoint t s tr)
    (hle : t ≤ later) (more : List (TimedCall × Except AuthError Unit)) :
    TrackedInv jwt tokenEndpoint later s (tr ++ more) :=
  ⟨le_trans h.lastCleanup_le hle, fun key tracked hlookup => (h.stems key tracked hlookup).append _⟩

/-- **One call keeps the invariant.** -/
theorem TrackedInv.step {t : ℚ} {s : JtiCache} {tr : List (TimedCall × Except AuthError Unit)}
    {c : TimedCall} (h : TrackedInv jwt tokenEndpoint t s tr) (ht : t ≤ c.readings.verify) :
    TrackedInv jwt tokenEndpoint c.readings.record (memoryStep jwt tokenEndpoint s c).1
      (tr ++ [(c, (memoryStep jwt tokenEndpoint s c).2)]) := by
  have hverify := c.readings.verify_le_decode
  have hdecode := c.readings.decode_le_check
  have hrecord := c.readings.check_le_record
  have hcleaned : TrackedInv jwt tokenEndpoint c.readings.check
      (cleanupExpiredJtis c.readings.check s) tr := h.cleanup (by linarith)
  rw [memoryStep_eq]
  cases hpresented : presented jwt tokenEndpoint c with
  | error e => exact h.extend (by linarith) _
  | ok shown =>
    obtain ⟨jti, exp⟩ := shown
    simp only
    cases hentry : memoryEntry jti exp c.readings with
    | none => exact hcleaned.extend hrecord _
    | some entry =>
      obtain ⟨key, tracked⟩ := entry
      simp only
      cases (cleanupExpiredJtis c.readings.check s).usedJtis.lookup key with
      | some old => exact hcleaned.extend hrecord _
      | none =>
        refine ⟨le_trans hcleaned.lastCleanup_le hrecord, ?_⟩
        apply AList.forall_lookup_insert
        · intro key' tracked' hlookup
          exact (hcleaned.stems key' tracked' hlookup).append _
        · -- the new entry is recorded after the last pass
          exact ⟨(c, .ok ()), List.mem_append_right _ List.mem_cons_self, rfl,
            ⟨jti, exp, hpresented, hentry⟩,
            le_max_of_le_right (le_trans hcleaned.lastCleanup_le hrecord)⟩

/-- The invariant holds at the start. -/
theorem trackedInv_init (createdAt : ℚ) :
    TrackedInv jwt tokenEndpoint createdAt (.init createdAt) [] :=
  ⟨le_rfl, by intro key tracked hlookup; cases hlookup⟩

/-- **The invariant holds in every run.** -/
theorem trackedInv_of_run {createdAt : ℚ} {calls : List TimedCall}
    (hclock : Machine.Nondecreasing (fun c : TimedCall => c.readings.verify)
      (fun c => c.readings.record) createdAt calls) :
    TrackedInv jwt tokenEndpoint
      (Machine.lastReading (fun c : TimedCall => c.readings.record) createdAt calls)
      (Machine.final (memoryStep jwt tokenEndpoint) (.init createdAt) calls)
      (Machine.trace (memoryStep jwt tokenEndpoint) (.init createdAt) calls) := by
  exact Machine.timed_invariant (memoryStep jwt tokenEndpoint) _ _ (TrackedInv jwt tokenEndpoint)
    (fun t s tr c h ht => h.step ht) (trackedInv_init createdAt) hclock

/-! ## Bounds -/

/-- **The entries are bounded**: each was recorded by an accepted call less than seven minutes
before `now`, and is tracked for at most six minutes from then. -/
def BoundedEntries (jwt : PyJWT κ) (tokenEndpoint : PyStr) (now : ℚ) (s : JtiCache)
    (tr : List (TimedCall × Except AuthError Unit)) : Prop :=
  ∀ key tracked, s.usedJtis.lookup key = some tracked →
    ∃ a ∈ tr, a.2 = .ok () ∧ Records jwt tokenEndpoint a.1 key tracked ∧
      now - (jwtReplayCacheMaxTtlSeconds + jwtReplayCacheCleanupInterval) < a.1.readings.record ∧
      tracked ≤ a.1.readings.record + jwtReplayCacheMaxTtlSeconds

/-- **The TTL of a key is legal**, and capped. -/
def LegalTtl (ttlMs : ℤ) : Prop :=
  1000 * jwtMaxClockSkewSeconds ≤ ttlMs ∧ ttlMs ≤ 1000 * jwtReplayCacheMaxTtlSeconds

/-- The TTL is clamped between the skew and the cap before it is rounded up. -/
theorem legalTtl_redisTtlMs (exp now : ℚ) : LegalTtl (redisTtlMs exp now) := by
  have hleft : 0 ≤ max 0 (exp - now) := le_max_left _ _
  have hcap : jwtReplayCacheMaxTtlSeconds = 360 := by
    norm_num [jwtReplayCacheMaxTtlSeconds, jwtMaxLifetimeSeconds, jwtMaxClockSkewSeconds]
  rw [LegalTtl, hcap, jwtMaxClockSkewSeconds, redisTtlMs, hcap, jwtMaxClockSkewSeconds]
  set ttl := min (max 0 (exp - now) + 60) 360 with httl
  have hmin : 60 ≤ ttl := le_min (by linarith) (by norm_num)
  have hmax : ttl ≤ 360 := min_le_right _ _
  constructor
  · have hceil : ttl * 1000 ≤ (⌈ttl * 1000⌉ : ℚ) := Int.le_ceil _
    linarith
  · have hceil : ⌈ttl * 1000⌉ ≤ (360000 : ℤ) := Int.ceil_le.mpr (by push_cast; linarith)
    have hcast : ((⌈ttl * 1000⌉ : ℤ) : ℚ) ≤ ((360000 : ℤ) : ℚ) := Int.cast_le.mpr hceil
    norm_num at hcast ⊢
    exact hcast

/-- **What the replay check sends to Redis** is nothing, or one `SET` with a legal TTL. -/
def LegalSets : Prop :=
  ∀ (format : Json → PyStr) (jti exp : Json) (r : Readings) (db : RedisJtis),
    (∃ e, checkAndRecordJtiRedis format jti exp r db = (db, .error e)) ∨
      ∃ ttlMs, LegalTtl ttlMs ∧
        checkAndRecordJtiRedis format jti exp r db
          = ((redisSet db r.record (redisJtiKey format jti) ttlMs).2,
              .ok (redisSet db r.record (redisJtiKey format jti) ttlMs).1)

theorem legalSets : LegalSets := by
  intro format jti exp r db
  unfold checkAndRecordJtiRedis
  cases floatOperand exp with
  | error e => exact Or.inl ⟨e, rfl⟩
  | ok exp => exact Or.inr ⟨redisTtlMs exp r.check, legalTtl_redisTtlMs exp r.check, rfl⟩

/-- After a call that reaches the replay check, the last pass is less than a minute old. -/
theorem lastCleanup_memoryStep {c : TimedCall} {jti exp : Json}
    (hreached : presented jwt tokenEndpoint c = .ok (jti, exp)) (s : JtiCache) :
    c.readings.check - (memoryStep jwt tokenEndpoint s c).1.lastCleanup
      < jwtReplayCacheCleanupInterval := by
  have hcleaned := lastCleanup_cleanup c.readings.check s
  rw [memoryStep_eq, hreached]
  simp only
  cases memoryEntry jti exp c.readings with
  | none => exact hcleaned
  | some entry =>
    obtain ⟨key, tracked⟩ := entry
    simp only
    cases (cleanupExpiredJtis c.readings.check s).usedJtis.lookup key <;> exact hcleaned

/-- The invariant bounds the entries, as long as the last pass is less than a minute old. -/
theorem TrackedInv.boundedEntries {t now : ℚ} {s : JtiCache}
    {tr : List (TimedCall × Except AuthError Unit)} (h : TrackedInv jwt tokenEndpoint t s tr)
    (hlast : now - s.lastCleanup < jwtReplayCacheCleanupInterval) :
    BoundedEntries jwt tokenEndpoint now s tr := by
  intro key tracked hlookup
  obtain ⟨a, ha, hok, hrecords, hbefore⟩ := h.stems key tracked hlookup
  have htracked := hrecords.tracked_le
  have hmax : max tracked a.1.readings.record
      ≤ a.1.readings.record + jwtReplayCacheMaxTtlSeconds := by
    apply max_le htracked
    norm_num [jwtReplayCacheMaxTtlSeconds, jwtMaxLifetimeSeconds, jwtMaxClockSkewSeconds]
  exact ⟨a, ha, hok, hrecords, by linarith, htracked⟩

/-- **The replay cache cannot be pinned by the `exp` of an assertion**: in every run at
nondecreasing clock readings, of any calls with any assertions, the entries are bounded after each
call that reaches the replay check; and every `SET` a replay check sends to Redis has a legal
TTL. -/
theorem replay_cache_bounded (jwt : PyJWT κ) (tokenEndpoint : PyStr) (createdAt : ℚ)
    (calls : List TimedCall) (c : TimedCall)
    (hclock : Machine.Nondecreasing (fun c : TimedCall => c.readings.verify)
      (fun c => c.readings.record) createdAt (calls ++ [c]))
    (hreached : ∃ jti exp, presented jwt tokenEndpoint c = .ok (jti, exp)) :
    BoundedEntries jwt tokenEndpoint c.readings.check
        (Machine.final (memoryStep jwt tokenEndpoint) (.init createdAt) (calls ++ [c]))
        (Machine.trace (memoryStep jwt tokenEndpoint) (.init createdAt) (calls ++ [c])) ∧
      LegalSets := by
  refine ⟨?_, legalSets⟩
  apply (trackedInv_of_run hclock).boundedEntries
  obtain ⟨jti, exp, hpresented⟩ := hreached
  rw [Machine.final_append, Machine.final_cons, Machine.final_nil]
  exact lastCleanup_memoryStep hpresented _

/-- An assertion issued at second 0 that claims to be valid for a billion seconds. -/
def pinningJwt : PyJWT Unit := claimsJwt fun _ => sampleClaims 0 1000000000

/-- Every presentation of it in its first six minutes reaches the replay check. -/
theorem presented_presentation {iat exp t : ℚ} (hfits : FitsFloat iat) (hiat : iat ≤ t + 60)
    (hage : t - iat ≤ 360) (hexp : t - 60 < exp) :
    presented (claimsJwt fun _ => sampleClaims iat exp) (PyStr.ofString "token") (presentation t)
      = .ok (.str (PyStr.ofString "j"), .num exp) := by
  have hverified : verified (claimsJwt fun _ => sampleClaims iat exp) (PyStr.ofString "token")
      (presentation t).call (presentation t).readings.verify (presentation t).readings.decode
      = .ok (sampleClaims iat exp) := verified_sampleCall hfits hiat hage hexp
  rw [presented, hverified]
  simp only [lookup_jti_sampleClaims, lookup_exp_sampleClaims, Option.getD_some]

theorem replay_cache_bounded_pinning :
    BoundedEntries pinningJwt (PyStr.ofString "token") 300
        (Machine.final (memoryStep pinningJwt (PyStr.ofString "token")) (.init 0)
          ([presentation 10] ++ [presentation 300]))
        (Machine.trace (memoryStep pinningJwt (PyStr.ofString "token")) (.init 0)
          ([presentation 10] ++ [presentation 300])) ∧
      LegalSets := by
  refine replay_cache_bounded pinningJwt (PyStr.ofString "token") 0 [presentation 10]
    (presentation 300) ?_ ⟨.str (PyStr.ofString "j"), .num 1000000000, ?_⟩
  · norm_num [Machine.Nondecreasing, presentation, Readings.constant]
  · exact presented_presentation fitsFloat_zero (by norm_num) (by norm_num) (by norm_num)

end McpAuthflow.ClientAuth
