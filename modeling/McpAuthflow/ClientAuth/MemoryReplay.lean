import McpAuthflow.ClientAuth.Verification
import McpAuthflow.Foundations.Machine

/-! # Replay protection without Redis

Every accepted assertion leaves its `jti` in the cache, tracked until
`min(exp, recording time + 360)`. PyJWT accepts the assertion a minute longer, until `exp + 60`; a
cleanup pass in that gap drops an entry that is still needed. As long as no pass does that
(`SoundCleanup`), no assertion is ever accepted twice: **`no_replay_of_soundCleanup`**. The
invariant (`ReplayInv`): an accepted assertion is held by the cache, or out of its time window. -/

namespace McpAuthflow.ClientAuth

variable {κ : Type*} {jwt : PyJWT κ} {claims : PyStr → JsonObject}
  {verifies : κ → PyStr → PyStr → ℚ → Prop} {tokenEndpoint : PyStr}

/-! ## Runs -/

/-- A call of `authenticate` with the times at which it reads the clock. -/
structure TimedCall where
  call : AuthCall
  readings : Readings

/-- The assertion a call presents. -/
def TimedCall.assertion (c : TimedCall) : PyStr := c.call.clientAssertion

/-- A call on an authenticator without Redis. -/
def memoryStep (jwt : PyJWT κ) (tokenEndpoint : PyStr) (s : JtiCache) (c : TimedCall) :
    JtiCache × Except AuthError Unit :=
  authenticate jwt tokenEndpoint checkAndRecordJti c.call c.readings s

/-- A call raises `JWTAuthError`, or what the JWKS provider raised. -/
def Rejected (call : AuthCall) (result : Except AuthError Unit) : Prop :=
  (∃ e, result = .error (.jwtAuth e)) ∨
    ∃ text, call.provided = .error text ∧ result = .error (.provider text)

/-- **No assertion is accepted twice**: once accepted, it is rejected at every later call. -/
def NoReplay (tr : List (TimedCall × Except AuthError Unit)) : Prop :=
  tr.Pairwise fun earlier later => earlier.2 = .ok () →
    later.1.assertion = earlier.1.assertion → Rejected later.1.call later.2

/-- **The condition on a call**: if it runs a cleanup pass, the pass drops no entry of an assertion
that was accepted before and would still be in its window. -/
def SoundCleanup (jwt : PyJWT κ) (claims : PyStr → JsonObject) (tokenEndpoint : PyStr)
    (s : JtiCache) (tr : List (TimedCall × Except AuthError Unit)) (c : TimedCall) : Prop :=
  (∃ payload, verified jwt tokenEndpoint c.call c.readings.verify c.readings.decode
    = .ok payload) →
  jwtReplayCacheCleanupInterval ≤ c.readings.check - s.lastCleanup →
  ∀ a ∈ tr, a.2 = .ok () → ∀ key tracked,
    (Json.member (claims a.1.assertion) "jti").hashKey = some key →
    s.usedJtis.lookup key = some tracked → tracked < c.readings.check →
    ¬ InWindow (claims a.1.assertion) c.readings

/-! ## One call -/

/-- What a cleanup does to an entry: it stays, or a pass is due and the entry is past its time. -/
theorem lookup_cleanupExpiredJtis {s : JtiCache} {key : Json.HashKey} {tracked : ℚ}
    (h : s.usedJtis.lookup key = some tracked) (now : ℚ) :
    (cleanupExpiredJtis now s).usedJtis.lookup key = some tracked ∨
      (jwtReplayCacheCleanupInterval ≤ now - s.lastCleanup ∧ tracked < now) := by
  unfold cleanupExpiredJtis
  by_cases hdue : now - s.lastCleanup < jwtReplayCacheCleanupInterval
  · rw [if_pos hdue]
    exact Or.inl h
  · rw [if_neg hdue, AList.lookup_filter, h]
    by_cases hpast : tracked < now
    · exact Or.inr ⟨not_lt.mp hdue, hpast⟩
    · exact Or.inl (by simp [Option.filter, hpast])

/-- **What a call can do**: stop before the replay check and leave the cache alone; reach it, run
the cleanup and reject; or record a `jti` that the cleaned cache does not hold, and accept. -/
theorem memoryStep_cases (h : jwt.Documented claims verifies) (tokenEndpoint : PyStr)
    (s : JtiCache) (c : TimedCall) :
    (∃ e, memoryStep jwt tokenEndpoint s c = (s, .error e)) ∨
    ((∃ payload, verified jwt tokenEndpoint c.call c.readings.verify c.readings.decode
        = .ok payload) ∧
      ((∃ e, memoryStep jwt tokenEndpoint s c
          = (cleanupExpiredJtis c.readings.check s, .error e)) ∨
        ∃ key exp, (Json.member (claims c.assertion) "jti").hashKey = some key ∧
          (cleanupExpiredJtis c.readings.check s).usedJtis.lookup key = none ∧
          InWindow (claims c.assertion) c.readings ∧
          memoryStep jwt tokenEndpoint s c
            = ({ cleanupExpiredJtis c.readings.check s with
                  usedJtis := (cleanupExpiredJtis c.readings.check s).usedJtis.insert key
                    (min exp (c.readings.record + jwtReplayCacheMaxTtlSeconds)) }, .ok ()))) := by
  unfold memoryStep authenticate
  cases hverified : verified jwt tokenEndpoint c.call c.readings.verify c.readings.decode with
  | error e => exact Or.inl ⟨e, rfl⟩
  | ok payload =>
    refine Or.inr ⟨⟨payload, rfl⟩, ?_⟩
    obtain ⟨rfl, haccepted, ⟨iat, hiat, -, -, hage⟩, hexpires⟩ := verified_sound h hverified
    -- PyJWT requires `jti` and `exp`, so neither is missing
    have hjti := Json.lookup_of_member_ne_null (haccepted.present "jti" (by simp [requiredClaims]))
    have hexp := Json.lookup_of_member_ne_null (haccepted.present "exp" (by simp [requiredClaims]))
    simp only [recordJti, hjti, hexp, Option.getD_some, checkAndRecordJti]
    cases hnum : (Json.member (claims c.call.clientAssertion) "exp").num? with
    | none => exact Or.inl ⟨_, rfl⟩
    | some exp =>
      cases hkey : (Json.member (claims c.call.clientAssertion) "jti").hashKey with
      | none => exact Or.inl ⟨_, rfl⟩
      | some key =>
        cases hheld : (cleanupExpiredJtis c.readings.check s).usedJtis.lookup key with
        | some tracked => exact Or.inl ⟨.jwtAuth .replay, by simp only [hheld]⟩
        | none =>
          refine Or.inr ⟨key, exp, hkey, hheld, ⟨exp, iat, hnum, hiat, hexpires exp hnum, hage⟩, ?_⟩
          simp only [hheld]

/-- A call that does not accept rejects. -/
theorem rejected_of_memoryStep_error {s : JtiCache} {c : TimedCall} {e : AuthError}
    (h : (memoryStep jwt tokenEndpoint s c).2 = .error e) : Rejected c.call (.error e) := by
  cases e with
  | jwtAuth e => exact Or.inl ⟨e, rfl⟩
  | provider text => exact Or.inr ⟨text, provided_of_authenticate_error h, rfl⟩

/-! ## The invariant -/

/-- From `t` on the assertion is out of its window. -/
def OutOfWindow (payload : JsonObject) (t : ℚ) : Prop :=
  ∀ r : Readings, t ≤ r.verify → ¬ InWindow payload r

/-- Out of the window once, out of it for good. -/
theorem outOfWindow_of_not_inWindow {payload : JsonObject} {r : Readings}
    (h : ¬ InWindow payload r) : OutOfWindow payload r.record := by
  rintro r' hle ⟨exp, iat, hexp, hiat, hexpires, hage⟩
  have hverify := r.verify_le_decode
  have hdecode := r.decode_le_check
  have hcheck := r.check_le_record
  have hlater := r'.verify_le_decode
  refine h ⟨exp, iat, hexp, hiat, ?_, ?_⟩
  · linarith
  · linarith

/-- An accepted assertion cannot be accepted again: its `jti` is held, or it is out of its
window. -/
def Guarded (payload : JsonObject) (s : JtiCache) (out : Prop) : Prop :=
  ∃ key, (Json.member payload "jti").hashKey = some key ∧
    ((∃ tracked, s.usedJtis.lookup key = some tracked) ∨ out)

/-- A guard holds on, if the cache keeps its entries and the window stays closed. -/
theorem Guarded.mono {payload : JsonObject} {s s' : JtiCache} {out out' : Prop}
    (h : Guarded payload s out)
    (hheld : ∀ key, (∃ tracked, s.usedJtis.lookup key = some tracked) →
      ∃ tracked, s'.usedJtis.lookup key = some tracked)
    (hout : out → out') : Guarded payload s' out' := by
  obtain ⟨key, hkey, hguard⟩ := h
  exact ⟨key, hkey, hguard.imp (hheld key) hout⟩

/-- **The invariant**: no assertion was accepted twice, and none that was accepted can be. -/
structure ReplayInv (claims : PyStr → JsonObject) (t : ℚ) (s : JtiCache)
    (tr : List (TimedCall × Except AuthError Unit)) : Prop where
  noReplay : NoReplay tr
  guarded : ∀ a ∈ tr, a.2 = .ok () →
    Guarded (claims a.1.assertion) s (OutOfWindow (claims a.1.assertion) t)

/-- A rejected call extends the run. -/
theorem NoReplay.concat_rejected {tr : List (TimedCall × Except AuthError Unit)} (h : NoReplay tr)
    {c : TimedCall} {result : Except AuthError Unit} (hrejected : Rejected c.call result) :
    NoReplay (tr ++ [(c, result)]) := by
  rw [NoReplay, List.pairwise_append]
  refine ⟨h, List.pairwise_singleton _ _, ?_⟩
  intro a _ b hb _ _
  rw [List.mem_singleton.mp hb]
  exact hrejected

/-- An accepted call extends the run, if its assertion was not accepted before. -/
theorem NoReplay.concat_new {tr : List (TimedCall × Except AuthError Unit)} (h : NoReplay tr)
    {c : TimedCall} (hnew : ∀ a ∈ tr, a.2 = .ok () → c.assertion ≠ a.1.assertion) :
    NoReplay (tr ++ [(c, .ok ())]) := by
  rw [NoReplay, List.pairwise_append]
  refine ⟨h, List.pairwise_singleton _ _, ?_⟩
  intro a ha b hb hok heq
  rw [List.mem_singleton.mp hb] at heq
  exact absurd heq (hnew a ha hok)

/-- What holds of the accepted calls of a run holds still after a rejected one. -/
theorem forall_accepted_concat_error {tr : List (TimedCall × Except AuthError Unit)}
    {P : TimedCall × Except AuthError Unit → Prop} (h : ∀ a ∈ tr, a.2 = .ok () → P a)
    (c : TimedCall) (e : AuthError) : ∀ a ∈ tr ++ [(c, .error e)], a.2 = .ok () → P a := by
  intro a ha hok
  rcases List.mem_append.mp ha with ha | ha
  · exact h a ha hok
  · rw [List.mem_singleton.mp ha] at hok
    cases hok

/-- Recording a `jti` keeps the others. -/
theorem held_insert {s : JtiCache} {key : Json.HashKey} (tracked : ℚ) :
    ∀ key', (∃ tracked', s.usedJtis.lookup key' = some tracked') →
      ∃ tracked', (s.usedJtis.insert key tracked).lookup key' = some tracked' := by
  rintro key' ⟨tracked', hheld⟩
  by_cases hsame : key' = key
  · rw [hsame]
    exact ⟨tracked, AList.lookup_insert _⟩
  · exact ⟨tracked', by rw [AList.lookup_insert_ne hsame, hheld]⟩

/-- A sound cleanup guards the accepted assertions, as far as this call is concerned. -/
theorem guarded_cleanup {t : ℚ} {s : JtiCache} {tr : List (TimedCall × Except AuthError Unit)}
    {c : TimedCall} (hinv : ReplayInv claims t s tr) (ht : t ≤ c.readings.verify)
    (hsound : SoundCleanup jwt claims tokenEndpoint s tr c)
    (hverified : ∃ payload, verified jwt tokenEndpoint c.call c.readings.verify c.readings.decode
      = .ok payload)
    {a : TimedCall × Except AuthError Unit} (ha : a ∈ tr) (hok : a.2 = .ok ()) :
    Guarded (claims a.1.assertion) (cleanupExpiredJtis c.readings.check s)
      (¬ InWindow (claims a.1.assertion) c.readings) := by
  obtain ⟨key, hkey, ⟨tracked, htracked⟩ | hout⟩ := hinv.guarded a ha hok
  · refine ⟨key, hkey, ?_⟩
    rcases lookup_cleanupExpiredJtis htracked c.readings.check with hkept | ⟨hdue, hpast⟩
    · exact Or.inl ⟨tracked, hkept⟩
    · exact Or.inr (hsound hverified hdue a ha hok key tracked hkey htracked hpast)
  · exact ⟨key, hkey, Or.inr (hout c.readings ht)⟩

/-- **One call keeps the invariant.** -/
theorem ReplayInv.step (h : jwt.Documented claims verifies) {t : ℚ} {s : JtiCache}
    {tr : List (TimedCall × Except AuthError Unit)} {c : TimedCall}
    (hinv : ReplayInv claims t s tr) (ht : t ≤ c.readings.verify)
    (hsound : SoundCleanup jwt claims tokenEndpoint s tr c) :
    ReplayInv claims c.readings.record (memoryStep jwt tokenEndpoint s c).1
      (tr ++ [(c, (memoryStep jwt tokenEndpoint s c).2)]) := by
  have hverify := c.readings.verify_le_decode
  have hdecode := c.readings.decode_le_check
  have hcheck := c.readings.check_le_record
  rcases memoryStep_cases h tokenEndpoint s c with ⟨e, hstep⟩ | ⟨hverified, hreached⟩
  · -- the cache is as it was, and time has passed
    have hrejected := rejected_of_memoryStep_error (congrArg Prod.snd hstep)
    rw [hstep]
    refine ⟨hinv.noReplay.concat_rejected hrejected, forall_accepted_concat_error ?_ c e⟩
    intro a ha hok
    exact (hinv.guarded a ha hok).mono (fun _ hheld => hheld) fun hout r hle =>
      hout r (by linarith)
  · have hguarded : ∀ a ∈ tr, a.2 = .ok () →
        Guarded (claims a.1.assertion) (cleanupExpiredJtis c.readings.check s)
          (¬ InWindow (claims a.1.assertion) c.readings) :=
      fun a ha hok => guarded_cleanup hinv ht hsound hverified ha hok
    rcases hreached with ⟨e, hstep⟩ | ⟨key, exp, hkey, hfree, hwindow, hstep⟩
    · -- the cache has been cleaned, and nothing recorded
      have hrejected := rejected_of_memoryStep_error (congrArg Prod.snd hstep)
      rw [hstep]
      refine ⟨hinv.noReplay.concat_rejected hrejected, forall_accepted_concat_error ?_ c e⟩
      intro a ha hok
      exact (hguarded a ha hok).mono (fun _ hheld => hheld) outOfWindow_of_not_inWindow
    · rw [hstep]
      refine ⟨hinv.noReplay.concat_new ?_, ?_⟩
      · -- a second presentation would find its `jti`, or be out of its window
        intro a ha hok heq
        obtain ⟨key', hkey', ⟨tracked, hheld⟩ | hout⟩ := hguarded a ha hok
        · rw [← heq, hkey, Option.some_inj] at hkey'
          rw [← hkey', hfree] at hheld
          cases hheld
        · rw [← heq] at hout
          exact hout hwindow
      · intro a ha hok
        rcases List.mem_append.mp ha with ha | ha
        · exact (hguarded a ha hok).mono (held_insert _) outOfWindow_of_not_inWindow
        · rw [List.mem_singleton.mp ha]
          exact ⟨key, hkey, Or.inl ⟨_, AList.lookup_insert _⟩⟩

/-! ## Runs of any length -/

/-- **No assertion is accepted twice** in a run whose cleanup passes are all sound: for any calls
with any assertions, on one authenticator without Redis, at nondecreasing clock readings. -/
theorem no_replay_of_soundCleanup (h : jwt.Documented claims verifies) (tokenEndpoint : PyStr)
    (createdAt : ℚ) (calls : List TimedCall)
    (hclock : Machine.Nondecreasing (fun c : TimedCall => c.readings.verify)
      (fun c => c.readings.record) createdAt calls)
    (hsound : Machine.AllSteps (memoryStep jwt tokenEndpoint)
      (SoundCleanup jwt claims tokenEndpoint) (JtiCache.init createdAt) calls) :
    NoReplay (Machine.trace (memoryStep jwt tokenEndpoint) (JtiCache.init createdAt) calls) := by
  have hinit : ReplayInv claims createdAt (JtiCache.init createdAt) [] :=
    ⟨List.Pairwise.nil, by simp⟩
  have hrun := Machine.trace_induction (memoryStep jwt tokenEndpoint)
    (fun c : TimedCall => c.readings.verify) (fun c => c.readings.record) (ReplayInv claims)
    (fun t s tr c hinv ht hG => hinv.step h ht hG) hinit hclock hsound
  exact hrun.noReplay

/-! ## Two presentations -/

/-- A presentation of the sample assertion. -/
def presentation (t : ℚ) : TimedCall := ⟨sampleCall [.obj sampleKey], Readings.constant t⟩

/-- What a presentation within the window does: it is accepted iff the cleaned cache does not hold
the `jti`. -/
theorem memoryStep_presentation {iat exp t : ℚ} (hfits : FitsFloat iat) (hiat : iat ≤ t + 60)
    (hage : t - iat ≤ 360) (hexp : t - 60 < exp) (s : JtiCache) :
    memoryStep (claimsJwt fun _ => sampleClaims iat exp) (PyStr.ofString "token") s (presentation t)
      = match (cleanupExpiredJtis t s).usedJtis.lookup (.str (PyStr.ofString "j")) with
        | some _ => (cleanupExpiredJtis t s, .error (.jwtAuth .replay))
        | none =>
          ({ cleanupExpiredJtis t s with
              usedJtis := (cleanupExpiredJtis t s).usedJtis.insert (.str (PyStr.ofString "j"))
                (min exp (t + jwtReplayCacheMaxTtlSeconds)) }, .ok ()) := by
  have hverified : verified (claimsJwt fun _ => sampleClaims iat exp) (PyStr.ofString "token")
      (presentation t).call (presentation t).readings.verify (presentation t).readings.decode
      = .ok (sampleClaims iat exp) := verified_sampleCall hfits hiat hage hexp
  have hcheck : (presentation t).readings.check = t := rfl
  have hrecord : (presentation t).readings.record = t := rfl
  simp only [memoryStep, authenticate, hverified, recordJti, lookup_jti_sampleClaims,
    lookup_exp_sampleClaims, Option.getD_some, checkAndRecordJti, Json.num?, Json.hashKey, hcheck,
    hrecord]
  cases (cleanupExpiredJtis t s).usedJtis.lookup (.str (PyStr.ofString "j")) <;> rfl

/-- The library on an assertion issued at second 0 that expires at second 30. -/
def shortLivedJwt : PyJWT Unit := claimsJwt fun _ => sampleClaims 0 30

theorem documented_shortLivedJwt :
    shortLivedJwt.Documented (fun _ => sampleClaims 0 30) fun _ _ _ _ => True :=
  documented_claimsJwt _

/-- The first presentation, at second 10 of an authenticator created at second 0. -/
theorem memoryStep_first :
    memoryStep shortLivedJwt (PyStr.ofString "token") (JtiCache.init 0) (presentation 10)
      = (⟨AList.insert (.str (PyStr.ofString "j")) 30 ∅, 0⟩, .ok ()) := by
  have hclean : cleanupExpiredJtis 10 (JtiCache.init 0) = JtiCache.init 0 :=
    if_pos (by norm_num [JtiCache.init, jwtReplayCacheCleanupInterval])
  have hmin : min (30 : ℚ) (10 + jwtReplayCacheMaxTtlSeconds) = 30 :=
    min_eq_left (by norm_num [jwtReplayCacheMaxTtlSeconds, jwtMaxLifetimeSeconds,
      jwtMaxClockSkewSeconds])
  rw [shortLivedJwt,
    memoryStep_presentation fitsFloat_zero (by norm_num) (by norm_num) (by norm_num), hclean, hmin]
  rfl

/-- Two assertions with one `jti`: for half a minute from second 0, and from second 80 on. -/
def twoClaims (assertion : PyStr) : JsonObject :=
  if assertion = PyStr.ofString "late" then sampleClaims 80 300 else sampleClaims 0 30

/-- A presentation of the later one. -/
def latePresentation (t : ℚ) : TimedCall :=
  ⟨{ sampleCall [.obj sampleKey] with clientAssertion := PyStr.ofString "late" },
    Readings.constant t⟩

/-- The presentation at second 100 runs a cleanup pass, which drops the entry of the assertion that
has expired; that at second 110 runs none, and is rejected. -/
theorem no_replay_of_soundCleanup_twoClaims :
    NoReplay (Machine.trace (memoryStep (claimsJwt twoClaims) (PyStr.ofString "token"))
      (JtiCache.init 0) [presentation 10, latePresentation 100, latePresentation 110]) := by
  refine no_replay_of_soundCleanup (documented_claimsJwt twoClaims) _ 0 _ ?_ ⟨?_, ?_, ?_, trivial⟩
  · norm_num [Machine.Nondecreasing, presentation, latePresentation, Readings.constant]
  · intro _ _ a ha
    simp at ha
  · -- at second 100 the first assertion is out of its window
    intro _ _ a ha _ key tracked _ _ _ hwindow
    rw [List.mem_singleton.mp ha] at hwindow
    exact absurd hwindow (by decide +kernel)
  · intro _ hdue
    exact absurd hdue (by decide +kernel)

/-- **Accepted twice**: at second 70 the entry, tracked until second 30, has just been dropped, and
PyJWT accepts the assertion until second 90. -/
theorem replay_after_cleanup :
    shortLivedJwt.Documented (fun _ => sampleClaims 0 30) (fun _ _ _ _ => True) ∧
    Machine.Nondecreasing (fun c : TimedCall => c.readings.verify) (fun c => c.readings.record) 0
      [presentation 10, presentation 70] ∧
    ¬ NoReplay (Machine.trace (memoryStep shortLivedJwt (PyStr.ofString "token"))
      (JtiCache.init 0) [presentation 10, presentation 70]) := by
  refine ⟨documented_shortLivedJwt,
    by norm_num [Machine.Nondecreasing, presentation, Readings.constant], ?_⟩
  intro h
  have hdropped : (cleanupExpiredJtis 70
      ⟨AList.insert (.str (PyStr.ofString "j")) 30 ∅, 0⟩).usedJtis.lookup
        (.str (PyStr.ofString "j")) = none := by
    rw [cleanupExpiredJtis, if_neg (by norm_num [jwtReplayCacheCleanupInterval]),
      AList.lookup_filter, AList.lookup_insert]
    norm_num [Option.filter]
  have hagain : (memoryStep shortLivedJwt (PyStr.ofString "token")
      ⟨AList.insert (.str (PyStr.ofString "j")) 30 ∅, 0⟩ (presentation 70)).2 = .ok () := by
    rw [shortLivedJwt,
      memoryStep_presentation fitsFloat_zero (by norm_num) (by norm_num) (by norm_num), hdropped]
  rw [Machine.trace_cons, Machine.trace_cons, memoryStep_first, NoReplay, List.pairwise_cons] at h
  rcases h.1 _ (List.mem_cons_self ..) rfl rfl with ⟨e, he⟩ | ⟨text, -, htext⟩
  · rw [hagain] at he
    cases he
  · rw [hagain] at htext
    cases htext

end McpAuthflow.ClientAuth
