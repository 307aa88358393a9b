import McpAuthflow.ClientAuth.Threads

/-! # Calls in several threads as a sequence of atomic operations

A call of `_check_and_record_jti` is a cleanup followed by a look-up that records
(`checkAndRecordJti_eq_atomic`). In several threads each of the two takes effect at one moment: the
cleanup where its look at `_last_cleanup` decides, the look-up where it finds the `jti` or records
it (`JtiStage.commits`). **`replay_checks_atomic`**: whatever the interleaving, the cache is the one
these operations lead to when they are carried out one after the other with nothing in between, and
the calls have their results; while a cleanup is under way, the cache counts as cleaned up
(`settled`). -/

namespace McpAuthflow.ClientAuth

open Threads

/-! ## The atomic operations -/

/-- The two parts of a call. -/
inductive AtomicOp where
  | cleanup (now : ℚ)
  | record (jti : Json) (cappedExp : ℚ)

/-- The second part of `_check_and_record_jti`. -/
def recordCapped (jti : Json) (cappedExp : ℚ) (s : JtiCache) : JtiCache × Except Caught Bool :=
  match jti.hashKey with
  | none => (s, .error .typeError)
  | some key =>
    match s.usedJtis.lookup key with
    | some _ => (s, .ok false)
    | none => ({ s with usedJtis := s.usedJtis.insert key cappedExp }, .ok true)

/-- An operation that nothing interrupts; a cleanup has no result. -/
def atomicStep (s : JtiCache) : AtomicOp → JtiCache × Option (Except Caught Bool)
  | .cleanup now => (cleanupExpiredJtis now s, none)
  | .record jti cappedExp =>
    let (s, result) := recordCapped jti cappedExp s
    (s, some result)

/-- **The parts of a call by itself**: with a number for an expiry, the method is the two operations
one after the other. -/
theorem checkAndRecordJti_eq_atomic (jti : Json) {exp : Json} {expires : ℚ}
    (hexp : exp.num? = some expires) (r : Readings) (s : JtiCache) :
    let ops := [.cleanup r.check,
      .record jti (min expires (r.record + jwtReplayCacheMaxTtlSeconds))]
    (checkAndRecordJti jti exp r s).1 = Machine.final atomicStep s ops ∧
      [(checkAndRecordJti jti exp r s).2] = (Machine.outputs atomicStep s ops).reduceOption := by
  cases hkey : jti.hashKey with
  | none => simp [checkAndRecordJti, hexp, hkey, atomicStep, recordCapped, List.reduceOption]
  | some key =>
    cases hlookup : (cleanupExpiredJtis r.check s).usedJtis.lookup key <;>
      simp [checkAndRecordJti, hexp, hkey, hlookup, atomicStep, recordCapped, List.reduceOption]

/-! ## Where the operations take effect -/

/-- The operation that a step carries out. -/
def JtiStage.commits (s : SharedCache) : JtiStage → List AtomicOp
  | .looking _ _ now =>
    if now - s.cache.lastCleanup < jwtReplayCacheCleanupInterval then [.cleanup now] else []
  | .lookingAgain _ _ now => [.cleanup now]
  | .searching jti cappedExp =>
    match jti.hashKey with
    | none => [.record jti cappedExp]
    | some key =>
      match s.cache.usedJtis.lookup key with
      | some _ => [.record jti cappedExp]
      | none => []
  | .inserting jti _ cappedExp => [.record jti cappedExp]
  | _ => []

/-- The operation that an event carries out. -/
def commits (s : State SharedCache JtiStage) : Event (Json × Json) ℚ → List AtomicOp
  | .run id =>
    match s.stages.lookup id with
    | some r => r.commits s.shared
    | none => []
  | _ => []

/-- The operations of a run, in the order in which they take effect. -/
def committedOps : State SharedCache JtiStage → List (Event (Json × Json) ℚ) → List AtomicOp
  | _, [] => []
  | s, e :: events => commits s e ++ committedOps (replayChecks.step s e).1 events

/-- The cache, once the thread that holds the lock has deleted what it has to. -/
def JtiStage.settle (cache : JtiCache) : JtiStage → JtiCache
  | .deleting _ _ now expiredJtis =>
    ⟨expiredJtis.foldl (fun d key => d.erase key) cache.usedJtis, now⟩
  | _ => cache

/-- The cache as it stands between the operations. -/
def settled (s : State SharedCache JtiStage) : JtiCache :=
  match s.lock.bind s.stages.lookup with
  | some r => r.settle s.shared.cache
  | none => s.shared.cache

section

variable {s : State SharedCache JtiStage} {id : ℕ} {r : JtiStage}
  {m : Move SharedCache JtiStage Recorded}

theorem settled_of_lock (hlock : s.lock = some id) (hlookup : s.stages.lookup id = some r) :
    settled s = r.settle s.shared.cache := by
  simp only [settled, hlock, Option.bind_some, hlookup]

theorem settled_of_free (hlock : s.lock = none) : settled s = s.shared.cache := by
  simp only [settled, hlock, Option.bind_none]

/-- The settled cache depends on the cache and on the stage of the thread that holds the lock. -/
theorem settled_congr {s' : State SharedCache JtiStage}
    (hcache : s'.shared.cache = s.shared.cache) (hlock : s'.lock = s.lock)
    (hstage : ∀ id, s.lock = some id → s'.stages.lookup id = s.stages.lookup id) :
    settled s' = settled s := by
  unfold settled
  rw [hcache, hlock]
  cases hholder : s.lock with
  | none => rfl
  | some id =>
    rw [Option.bind_some, Option.bind_some, hstage id hholder]

/-- The state after a step. -/
def after (s : State SharedCache JtiStage) (id : ℕ) (m : Move SharedCache JtiStage Recorded) :
    State SharedCache JtiStage :=
  ⟨m.shared, Program.lockAfter id s.lock m.effect, s.stages.insert id m.stage⟩

/-- **A step without the lock** leaves the settled cache alone. -/
theorem settled_after_keep_free (hexclusive : replayChecks.Exclusive s)
    (hlookup : s.stages.lookup id = some r) (hfree : r.holds = false)
    (hshared : m.shared = s.shared) (heffect : m.effect = .keep) :
    settled (after s id m) = settled s := by
  apply settled_congr
  · exact congrArg SharedCache.cache hshared
  · simp [after, heffect, Program.lockAfter]
  · intro holder hlock
    refine AList.lookup_insert_ne ?_
    rintro rfl
    have hholds : r.holds = true := (hexclusive.holder holder r hlookup).mpr hlock
    rw [hfree] at hholds
    cases hholds

/-- After a step that takes or gives back the lock, or that is taken with it. -/
theorem settled_after_of_effect (heffect : m.effect ≠ .keep ∨ s.lock = some id) :
    settled (after s id m)
      = if m.effect = .release then m.shared.cache else m.stage.settle m.shared.cache := by
  have hlookup : (after s id m).stages.lookup id = some m.stage := AList.lookup_insert _
  cases hm : m.effect with
  | keep =>
    have hlock := heffect.resolve_left (by simp [hm])
    have hlock' : (after s id m).lock = some id := by simp [after, hm, Program.lockAfter, hlock]
    rw [settled_of_lock hlock' hlookup]
    rfl
  | acquire =>
    have hlock' : (after s id m).lock = some id := by simp [after, hm, Program.lockAfter]
    rw [settled_of_lock hlock' hlookup]
    rfl
  | release =>
    have hlock' : (after s id m).lock = none := by simp [after, hm, Program.lockAfter]
    rw [settled_of_free hlock']
    rfl

/-- The last cleanup, as far as a thread without the lock can see, is no later than the last one
there has been. -/
theorem lastCleanup_le_settled (hsound : replayChecks.AllSound JtiStage.Sound s) :
    s.shared.cache.lastCleanup ≤ (settled s).lastCleanup := by
  cases hlock : s.lock with
  | none => rw [settled_of_free hlock]
  | some holder =>
    obtain ⟨r, hlookup⟩ := hsound.exclusive.owner holder hlock
    rw [settled_of_lock hlock hlookup]
    have hr := hsound.sound holder r hlookup
    cases r with
    | deleting jti exp now expiredJtis =>
      have hdue := hr.2.1
      have hpos : (0 : ℚ) ≤ jwtReplayCacheCleanupInterval := by
        norm_num [jwtReplayCacheCleanupInterval]
      show s.shared.cache.lastCleanup ≤ now
      linarith
    | _ => exact le_rfl

/-- A cleanup that is not due by the last one a thread can see is not due at all. -/
theorem cleanup_settled_of_not_due (hsound : replayChecks.AllSound JtiStage.Sound s) {now : ℚ}
    (hdue : now - s.shared.cache.lastCleanup < jwtReplayCacheCleanupInterval) :
    cleanupExpiredJtis now (settled s) = settled s := by
  have hle := lastCleanup_le_settled hsound
  unfold cleanupExpiredJtis
  rw [if_pos (by linarith)]

/-- A cleanup that is due is the sweep of the thread that carries it out. -/
theorem cleanup_of_due {cache : JtiCache} {now : ℚ} (jti exp : Json)
    (hdue : ¬ now - cache.lastCleanup < jwtReplayCacheCleanupInterval) :
    (JtiStage.deleting jti exp now
        (cache.usedJtis.filter fun _ exp => decide (exp < now)).keys).settle cache
      = cleanupExpiredJtis now cache := by
  unfold JtiStage.settle cleanupExpiredJtis
  rw [if_neg hdue]
  simp only [AList.foldl_erase_keys_filter]

/-- What a step commits is what it does to the settled cache, with the result it reports. -/
def CommitsTo (s : State SharedCache JtiStage) (ops : List AtomicOp)
    (s' : State SharedCache JtiStage) (report : Option Recorded) : Prop :=
  Machine.final atomicStep (settled s) ops = settled s' ∧
    (Machine.outputs atomicStep (settled s) ops).reduceOption
      = (report.map Recorded.result).toList

/-- **A step without the lock** commits a cleanup that is not due, if any. -/
theorem commitsTo_free (hsound : replayChecks.AllSound JtiStage.Sound s)
    (hmoves : replayChecks.Moves s id r m) (hfree : r.holds = false) :
    CommitsTo s (r.commits s.shared) (after s id m) m.report := by
  obtain ⟨hlookup, hmove, hlock⟩ := hmoves
  change r.move s.shared = some m at hmove
  have hkeep : ∀ m' : Move SharedCache JtiStage Recorded, m' = m → m'.effect = .keep →
      settled (after s id m) = settled s := by
    rintro _ rfl heffect
    exact settled_after_keep_free hsound.exclusive hlookup hfree
      (replayChecks.reads _ _ _ hmove hfree) heffect
  cases r with
  | entered jti exp =>
    cases hmove
    exact ⟨(hkeep _ rfl rfl).symm, rfl⟩
  | looking jti exp now =>
    simp only [JtiStage.move] at hmove
    split at hmove
    next hdue =>
      cases hmove
      have hnone := cleanup_settled_of_not_due hsound hdue
      simp only [JtiStage.commits, if_pos hdue]
      exact ⟨hnone.trans (hkeep _ rfl rfl).symm, rfl⟩
    next hdue =>
      cases hmove
      simp only [JtiStage.commits, if_neg hdue]
      exact ⟨(hkeep _ rfl rfl).symm, rfl⟩
  | awaitingCleanup jti exp now | awaitingRecord jti cappedExp =>
    cases hmove
    refine ⟨?_, rfl⟩
    rw [settled_after_of_effect (Or.inl (by simp))]
    exact settled_of_free (hlock rfl)
  | capping jti exp =>
    simp only [JtiStage.move] at hmove
    split at hmove <;> · cases hmove; exact ⟨(hkeep _ rfl rfl).symm, rfl⟩
  | finished result => cases hmove
  | lookingAgain jti exp now | deleting jti exp now expired | searching jti cappedExp
  | inserting jti key cappedExp => cases hfree

/-- **A step with the lock** commits its cleanup or its look-up. -/
theorem commitsTo_held (hsound : replayChecks.AllSound JtiStage.Sound s)
    (hmoves : replayChecks.Moves s id r m) (hheld : r.holds = true) :
    CommitsTo s (r.commits s.shared) (after s id m) m.report := by
  obtain ⟨hlookup, hmove, -⟩ := hmoves
  change r.move s.shared = some m at hmove
  have hlock : s.lock = some id := (hsound.exclusive.holder id r hlookup).mp hheld
  have hr := hsound.sound id r hlookup
  unfold CommitsTo
  rw [settled_of_lock hlock hlookup, settled_after_of_effect (Or.inr hlock)]
  cases r with
  | lookingAgain jti exp now =>
    simp only [JtiStage.move] at hmove
    split at hmove
    next hdue =>
      cases hmove
      exact ⟨if_pos hdue, rfl⟩
    next hdue =>
      cases hmove
      exact ⟨(cleanup_of_due jti exp hdue).symm, rfl⟩
  | deleting jti exp now expiredJtis =>
    cases expiredJtis with
    | nil =>
      cases hmove
      exact ⟨rfl, rfl⟩
    | cons key rest =>
      obtain ⟨tracked, hfound, -⟩ := (hr.2.2.2 key).mp List.mem_cons_self
      simp only [JtiStage.move, hfound] at hmove
      cases hmove
      exact ⟨rfl, rfl⟩
  | searching jti cappedExp =>
    simp only [JtiStage.move] at hmove
    split at hmove
    next hkey =>
      cases hmove
      simp only [JtiStage.commits, JtiStage.settle, hkey, Machine.final_cons, Machine.final_nil,
        Machine.outputs_cons, Machine.outputs_nil, atomicStep, recordCapped, recorded]
      exact ⟨rfl, rfl⟩
    next key hkey =>
      split at hmove
      next tracked hfound =>
        cases hmove
        simp only [JtiStage.commits, JtiStage.settle, hkey, hfound, Machine.final_cons,
          Machine.final_nil, Machine.outputs_cons, Machine.outputs_nil, atomicStep, recordCapped,
          recorded]
        exact ⟨rfl, rfl⟩
      next hnone =>
        cases hmove
        simp only [JtiStage.commits, JtiStage.settle, hkey, hnone]
        exact ⟨rfl, rfl⟩
  | inserting jti key cappedExp =>
    obtain ⟨hkey, hnone⟩ := hr
    cases hmove
    simp only [JtiStage.commits, JtiStage.settle, Machine.final_cons, Machine.final_nil,
      Machine.outputs_cons, Machine.outputs_nil, atomicStep, recordCapped, hkey, hnone, recorded]
    exact ⟨rfl, rfl⟩
  | entered jti exp | looking jti exp now | awaitingCleanup jti exp now | capping jti exp
  | awaitingRecord jti cappedExp | finished result => cases hheld

/-- A thread that waits commits nothing. -/
theorem commits_eq_nil_of_waits (shared : SharedCache)
    (hwaits : ∀ m, r.move shared = some m → m.effect = .acquire) : r.commits shared = [] := by
  cases r with
  | looking jti exp now =>
    simp only [JtiStage.move] at hwaits
    split at hwaits
    · cases hwaits _ rfl
    next hdue => simp only [JtiStage.commits, if_neg hdue]
  | lookingAgain jti exp now =>
    simp only [JtiStage.move] at hwaits
    split at hwaits
    · cases hwaits _ rfl
    · cases hwaits _ rfl
  | searching jti cappedExp =>
    simp only [JtiStage.move] at hwaits
    split at hwaits
    · cases hwaits _ rfl
    · split at hwaits
      · cases hwaits _ rfl
      · cases hwaits _ rfl
  | inserting jti key cappedExp => cases hwaits _ rfl
  | entered jti exp | awaitingCleanup jti exp now | deleting jti exp now expired
  | capping jti exp | awaitingRecord jti cappedExp | finished result => rfl

/-- **One event** does to the settled cache what it commits. -/
theorem commitsTo_step (hsound : replayChecks.AllSound JtiStage.Sound s)
    (e : Event (Json × Json) ℚ) :
    CommitsTo s (commits s e) (replayChecks.step s e).1 (replayChecks.step s e).2 := by
  rcases Program.step_cases replayChecks s e with ⟨hstep, hwaits⟩ | ⟨now, rfl, hstep⟩ |
    ⟨id, call, rfl, hnone, hstep⟩ | ⟨id, r, m, rfl, hmoves, hstep⟩
  · have hnil : commits s e = [] := by
      cases e with
      | run id =>
        simp only [commits]
        cases hlookup : s.stages.lookup id with
        | none => rfl
        | some r =>
          exact commits_eq_nil_of_waits s.shared fun m hmove => hwaits id r m rfl hlookup hmove
      | env now | call id call => rfl
    rw [hstep, hnil]
    exact ⟨rfl, rfl⟩
  · rw [hstep]
    refine ⟨?_, rfl⟩
    have hcache : (s.shared.tick now).cache = s.shared.cache := by
      unfold SharedCache.tick
      split <;> rfl
    symm
    change settled _ = settled s
    exact settled_congr hcache rfl fun _ _ => rfl
  · rw [hstep]
    refine ⟨?_, rfl⟩
    symm
    change settled _ = settled s
    refine settled_congr rfl rfl fun holder hlock => ?_
    obtain ⟨r, hlookup⟩ := hsound.exclusive.owner holder hlock
    refine AList.lookup_insert_ne ?_
    rintro rfl
    rw [hnone] at hlookup
    cases hlookup
  · have hcommits : commits s (.run id) = r.commits s.shared := by
      simp only [commits, hmoves.1]
    rw [hstep, hcommits]
    cases hholds : r.holds with
    | false => exact commitsTo_free hsound hmoves hholds
    | true => exact commitsTo_held hsound hmoves hholds

end

/-! ## Runs -/

/-- **The replay checks are atomic**, whatever the interleaving: the cache is the one that the
operations lead to when they are carried out one after the other, in the order in which they took
effect, and the look-ups had their results. -/
theorem replay_checks_atomic (now : ℚ) (events : List (Event (Json × Json) ℚ)) :
    let ops := committedOps (replayChecksInit now) events
    settled (Machine.final replayChecks.step (replayChecksInit now) events)
        = Machine.final atomicStep (.init now) ops ∧
      (Machine.outputs replayChecks.step (replayChecksInit now) events).reduceOption.map
          Recorded.result
        = (Machine.outputs atomicStep (.init now) ops).reduceOption := by
  have hrun : ∀ events s, replayChecks.AllSound JtiStage.Sound s →
      settled (Machine.final replayChecks.step s events)
          = Machine.final atomicStep (settled s) (committedOps s events) ∧
        (Machine.outputs replayChecks.step s events).reduceOption.map Recorded.result
          = (Machine.outputs atomicStep (settled s) (committedOps s events)).reduceOption := by
    intro events
    induction events with
    | nil => exact fun s _ => ⟨rfl, rfl⟩
    | cons e events ih =>
      intro s hsound
      obtain ⟨hfinal, houtputs⟩ := commitsTo_step hsound e
      obtain ⟨hrest, hresults⟩ := ih _ (hsound.step stable_sound e)
      constructor
      · rw [committedOps, Machine.final_cons, Machine.final_append, hfinal, hrest]
      · rw [committedOps, Machine.outputs_append, List.reduceOption_append, hfinal, houtputs,
          ← hresults, Machine.outputs_cons]
        cases (replayChecks.step s e).2 <;> simp
  exact hrun events _ (Program.allSound_init _ _ _)

end McpAuthflow.ClientAuth
