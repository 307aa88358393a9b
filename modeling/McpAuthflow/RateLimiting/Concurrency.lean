import McpAuthflow.RateLimiting.Refinement
import Mathlib.Data.List.Perm.Subperm

/-! # Concurrent calls over-admit by less than their number

`_is_allowed_redis` checks the cardinality of the sorted set and adds to it in separate commands, so
concurrent calls may pass the check together. Here each call is its small steps: the reading of the
clock, then `ZREMRANGEBYSCORE`, `ZCARD`, `ZADD` and `EXPIRE`, each executed atomically by one Redis
server. A schedule is a list of `Action`s; an action that is not enabled does nothing, so every list
is one. The hosts' clocks need not agree with one another or with the server's. Alone, a call does
what `isAllowedRedis` does: `isAllowedRedis_alone`.

A call that passes the check finds at most `requests_per_window - 1` members, and at that moment
each pending admission is one of the calls in flight. From then on the members and the pending
admissions together cannot grow: **`over_admission_bounded`**. -/

namespace McpAuthflow.RateLimiting

/-! ## Small steps -/

/-- Where a call of `_is_allowed_redis` stands: what it does next. -/
inductive Stage where
  /-- `time.time()`. -/
  | reading
  /-- `ZREMRANGEBYSCORE`, with the cutoff of the moment `now`. -/
  | pruning (now : ℚ)
  /-- `ZCARD`, and the comparison with the limit. -/
  | counting (now : ℚ)
  /-- `ZADD`: the call has passed the check. -/
  | adding (now : ℚ)
  /-- `EXPIRE`. -/
  | expiring

/-- A call in flight. -/
structure InFlight where
  clientId : PyStr
  /-- The member name an admission is recorded under. -/
  member : PyStr
  stage : Stage

/-- The Redis server with the calls in flight. -/
structure SharedLimiter where
  clock : ℚ
  db : RedisStore
  running : Dict ℕ InFlight

/-- The next thing that happens. -/
inductive Action where
  /-- The server's clock moves on. -/
  | tick (now : ℚ)
  /-- A call of `_is_allowed_redis` starts. -/
  | call (id : ℕ) (clientId member : PyStr)
  /-- A call does its next step; `now` is what its host's clock shows. -/
  | advance (id : ℕ) (now : ℚ)
  /-- The Redis client raises on the next command of a call, executed or not. -/
  | fail (id : ℕ) (executed : Bool)
  /-- The `ZREMRANGEBYSCORE` of a `get_retry_after` call that has read `now`. -/
  | prune (clientId : PyStr) (now : ℚ)

/-- The end of a call that returned. -/
structure Admission where
  clientId : PyStr
  member : PyStr
  allowed : Bool

namespace SharedLimiter

variable (cfg : Config)

/-- What the next command of a call does to the keyspace. -/
def execute (s : SharedLimiter) (c : InFlight) : RedisStore :=
  let key := redisKey cfg c.clientId
  match c.stage with
  | .reading | .counting _ => s.db
  | .pruning now => zremrangebyscore s.db s.clock key (now - cfg.window)
  | .adding now => zadd s.db s.clock key c.member now
  | .expiring => expire s.db s.clock key (cfg.windowSeconds + 1)

/-- What a call does after its next step: another stage, or its result. -/
def proceed (s : SharedLimiter) (c : InFlight) (now : ℚ) : Stage ⊕ Bool :=
  match c.stage with
  | .reading => .inl (.pruning now)
  | .pruning now => .inl (.counting now)
  | .counting now =>
    if ((s.db.zset s.clock (redisKey cfg c.clientId)).length : ℤ) ≥ cfg.requestsPerWindow then
      .inr false
    else .inl (.adding now)
  | .adding _ => .inl .expiring
  | .expiring => .inr true

/-- One action; it shows the call that returns, if any. -/
def step (s : SharedLimiter) : Action → SharedLimiter × Option Admission
  | .tick now => (if s.clock ≤ now then { s with clock := now } else s, none)
  | .call id clientId member =>
    match s.running.lookup id with
    | none => ({ s with running := s.running.insert id ⟨clientId, member, .reading⟩ }, none)
    | some _ => (s, none)
  | .advance id now =>
    match s.running.lookup id with
    | none => (s, none)
    | some c =>
      let db := s.execute cfg c
      match s.proceed cfg c now with
      | .inl stage => ({ s with db := db, running := s.running.insert id { c with stage } }, none)
      | .inr allowed =>
        ({ s with db := db, running := s.running.erase id },
          some ⟨c.clientId, c.member, allowed⟩)
  | .fail id executed =>
    match s.running.lookup id with
    | none => (s, none)
    | some c =>
      let db := if executed then s.execute cfg c else s.db
      ({ s with db := db, running := s.running.erase id }, none)
  | .prune clientId now =>
    ({ s with db := zremrangebyscore s.db s.clock (redisKey cfg clientId) (now - cfg.window) },
      none)

/-- A server without keys and without calls in flight. -/
def start (clock : ℚ) : SharedLimiter := ⟨clock, ∅, ∅⟩

/-! ## What is counted -/

/-- The members of a client's sorted set. -/
def members (s : SharedLimiter) (clientId : PyStr) : List PyStr :=
  (s.db.zset s.clock (redisKey cfg clientId)).map Prod.fst

end SharedLimiter

/-- The call has passed the `ZCARD` test and not yet executed `ZADD`. -/
def Stage.passed : Stage → Bool
  | .adding _ => true
  | _ => false

/-- A call of a client. -/
def InFlight.ofClient (clientId : PyStr) (c : InFlight) : Bool := c.clientId = clientId

/-- A pending admission of a client. -/
def InFlight.pendingOf (clientId : PyStr) (c : InFlight) : Bool :=
  c.clientId = clientId && c.stage.passed

/-- The number of calls of a client in flight. -/
def SharedLimiter.inFlight (s : SharedLimiter) (clientId : PyStr) : ℕ :=
  s.running.countP fun _ c => c.ofClient clientId

/-- The number of pending admissions of a client. -/
def SharedLimiter.pending (s : SharedLimiter) (clientId : PyStr) : ℕ :=
  s.running.countP fun _ c => c.pendingOf clientId

/-- A pending admission is a call in flight. -/
theorem SharedLimiter.pending_le_inFlight (s : SharedLimiter) (clientId : PyStr) :
    s.pending clientId ≤ s.inFlight clientId := by
  apply AList.countP_mono
  intro _ c hc
  rw [InFlight.pendingOf, Bool.and_eq_true] at hc
  exact hc.1

/-! ## The commands -/

/-- `ZREMRANGEBYSCORE` adds no member anywhere. -/
theorem length_zset_zremrangebyscore_le (db : RedisStore) (now : ℚ) (key other : PyStr) (max : ℚ) :
    ((zremrangebyscore db now key max).zset now other).length ≤ (db.zset now other).length := by
  by_cases hkey : other = key
  · rw [hkey, zset_zremrangebyscore_self le_rfl]
    exact List.length_filter_le _ _
  · rw [zset_zremrangebyscore_ne hkey]

/-- `ZADD` adds at most one member. -/
theorem length_zset_zadd_le (db : RedisStore) (now : ℚ) (key member : PyStr) (score : ℚ) :
    ((zadd db now key member score).zset now key).length ≤ (db.zset now key).length + 1 := by
  have hread : Keyspace.read (zadd db now key member score) now key
      = some ((db.zset now key).add member score) := Keyspace.read_alter_self_now key rfl
  have hzset : (zadd db now key member score).zset now key
      = (db.zset now key).add member score := by
    rw [RedisStore.zset, hread]
    rfl
  rw [hzset, SortedSet.add, List.orderedInsert_length]
  exact Nat.succ_le_succ (List.length_filter_le _ _)

/-- `ZADD` leaves the other keys alone. -/
theorem zset_zadd_ne {key other : PyStr} (h : other ≠ key) (db : RedisStore) (now : ℚ)
    (member : PyStr) (score : ℚ) :
    (zadd db now key member score).zset now other = db.zset now other := by
  rw [RedisStore.zset, zadd, Keyspace.read_alter_ne h, RedisStore.zset]

/-- `EXPIRE` adds no member anywhere. -/
theorem length_zset_expire_le (db : RedisStore) (now : ℚ) (key other : PyStr) (seconds : ℤ) :
    ((expire db now key seconds).zset now other).length ≤ (db.zset now other).length := by
  by_cases hkey : other = key
  · subst hkey
    cases hread : Keyspace.read db now other with
    | none =>
      have hkept : expire db now other seconds = db := by
        rw [expire, Keyspace.expireAt, hread]
      rw [hkept]
    | some z =>
      rw [RedisStore.zset, expire, Keyspace.read_expireAt_self hread, RedisStore.zset, hread]
      split
      · exact le_rfl
      · exact Nat.zero_le _
  · rw [RedisStore.zset, expire, Keyspace.read_expireAt_ne hkey, RedisStore.zset]

/-- As time passes a sorted set expires or stays as it is. -/
theorem length_zset_le_of_le {now later : ℚ} (h : now ≤ later) (db : RedisStore) (key : PyStr) :
    (db.zset later key).length ≤ (db.zset now key).length := by
  cases hread : Keyspace.read db later key with
  | none =>
    rw [RedisStore.zset, hread]
    exact Nat.zero_le _
  | some z => rw [RedisStore.zset, hread, RedisStore.zset, Keyspace.read_of_le h hread]

/-- **What the next command of a call adds** to a client's set: a member, if it is the `ZADD` of a
pending admission of this client, and nothing otherwise. -/
theorem length_zset_execute_le (cfg : Config) (s : SharedLimiter) (c : InFlight)
    (clientId : PyStr) :
    ((s.execute cfg c).zset s.clock (redisKey cfg clientId)).length
      ≤ (s.db.zset s.clock (redisKey cfg clientId)).length
        + if c.pendingOf clientId = true then 1 else 0 := by
  obtain ⟨owner, member, stage⟩ := c
  cases stage with
  | reading => exact Nat.le_add_right _ _
  | counting now => exact Nat.le_add_right _ _
  | pruning now =>
    exact le_trans (length_zset_zremrangebyscore_le _ _ _ _ _) (Nat.le_add_right _ _)
  | expiring => exact le_trans (length_zset_expire_le _ _ _ _ _) (Nat.le_add_right _ _)
  | adding now =>
    show ((zadd s.db s.clock (redisKey cfg owner) member now).zset s.clock
      (redisKey cfg clientId)).length ≤ _
    by_cases howner : owner = clientId
    · subst howner
      rw [if_pos (by simp [InFlight.pendingOf, Stage.passed])]
      exact length_zset_zadd_le _ _ _ _ _
    · rw [zset_zadd_ne (fun heq => howner (redisKey_injective cfg heq.symm))]
      exact Nat.le_add_right _ _

/-! ## One action -/

/-- The members and the pending admissions of a client together. -/
def SharedLimiter.load (cfg : Config) (s : SharedLimiter) (clientId : PyStr) : ℕ :=
  (s.members cfg clientId).length + s.pending clientId

theorem load_mk (cfg : Config) (clock : ℚ) (db : RedisStore) (running : Dict ℕ InFlight)
    (clientId : PyStr) :
    SharedLimiter.load cfg ⟨clock, db, running⟩ clientId
      = (db.zset clock (redisKey cfg clientId)).length
        + running.countP fun _ c => c.pendingOf clientId := by
  rw [SharedLimiter.load, SharedLimiter.members, List.length_map]
  rfl

/-- The load, with the pending admission of one call in flight set apart. -/
theorem load_of_lookup (cfg : Config) {s : SharedLimiter} {id : ℕ} {c : InFlight}
    (h : s.running.lookup id = some c) (clientId : PyStr) :
    s.load cfg clientId = (s.db.zset s.clock (redisKey cfg clientId)).length
      + ((s.running.erase id).countP (fun _ c => c.pendingOf clientId)
        + if c.pendingOf clientId = true then 1 else 0) := by
  obtain ⟨clock, db, running⟩ := s
  rw [load_mk]
  congr 1
  exact AList.countP_of_lookup _ h

/-- A call that ends, its last command executed or not, adds nothing to the load. -/
theorem load_erase_le (cfg : Config) {s : SharedLimiter} {id : ℕ} {c : InFlight}
    (h : s.running.lookup id = some c) {db : RedisStore} (hdb : db = s.db ∨ db = s.execute cfg c)
    (clientId : PyStr) :
    SharedLimiter.load cfg ⟨s.clock, db, s.running.erase id⟩ clientId ≤ s.load cfg clientId := by
  have hexecute := length_zset_execute_le cfg s c clientId
  rw [load_mk, load_of_lookup cfg h]
  rcases hdb with rfl | rfl
  · omega
  · omega

/-- A call that moves on to a stage that is not a pending admission adds nothing to the load. -/
theorem load_insert_le (cfg : Config) {s : SharedLimiter} {id : ℕ} {c : InFlight}
    (h : s.running.lookup id = some c) {stage : Stage} (clientId : PyStr)
    (hstage : ¬ InFlight.pendingOf clientId { c with stage } = true) :
    SharedLimiter.load cfg ⟨s.clock, s.execute cfg c, s.running.insert id { c with stage }⟩ clientId
      ≤ s.load cfg clientId := by
  have hexecute := length_zset_execute_le cfg s c clientId
  rw [load_mk, load_of_lookup cfg h, AList.countP_insert, if_neg hstage]
  omega

/-- The only way to become a pending admission: the `ZCARD` of the call found fewer members than the
limit, and did not change the keyspace. -/
theorem of_proceed_passed {cfg : Config} {s : SharedLimiter} {c : InFlight} {now : ℚ}
    {stage : Stage} (h : s.proceed cfg c now = .inl stage) (hpassed : stage.passed = true) :
    ((s.db.zset s.clock (redisKey cfg c.clientId)).length : ℤ) < cfg.requestsPerWindow ∧
      s.execute cfg c = s.db := by
  obtain ⟨clientId, member, before⟩ := c
  cases before with
  | reading =>
    obtain rfl := Sum.inl.inj h
    cases hpassed
  | pruning cutoff =>
    obtain rfl := Sum.inl.inj h
    cases hpassed
  | adding cutoff =>
    obtain rfl := Sum.inl.inj h
    cases hpassed
  | expiring => cases h
  | counting cutoff =>
    refine ⟨?_, rfl⟩
    by_contra hfull
    simp only [SharedLimiter.proceed] at h
    rw [if_pos (not_lt.mp hfull)] at h
    cases h

/-- A call that moves on stays in flight. -/
theorem inFlight_insert {s : SharedLimiter} {id : ℕ} {c : InFlight}
    (h : s.running.lookup id = some c) (db : RedisStore) (stage : Stage) (clientId : PyStr) :
    SharedLimiter.inFlight ⟨s.clock, db, s.running.insert id { c with stage }⟩ clientId
      = s.inFlight clientId := by
  have hbefore := AList.countP_of_lookup (fun _ c => InFlight.ofClient clientId c) h
  have hafter := AList.countP_insert (fun _ c => InFlight.ofClient clientId c) s.running id
    { c with stage }
  rw [SharedLimiter.inFlight, SharedLimiter.inFlight, hbefore]
  exact hafter

/-- A call that passes the check found fewer members than the limit, and then every pending
admission is a call in flight. -/
theorem load_insert_lt {cfg : Config} {s : SharedLimiter} {id : ℕ} {c : InFlight}
    (h : s.running.lookup id = some c) {now : ℚ} {stage : Stage}
    (hnext : s.proceed cfg c now = .inl stage) (hpassed : stage.passed = true) :
    (SharedLimiter.load cfg ⟨s.clock, s.execute cfg c, s.running.insert id { c with stage }⟩
        c.clientId : ℤ)
      < cfg.requestsPerWindow + s.inFlight c.clientId := by
  obtain ⟨hbelow, hkept⟩ := of_proceed_passed hnext hpassed
  have hin := inFlight_insert h s.db stage c.clientId
  have hle := SharedLimiter.pending_le_inFlight
    ⟨s.clock, s.db, s.running.insert id { c with stage }⟩ c.clientId
  rw [hkept, load_mk]
  rw [hin] at hle
  change AList.countP _ (s.running.insert id { c with stage }) ≤ _ at hle
  omega

/-- **What an action does to a client's load**: it does not grow; or a call passes the check, having
found fewer members than the limit, and then every pending admission is a call in flight. -/
theorem load_step (cfg : Config) (s : SharedLimiter) (a : Action) (clientId : PyStr) :
    (s.step cfg a).1.load cfg clientId ≤ s.load cfg clientId ∨
      ((s.step cfg a).1.load cfg clientId : ℤ) < cfg.requestsPerWindow + s.inFlight clientId := by
  cases a with
  | tick now =>
    left
    simp only [SharedLimiter.step]
    by_cases hle : s.clock ≤ now
    · rw [if_pos hle, load_mk]
      have hexpired := length_zset_le_of_le hle s.db (redisKey cfg clientId)
      have hload := load_mk cfg s.clock s.db s.running clientId
      show _ ≤ SharedLimiter.load cfg ⟨s.clock, s.db, s.running⟩ clientId
      omega
    · rw [if_neg hle]
  | prune other now =>
    left
    have hpruned := length_zset_zremrangebyscore_le s.db s.clock (redisKey cfg other)
      (redisKey cfg clientId) (now - cfg.window)
    show SharedLimiter.load cfg ⟨s.clock, _, s.running⟩ clientId
      ≤ SharedLimiter.load cfg ⟨s.clock, s.db, s.running⟩ clientId
    rw [load_mk, load_mk]
    omega
  | call id owner member =>
    left
    cases hid : s.running.lookup id with
    | some c => simp only [SharedLimiter.step, hid, le_refl]
    | none =>
      have hnew : ¬ (⟨owner, member, .reading⟩ : InFlight).pendingOf clientId = true := by
        simp [InFlight.pendingOf, Stage.passed]
      simp only [SharedLimiter.step, hid]
      show _ ≤ SharedLimiter.load cfg ⟨s.clock, s.db, s.running⟩ clientId
      rw [load_mk, load_mk, AList.countP_insert, if_neg hnew, AList.erase_of_lookup_eq_none hid]
      exact le_rfl
  | fail id executed =>
    left
    cases hid : s.running.lookup id with
    | none => simp only [SharedLimiter.step, hid, le_refl]
    | some c =>
      simp only [SharedLimiter.step, hid]
      apply load_erase_le cfg hid
      cases executed with
      | false => exact Or.inl rfl
      | true => exact Or.inr rfl
  | advance id now =>
    cases hid : s.running.lookup id with
    | none =>
      left
      simp only [SharedLimiter.step, hid, le_refl]
    | some c =>
      cases hnext : s.proceed cfg c now with
      | inr allowed =>
        left
        simp only [SharedLimiter.step, hid, hnext]
        exact load_erase_le cfg hid (Or.inr rfl) clientId
      | inl stage =>
        simp only [SharedLimiter.step, hid, hnext]
        by_cases hpasses : InFlight.pendingOf clientId { c with stage } = true
        · -- the call has just passed the check of this client's set
          right
          have hboth : c.clientId = clientId ∧ stage.passed = true := by
            simpa [InFlight.pendingOf] using hpasses
          obtain ⟨rfl, hpassed⟩ := hboth
          exact load_insert_lt hid hnext hpassed
        · left
          exact load_insert_le cfg hid clientId hpasses

/-! ## Member names -/

/-- The member name an action brings in. -/
def Action.member? : Action → Option PyStr
  | .call _ _ member => some member
  | _ => none

/-- The calls that have returned, in the order they did. -/
def returned (tr : List (Action × Option Admission)) : List Admission := tr.filterMap Prod.snd

/-- The names of the requests of a client that were admitted. -/
def admittedMembers (clientId : PyStr) (tr : List (Action × Option Admission)) : List PyStr :=
  ((returned tr).filter fun r => r.clientId = clientId ∧ r.allowed = true).map Admission.member

theorem returned_concat (tr : List (Action × Option Admission)) (a : Action)
    (o : Option Admission) : returned (tr ++ [(a, o)]) = returned tr ++ o.toList := by
  cases o <;> simp [returned]

/-- A name is with the call that brought it in, until that call returns. -/
theorem count_member_step (cfg : Config) (s : SharedLimiter) (a : Action) (m : PyStr) :
    ((s.step cfg a).2.toList.map Admission.member).count m
        + (s.step cfg a).1.running.countP (fun _ c => c.member = m)
      ≤ s.running.countP (fun _ c => c.member = m) + a.member?.toList.count m := by
  cases a with
  | tick now =>
    -- no call begins or ends
    simp only [SharedLimiter.step]
    split <;> simp [Action.member?]
  | prune other now => simp [SharedLimiter.step, Action.member?]
  | call id owner member =>
    cases hid : s.running.lookup id with
    | some c => simp [SharedLimiter.step, hid]
    | none =>
      simp only [SharedLimiter.step, hid, Action.member?]
      rw [AList.countP_insert, AList.erase_of_lookup_eq_none hid]
      by_cases hm : member = m
      · simp [hm]
      · simp [hm]
  | fail id executed =>
    cases hid : s.running.lookup id with
    | none => simp [SharedLimiter.step, hid]
    | some c =>
      have hrest := AList.countP_of_lookup (fun _ c => decide (InFlight.member c = m)) hid
      simp only [SharedLimiter.step, hid, Action.member?]
      rw [hrest]
      simp
  | advance id now =>
    cases hid : s.running.lookup id with
    | none => simp [SharedLimiter.step, hid]
    | some c =>
      have hrest := AList.countP_of_lookup (fun _ c => decide (InFlight.member c = m)) hid
      cases hnext : s.proceed cfg c now with
      | inl stage =>
        -- the call goes on to its next stage under its name
        simp only [SharedLimiter.step, hid, hnext, Action.member?]
        rw [AList.countP_insert, hrest]
        simp
      | inr allowed =>
        simp only [SharedLimiter.step, hid, hnext, Action.member?]
        rw [hrest]
        -- the call returns its name, and is gone
        by_cases hm : c.member = m
        · simp [hm, Nat.add_comm]
        · simp [hm]

/-- Distinct names are returned at most once each. -/
theorem nodup_returned (cfg : Config) (clock : ℚ) {actions : List Action}
    (hnames : (actions.filterMap Action.member?).Nodup) :
    ((returned (Machine.trace (SharedLimiter.step cfg) (.start clock) actions)).map
      Admission.member).Nodup := by
  have hinv := Machine.trace_invariant (SharedLimiter.step cfg)
    (fun s tr => ∀ m, ((returned tr).map Admission.member).count m
        + s.running.countP (fun _ c => decide (c.member = m))
      ≤ ((tr.map Prod.fst).filterMap Action.member?).count m)
    (fun s tr a hinv m => by
      have hstep := count_member_step cfg s a m
      have hbefore := hinv m
      have hnew : ([a].filterMap Action.member?).count m = a.member?.toList.count m := by
        cases h : a.member? <;> simp [h]
      rw [returned_concat, List.map_append, List.count_append, List.map_append,
        List.filterMap_append, List.count_append, List.map_singleton, hnew]
      omega)
    (s := SharedLimiter.start clock) (fun m => le_rfl) actions
  rw [List.nodup_iff_count_le_one] at hnames ⊢
  intro m
  have hm := hinv m
  rw [Machine.map_fst_trace] at hm
  have hone := hnames m
  omega

/-! ## Runs -/

/-- **What concurrency can cost**, with `k` calls of the client in flight at most. -/
structure BoundedOverAdmission (cfg : Config) (k : ℕ) (clientId : PyStr) (s : SharedLimiter)
    (tr : List (Action × Option Admission)) : Prop where
  /-- The members and the pending admissions together. -/
  load : ((s.members cfg clientId).length : ℤ) + s.pending clientId
    ≤ cfg.requestsPerWindow + k - 1
  /-- The sorted set alone; with `k = 1` it respects the limit. -/
  members : ((s.members cfg clientId).length : ℤ) ≤ cfg.requestsPerWindow - 1 + k
  /-- The admitted requests that still count. -/
  admitted : (((admittedMembers clientId tr).filter fun m => m ∈ s.members cfg clientId).length : ℤ)
    ≤ cfg.requestsPerWindow - 1 + k

/-- **A burst over-admits by at most one less than the number of concurrent calls**: for every limit
of at least one request and every schedule in which at most `k` calls of the client are in flight
before each action, from an empty server. -/
theorem over_admission_bounded (cfg : Config) (hN : 1 ≤ cfg.requestsPerWindow) (k : ℕ) (clock : ℚ)
    (actions : List Action) (clientId : PyStr)
    (hflight : Machine.AllSteps (SharedLimiter.step cfg) (fun s _ _ => s.inFlight clientId ≤ k)
      (.start clock) actions)
    (hnames : (actions.filterMap Action.member?).Nodup) :
    BoundedOverAdmission cfg k clientId
      (Machine.final (SharedLimiter.step cfg) (.start clock) actions)
      (Machine.trace (SharedLimiter.step cfg) (.start clock) actions) := by
  obtain ⟨hload, -⟩ := Machine.allSteps_of_invariant (SharedLimiter.step cfg)
    (fun s _ => (s.load cfg clientId : ℤ) ≤ cfg.requestsPerWindow + k - 1)
    (G := fun s _ _ => s.inFlight clientId ≤ k) (H := fun _ _ _ => True)
    (fun s tr a hinv hk => by
      rcases load_step cfg s a clientId with hle | hpassed
      · omega
      · omega)
    (fun _ _ _ _ _ => trivial)
    (by
      have hzero : (SharedLimiter.start clock).load cfg clientId = 0 := rfl
      rw [hzero]
      omega)
    hflight
  rw [SharedLimiter.load] at hload
  push_cast at hload
  refine ⟨hload, by omega, ?_⟩
  -- distinct names, all of them in the set
  set s := Machine.final (SharedLimiter.step cfg) (.start clock) actions with hs
  set tr := Machine.trace (SharedLimiter.step cfg) (.start clock) actions with htr
  have hnodup : (admittedMembers clientId tr).Nodup :=
    (nodup_returned cfg clock hnames).sublist (List.filter_sublist.map _)
  have hsubset : ((admittedMembers clientId tr).filter fun m => m ∈ s.members cfg clientId)
      ⊆ s.members cfg clientId := by
    intro m hm
    exact of_decide_eq_true (List.mem_filter.mp hm).2
  have hle := (List.Nodup.subperm (hnodup.filter _) hsubset).length_le
  omega

/-! ## A call by itself -/

/-- The actions of a call that runs to its end, at one reading of the clock. -/
def callActions (id : ℕ) (clientId member : PyStr) (now : ℚ) : List Action :=
  .call id clientId member :: List.replicate 5 (.advance id now)

/-- **Alone, a call is the sequential `_is_allowed_redis`**: run without other actions in between
and on the server's clock, it returns once, with the same result, and leaves the keyspace as that
does. -/
theorem isAllowedRedis_alone (cfg : Config) {s : SharedLimiter} {id : ℕ}
    (hid : s.running.lookup id = none) (clientId member : PyStr) :
    let sequential := isAllowedRedis cfg clientId member s.clock s.db
    let run := callActions id clientId member s.clock
    Machine.final (SharedLimiter.step cfg) s run = { s with db := sequential.1 } ∧
      returned (Machine.trace (SharedLimiter.step cfg) s run)
        = [⟨clientId, member, sequential.2⟩] := by
  have herase : ∀ c, (s.running.insert id c).erase id = s.running :=
    AList.erase_insert_of_lookup_eq_none hid
  simp only [callActions, List.replicate, Machine.final_cons, Machine.final_nil,
    Machine.trace_cons, Machine.trace_nil, SharedLimiter.step, hid, AList.lookup_insert,
    SharedLimiter.execute, SharedLimiter.proceed, AList.insert_insert, isAllowedRedis,
    hostedIsAllowedRedis]
  by_cases hfull : (((zremrangebyscore s.db s.clock (redisKey cfg clientId)
      (s.clock - cfg.window)).zset s.clock (redisKey cfg clientId)).length : ℤ)
      ≥ cfg.requestsPerWindow
  · simp [hfull, herase, hid, returned]
  · simp [hfull, herase, returned]

/-- Two calls that overlap at a limit of one request: both pass the check. -/
def overlappingCalls : List Action :=
  [.call 0 (PyStr.ofString "a") (PyStr.ofString "0:x"),
    .call 1 (PyStr.ofString "a") (PyStr.ofString "0:y")] ++
  List.replicate 3 (.advance 0 0) ++ List.replicate 5 (.advance 1 0) ++
  List.replicate 2 (.advance 0 0)

/-- The bound is reached. -/
theorem over_admission_bounded_overlappingCalls :
    BoundedOverAdmission ⟨1, 10⟩ 2 (PyStr.ofString "a")
        (Machine.final (SharedLimiter.step ⟨1, 10⟩) (.start 0) overlappingCalls)
        (Machine.trace (SharedLimiter.step ⟨1, 10⟩) (.start 0) overlappingCalls) ∧
      ((Machine.final (SharedLimiter.step ⟨1, 10⟩) (.start 0) overlappingCalls).members ⟨1, 10⟩
        (PyStr.ofString "a")).length = 2 := by
  refine ⟨over_admission_bounded ⟨1, 10⟩ (by decide) 2 0 overlappingCalls _ ?_ ?_, ?_⟩
  · decide +kernel
  · decide
  · decide +kernel

end McpAuthflow.RateLimiting
