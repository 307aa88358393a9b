import McpAuthflow.ClientAuth.Verification
import McpAuthflow.Foundations.Machine

/-! # Replay protection with Redis

Calls of any number of authenticators, in any number of processes, share one Redis server and one
clock. The server executes each `SET` atomically; between two steps of a call anything may happen.
A schedule is a list of `Action`s, each the next thing that happens; an action that is not enabled
does nothing, so every list is one. Alone, a call does what `authenticate` does:
`authenticate_alone`.

An accepted assertion is protected for the time to live of its key, at most 360 seconds from the
`SET`. PyJWT and the age check accept it until `exp + 60` and `iat + 360`, and `iat` may lie up to a
minute ahead of the clock. The time to live covers the window of the assertion iff it is not issued
in the future, or has at most 300 seconds to live (`window_le_ttl_iff`). In runs in which that holds
of every `SET`, and each executes within the window (`Timely`), no assertion is accepted twice:
**`no_replay_across_replicas`**. What carries the proof: no assertion is accepted twice in exactly
the runs in which every repeated `SET` finds a time to live still running
(`nodup_accepted_iff_covered`), and timely runs are of that kind. -/

namespace McpAuthflow.ClientAuth

/-! ## Small steps -/

/-- Where a call of `authenticate` stands. -/
inductive Stage (κ : Type*) where
  /-- The JWKS and the signing key come next. -/
  | started (tokenEndpoint : PyStr) (call : AuthCall)
  /-- The key is found and `_verify_jwt` has read the clock; PyJWT comes next. -/
  | keyed (tokenEndpoint : PyStr) (call : AuthCall) (alg : PyStr) (key : κ) (verifyAt : ℚ)
  /-- The assertion is verified; `_check_and_record_jti_redis` reads the clock next. -/
  | checked (call : AuthCall) (payload : JsonObject) (verifyAt : ℚ)
  /-- The `SET` comes next, with the time to live as of `checkAt`. -/
  | setting (call : AuthCall) (jti : Json) (exp checkAt : ℚ)

/-- The Redis server with the calls in progress. -/
structure Cluster (κ : Type*) where
  clock : ℚ
  db : RedisJtis
  running : Dict ℕ (Stage κ)

/-- The next thing that happens. -/
inductive Action where
  | tick (now : ℚ)
  /-- A call starts, on an authenticator for this token endpoint. -/
  | present (id : ℕ) (tokenEndpoint : PyStr) (call : AuthCall)
  /-- A call does its next step. -/
  | advance (id : ℕ)
  /-- The Redis client raises on a `SET`, which the server may have executed or not. -/
  | failSet (id : ℕ) (executed : Bool) (text : PyStr)

/-- A `SET` that wrote its key. -/
structure JtiWrite where
  key : PyStr
  time : ℚ
  ttlMs : ℤ

/-- The last moment the key exists. -/
def JtiWrite.deadline (w : JtiWrite) : ℚ := w.time + w.ttlMs / 1000

/-- The end of a call: its result, and what its `SET` wrote. -/
structure Reply where
  call : AuthCall
  result : Except AuthError Unit
  written : Option JtiWrite

namespace Cluster

variable {κ : Type*}

/-- The server executes the `SET` of a call. -/
def set (format : Json → PyStr) (s : Cluster κ) (jti : Json) (exp checkAt : ℚ) :
    Option JtiWrite × RedisJtis :=
  let key := redisJtiKey format jti
  let ttlMs := redisTtlMs exp checkAt
  match redisSet s.db s.clock key ttlMs with
  | (true, db) => (some ⟨key, s.clock, ttlMs⟩, db)
  | (false, db) => (none, db)

/-- A step that leads to another stage or ends the call. -/
def proceed (s : Cluster κ) (id : ℕ) (call : AuthCall) :
    Except AuthError (Stage κ) → Cluster κ × Option Reply
  | .ok stage => ({ s with running := s.running.insert id stage }, none)
  | .error e => ({ s with running := s.running.erase id }, some ⟨call, .error e, none⟩)

/-- The step of `_authenticate` and `_verify_jwt` up to the first reading of the clock. -/
def selectNext (jwt : PyJWT κ) (now : ℚ) (tokenEndpoint : PyStr) (call : AuthCall) :
    Except AuthError (Stage κ) :=
  match resolveJwks call with
  | .error e => .error e
  | .ok jwks =>
    match selectKey jwt call jwks with
    | .error e => .error (.jwtAuth e)
    | .ok (alg, key) => .ok (.keyed tokenEndpoint call alg key now)

/-- The step of `_verify_jwt` up to the replay check. -/
def verifyNext (jwt : PyJWT κ) (now : ℚ) (tokenEndpoint : PyStr) (call : AuthCall) (alg : PyStr)
    (key : κ) (verifyAt : ℚ) : Except AuthError (Stage κ) :=
  match verifyClaims jwt tokenEndpoint call alg key verifyAt now with
  | .error e => .error (.jwtAuth e)
  | .ok payload => .ok (.checked call payload verifyAt)

/-- The step of `_check_and_record_jti_redis` up to the `SET`. -/
def checkNext (now : ℚ) (call : AuthCall) (payload : JsonObject) (verifyAt : ℚ) :
    Except AuthError (Stage κ) :=
  match payload.lookup (PyStr.ofString "jti") with
  | none => .error (.jwtAuth (.verificationFailed .keyError))
  | some jti =>
    match floatOperand ((payload.lookup (PyStr.ofString "exp")).getD
      (.num (verifyAt + jwtMaxLifetimeSeconds))) with
    | .error e => .error (.jwtAuth (.verificationFailed e))
    | .ok exp => .ok (.setting call jti exp now)

/-- One action; it shows the call it ends, if any. -/
def step (jwt : PyJWT κ) (format : Json → PyStr) (s : Cluster κ) :
    Action → Cluster κ × Option Reply
  | .tick now => (if s.clock ≤ now then { s with clock := now } else s, none)
  | .present id tokenEndpoint call =>
    match s.running.lookup id with
    | none => ({ s with running := s.running.insert id (.started tokenEndpoint call) }, none)
    | some _ => (s, none)
  | .advance id =>
    match s.running.lookup id with
    | none => (s, none)
    | some (.started tokenEndpoint call) =>
      s.proceed id call (selectNext jwt s.clock tokenEndpoint call)
    | some (.keyed tokenEndpoint call alg key verifyAt) =>
      s.proceed id call (verifyNext jwt s.clock tokenEndpoint call alg key verifyAt)
    | some (.checked call payload verifyAt) =>
      s.proceed id call (checkNext s.clock call payload verifyAt)
    | some (.setting call jti exp checkAt) =>
      -- `result is True`: the key was written
      let (written, db) := s.set format jti exp checkAt
      let result := if written.isSome then .ok () else .error (.jwtAuth .replay)
      ({ s with db := db, running := s.running.erase id }, some ⟨call, result, written⟩)
  | .failSet id executed text =>
    match s.running.lookup id with
    | some (.setting call jti exp checkAt) =>
      -- the reply is lost, whether or not the command arrived
      let (written, db) := if executed then s.set format jti exp checkAt else (none, s.db)
      let result := .error (.jwtAuth (.verificationFailed (.redis text)))
      ({ s with db := db, running := s.running.erase id }, some ⟨call, result, written⟩)
    | _ => (s, none)

/-- A server without keys and without calls in progress. -/
def start (clock : ℚ) : Cluster κ := ⟨clock, ∅, ∅⟩

end Cluster

/-! ## What a run shows -/

/-- The assertion of an accepted call. -/
def Reply.acceptedAssertion (r : Reply) : Option PyStr :=
  match r.result with
  | .ok () => some r.call.clientAssertion
  | .error _ => none

/-- The calls that have ended, in the order they did. -/
def replies (tr : List (Action × Option Reply)) : List Reply := tr.filterMap Prod.snd

/-- The assertions accepted, once for each acceptance. -/
def acceptedAssertions (tr : List (Action × Option Reply)) : List PyStr :=
  (replies tr).filterMap Reply.acceptedAssertion

/-- The `SET`s that wrote their key. -/
def writes (tr : List (Action × Option Reply)) : List JtiWrite :=
  (replies tr).filterMap Reply.written

theorem replies_concat (tr : List (Action × Option Reply)) (e : Action × Option Reply) :
    replies (tr ++ [e]) = replies tr ++ e.2.toList := by
  obtain ⟨a, o⟩ := e
  cases o <;> simp [replies]

theorem acceptedAssertions_append (tr tr' : List (Action × Option Reply)) :
    acceptedAssertions (tr ++ tr') = acceptedAssertions tr ++ acceptedAssertions tr' := by
  simp [acceptedAssertions, replies]

theorem acceptedAssertions_concat (tr : List (Action × Option Reply))
    (e : Action × Option Reply) :
    acceptedAssertions (tr ++ [e])
      = acceptedAssertions tr ++ (e.2.bind Reply.acceptedAssertion).toList := by
  obtain ⟨a, o⟩ := e
  rw [acceptedAssertions_append]
  cases o with
  | none => rfl
  | some r => cases h : r.acceptedAssertion <;> simp [acceptedAssertions, replies, h]

theorem mem_writes_concat {tr : List (Action × Option Reply)} {e : Action × Option Reply}
    {w : JtiWrite} :
    w ∈ writes (tr ++ [e]) ↔ w ∈ writes tr ∨ e.2.bind Reply.written = some w := by
  rw [writes, replies_concat, List.filterMap_append, ← writes, List.mem_append]
  cases e.2 with
  | none => simp
  | some r => simp

/-! ## A call by itself -/

/-- The actions of a call that runs to its end. -/
def callActions (id : ℕ) (tokenEndpoint : PyStr) (call : AuthCall) : List Action :=
  [.present id tokenEndpoint call, .advance id, .advance id, .advance id, .advance id]

/-- **Alone, a call is the sequential `authenticate`**: run without other actions in between, it
replies once, with the result of `authenticate`, and leaves the keyspace as that does. -/
theorem authenticate_alone {κ : Type*} (jwt : PyJWT κ) (format : Json → PyStr) {s : Cluster κ}
    {id : ℕ} (hid : s.running.lookup id = none) (tokenEndpoint : PyStr) (call : AuthCall) :
    let sequential := authenticate jwt tokenEndpoint (checkAndRecordJtiRedis format) call
      (Readings.constant s.clock) s.db
    let run := callActions id tokenEndpoint call
    Machine.final (Cluster.step jwt format) s run = { s with db := sequential.1 } ∧
      (replies (Machine.trace (Cluster.step jwt format) s run)).map
        (fun reply => (reply.call, reply.result)) = [(call, sequential.2)] := by
  have herase : ∀ stage, (s.running.insert id stage).erase id = s.running :=
    AList.erase_insert_of_lookup_eq_none hid
  simp only [callActions, Machine.final_cons, Machine.final_nil, Machine.trace_cons,
    Machine.trace_nil, Cluster.step, hid, AList.lookup_insert, authenticate, verified,
    Readings.verify_constant, Readings.decode_constant]
  -- stage by stage; a call that has ended ignores the actions that are left
  cases hjwks : resolveJwks call with
  | error e => simp [Cluster.proceed, Cluster.selectNext, hjwks, replies, herase, hid]
  | ok jwks =>
    cases hkey : selectKey jwt call jwks with
    | error e => simp [Cluster.proceed, Cluster.selectNext, hjwks, hkey, replies, herase, hid]
    | ok p =>
      obtain ⟨alg, key⟩ := p
      simp only [Cluster.proceed, Cluster.selectNext, hjwks, hkey, AList.lookup_insert,
        AList.insert_insert]
      cases hclaims : verifyClaims jwt tokenEndpoint call alg key s.clock s.clock with
      | error e => simp [Cluster.verifyNext, hclaims, replies, herase, hid]
      | ok payload =>
        simp only [Cluster.verifyNext, hclaims, AList.lookup_insert, AList.insert_insert,
          recordJti]
        cases hjti : payload.lookup (PyStr.ofString "jti") with
        | none => simp [Cluster.checkNext, hjti, replies, herase, hid]
        | some jti =>
          simp only [Cluster.checkNext, hjti, checkAndRecordJtiRedis, Readings.verify_constant,
            Readings.check_constant, Readings.record_constant]
          cases hexp : floatOperand ((payload.lookup (PyStr.ofString "exp")).getD
              (.num (s.clock + jwtMaxLifetimeSeconds))) with
          | error e => simp [replies, herase, hid]
          | ok exp =>
            simp only [AList.lookup_insert, Cluster.set, herase]
            obtain ⟨written, db, hset⟩ : ∃ written db,
                redisSet s.db s.clock (redisJtiKey format jti) (redisTtlMs exp s.clock)
                  = (written, db) := ⟨_, _, rfl⟩
            simp only [hset]
            cases written <;> simp [replies]

/-! ## One action -/

section Step

variable {κ : Type*} {jwt : PyJWT κ} {format : Json → PyStr}

/-- The `SET` of a call finds its key, or writes it. -/
theorem set_cases (format : Json → PyStr) (s : Cluster κ) (jti : Json) (exp checkAt : ℚ) :
    ((∃ v, Keyspace.read s.db s.clock (redisJtiKey format jti) = some v) ∧
        s.set format jti exp checkAt = (none, s.db)) ∨
      ∃ w : JtiWrite, w = ⟨redisJtiKey format jti, s.clock, redisTtlMs exp checkAt⟩ ∧
        Keyspace.read s.db s.clock w.key = none ∧ s.set format jti exp checkAt
          = (some w, s.db.insert w.key ⟨PyStr.ofString "1", some w.deadline⟩) := by
  unfold Cluster.set redisSet
  cases hread : Keyspace.read s.db s.clock (redisJtiKey format jti) with
  | some v =>
    refine Or.inl ⟨⟨v, rfl⟩, ?_⟩
    simp only [Keyspace.setIfAbsent_of_some hread]
  | none =>
    simp only [Keyspace.setIfAbsent_of_none hread]
    exact Or.inr ⟨_, rfl, hread, rfl⟩

theorem db_proceed (s : Cluster κ) (id : ℕ) (call : AuthCall)
    (next : Except AuthError (Stage κ)) :
    (s.proceed id call next).1.db = s.db ∧ (s.proceed id call next).1.clock = s.clock ∧
      (s.proceed id call next).2.bind Reply.written = none ∧
      (s.proceed id call next).2.bind Reply.acceptedAssertion = none := by
  cases next <;> exact ⟨rfl, rfl, rfl, rfl⟩

/-- **What an action can do to the keyspace**: leave it alone, as the clock may move on; or execute
a `SET` that finds no key, and write it. -/
theorem step_cases (jwt : PyJWT κ) (format : Json → PyStr) (s : Cluster κ) (a : Action) :
    ((Cluster.step jwt format s a).1.db = s.db ∧ s.clock ≤ (Cluster.step jwt format s a).1.clock ∧
      (Cluster.step jwt format s a).2.bind Reply.written = none) ∨
    ∃ w : JtiWrite, w.time = s.clock ∧ Keyspace.read s.db s.clock w.key = none ∧
      (Cluster.step jwt format s a).1.db
        = s.db.insert w.key ⟨PyStr.ofString "1", some w.deadline⟩ ∧
      (Cluster.step jwt format s a).1.clock = s.clock ∧
      (Cluster.step jwt format s a).2.bind Reply.written = some w := by
  cases a with
  | tick now =>
    left
    simp only [Cluster.step]
    by_cases h : s.clock ≤ now
    · rw [if_pos h]
      exact ⟨rfl, h, rfl⟩
    · rw [if_neg h]
      exact ⟨rfl, le_rfl, rfl⟩
  | present id tokenEndpoint call =>
    left
    simp only [Cluster.step]
    split <;> exact ⟨rfl, le_rfl, rfl⟩
  | advance id =>
    simp only [Cluster.step]
    split
    · exact Or.inl ⟨rfl, le_rfl, rfl⟩
    case h_5 call jti exp checkAt _ =>
      rcases set_cases format s jti exp checkAt with ⟨-, hset⟩ | ⟨w, rfl, hfree, hset⟩
      · rw [hset]
        exact Or.inl ⟨rfl, le_rfl, rfl⟩
      · rw [hset]
        exact Or.inr ⟨_, rfl, hfree, rfl, rfl, rfl⟩
    -- the stages before the `SET` do not touch the keyspace
    all_goals
      obtain ⟨hdb, hclock, hwritten, -⟩ := db_proceed s id _ _
      exact Or.inl ⟨hdb, hclock.ge, hwritten⟩
  | failSet id executed text =>
    simp only [Cluster.step]
    split
    case h_1 call jti exp checkAt _ =>
      cases executed with
      | false => exact Or.inl ⟨rfl, le_rfl, rfl⟩
      | true =>
        rcases set_cases format s jti exp checkAt with ⟨-, hset⟩ | ⟨w, rfl, hfree, hset⟩
        · rw [if_pos rfl, hset]
          exact Or.inl ⟨rfl, le_rfl, rfl⟩
        · rw [if_pos rfl, hset]
          exact Or.inr ⟨_, rfl, hfree, rfl, rfl, rfl⟩
    case h_2 => exact Or.inl ⟨rfl, le_rfl, rfl⟩

/-- The assertion a `SET` is about to be sent for, with the key of its `jti`. -/
def Sends (format : Json → PyStr) (s : Cluster κ) (a : Action) (assertion key : PyStr) : Prop :=
  ∃ id call jti exp checkAt, a = .advance id ∧
    s.running.lookup id = some (.setting call jti exp checkAt) ∧
    assertion = call.clientAssertion ∧ key = redisJtiKey format jti

/-- **An action accepts an assertion** iff it is its `SET`, and the key of its `jti` does not
exist. -/
theorem accepts_iff (s : Cluster κ) (a : Action) (assertion : PyStr) :
    (Cluster.step jwt format s a).2.bind Reply.acceptedAssertion = some assertion ↔
      ∃ key, Sends format s a assertion key ∧ Keyspace.read s.db s.clock key = none := by
  constructor
  · intro h
    cases a with
    | tick now => cases h
    | present id tokenEndpoint call =>
      simp only [Cluster.step] at h
      split at h <;> cases h
    | advance id =>
      simp only [Cluster.step] at h
      split at h
      · -- of the stages only the `SET` can answer with an acceptance
        cases h
      case h_5 call jti exp checkAt hstage =>
        rcases set_cases format s jti exp checkAt with ⟨-, hset⟩ | ⟨w, rfl, hfree, hset⟩
        · rw [hset] at h
          cases h
        · rw [hset] at h
          refine ⟨_, ⟨id, call, jti, exp, checkAt, rfl, hstage, ?_, rfl⟩, hfree⟩
          exact (Option.some_inj.mp h).symm
      all_goals
        rw [(db_proceed s id _ _).2.2.2] at h
        cases h
    | failSet id executed text =>
      simp only [Cluster.step] at h
      split at h <;> cases h
  · rintro ⟨key, ⟨id, call, jti, exp, checkAt, rfl, hstage, rfl, rfl⟩, hfree⟩
    -- the key is free, so the `SET` writes it
    simp only [Cluster.step, hstage]
    rcases set_cases format s jti exp checkAt with ⟨⟨v, hv⟩, -⟩ | ⟨w, rfl, -, hset⟩
    · rw [hfree] at hv
      cases hv
    · rw [hset]
      rfl

/-! ## The keys that exist -/

/-- **The invariant on the keyspace**: a key exists exactly while the time to live of one of the
`SET`s that wrote it is running. -/
def KeysInv (s : Cluster κ) (tr : List (Action × Option Reply)) : Prop :=
  Keyspace.Grants s.db s.clock fun key deadline =>
    ∃ w ∈ writes tr, w.key = key ∧ w.deadline = deadline

theorem KeysInv.start (clock : ℚ) : KeysInv (Cluster.start clock : Cluster κ) [] := by
  have hnone : (fun key deadline => ∃ w ∈ writes [], w.key = key ∧ w.deadline = deadline)
      = fun _ _ => False := by
    funext key deadline
    simp [writes, replies]
  rw [KeysInv, hnone]
  exact Keyspace.grants_empty clock

/-- **One action keeps the invariant.** -/
theorem KeysInv.step {s : Cluster κ} {tr : List (Action × Option Reply)} (h : KeysInv s tr)
    (a : Action) :
    KeysInv (Cluster.step jwt format s a).1 (tr ++ [(a, (Cluster.step jwt format s a).2)]) := by
  unfold KeysInv
  simp only [mem_writes_concat]
  rcases step_cases jwt format s a with
    ⟨hdb, hclock, hnone⟩ | ⟨w, -, hfree, hdb, hclock, hwritten⟩
  · rw [hdb, hnone]
    simpa using h.of_le hclock
  · rw [hdb, hclock, hwritten]
    have hgrants := h.insert hfree (PyStr.ofString "1") w.deadline
    convert hgrants using 3 with key deadline
    constructor
    · rintro ⟨w', hw' | hw', hkey, hdeadline⟩
      · exact Or.inl ⟨w', hw', hkey, hdeadline⟩
      · obtain rfl := Option.some_inj.mp hw'
        exact Or.inr ⟨hkey.symm, hdeadline.symm⟩
    · rintro (⟨w', hw', hkey, hdeadline⟩ | ⟨rfl, rfl⟩)
      · exact ⟨w', Or.inl hw', hkey, hdeadline⟩
      · exact ⟨w, Or.inr rfl, rfl, rfl⟩

/-- A key exists iff the time to live of one of its `SET`s is running. -/
theorem KeysInv.exists_iff {s : Cluster κ} {tr : List (Action × Option Reply)} (h : KeysInv s tr)
    (key : PyStr) :
    (∃ v, Keyspace.read s.db s.clock key = some v) ↔
      ∃ w ∈ writes tr, w.key = key ∧ s.clock ≤ w.deadline := by
  rw [Keyspace.Grants.exists_iff h]
  constructor
  · rintro ⟨_, ⟨w, hw, hkey, rfl⟩, hle⟩
    exact ⟨w, hw, hkey, hle⟩
  · rintro ⟨w, hw, hkey, hle⟩
    exact ⟨w.deadline, ⟨w, hw, hkey, rfl⟩, hle⟩

/-- **The condition**: when the `SET` comes for an assertion that was accepted before, the time to
live of its key, counted from the `SET` that wrote it, has not run out. -/
def Covered (format : Json → PyStr) (s : Cluster κ) (tr : List (Action × Option Reply))
    (a : Action) : Prop :=
  ∀ assertion key, Sends format s a assertion key → assertion ∈ acceptedAssertions tr →
    ∃ w ∈ writes tr, w.key = key ∧ s.clock ≤ w.deadline

/-- Under the invariant an action meets the condition iff it accepts nothing anew. -/
theorem covered_iff (jwt : PyJWT κ) {s : Cluster κ} {tr : List (Action × Option Reply)}
    (h : KeysInv s tr) (a : Action) :
    Covered format s tr a ↔
      ∀ assertion, (Cluster.step jwt format s a).2.bind Reply.acceptedAssertion = some assertion →
        assertion ∉ acceptedAssertions tr := by
  constructor
  · intro hcovered assertion haccepts hbefore
    obtain ⟨key, hsends, hfree⟩ := (accepts_iff s a assertion).mp haccepts
    obtain ⟨v, hv⟩ := (h.exists_iff key).mpr (hcovered assertion key hsends hbefore)
    rw [hfree] at hv
    cases hv
  · intro hnew assertion key hsends hbefore
    refine (h.exists_iff key).mp (Option.ne_none_iff_exists'.mp ?_)
    intro hfree
    exact hnew assertion ((accepts_iff s a assertion).mpr ⟨key, hsends, hfree⟩) hbefore

/-! ## Runs -/

/-- **No assertion is accepted twice, exactly in the covered runs**: for any interleaving of the
steps of any number of calls, on any number of authenticators over one Redis server, with any
assertions, and with any failures of the Redis client. -/
theorem nodup_accepted_iff_covered (jwt : PyJWT κ) (format : Json → PyStr) (clock : ℚ)
    (actions : List Action) :
    (acceptedAssertions (Machine.trace (Cluster.step jwt format) (Cluster.start clock)
      actions)).Nodup ↔
      Machine.AllSteps (Cluster.step jwt format) (Covered format) (Cluster.start clock)
        actions := by
  induction actions using List.reverseRecOn with
  | nil => simp [acceptedAssertions, replies, Machine.AllSteps, Machine.AllStepsFrom]
  | append_singleton actions a ih =>
    have hinv := Machine.trace_invariant (Cluster.step jwt format) KeysInv
      (fun s tr a h => h.step a) (KeysInv.start clock) actions
    rw [Machine.allSteps_concat, ← ih, Machine.trace_append, Machine.trace_cons,
      Machine.trace_nil, acceptedAssertions_concat, List.nodup_append, covered_iff jwt hinv]
    cases (Cluster.step jwt format (Machine.final (Cluster.step jwt format) (Cluster.start clock)
      actions) a).2.bind Reply.acceptedAssertion with
    | none => simp
    | some assertion => simp [List.forall_mem_ne']

end Step

/-! ## When a time to live is long enough -/

/-- The time to live in seconds, before it is rounded up to milliseconds. -/
theorem le_redisTtlMs (exp t : ℚ) :
    min (max 0 (exp - t) + jwtMaxClockSkewSeconds) jwtReplayCacheMaxTtlSeconds
      ≤ (redisTtlMs exp t : ℚ) / 1000 := by
  rw [le_div_iff₀ (by norm_num)]
  exact Int.le_ceil _

/-- The cap on the time to live is a whole number of milliseconds. -/
theorem redisTtlMs_of_lt {exp t : ℚ} (h : t + jwtMaxLifetimeSeconds < exp) :
    redisTtlMs exp t = 360000 := by
  have hcap : min (max 0 (exp - t) + jwtMaxClockSkewSeconds) jwtReplayCacheMaxTtlSeconds = 360 := by
    simp only [jwtReplayCacheMaxTtlSeconds, jwtMaxLifetimeSeconds, jwtMaxClockSkewSeconds] at h ⊢
    rw [min_eq_right]
    · norm_num
    · have hmax := le_max_right 0 (exp - t)
      linarith
  have hcast : (360 : ℚ) * 1000 = ((360000 : ℤ) : ℚ) := by norm_num
  rw [redisTtlMs, hcap, hcast, Int.ceil_intCast]

/-- **The time to live against the window**: a key set at `t` outlives every later moment at which
the assertion would be accepted, iff the assertion is not issued in the future, or has at most 300
seconds to live. -/
theorem window_le_ttl_iff (iat exp t : ℚ) :
    (∀ later, later - jwtMaxClockSkewSeconds < exp →
      later - iat ≤ jwtMaxLifetimeSeconds + jwtMaxClockSkewSeconds →
      later ≤ t + (redisTtlMs exp t : ℚ) / 1000) ↔
      iat ≤ t ∨ exp ≤ t + jwtMaxLifetimeSeconds := by
  constructor
  · intro h
    by_contra hneg
    obtain ⟨hiat, hexp⟩ := not_or.mp hneg
    -- the cap applies, and between it and the end of the window there is room
    rw [redisTtlMs_of_lt (not_le.mp hexp)] at h
    simp only [jwtMaxLifetimeSeconds, jwtMaxClockSkewSeconds] at h hexp
    have hlate := h (min (iat + 360) ((t + exp + 420) / 2)) ?_ ?_
    · norm_num at hlate
      rcases hlate with hlate | hlate
      · exact hiat (by linarith)
      · exact hexp (by linarith)
    · have hmin := min_le_right (iat + 360) ((t + exp + 420) / 2)
      linarith
    · have hmin := min_le_left (iat + 360) ((t + exp + 420) / 2)
      linarith
  · intro h later hexp hage
    have hlater : later - t
        ≤ min (max 0 (exp - t) + jwtMaxClockSkewSeconds) jwtReplayCacheMaxTtlSeconds := by
      apply le_min
      · have hmax := le_max_right 0 (exp - t)
        linarith
      · simp only [jwtReplayCacheMaxTtlSeconds, jwtMaxLifetimeSeconds, jwtMaxClockSkewSeconds]
          at h hexp hage ⊢
        rcases h with h | h
        · linarith
        · linarith
    exact sub_le_iff_le_add'.mp (hlater.trans (le_redisTtlMs exp t))

/-! ## Timely runs -/

section Timely

variable {κ : Type*} {jwt : PyJWT κ} {format : Json → PyStr} {claims : PyStr → JsonObject}
  {verifies : κ → PyStr → PyStr → ℚ → Prop}

/-- **A condition on the times alone**: a `SET` executes within the window of its assertion, and the
assertion is not issued after the reading its time to live is computed from, or expires within 300
seconds of it. -/
def Timely (claims : PyStr → JsonObject) (s : Cluster κ) (a : Action) : Prop :=
  ∀ id call jti exp checkAt, a = .advance id →
    s.running.lookup id = some (.setting call jti exp checkAt) →
    InWindow (claims call.clientAssertion) (Readings.constant s.clock) ∧
      ∀ iat, (Json.member (claims call.clientAssertion) "iat").num? = some iat →
        iat ≤ checkAt ∨ exp ≤ checkAt + jwtMaxLifetimeSeconds

/-- What a call in progress has established. -/
def StageOk (claims : PyStr → JsonObject) (clock : ℚ) : Stage κ → Prop
  | .started _ _ => True
  | .keyed _ _ _ _ _ => True
  | .checked call payload _ => payload = claims call.clientAssertion ∧
      ∀ name ∈ requiredClaims, Json.member payload name ≠ .null
  | .setting call jti exp checkAt => Json.member (claims call.clientAssertion) "jti" = jti ∧
      (Json.member (claims call.clientAssertion) "exp").num? = some exp ∧ checkAt ≤ clock

/-- What is established stays so as time passes. -/
theorem StageOk.of_le {clock later : ℚ} (hle : clock ≤ later) {stage : Stage κ}
    (h : StageOk claims clock stage) : StageOk claims later stage := by
  cases stage with
  | started | keyed => trivial
  | checked call payload verifyAt => exact h
  | setting call jti exp checkAt => exact ⟨h.1, h.2.1, le_trans h.2.2 hle⟩

/-- Each step of a call establishes what the next stage rests on. -/
theorem stageOk_selectNext {now : ℚ} {tokenEndpoint : PyStr} {call : AuthCall} {stage : Stage κ}
    (h : Cluster.selectNext jwt now tokenEndpoint call = .ok stage) : StageOk claims now stage := by
  unfold Cluster.selectNext at h
  split at h
  · cases h
  · split at h
    · cases h
    · obtain rfl := Except.ok.inj h
      trivial

theorem stageOk_verifyNext (hjwt : jwt.Documented claims verifies) {now : ℚ}
    {tokenEndpoint : PyStr} {call : AuthCall} {alg : PyStr} {key : κ} {verifyAt : ℚ}
    {stage : Stage κ}
    (h : Cluster.verifyNext jwt now tokenEndpoint call alg key verifyAt = .ok stage) :
    StageOk claims now stage := by
  unfold Cluster.verifyNext at h
  split at h
  · cases h
  case h_2 payload hclaims =>
    obtain rfl := Except.ok.inj h
    obtain ⟨hpayload, -, haccepted, -, -⟩ := verifyClaims_sound hjwt hclaims
    exact ⟨hpayload, haccepted.present⟩

theorem stageOk_checkNext {now : ℚ} {call : AuthCall} {payload : JsonObject} {verifyAt : ℚ}
    {stage : Stage κ} (hok : StageOk claims now (.checked call payload verifyAt : Stage κ))
    (h : Cluster.checkNext now call payload verifyAt = .ok stage) : StageOk claims now stage := by
  obtain ⟨rfl, hpresent⟩ := hok
  have hjti := Json.lookup_of_member_ne_null (hpresent "jti" (by simp [requiredClaims]))
  have hexp := Json.lookup_of_member_ne_null (hpresent "exp" (by simp [requiredClaims]))
  simp only [Cluster.checkNext, hjti, hexp, Option.getD_some] at h
  split at h
  · cases h
  case h_2 exp hoperand =>
    obtain rfl := Except.ok.inj h
    exact ⟨rfl, (floatOperand_eq_ok.mp hoperand).1, le_rfl⟩

/-- Every call in progress has established what its stage rests on. -/
def StagesInv (claims : PyStr → JsonObject) (s : Cluster κ) : Prop :=
  ∀ id stage, s.running.lookup id = some stage → StageOk claims s.clock stage

theorem StagesInv.insert {s : Cluster κ} (h : StagesInv claims s) {stage : Stage κ}
    (hok : StageOk claims s.clock stage) (db : RedisJtis) (id : ℕ) :
    StagesInv claims (⟨s.clock, db, s.running.insert id stage⟩ : Cluster κ) :=
  AList.forall_lookup_insert h hok

theorem StagesInv.erase {s : Cluster κ} (h : StagesInv claims s) (db : RedisJtis) (id : ℕ) :
    StagesInv claims (⟨s.clock, db, s.running.erase id⟩ : Cluster κ) :=
  AList.forall_lookup_erase h id

theorem StagesInv.proceed {s : Cluster κ} (h : StagesInv claims s) (id : ℕ) (call : AuthCall)
    {next : Except AuthError (Stage κ)}
    (hnext : ∀ stage, next = .ok stage → StageOk claims s.clock stage) :
    StagesInv claims (s.proceed id call next).1 := by
  cases next with
  | ok stage => exact h.insert (hnext stage rfl) s.db id
  | error e => exact h.erase s.db id

/-- **One action keeps what the calls have established.** -/
theorem StagesInv.step (hjwt : jwt.Documented claims verifies) {s : Cluster κ}
    (h : StagesInv claims s) (a : Action) :
    StagesInv claims (Cluster.step jwt format s a).1 := by
  cases a with
  | tick now =>
    simp only [Cluster.step]
    by_cases hle : s.clock ≤ now
    · rw [if_pos hle]
      exact fun id stage hstage => (h id stage hstage).of_le hle
    · rw [if_neg hle]
      exact h
  | present id tokenEndpoint call =>
    simp only [Cluster.step]
    split
    · have hstarted : StageOk claims s.clock (.started tokenEndpoint call : Stage κ) := trivial
      exact h.insert hstarted s.db id
    · exact h
  | advance id =>
    simp only [Cluster.step]
    split
    case h_1 => exact h
    case h_2 => exact h.proceed id _ fun stage hstage => stageOk_selectNext hstage
    case h_3 => exact h.proceed id _ fun stage hstage => stageOk_verifyNext hjwt hstage
    case h_4 call payload verifyAt hchecked =>
      exact h.proceed id _ fun stage hstage => stageOk_checkNext (h id _ hchecked) hstage
    case h_5 => exact h.erase _ id
  | failSet id executed text =>
    simp only [Cluster.step]
    split
    · exact h.erase _ id
    · exact h

/-- The time to live of some `SET` of its `jti` covers the whole window of an assertion. -/
def Protected (format : Json → PyStr) (claims : PyStr → JsonObject)
    (tr : List (Action × Option Reply)) (assertion : PyStr) : Prop :=
  ∃ w ∈ writes tr, w.key = redisJtiKey format (Json.member (claims assertion) "jti") ∧
    ∀ later, InWindow (claims assertion) (Readings.constant later) → later ≤ w.deadline

/-- **The invariant of timely runs**: accepted assertions are protected. -/
structure TimelyInv (format : Json → PyStr) (claims : PyStr → JsonObject) (s : Cluster κ)
    (tr : List (Action × Option Reply)) : Prop where
  stages : StagesInv claims s
  guarded : ∀ assertion ∈ acceptedAssertions tr, Protected format claims tr assertion

/-- A timely action is covered. -/
theorem covered_of_timely {s : Cluster κ} {tr : List (Action × Option Reply)} {a : Action}
    (h : TimelyInv format claims s tr) (htimely : Timely claims s a) :
    Covered format s tr a := by
  rintro assertion key ⟨id, call, jti, exp, checkAt, ha, hstage, rfl, rfl⟩ hbefore
  obtain ⟨hwindow, -⟩ := htimely id call jti exp checkAt ha hstage
  obtain ⟨hjti, -, -⟩ := h.stages id _ hstage
  obtain ⟨w, hw, hkey, hcovers⟩ := h.guarded _ hbefore
  refine ⟨w, hw, ?_, hcovers _ hwindow⟩
  rw [hkey, hjti]

/-- A timely acceptance protects its assertion. -/
theorem protected_of_timely {s : Cluster κ} {a : Action} (hstages : StagesInv claims s)
    (htimely : Timely claims s a) {assertion : PyStr}
    (haccepts : (Cluster.step jwt format s a).2.bind Reply.acceptedAssertion = some assertion)
    (tr : List (Action × Option Reply)) :
    Protected format claims (tr ++ [(a, (Cluster.step jwt format s a).2)]) assertion := by
  obtain ⟨key, ⟨id, call, jti, exp, checkAt, rfl, hstage, rfl, rfl⟩, hfree⟩ :=
    (accepts_iff s a assertion).mp haccepts
  obtain ⟨⟨exp', iat, hexp', hiat, -, -⟩, hissued⟩ := htimely id call jti exp checkAt rfl hstage
  obtain ⟨hjti, hexp, hcheck⟩ := hstages id _ hstage
  have hwritten : (Cluster.step jwt format s (.advance id)).2.bind Reply.written
      = some ⟨redisJtiKey format jti, s.clock, redisTtlMs exp checkAt⟩ := by
    simp only [Cluster.step, hstage]
    rcases set_cases format s jti exp checkAt with ⟨⟨v, hv⟩, -⟩ | ⟨w, rfl, -, hset⟩
    · rw [hfree] at hv
      cases hv
    · rw [hset]
      rfl
  refine ⟨_, mem_writes_concat.mpr (Or.inr hwritten), by rw [hjti], ?_⟩
  rintro later ⟨exp'', iat'', hexp'', hiat'', hexpires, hage⟩
  obtain rfl := Option.some_inj.mp (hexp.symm.trans hexp'')
  -- the `SET` executes no earlier than its time to live was computed
  have hcovered := (window_le_ttl_iff iat'' exp checkAt).mpr (hissued iat'' hiat'') later hexpires
    hage
  show later ≤ s.clock + (redisTtlMs exp checkAt : ℚ) / 1000
  linarith

/-- A `SET` stays in the record. -/
theorem Protected.concat {tr : List (Action × Option Reply)} {assertion : PyStr}
    (h : Protected format claims tr assertion) (e : Action × Option Reply) :
    Protected format claims (tr ++ [e]) assertion := by
  obtain ⟨w, hw, hrest⟩ := h
  exact ⟨w, mem_writes_concat.mpr (Or.inl hw), hrest⟩

/-- **One timely action keeps the invariant.** -/
theorem TimelyInv.step (hjwt : jwt.Documented claims verifies) {s : Cluster κ}
    {tr : List (Action × Option Reply)} (h : TimelyInv format claims s tr) {a : Action}
    (htimely : Timely claims s a) :
    TimelyInv format claims (Cluster.step jwt format s a).1
      (tr ++ [(a, (Cluster.step jwt format s a).2)]) := by
  refine ⟨h.stages.step hjwt a, ?_⟩
  intro assertion hassertion
  rw [acceptedAssertions_concat, List.mem_append, Option.mem_toList] at hassertion
  rcases hassertion with hbefore | hnow
  · exact (h.guarded assertion hbefore).concat _
  · exact protected_of_timely h.stages htimely hnow tr

/-- **Timely runs are covered.** -/
theorem allSteps_covered_of_timely (hjwt : jwt.Documented claims verifies)
    (format : Json → PyStr) (clock : ℚ) (actions : List Action)
    (htimely : Machine.AllSteps (Cluster.step jwt format) (fun s _ a => Timely claims s a)
      (Cluster.start clock) actions) :
    Machine.AllSteps (Cluster.step jwt format) (Covered format) (Cluster.start clock)
      actions := by
  have hinit : TimelyInv format claims (Cluster.start clock : Cluster κ) [] := by
    refine ⟨?_, by simp [acceptedAssertions, replies]⟩
    intro id stage hstage
    have hnone : (Cluster.start clock : Cluster κ).running.lookup id = none := AList.lookup_empty id
    rw [hnone] at hstage
    cases hstage
  exact (Machine.allSteps_of_invariant (Cluster.step jwt format) (TimelyInv format claims)
    (fun s tr a h htimely => h.step hjwt htimely)
    (fun s tr a h htimely => covered_of_timely h htimely) hinit htimely).2

/-- **No assertion is accepted twice** in a timely run: for any interleaving of the steps of any
number of calls, on any number of authenticators over one Redis server, with any assertions, and
with any failures of the Redis client. -/
theorem no_replay_across_replicas (hjwt : jwt.Documented claims verifies) (format : Json → PyStr)
    (clock : ℚ) (actions : List Action)
    (htimely : Machine.AllSteps (Cluster.step jwt format) (fun s _ a => Timely claims s a)
      (Cluster.start clock) actions) :
    (acceptedAssertions (Machine.trace (Cluster.step jwt format) (Cluster.start clock)
      actions)).Nodup :=
  (nodup_accepted_iff_covered jwt format clock actions).mpr
    (allSteps_covered_of_timely hjwt format clock actions htimely)

end Timely

/-! ## Two presentations -/

section Tests

variable {κ : Type*} (claims : PyStr → JsonObject)

/-- A test of `Timely`. -/
def timely (s : Cluster κ) : Action → Bool
  | .advance id =>
    match s.running.lookup id with
    | some (.setting call _ exp checkAt) =>
      InWindow (claims call.clientAssertion) (Readings.constant s.clock) ∧
        ∀ iat ∈ (Json.member (claims call.clientAssertion) "iat").num?,
          iat ≤ checkAt ∨ exp ≤ checkAt + jwtMaxLifetimeSeconds
    | _ => true
  | _ => true

theorem timely_iff (s : Cluster κ) (a : Action) : timely claims s a = true ↔ Timely claims s a := by
  cases a with
  | tick | present | failSet => simp [timely, Timely]
  | advance id =>
    constructor
    · rintro h _ call jti exp checkAt ha hstage
      obtain rfl := Action.advance.inj ha
      simpa [timely, hstage] using h
    · intro h
      cases hstage : s.running.lookup id with
      | none => simp [timely, hstage]
      | some stage =>
        cases stage with
        | started | keyed | checked => simp [timely, hstage]
        | setting call jti exp checkAt =>
          simpa [timely, hstage] using h id call jti exp checkAt rfl hstage

instance (s : Cluster κ) (a : Action) : Decidable (Timely claims s a) :=
  decidable_of_iff _ (timely_iff claims s a)

end Tests

/-- An accepted call by itself: its `SET` writes the key. -/
theorem accepted_alone {κ : Type*} (jwt : PyJWT κ) (format : Json → PyStr) {s : Cluster κ} {id : ℕ}
    (hid : s.running.lookup id = none) {tokenEndpoint : PyStr} {call : AuthCall}
    {payload : JsonObject} {jti : Json} {exp : ℚ} (hfits : FitsFloat exp)
    (hverified : verified jwt tokenEndpoint call s.clock s.clock = .ok payload)
    (hjti : payload.lookup (PyStr.ofString "jti") = some jti)
    (hexp : payload.lookup (PyStr.ofString "exp") = some (.num exp))
    (hfree : Keyspace.read s.db s.clock (redisJtiKey format jti) = none) :
    let run := callActions id tokenEndpoint call
    let w : JtiWrite := ⟨redisJtiKey format jti, s.clock, redisTtlMs exp s.clock⟩
    Machine.final (Cluster.step jwt format) s run
        = { s with db := s.db.insert w.key ⟨PyStr.ofString "1", some w.deadline⟩ } ∧
      acceptedAssertions (Machine.trace (Cluster.step jwt format) s run)
        = [call.clientAssertion] := by
  intro run w
  obtain ⟨hfinal, hreplies⟩ := authenticate_alone jwt format hid tokenEndpoint call
  have hoperand : floatOperand (.num exp) = .ok exp := floatOperand_eq_ok.mpr ⟨rfl, hfits⟩
  -- step by step the call is the sequential one
  have hseq : authenticate jwt tokenEndpoint (checkAndRecordJtiRedis format) call
      (Readings.constant s.clock) s.db
      = (s.db.insert w.key ⟨PyStr.ofString "1", some w.deadline⟩, .ok ()) := by
    simp only [authenticate, Readings.verify_constant, Readings.decode_constant, hverified,
      recordJti, hjti, hexp, Option.getD_some, checkAndRecordJtiRedis,
      hoperand, Readings.check_constant, Readings.record_constant, redisSet,
      Keyspace.setIfAbsent_of_none hfree]
    rfl
  rw [hseq] at hfinal hreplies
  obtain ⟨reply, hreply, hpair⟩ := List.map_eq_singleton_iff.mp hreplies
  obtain ⟨hcall, hresult⟩ := Prod.mk.inj hpair
  refine ⟨hfinal, ?_⟩
  rw [acceptedAssertions, hreply]
  simp [Reply.acceptedAssertion, hcall, hresult]

/-- Two replicas are presented the sample assertion: at second 0, and at the given second. -/
def twoPresentations (t : ℚ) : List Action :=
  callActions 1 (PyStr.ofString "token") (sampleCall [.obj sampleKey]) ++
    .tick t :: callActions 2 (PyStr.ofString "token") (sampleCall [.obj sampleKey])

/-- An assertion issued at second 0 for five minutes, presented again at second 100, is accepted
once. -/
theorem no_replay_across_replicas_hundredSeconds :
    (acceptedAssertions (Machine.trace (Cluster.step (claimsJwt fun _ => sampleClaims 0 300)
      fun _ => []) (Cluster.start 0) (twoPresentations 100))).Nodup := by
  refine no_replay_across_replicas (documented_claimsJwt _) _ 0 _ ?_
  decide +kernel

/-! ## An assertion from the future -/

/-- The library on an assertion issued at second 60 that expires at second 600. -/
def futureJwt : PyJWT Unit := claimsJwt fun _ => sampleClaims 60 600

/-- **Accepted twice**: the key is gone after 360 seconds, when the assertion is 300 seconds old. -/
theorem replay_after_ttl :
    futureJwt.Documented (fun _ => sampleClaims 60 600) (fun _ _ _ _ => True) ∧
    ¬ (acceptedAssertions (Machine.trace (Cluster.step futureJwt fun _ => []) (Cluster.start 0)
      (twoPresentations 361))).Nodup := by
  refine ⟨documented_claimsJwt _, ?_⟩
  have hjti := lookup_jti_sampleClaims 60 600
  have hexp := lookup_exp_sampleClaims 60 600
  have hfits : FitsFloat 600 := by decide +kernel
  -- the first presentation, a minute before the assertion is issued
  have hverified : ∀ t : ℚ, 0 ≤ t → t ≤ 420 →
      verified futureJwt (PyStr.ofString "token") (sampleCall [.obj sampleKey]) t t
        = .ok (sampleClaims 60 600) :=
    fun t hle hge =>
      verified_sampleCall (by decide +kernel) (by linarith) (by linarith) (by linarith)
  have hid : (Cluster.start 0 : Cluster Unit).running.lookup 1 = none := rfl
  obtain ⟨hfinal, hfirst⟩ := accepted_alone futureJwt (fun _ => []) hid hfits
    (hverified 0 (by norm_num) (by norm_num)) hjti hexp (Keyspace.read_empty _ _)
  -- the second, a second after the key has gone
  set s := Machine.final (Cluster.step futureJwt fun _ => []) (Cluster.start 0)
    (callActions 1 (PyStr.ofString "token") (sampleCall [.obj sampleKey])) with hs
  have htick : Cluster.step futureJwt (fun _ => []) s (.tick 361)
      = ({ s with clock := 361 }, none) := by
    simp [Cluster.step, hfinal, Cluster.start]
  have hfree : Keyspace.read s.db 361 (redisJtiKey (fun _ => []) (.str (PyStr.ofString "j")))
      = none := by
    rw [hfinal, Keyspace.read_insert_self, redisTtlMs_of_lt]
    · norm_num [Keyspace.alive, JtiWrite.deadline, Cluster.start]
    · norm_num [jwtMaxLifetimeSeconds, Cluster.start]
  have hid' : ({ s with clock := 361 } : Cluster Unit).running.lookup 2 = none := by
    rw [hfinal]
    rfl
  obtain ⟨-, hsecond⟩ := accepted_alone futureJwt (fun _ => []) hid' hfits
    (hverified 361 (by norm_num) (by norm_num)) hjti hexp hfree
  have hquiet : ∀ tr, acceptedAssertions ((Action.tick 361, none) :: tr) = acceptedAssertions tr :=
    fun _ => rfl
  rw [twoPresentations, Machine.trace_append, acceptedAssertions_append, hfirst, ← hs,
    Machine.trace_cons, htick, hquiet, hsecond]
  simp

end McpAuthflow.ClientAuth
