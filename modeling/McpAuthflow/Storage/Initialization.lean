import McpAuthflow.Foundations.Machine
import McpAuthflow.Storage.Schema

/-! # A failed `initialize` and the pool it leaves behind

`initialize` checks the database URL, creates the pool, assigns it and then checks the schema over
it; nothing takes the pool back when that last step raises. The lifecycle of one storage is a
machine here: its calls are `initialize`, `close` and the token operations, each with what the
driver does during it (`LifecycleCall`). A storage without a pool refuses every token operation
(`step_token_of_no_pool`), so all depends on the pool:

* **`initialization_all_or_nothing_iff`** — in a run, a failed `initialize` leaves the storage
  without a pool until one succeeds, iff no `initialize` of the run fails after it created the pool
  (`FailsLate`);
* **`drifted_schema_used`** — after a `SchemaDriftError` the storage answers as if it were
  initialized. -/

namespace McpAuthflow.Storage

/-! ## The lifecycle -/

/-- `self.database_url`: `database_url or os.environ.get("DATABASE_URL")`. -/
def databaseUrl (argument environ : Option PyStr) : Option PyStr :=
  match argument with
  | none => environ
  | some url => if url.isEmpty then environ else some url

/-- `if not self.database_url`. -/
def urlMissing (url : Option PyStr) : Bool :=
  match url with
  | none => true
  | some url => url.isEmpty

/-- The text of the `StorageConfigError`. -/
def configMessage : String := "DATABASE_URL environment variable is required for token storage"

namespace PostgresTokenStorage

variable {ε : Type}

/-- `initialize`; `createPool` and `query` are what the driver does in the two awaited calls. -/
def initializeStorage (url : Option PyStr) (createPool : Except ε Unit)
    (query : Except ε (List SchemaRow)) (s : PostgresTokenStorage) :
    PostgresTokenStorage × Except (InitError ε) Unit :=
  if urlMissing url then (s, .error (.config configMessage))
  else
    match createPool with
    | .error e => (s, .error (.driver e))
    | .ok () =>
      -- the pool is assigned before the schema has been checked
      let s := { s with pool := true }
      (s, verifySchema s query)

/-- `close`; a pool that fails to close stays. -/
def close (closePool : Except ε Unit) (s : PostgresTokenStorage) :
    PostgresTokenStorage × Except ε Unit :=
  if s.pool then
    match closePool with
    | .error e => (s, .error e)
    | .ok () => ({ s with pool := false }, .ok ())
  else (s, .ok ())

end PostgresTokenStorage

/-- A call on a storage, with what the driver does during it. -/
inductive LifecycleCall (ε : Type) where
  | initializeStorage (createPool : Except ε Unit) (query : Except ε (List SchemaRow))
  | close (closePool : Except ε Unit)
  /-- A token operation; `failure` is the exception of the driver, if its statement fails. -/
  | token (now : ℚ) (op : TokenOp) (failure : Option ε)

/-- How a call ends. -/
inductive Outcome (ε : Type) where
  | initialized (result : Except (InitError ε) Unit)
  | closed (result : Except ε Unit)
  | answered (result : Result)
  /-- A token operation that raised an exception of the driver. -/
  | failed (error : ε)
  deriving DecidableEq

variable {ε : Type} (sha256 : List UInt8 → PyStr) (url : Option PyStr)

/-- One call. A token operation that would return finds the driver failing instead; whatever it
raises before its statement it still raises. -/
def lifecycleStep (s : PostgresTokenStorage) : LifecycleCall ε → PostgresTokenStorage × Outcome ε
  | .initializeStorage createPool query =>
    let (s, result) := s.initializeStorage url createPool query
    (s, .initialized result)
  | .close closePool =>
    let (s, result) := s.close closePool
    (s, .closed result)
  | .token now op failure =>
    match s.tokenStep sha256 now op, failure with
    | (_, .ok _), some e => (s, .failed e)
    | (s, result), _ => (s, .answered result)

/-! ## What a call does to the pool -/

/-- Whether a call ended as a successful `initialize`. -/
def Outcome.succeeded : Outcome ε → Bool
  | .initialized (.ok ()) => true
  | _ => false

/-- An `initialize` that fails after it created the pool: the query raises, or finds drift. -/
def FailsLate (createPool : Except ε Unit) (query : Except ε (List SchemaRow)) : Prop :=
  urlMissing url = false ∧ createPool = .ok () ∧
    match query with
    | .error _ => True
    | .ok rows => checkSchema (ε := ε) rows ≠ .ok ()

/-- **Without a pool** every token operation raises `StorageNotInitializedError` and changes
nothing. -/
theorem tokenStep_of_no_pool {s : PostgresTokenStorage} (h : s.pool = false) (now : ℚ)
    (op : TokenOp) :
    s.tokenStep sha256 now op = (s, .error (.notInitialized notInitializedMessage)) := by
  have hrequire : s.requirePool = .error (.notInitialized notInitializedMessage) := by
    simp [PostgresTokenStorage.requirePool, h]
  -- every operation asks for the pool first, by itself or for its table
  have hkeyed : ∀ kind token, s.keyedTable sha256 kind token
      = .error (.notInitialized notInitializedMessage) := by
    intro kind token
    rw [PostgresTokenStorage.keyedTable, hrequire]
    rfl
  have hopen : ∀ kind, s.openTable kind = .error (.notInitialized notInitializedMessage) := by
    intro kind
    rw [PostgresTokenStorage.openTable, hrequire]
    rfl
  cases op with
  | store kind args =>
    rw [PostgresTokenStorage.tokenStep_store_eq, PostgresTokenStorage.storeTo, hrequire]
    rfl
  | load kind token =>
    rw [PostgresTokenStorage.tokenStep_load_eq, PostgresTokenStorage.loadFrom, hkeyed]
    rfl
  | delete kind token =>
    rw [PostgresTokenStorage.tokenStep_delete_eq, PostgresTokenStorage.deleteFrom, hkeyed]
    rfl
  | cleanup kind =>
    rw [PostgresTokenStorage.tokenStep_cleanup_eq, PostgresTokenStorage.cleanupFrom, hopen]
    rfl
  | revokeClientTokens clientId =>
    rw [PostgresTokenStorage.tokenStep, PostgresTokenStorage.revokeClientTokens, hrequire]
    rfl
  | count kind =>
    rw [PostgresTokenStorage.tokenStep_count_eq, PostgresTokenStorage.countOf, hopen]
    rfl

/-- The same through the lifecycle, whatever the driver would have done. -/
theorem step_token_of_no_pool {s : PostgresTokenStorage} (h : s.pool = false) (now : ℚ)
    (op : TokenOp) (failure : Option ε) :
    lifecycleStep sha256 url s (.token now op failure)
      = (s, .answered (.error (.notInitialized notInitializedMessage))) := by
  simp only [lifecycleStep, tokenStep_of_no_pool sha256 h]

/-- An `initialize` without a URL, or whose pool is not created, raises and changes nothing. -/
theorem initializeStorage_of_not_created {createPool : Except ε Unit}
    (h : urlMissing url = true ∨ createPool ≠ .ok ()) (query : Except ε (List SchemaRow))
    (s : PostgresTokenStorage) :
    ∃ e, s.initializeStorage url createPool query = (s, .error e) := by
  unfold PostgresTokenStorage.initializeStorage
  by_cases hurl : urlMissing url = true
  · exact ⟨.config configMessage, if_pos hurl⟩
  · cases createPool with
    | error e => exact ⟨.driver e, if_neg hurl⟩
    | ok _ => exact absurd rfl (h.resolve_left hurl)

/-- An `initialize` whose pool is created ends as its schema check does, and keeps the pool. -/
theorem initializeStorage_of_created (hurl : urlMissing url = false)
    (query : Except ε (List SchemaRow)) (s : PostgresTokenStorage) :
    s.initializeStorage url (.ok ()) query
      = ({ s with pool := true }, verifySchema { s with pool := true } query) := by
  simp [PostgresTokenStorage.initializeStorage, hurl]

/-- The schema check over a pool returns unless the query raises or finds drift. -/
theorem verifySchema_ne_ok_iff {s : PostgresTokenStorage} (hpool : s.pool = true)
    {query : Except ε (List SchemaRow)} (hurl : urlMissing url = false) :
    verifySchema s query ≠ .ok () ↔ FailsLate url (.ok ()) query := by
  cases query <;> simp [FailsLate, verifySchema, hpool, hurl]

/-- **One call without a pool** leaves the storage without one, unless it is an `initialize` that
succeeds or fails late. -/
theorem pool_step_of_no_pool {s : PostgresTokenStorage} (h : s.pool = false) {a : LifecycleCall ε}
    (hlate : ∀ createPool query,
      a = .initializeStorage createPool query → ¬ FailsLate url createPool query)
    (hfailed : (lifecycleStep sha256 url s a).2.succeeded = false) :
    (lifecycleStep sha256 url s a).1.pool = false := by
  cases a with
  | token now op failure =>
    rw [step_token_of_no_pool sha256 url h]
    exact h
  | close closePool =>
    simp [lifecycleStep, PostgresTokenStorage.close, h]
  | initializeStorage createPool query =>
    by_cases hcreated : urlMissing url = true ∨ createPool ≠ .ok ()
    · obtain ⟨e, hinit⟩ := initializeStorage_of_not_created url hcreated query s
      simp only [lifecycleStep, hinit]
      exact h
    · -- the pool is there, so the rest succeeded
      push Not at hcreated
      obtain ⟨hurl, rfl⟩ := hcreated
      have hurl : urlMissing url = false := by simpa using hurl
      have hcheck : verifySchema { s with pool := true } query = .ok () := by
        by_contra hraised
        exact hlate _ _ rfl ((verifySchema_ne_ok_iff url rfl hurl).mp hraised)
      rw [lifecycleStep, initializeStorage_of_created url hurl, hcheck] at hfailed
      exact absurd hfailed (by simp [Outcome.succeeded])

/-- An `initialize` that fails late raises and leaves the pool. -/
theorem step_of_failsLate {createPool : Except ε Unit} {query : Except ε (List SchemaRow)}
    (h : FailsLate url createPool query) (s : PostgresTokenStorage) :
    (lifecycleStep sha256 url s (.initializeStorage createPool query)).1.pool = true ∧
      (lifecycleStep sha256 url s (.initializeStorage createPool query)).2.succeeded = false := by
  obtain ⟨hurl, rfl, -⟩ := id h
  have hcheck := (verifySchema_ne_ok_iff (s := { s with pool := true }) url rfl hurl).mpr h
  rw [lifecycleStep, initializeStorage_of_created url hurl]
  refine ⟨rfl, ?_⟩
  cases hresult : verifySchema { s with pool := true } query with
  | error e => rfl
  | ok _ => exact absurd hresult hcheck

/-! ## Whole runs -/

/-- **A failed `initialize` leaves the storage uninitialized**: after an `initialize` without a pool
that raised, and until one succeeds, there is no pool and every token operation raises
`StorageNotInitializedError`. -/
def AllOrNothing (s : PostgresTokenStorage) (actions : List (LifecycleCall ε)) : Prop :=
  ∀ pre createPool query mid post,
    actions = pre ++ .initializeStorage createPool query :: (mid ++ post) →
    let before := Machine.final (lifecycleStep sha256 url) s pre
    let failed := lifecycleStep sha256 url before (.initializeStorage createPool query)
    before.pool = false → failed.2.succeeded = false →
    (∀ outcome ∈ Machine.outputs (lifecycleStep sha256 url) failed.1 mid,
      outcome.succeeded = false) →
    let after := Machine.final (lifecycleStep sha256 url) failed.1 mid
    after.pool = false ∧ ∀ now op (failure : Option ε),
      (lifecycleStep sha256 url after (.token now op failure)).2
        = .answered (.error (.notInitialized notInitializedMessage))

/-- An `initialize` without a pool does not fail late. -/
def NotLate (s : PostgresTokenStorage) (a : LifecycleCall ε) : Prop :=
  s.pool = false → ∀ createPool query, a = .initializeStorage createPool query →
    ¬ FailsLate url createPool query

/-- Without a pool, and with no `initialize` that succeeds or fails late, there is none later. -/
theorem pool_final_of_no_pool {s : PostgresTokenStorage} (h : s.pool = false)
    {actions : List (LifecycleCall ε)}
    (hlate : ∀ pre a post, actions = pre ++ a :: post →
      NotLate url (Machine.final (lifecycleStep sha256 url) s pre) a)
    (hfailed : ∀ outcome ∈ Machine.outputs (lifecycleStep sha256 url) s actions,
      outcome.succeeded = false) :
    (Machine.final (lifecycleStep sha256 url) s actions).pool = false := by
  induction actions generalizing s with
  | nil => exact h
  | cons a actions ih =>
    obtain ⟨hfirst, hrest⟩ := List.forall_mem_cons.mp hfailed
    have hnone := pool_step_of_no_pool sha256 url h (hlate [] a actions rfl h) hfirst
    refine ih hnone (fun pre b post hsplit => ?_) hrest
    exact hlate (a :: pre) b post (congrArg (a :: ·) hsplit)

/-- **When initialization is all or nothing.** In a run of calls, with any behaviour of the driver,
a failed `initialize` leaves the storage uninitialized iff no `initialize` of the run, called
without a pool, fails after it created the pool. -/
theorem initialization_all_or_nothing_iff (s : PostgresTokenStorage)
    (actions : List (LifecycleCall ε)) :
    AllOrNothing sha256 url s actions ↔
      Machine.AllSteps (lifecycleStep sha256 url) (fun s _ a => NotLate url s a) s actions := by
  rw [Machine.allSteps_iff]
  constructor
  · rintro h pre a post rfl hpool createPool query rfl hlate
    obtain ⟨hpool', hfailed⟩ := step_of_failsLate sha256 url hlate
      (Machine.final (lifecycleStep sha256 url) s pre)
    have hnone := (h pre createPool query [] post rfl hpool hfailed (by simp)).1
    rw [Machine.final_nil, hpool'] at hnone
    exact absurd hnone (by simp)
  · intro hlate pre createPool query mid post hsplit before failed hpool hfailed hmid after
    have hnone : failed.1.pool = false :=
      pool_step_of_no_pool sha256 url hpool (hlate pre _ _ hsplit hpool) hfailed
    have hafter : after.pool = false := by
      refine pool_final_of_no_pool sha256 url hnone (fun pre' a post' hmid' => ?_) hmid
      have hwhole : actions
          = (pre ++ .initializeStorage createPool query :: pre') ++ a :: (post' ++ post) := by
        rw [hsplit, hmid']
        simp
      have hstep := hlate _ _ _ hwhole
      rwa [Machine.final_append, Machine.final_cons] at hstep
    refine ⟨hafter, fun now op failure => ?_⟩
    rw [step_token_of_no_pool sha256 url hafter]

/-- **A drifted schema is used**: `initialize` raises `SchemaDriftError`, and a load afterwards is
answered. -/
theorem drifted_schema_used :
    let url := databaseUrl (some (PyStr.ofString "postgresql://localhost/mcp")) none
    let actions : List (LifecycleCall Empty) :=
      [.initializeStorage (.ok ()) (.ok (twoSchemas.rows ["app"])),
        .token 0 (.load .access (PyStr.ofString "a")) none]
    Machine.outputs (lifecycleStep sampleSha256 url) ⟨false, ∅, none⟩ actions
        = [.initialized (.error (.drift (driftMessage [("mcp_access_tokens", ["user_id"])]))),
          .answered (.ok (.loaded none))] ∧
      (Machine.final (lifecycleStep sampleSha256 url) ⟨false, ∅, none⟩ actions).pool = true ∧
      ¬ AllOrNothing sampleSha256 url ⟨false, ∅, none⟩ actions := by
  intro url actions
  refine ⟨by decide +kernel, by decide +kernel, ?_⟩
  intro h
  have hnone := (h [] (.ok ()) (.ok (twoSchemas.rows ["app"])) [] _ rfl rfl (by decide +kernel)
    (by simp)).1
  exact absurd hnone (by decide +kernel)

end McpAuthflow.Storage
