import McpAuthflow.Foundations.Programs
import McpAuthflow.Storage.BackendEquivalence

/-! # The methods of `PostgresTokenStorage` as programs (`mcp_authflow/storage/postgres.py`)

Seen from outside, a method is a `Program`: it sends statements to the database, goes on with what
they return, and writes to the log. Here every method is written that way, with the texts of its
statements and of its log lines. A statement is executed atomically (`execute`); against the tables
the programs are the methods of `Postgres.lean`: **`run_program`**. -/

namespace McpAuthflow.Storage

/-! ## Statements -/

/-- The table a method passes to its statements. -/
def TokenKind.tableName : TokenKind → String
  | .access => "mcp_access_tokens"
  | .refresh => "mcp_refresh_tokens"

/-- A statement with its arguments. -/
inductive Statement where
  | upsert (kind : TokenKind) (digest clientId scopes : PyStr) (resource : Option PyStr)
      (expiresAt : Micros) (userId : Option UserId)
  | selectByToken (kind : TokenKind) (digest : PyStr)
  | deleteByToken (kind : TokenKind) (digest : PyStr)
  | deleteExpired (kind : TokenKind) (now : Micros)
  | countRows (kind : TokenKind)
  | hasRefreshTable
  | deleteByClient (clientId : PyStr)
  | deleteAccessByClient (clientId : PyStr)
  deriving DecidableEq

namespace Statement

/-- What the driver returns for a statement: the number in the status `DELETE 5`, a row or none, or
a value. -/
abbrev Answer : Statement → Type
  | .upsert .. | .deleteByToken .. => Unit
  | .selectByToken .. => Option Row
  | .deleteExpired .. | .deleteAccessByClient .. => ℕ
  | .countRows .. | .deleteByClient .. => Option ℕ
  | .hasRefreshTable => Bool

/-- The text that is sent, as the f-strings of the source build it. -/
def text : Statement → String
  | .upsert kind .. => "\n".intercalate
      ["", "            INSERT INTO " ++ kind.tableName,
        "                (token, client_id, scopes, resource, expires_at, user_id)",
        "            VALUES ($1, $2, $3, $4, $5, $6)",
        "            ON CONFLICT (token) DO UPDATE SET",
        "                client_id = EXCLUDED.client_id,",
        "                scopes = EXCLUDED.scopes,",
        "                resource = EXCLUDED.resource,",
        "                expires_at = EXCLUDED.expires_at,",
        "                user_id = EXCLUDED.user_id", "        "]
  | .selectByToken kind _ => "\n".intercalate
      ["", "            SELECT client_id, scopes, resource, expires_at, created_at, user_id",
        "            FROM " ++ kind.tableName, "            WHERE token = $1", "        "]
  | .deleteByToken kind _ => "DELETE FROM " ++ kind.tableName ++ " WHERE token = $1"
  | .deleteExpired kind _ => "DELETE FROM " ++ kind.tableName ++ " WHERE expires_at < $1"
  | .countRows kind => "SELECT COUNT(*) as count FROM " ++ kind.tableName
  | .hasRefreshTable => "SELECT to_regclass('mcp_refresh_tokens') IS NOT NULL"
  | .deleteByClient _ => "\n".intercalate
      ["", "                    WITH deleted_access AS (",
        "                        DELETE FROM mcp_access_tokens",
        "                        WHERE client_id = $1", "                        RETURNING 1",
        "                    ), deleted_refresh AS (",
        "                        DELETE FROM mcp_refresh_tokens",
        "                        WHERE client_id = $1", "                        RETURNING 1",
        "                    )", "                    SELECT",
        "                        (SELECT COUNT(*) FROM deleted_access)",
        "                        + (SELECT COUNT(*) FROM deleted_refresh) AS count",
        "                    "]
  | .deleteAccessByClient _ => "DELETE FROM mcp_access_tokens WHERE client_id = $1"

/-- An argument of a statement. -/
inductive Arg where
  | text (s : PyStr)
  | moment (t : Micros)
  | userId (u : UserId)
  | null
  deriving DecidableEq

/-- The arguments `$1, $2, ..` that are sent with the text. -/
def args : Statement → List Arg
  | .upsert _ digest clientId scopes resource expiresAt userId =>
    [.text digest, .text clientId, .text scopes, resource.elim .null .text, .moment expiresAt,
      userId.elim .null .userId]
  | .selectByToken _ digest | .deleteByToken _ digest => [.text digest]
  | .deleteExpired _ now => [.moment now]
  | .countRows _ | .hasRefreshTable => []
  | .deleteByClient clientId | .deleteAccessByClient clientId => [.text clientId]

end Statement

/-! ## The log -/

/-- A log line of this module. -/
inductive LogLine where
  | debug (text : PyStr)
  | info (text : PyStr)
  deriving DecidableEq

/-- The label a method passes for its log lines. -/
def TokenKind.label : TokenKind → String
  | .access => "token"
  | .refresh => "refresh token"

/-- `label.capitalize()`. -/
def TokenKind.capitalizedLabel : TokenKind → String
  | .access => "Token"
  | .refresh => "Refresh token"

/-- `token_fingerprint`. -/
def tokenFingerprint (sha256 : List UInt8 → PyStr) (token : PyStr) : Except StorageError PyStr :=
  (hashToken sha256 token).map fun digest => PyStr.ofString "fp:" ++ digest.take 8

/-! ## The methods -/

/-- What a method does, seen from outside. -/
abbrev Method (α : Type) := Program Statement Statement.Answer LogLine StorageError α

namespace Method

open Program

/-- Send a statement and wait for the driver: `conn.execute`, `conn.fetchrow`, `conn.fetchval`. To
acquire the connection and to release it is part of this. -/
def send (st : Statement) : Method st.Answer := request st

variable (sha256 : List UInt8 → PyStr) (pool : Bool)

/-- `_require_pool`. -/
def requirePool : Method Unit :=
  if pool then pure () else .raise (.notInitialized notInitializedMessage)

/-- `_store_to`. -/
def storeTo (kind : TokenKind) (args : TokenArgs) : Method Unit := do
  requirePool pool
  let expiresDatetime ← ofExcept (fromTimestamp args.expiresAt)
  let scopesStr := PyStr.joinWords args.scopes
  let digest ← ofExcept (hashToken sha256 args.token)
  send (.upsert kind digest args.clientId scopesStr args.resource expiresDatetime args.userId)
  let fingerprint ← ofExcept (tokenFingerprint sha256 args.token)
  logLine (.debug (PyStr.ofString ("Stored " ++ kind.label ++ " ") ++ fingerprint
    ++ PyStr.ofString " for client " ++ args.clientId))

/-- `_delete_from`. -/
def deleteFrom (kind : TokenKind) (token : PyStr) : Method Unit := do
  requirePool pool
  let digest ← ofExcept (hashToken sha256 token)
  send (.deleteByToken kind digest)
  let fingerprint ← ofExcept (tokenFingerprint sha256 token)
  logLine (.debug (PyStr.ofString ("Deleted " ++ kind.label ++ " ") ++ fingerprint))

/-- `_load_from`. -/
def loadFrom (kind : TokenKind) (token : PyStr) (now : ℚ) : Method (Option TokenData) := do
  requirePool pool
  let digest ← ofExcept (hashToken sha256 token)
  let row ← send (.selectByToken kind digest)
  match row with
  | none =>
    let fingerprint ← ofExcept (tokenFingerprint sha256 token)
    logLine (.debug (PyStr.ofString (kind.capitalizedLabel ++ " ") ++ fingerprint
      ++ PyStr.ofString " not found in database"))
    return none
  | some row =>
    if row.expiresAt < micros now then do
      let fingerprint ← ofExcept (tokenFingerprint sha256 token)
      logLine (.debug (PyStr.ofString (kind.capitalizedLabel ++ " ") ++ fingerprint
        ++ PyStr.ofString " has expired"))
      deleteFrom sha256 pool kind token
      return none
    else return some (PostgresTokenStorage.loadedRow token row)

/-- `_cleanup_from`. -/
def cleanupFrom (kind : TokenKind) (now : ℚ) : Method ℕ := do
  requirePool pool
  let count : ℕ ← send (.deleteExpired kind (micros now))
  if count > 0 then
    logLine (.info (PyStr.ofString "Cleaned up " ++ PyStr.ofInt count
      ++ PyStr.ofString (" expired " ++ kind.label ++ "s")))
  return count

/-- `get_token_count` and `get_refresh_token_count`. -/
def countOf (kind : TokenKind) : Method ℕ := do
  requirePool pool
  let row ← send (.countRows kind)
  return row.getD 0

/-- `revoke_client_tokens`. -/
def revokeClientTokens (clientId : PyStr) : Method ℕ := do
  requirePool pool
  let hasRefreshTable ← send .hasRefreshTable
  let count : ℕ ←
    if hasRefreshTable then do
      let row ← send (.deleteByClient clientId)
      pure (row.getD 0)
    else send (.deleteAccessByClient clientId)
  if count > 0 then
    logLine (.info (PyStr.ofString "Revoked " ++ PyStr.ofInt count
      ++ PyStr.ofString " token(s) for client " ++ clientId))
  return count

/-- The method of an operation on tokens, with its reply. -/
def program (now : ℚ) : TokenOp → Method Reply
  | .store kind args => (fun _ => .done) <$> storeTo sha256 pool kind args
  | .load kind token => .loaded <$> loadFrom sha256 pool kind token now
  | .delete kind token => (fun _ => .done) <$> deleteFrom sha256 pool kind token
  | .cleanup kind => .number <$> cleanupFrom pool kind now
  | .revokeClientTokens clientId => .number <$> revokeClientTokens pool clientId
  | .count kind => .number <$> countOf pool kind

end Method

/-! ## The database -/

namespace PostgresTokenStorage

/-- Execute a statement at a moment. -/
def execute (now : ℚ) (s : PostgresTokenStorage) :
    (st : Statement) → PostgresTokenStorage × Except StorageError st.Answer
  | .upsert kind digest clientId scopes resource expiresAt userId =>
    match s.table kind with
    | .error e => (s, .error e)
    | .ok t =>
      let data : RowData := ⟨clientId, scopes, resource, expiresAt, userId⟩
      (s.setTable kind (t.upsert digest data (micros now)), .ok ())
  | .selectByToken kind digest => (s, (s.table kind).map fun t => t.selectByToken digest)
  | .deleteByToken kind digest =>
    match s.table kind with
    | .error e => (s, .error e)
    | .ok t => (s.setTable kind (t.deleteByToken digest), .ok ())
  | .deleteExpired kind moment =>
    match s.table kind with
    | .error e => (s, .error e)
    | .ok t => (s.setTable kind (t.deleteExpired moment).1, .ok (t.deleteExpired moment).2)
  | .countRows kind => (s, (s.table kind).map fun t => some t.size)
  | .hasRefreshTable => (s, .ok s.refreshTokens.isSome)
  | .deleteByClient clientId =>
    match s.refreshTokens with
    | none => (s, .error (.undefinedTable "mcp_refresh_tokens"))
    | some t =>
      ({ s with
          accessTokens := (s.accessTokens.deleteByClient clientId).1
          refreshTokens := some (t.deleteByClient clientId).1 },
        .ok (some ((s.accessTokens.deleteByClient clientId).2 + (t.deleteByClient clientId).2)))
  | .deleteAccessByClient clientId =>
    ({ s with accessTokens := (s.accessTokens.deleteByClient clientId).1 },
      .ok (s.accessTokens.deleteByClient clientId).2)

end PostgresTokenStorage

/-! ## The programs are the methods -/

namespace Method

open Program PostgresTokenStorage

variable {sha256 : List UInt8 → PyStr}

/-- A token that has a digest has a fingerprint. -/
theorem tokenFingerprint_of_hashToken {token digest : PyStr}
    (h : hashToken sha256 token = .ok digest) :
    tokenFingerprint sha256 token = .ok (PyStr.ofString "fp:" ++ digest.take 8) := by
  rw [tokenFingerprint, h]
  rfl

theorem requirePool_of_open {pool : Bool} (h : pool = true) : requirePool pool = .ret () := if_pos h

theorem requirePool_of_closed {pool : Bool} (h : ¬ pool = true) :
    requirePool pool = .raise (.notInitialized notInitializedMessage) := if_neg h

theorem run_storeTo (s : PostgresTokenStorage) (now : ℚ) (kind : TokenKind) (args : TokenArgs) :
    ((storeTo sha256 s.pool kind args).run (execute now) s).outcome
      = s.storeTo sha256 kind args now := by
  unfold storeTo PostgresTokenStorage.storeTo PostgresTokenStorage.requirePool
  by_cases hpool : s.pool = true
  · rw [requirePool_of_open hpool, if_pos hpool]
    cases fromTimestamp args.expiresAt with
    | error e => rfl
    | ok expiresAt =>
      cases hdigest : hashToken sha256 args.token with
      | error e => rfl
      | ok digest =>
        rw [tokenFingerprint_of_hashToken hdigest]
        cases htable : s.table kind with
        | error e =>
          simp only [ret_bind, ofExcept_ok, send, request_bind, run, execute, htable]
          rfl
        | ok t =>
          simp only [ret_bind, ofExcept_ok, send, request_bind, run, execute, htable]
          rfl
  · rw [requirePool_of_closed hpool, if_neg hpool]
    rfl

theorem run_deleteFrom (s : PostgresTokenStorage) (now : ℚ) (kind : TokenKind) (token : PyStr) :
    ((deleteFrom sha256 s.pool kind token).run (execute now) s).outcome
      = s.deleteFrom sha256 kind token := by
  unfold deleteFrom PostgresTokenStorage.deleteFrom keyedTable PostgresTokenStorage.requirePool
  by_cases hpool : s.pool = true
  · rw [requirePool_of_open hpool, if_pos hpool]
    cases hdigest : hashToken sha256 token with
    | error e => rfl
    | ok digest =>
      rw [tokenFingerprint_of_hashToken hdigest]
      cases htable : s.table kind with
      | error e =>
        simp only [ret_bind, ofExcept_ok, send, request_bind, run, execute, htable]
        rfl
      | ok t =>
        simp only [ret_bind, ofExcept_ok, send, request_bind, run, execute, htable]
        rfl
  · rw [requirePool_of_closed hpool, if_neg hpool]
    rfl

/-- The second statement of a load is the method's own delete. -/
theorem run_loadFrom (s : PostgresTokenStorage) (now : ℚ) (kind : TokenKind) (token : PyStr) :
    ((loadFrom sha256 s.pool kind token now).run (execute now) s).outcome
      = s.loadFrom sha256 kind token now := by
  by_cases hpool : s.pool = true
  · cases hdigest : hashToken sha256 token with
    | error e =>
      unfold loadFrom PostgresTokenStorage.loadFrom keyedTable PostgresTokenStorage.requirePool
      rw [requirePool_of_open hpool, if_pos hpool, hdigest]
      rfl
    | ok digest =>
      cases htable : s.table kind with
      | error e =>
        unfold loadFrom PostgresTokenStorage.loadFrom keyedTable PostgresTokenStorage.requirePool
        rw [requirePool_of_open hpool, if_pos hpool, hdigest, htable]
        simp only [ret_bind, ofExcept_ok, send, request_bind, run, execute, htable, Except.map]
        rfl
      | ok t =>
        rw [loadFrom_of_table hpool htable hdigest, loadFrom, requirePool_of_open hpool, hdigest,
          tokenFingerprint_of_hashToken hdigest]
        simp only [ret_bind, ofExcept_ok, send, request_bind, run, execute, htable, Except.map]
        cases t.selectByToken digest with
        | none => rfl
        | some row =>
          by_cases hexpired : row.expiresAt < micros now
          · have hdelete := outcome_map (fun _ : Unit => (none : Option TokenData))
              (deleteFrom sha256 s.pool kind token) (execute now) s
            rw [run_deleteFrom, deleteFrom_of_table hpool htable hdigest] at hdelete
            simp only [if_pos hexpired]
            exact hdelete
          · simp only [if_neg hexpired]
            rfl
  · unfold loadFrom PostgresTokenStorage.loadFrom keyedTable PostgresTokenStorage.requirePool
    rw [requirePool_of_closed hpool, if_neg hpool]
    rfl

theorem run_cleanupFrom (s : PostgresTokenStorage) (now : ℚ) (kind : TokenKind) :
    ((cleanupFrom s.pool kind now).run (execute now) s).outcome = s.cleanupFrom kind now := by
  unfold cleanupFrom PostgresTokenStorage.cleanupFrom openTable PostgresTokenStorage.requirePool
  by_cases hpool : s.pool = true
  · rw [requirePool_of_open hpool, if_pos hpool]
    cases htable : s.table kind with
    | error e =>
      simp only [ret_bind, send, request_bind, run, execute, htable]
      rfl
    | ok t =>
      simp only [ret_bind, send, request_bind, run, execute, htable]
      -- with or without a log line
      split <;> rfl
  · rw [requirePool_of_closed hpool, if_neg hpool]
    rfl

theorem run_countOf (s : PostgresTokenStorage) (now : ℚ) (kind : TokenKind) :
    ((countOf s.pool kind).run (execute now) s).outcome = s.countOf kind := by
  unfold countOf PostgresTokenStorage.countOf openTable PostgresTokenStorage.requirePool
  by_cases hpool : s.pool = true
  · rw [requirePool_of_open hpool, if_pos hpool]
    cases htable : s.table kind with
    | error e =>
      simp only [ret_bind, send, request_bind, run, execute, htable, Except.map]
      rfl
    | ok t =>
      simp only [ret_bind, send, request_bind, run, execute, htable, Except.map]
      rfl
  · rw [requirePool_of_closed hpool, if_neg hpool]
    rfl

theorem run_revokeClientTokens (s : PostgresTokenStorage) (now : ℚ) (clientId : PyStr) :
    ((revokeClientTokens s.pool clientId).run (execute now) s).outcome
      = s.revokeClientTokens clientId := by
  unfold revokeClientTokens PostgresTokenStorage.revokeClientTokens
    PostgresTokenStorage.requirePool
  by_cases hpool : s.pool = true
  · rw [requirePool_of_open hpool, if_pos hpool]
    cases hrefresh : s.refreshTokens with
    | none =>
      simp only [ret_bind, send, request_bind, run, execute, hrefresh, Option.isSome_none,
        Bool.false_eq_true, if_false]
      split <;> rfl
    | some t =>
      simp only [ret_bind, send, request_bind, pure_eq, run, execute, hrefresh,
        Option.isSome_some, if_true, Option.getD_some]
      split <;> rfl
  · rw [requirePool_of_closed hpool, if_neg hpool]
    rfl

/-- **The programs are the methods**: run against the tables, the program of an operation leaves
them, and ends, as the method does. -/
theorem run_program (s : PostgresTokenStorage) (now : ℚ) (op : TokenOp) :
    ((program sha256 s.pool now op).run (execute now) s).outcome = s.tokenStep sha256 now op := by
  cases op with
  | store kind args =>
    rw [tokenStep_store_eq, program, outcome_map, run_storeTo]
    rfl
  | load kind token =>
    rw [tokenStep_load_eq, program, outcome_map, run_loadFrom]
    rfl
  | delete kind token =>
    rw [tokenStep_delete_eq, program, outcome_map, run_deleteFrom]
    rfl
  | cleanup kind =>
    rw [tokenStep_cleanup_eq, program, outcome_map, run_cleanupFrom]
    rfl
  | revokeClientTokens clientId =>
    rw [program, outcome_map, run_revokeClientTokens]
    rfl
  | count kind =>
    rw [tokenStep_count_eq, program, outcome_map, run_countOf]
    rfl

end Method

end McpAuthflow.Storage
