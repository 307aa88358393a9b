import McpAuthflow.Foundations.Dict
import McpAuthflow.Storage.Base

/-! # `PostgresTokenStorage` (`mcp_authflow/storage/postgres.py`)

A token table is a dict of rows with the token digest as primary key. The statements the storage
sends are the functions of the first section, each executed atomically; a column returns the value
it was given, and TIMESTAMPTZ counts microseconds from the epoch. The methods follow the source:
what is computed in Python before and after each statement, and which statement is sent.
`mcp_refresh_tokens` need not exist. -/

namespace McpAuthflow.Storage

/-- A moment as a datetime holds it: whole microseconds since the epoch. -/
abbrev Micros := ℤ

/-- `datetime.now(UTC)` at a clock reading. -/
def micros (now : ℚ) : Micros := ⌊now * 1000000⌋

/-- `datetime.fromtimestamp(timestamp, tz=UTC)`, in the years 1 to 9999. -/
def fromTimestamp (timestamp : ℤ) : Except StorageError Micros :=
  if -62135596800 ≤ timestamp ∧ timestamp ≤ 253402300799 then .ok (timestamp * 1000000)
  else .error (.timestampOutOfRange timestamp)

/-- `int(moment.timestamp())`. -/
def toTimestamp (moment : Micros) : ℤ := pyInt ((moment : ℚ) / 1000000)

theorem micros_mono {t t' : ℚ} (h : t ≤ t') : micros t ≤ micros t' :=
  Int.floor_le_floor (mul_le_mul_of_nonneg_right h (by norm_num))

/-- A row is not expired up to its expiry. -/
theorem micros_le_of_le {clock : ℚ} {expiresAt : ℤ} (h : clock ≤ expiresAt) :
    micros clock ≤ expiresAt * 1000000 := by
  have hle := micros_mono h
  have hexp : micros (expiresAt : ℚ) = expiresAt * 1000000 := by
    rw [micros]
    exact_mod_cast Int.floor_intCast (expiresAt * 1000000)
  rwa [hexp] at hle

/-! ## Tables and statements -/

/-- The columns of a row that a store writes. -/
structure RowData where
  clientId : PyStr
  scopes : PyStr
  resource : Option PyStr
  expiresAt : Micros
  userId : Option UserId
  deriving DecidableEq

/-- The columns of a store's arguments. -/
def TokenArgs.toRowData (args : TokenArgs) : RowData where
  clientId := args.clientId
  scopes := PyStr.joinWords args.scopes
  resource := args.resource
  expiresAt := args.expiresAt * 1000000
  userId := args.userId

/-- A row; `created_at` has the default `now()`. -/
structure Row extends RowData where
  createdAt : Option Micros
  deriving DecidableEq

/-- A token table, by token digest. -/
abbrev Table := Dict PyStr Row

namespace Table

/-- `INSERT INTO .. ON CONFLICT (token) DO UPDATE SET ..`: an update keeps `created_at`. -/
def upsert (t : Table) (digest : PyStr) (data : RowData) (now : Micros) : Table :=
  match t.lookup digest with
  | none => t.insert digest { data with createdAt := some now }
  | some row => t.insert digest { data with createdAt := row.createdAt }

/-- `SELECT .. WHERE token = $1`. -/
def selectByToken (t : Table) (digest : PyStr) : Option Row := t.lookup digest

/-- `DELETE FROM .. WHERE token = $1`. -/
def deleteByToken (t : Table) (digest : PyStr) : Table := t.erase digest

/-- `DELETE FROM .. WHERE expires_at < $1`, with the number of rows deleted. -/
def deleteExpired (t : Table) (now : Micros) : Table × ℕ :=
  (t.filter fun _ row => !decide (row.expiresAt < now),
    (t.filter fun _ row => row.expiresAt < now).size)

/-- `DELETE FROM .. WHERE client_id = $1`, with the number of rows deleted. -/
def deleteByClient (t : Table) (clientId : PyStr) : Table × ℕ :=
  (t.filter fun _ row => !decide (row.clientId = clientId),
    (t.filter fun _ row => row.clientId = clientId).size)

/-- The row just written. -/
theorem lookup_upsert_self (t : Table) (digest : PyStr) (data : RowData) (now : Micros) :
    ∃ createdAt, (t.upsert digest data now).lookup digest
      = some { data with createdAt := createdAt } := by
  unfold upsert
  split
  · exact ⟨some now, AList.lookup_insert t⟩
  · exact ⟨_, AList.lookup_insert t⟩

theorem lookup_upsert_ne {digest digest' : PyStr} (h : digest' ≠ digest) (t : Table)
    (data : RowData) (now : Micros) :
    (t.upsert digest data now).lookup digest' = t.lookup digest' := by
  unfold upsert
  split <;> exact AList.lookup_insert_ne h

end Table

/-- The state of a `PostgresTokenStorage`: whether it holds a pool, and the tables behind it. -/
structure PostgresTokenStorage where
  pool : Bool
  accessTokens : Table
  refreshTokens : Option Table

namespace PostgresTokenStorage

/-- The table of a kind, if it exists. -/
def table (s : PostgresTokenStorage) : TokenKind → Except StorageError Table
  | .access => .ok s.accessTokens
  | .refresh =>
    match s.refreshTokens with
    | some t => .ok t
    | none => .error (.undefinedTable "mcp_refresh_tokens")

/-- Write the table of a kind back. -/
def setTable (s : PostgresTokenStorage) (kind : TokenKind) (t : Table) : PostgresTokenStorage :=
  match kind with
  | .access => { s with accessTokens := t }
  | .refresh => { s with refreshTokens := some t }

/-- `_require_pool`. -/
def requirePool (s : PostgresTokenStorage) : Except StorageError Unit :=
  if s.pool then .ok () else .error (.notInitialized notInitializedMessage)

variable (sha256 : List UInt8 → PyStr)

/-! ## The methods -/

/-- `_store_to`. -/
def storeTo (s : PostgresTokenStorage) (kind : TokenKind) (args : TokenArgs) (now : ℚ) :
    PostgresTokenStorage × Except StorageError Unit :=
  let prepared : Except StorageError (PyStr × RowData × Table) := do
    s.requirePool
    let expiresAt ← fromTimestamp args.expiresAt
    let scopes := PyStr.joinWords args.scopes
    let digest ← hashToken sha256 args.token
    let t ← s.table kind
    return (digest, ⟨args.clientId, scopes, args.resource, expiresAt, args.userId⟩, t)
  match prepared with
  | .error e => (s, .error e)
  | .ok (digest, data, t) => (s.setTable kind (t.upsert digest data (micros now)), .ok ())

/-- The pool, the digest and the table a statement about one token needs. -/
def keyedTable (s : PostgresTokenStorage) (kind : TokenKind) (token : PyStr) :
    Except StorageError (PyStr × Table) := do
  s.requirePool
  let digest ← hashToken sha256 token
  let t ← s.table kind
  return (digest, t)

/-- `_delete_from`. -/
def deleteFrom (s : PostgresTokenStorage) (kind : TokenKind) (token : PyStr) :
    PostgresTokenStorage × Except StorageError Unit :=
  match s.keyedTable sha256 kind token with
  | .error e => (s, .error e)
  | .ok (digest, t) => (s.setTable kind (t.deleteByToken digest), .ok ())

/-- `row["scopes"].split() if row["scopes"] else []`. -/
def scopesOf (text : PyStr) : List PyStr := if text.isEmpty then [] else text.split

/-- The dict `_load_from` builds from a row. -/
def loadedRow (token : PyStr) (row : Row) : TokenData where
  token := token
  clientId := row.clientId
  scopes := scopesOf row.scopes
  resource := row.resource
  expiresAt := toTimestamp row.expiresAt
  userId := row.userId
  createdAt := row.createdAt.map toTimestamp

/-- `_load_from`: an expired row is deleted by a second statement. -/
def loadFrom (s : PostgresTokenStorage) (kind : TokenKind) (token : PyStr) (now : ℚ) :
    PostgresTokenStorage × Except StorageError (Option TokenData) :=
  match s.keyedTable sha256 kind token with
  | .error e => (s, .error e)
  | .ok (digest, t) =>
    match t.selectByToken digest with
    | none => (s, .ok none)
    | some row =>
      -- only now is the expiry looked at, in Python
      if row.expiresAt < micros now then
        let (s, deleted) := s.deleteFrom sha256 kind token
        (s, deleted.map fun _ => none)
      else (s, .ok (some (loadedRow token row)))

/-- The table a statement about a whole kind needs. -/
def openTable (s : PostgresTokenStorage) (kind : TokenKind) : Except StorageError Table := do
  s.requirePool
  s.table kind

/-- `_cleanup_from`. -/
def cleanupFrom (s : PostgresTokenStorage) (kind : TokenKind) (now : ℚ) :
    PostgresTokenStorage × Except StorageError ℕ :=
  match s.openTable kind with
  | .error e => (s, .error e)
  | .ok t =>
    let (t, count) := t.deleteExpired (micros now)
    (s.setTable kind t, .ok count)

/-- `SELECT COUNT(*)` of a kind's table. -/
def countOf (s : PostgresTokenStorage) (kind : TokenKind) :
    PostgresTokenStorage × Except StorageError ℕ :=
  (s, (s.openTable kind).map AList.size)

/-- `revoke_client_tokens`: one statement on both tables, or one on the access tokens alone. -/
def revokeClientTokens (s : PostgresTokenStorage) (clientId : PyStr) :
    PostgresTokenStorage × Except StorageError ℕ :=
  match s.requirePool with
  | .error e => (s, .error e)
  | .ok _ =>
    let (access, deletedAccess) := s.accessTokens.deleteByClient clientId
    match s.refreshTokens with
    | some t =>
      let (refresh, deletedRefresh) := t.deleteByClient clientId
      ({ s with accessTokens := access, refreshTokens := some refresh },
        .ok (deletedAccess + deletedRefresh))
    -- a deployment without refresh tokens has no such table
    | none => ({ s with accessTokens := access }, .ok deletedAccess)

/-- `store_token`. -/
def storeToken (s : PostgresTokenStorage) := s.storeTo sha256 .access

/-- `store_refresh_token`. -/
def storeRefreshToken (s : PostgresTokenStorage) := s.storeTo sha256 .refresh

/-- `load_token`. -/
def loadToken (s : PostgresTokenStorage) := s.loadFrom sha256 .access

/-- `load_refresh_token`. -/
def loadRefreshToken (s : PostgresTokenStorage) := s.loadFrom sha256 .refresh

/-- `delete_token`. -/
def deleteToken (s : PostgresTokenStorage) := s.deleteFrom sha256 .access

/-- `delete_refresh_token`. -/
def deleteRefreshToken (s : PostgresTokenStorage) := s.deleteFrom sha256 .refresh

/-- `cleanup_expired_tokens`. -/
def cleanupExpiredTokens (s : PostgresTokenStorage) := s.cleanupFrom .access

/-- `cleanup_expired_refresh_tokens`. -/
def cleanupExpiredRefreshTokens (s : PostgresTokenStorage) := s.cleanupFrom .refresh

/-- `get_token_count`. -/
def getTokenCount (s : PostgresTokenStorage) := s.countOf .access

/-- `get_refresh_token_count`. -/
def getRefreshTokenCount (s : PostgresTokenStorage) := s.countOf .refresh

/-- A method's result as a reply of the interface. -/
def replying {α : Type} (reply : α → Reply) (r : PostgresTokenStorage × Except StorageError α) :
    PostgresTokenStorage × Result :=
  (r.1, r.2.map reply)

/-- Dispatch an operation on tokens to its method. -/
def tokenStep (s : PostgresTokenStorage) (now : ℚ) : TokenOp → PostgresTokenStorage × Result
  | .store .access args => replying (fun _ => .done) (s.storeToken sha256 args now)
  | .store .refresh args => replying (fun _ => .done) (s.storeRefreshToken sha256 args now)
  | .load .access token => replying .loaded (s.loadToken sha256 token now)
  | .load .refresh token => replying .loaded (s.loadRefreshToken sha256 token now)
  | .delete .access token => replying (fun _ => .done) (s.deleteToken sha256 token)
  | .delete .refresh token => replying (fun _ => .done) (s.deleteRefreshToken sha256 token)
  | .cleanup .access => replying .number (s.cleanupExpiredTokens now)
  | .cleanup .refresh => replying .number (s.cleanupExpiredRefreshTokens now)
  | .revokeClientTokens clientId => replying .number (s.revokeClientTokens clientId)
  | .count .access => replying .number s.getTokenCount
  | .count .refresh => replying .number s.getRefreshTokenCount

/-! ## The method of an operation, whatever the kind -/

theorem tokenStep_store_eq (s : PostgresTokenStorage) (kind : TokenKind) (args : TokenArgs)
    (now : ℚ) :
    s.tokenStep sha256 now (.store kind args)
      = replying (fun _ => .done) (s.storeTo sha256 kind args now) := by
  cases kind <;> rfl

theorem tokenStep_load_eq (s : PostgresTokenStorage) (kind : TokenKind) (token : PyStr) (now : ℚ) :
    s.tokenStep sha256 now (.load kind token)
      = replying .loaded (s.loadFrom sha256 kind token now) := by
  cases kind <;> rfl

theorem tokenStep_delete_eq (s : PostgresTokenStorage) (kind : TokenKind) (token : PyStr)
    (now : ℚ) :
    s.tokenStep sha256 now (.delete kind token)
      = replying (fun _ => .done) (s.deleteFrom sha256 kind token) := by
  cases kind <;> rfl

theorem tokenStep_cleanup_eq (s : PostgresTokenStorage) (kind : TokenKind) (now : ℚ) :
    s.tokenStep sha256 now (.cleanup kind) = replying .number (s.cleanupFrom kind now) := by
  cases kind <;> rfl

theorem tokenStep_count_eq (s : PostgresTokenStorage) (kind : TokenKind) (now : ℚ) :
    s.tokenStep sha256 now (.count kind) = replying .number (s.countOf kind) := by
  cases kind <;> rfl

/-! ## One table, while the pool is open and the table exists -/

/-- A moment in range is the timestamp in microseconds. -/
theorem eq_of_fromTimestamp {timestamp : ℤ} {moment : Micros}
    (h : fromTimestamp timestamp = .ok moment) : moment = timestamp * 1000000 := by
  unfold fromTimestamp at h
  split at h
  · exact (Except.ok.inj h).symm
  · cases h

section

variable {sha256} {s : PostgresTokenStorage} {kind : TokenKind} {t : Table} {token digest : PyStr}

theorem table_setTable (s : PostgresTokenStorage) (kind : TokenKind) (t : Table) :
    (s.setTable kind t).table kind = .ok t := by
  cases kind <;> rfl

theorem pool_setTable (s : PostgresTokenStorage) (kind : TokenKind) (t : Table) :
    (s.setTable kind t).pool = s.pool := by
  cases kind <;> rfl

theorem keyedTable_of_table (hpool : s.pool = true) (htable : s.table kind = .ok t)
    (hd : hashToken sha256 token = .ok digest) :
    s.keyedTable sha256 kind token = .ok (digest, t) := by
  rw [keyedTable, requirePool, if_pos hpool, hd, htable]
  rfl

theorem storeTo_of_table (hpool : s.pool = true) (htable : s.table kind = .ok t) {args : TokenArgs}
    {expiresAt : Micros} (he : fromTimestamp args.expiresAt = .ok expiresAt)
    (hd : hashToken sha256 args.token = .ok digest) (now : ℚ) :
    s.storeTo sha256 kind args now
      = (s.setTable kind (t.upsert digest args.toRowData (micros now)), .ok ()) := by
  obtain rfl := eq_of_fromTimestamp he
  rw [storeTo, requirePool, if_pos hpool, he, hd, htable]
  rfl

theorem deleteFrom_of_table (hpool : s.pool = true) (htable : s.table kind = .ok t)
    (hd : hashToken sha256 token = .ok digest) :
    s.deleteFrom sha256 kind token = (s.setTable kind (t.deleteByToken digest), .ok ()) := by
  rw [deleteFrom, keyedTable_of_table hpool htable hd]

/-- A load finds no row, drops an expired one, or returns it. -/
theorem loadFrom_of_table (hpool : s.pool = true) (htable : s.table kind = .ok t)
    (hd : hashToken sha256 token = .ok digest) (now : ℚ) :
    s.loadFrom sha256 kind token now =
      match t.selectByToken digest with
      | none => (s, .ok none)
      | some row =>
        if row.expiresAt < micros now then (s.setTable kind (t.deleteByToken digest), .ok none)
        else (s, .ok (some (loadedRow token row))) := by
  rw [loadFrom, keyedTable_of_table hpool htable hd, deleteFrom_of_table hpool htable hd]
  rfl

end

/-! ## One lemma per method, while the pool is open and both tables exist -/

/-- The pool is open and both tables exist. -/
def Ready (s : PostgresTokenStorage) : Prop := s.pool = true ∧ s.refreshTokens.isSome = true

/-- The rows of a kind. -/
def rows (s : PostgresTokenStorage) : TokenKind → Table
  | .access => s.accessTokens
  | .refresh => s.refreshTokens.getD ∅

variable {sha256} {s : PostgresTokenStorage} {kind : TokenKind} {token digest : PyStr} {now : ℚ}

theorem Ready.table (h : s.Ready) (kind : TokenKind) : s.table kind = .ok (s.rows kind) := by
  cases kind with
  | access => rfl
  | refresh =>
    obtain ⟨t, ht⟩ := Option.isSome_iff_exists.mp h.2
    simp [PostgresTokenStorage.table, rows, ht]

theorem Ready.requirePool (h : s.Ready) : s.requirePool = .ok () := if_pos h.1

theorem Ready.setTable (h : s.Ready) (kind : TokenKind) (t : Table) :
    (s.setTable kind t).Ready := by
  cases kind
  · exact h
  · exact ⟨h.1, rfl⟩

@[simp] theorem rows_setTable_self (s : PostgresTokenStorage) (kind : TokenKind) (t : Table) :
    (s.setTable kind t).rows kind = t := by
  cases kind <;> rfl

@[simp] theorem rows_setTable_ne {kind' : TokenKind} (h : kind' ≠ kind) (t : Table) :
    (s.setTable kind t).rows kind' = s.rows kind' := by
  cases kind <;> cases kind' <;> first | rfl | exact absurd rfl h

theorem Ready.keyedTable (h : s.Ready) (kind : TokenKind)
    (hd : hashToken sha256 token = .ok digest) :
    s.keyedTable sha256 kind token = .ok (digest, s.rows kind) :=
  keyedTable_of_table h.1 (h.table kind) hd

theorem Ready.openTable (h : s.Ready) (kind : TokenKind) :
    s.openTable kind = .ok (s.rows kind) := by
  rw [PostgresTokenStorage.openTable, h.requirePool, h.table]
  rfl

/-- A token without a digest is refused by the loads and deletes that name it. -/
theorem Ready.keyedTable_error (h : s.Ready) (kind : TokenKind) {e : StorageError}
    (he : hashToken sha256 token = .error e) : s.keyedTable sha256 kind token = .error e := by
  rw [PostgresTokenStorage.keyedTable, h.requirePool, he]
  rfl

theorem tokenStep_store (h : s.Ready) {args : TokenArgs} {expiresAt : Micros}
    (he : fromTimestamp args.expiresAt = .ok expiresAt)
    (hd : hashToken sha256 args.token = .ok digest) :
    s.tokenStep sha256 now (.store kind args) =
      (s.setTable kind ((s.rows kind).upsert digest args.toRowData (micros now)), .ok .done) := by
  rw [tokenStep_store_eq, storeTo_of_table h.1 (h.table kind) he hd]
  rfl

theorem tokenStep_store_error (h : s.Ready) {args : TokenArgs} {expiresAt : Micros}
    (he : fromTimestamp args.expiresAt = .ok expiresAt) {e : StorageError}
    (hd : hashToken sha256 args.token = .error e) :
    s.tokenStep sha256 now (.store kind args) = (s, .error e) := by
  rw [tokenStep_store_eq, storeTo, h.requirePool, he, hd]
  rfl

/-- A store raises and changes nothing, or writes its row. -/
theorem tokenStep_store_cases (sha256 : List UInt8 → PyStr) (now : ℚ) (h : s.Ready)
    (kind : TokenKind) (args : TokenArgs) :
    (∃ e, s.tokenStep sha256 now (.store kind args) = (s, .error e)) ∨
      ∃ digest, hashToken sha256 args.token = .ok digest ∧
        s.tokenStep sha256 now (.store kind args) =
          (s.setTable kind ((s.rows kind).upsert digest args.toRowData (micros now)),
            .ok .done) := by
  cases he : fromTimestamp args.expiresAt with
  | error e =>
    refine Or.inl ⟨e, ?_⟩
    rw [tokenStep_store_eq, storeTo, h.requirePool, he]
    rfl
  | ok expiresAt =>
    cases hd : hashToken sha256 args.token with
    | error e => exact Or.inl ⟨e, tokenStep_store_error h he hd⟩
    | ok digest => exact Or.inr ⟨digest, rfl, tokenStep_store h he hd⟩

theorem tokenStep_delete (h : s.Ready) (hd : hashToken sha256 token = .ok digest) :
    s.tokenStep sha256 now (.delete kind token)
      = (s.setTable kind ((s.rows kind).deleteByToken digest), .ok .done) := by
  rw [tokenStep_delete_eq, deleteFrom_of_table h.1 (h.table kind) hd]
  rfl

/-- A load finds no row, drops an expired one, or returns it. -/
theorem tokenStep_load (h : s.Ready) (hd : hashToken sha256 token = .ok digest) :
    s.tokenStep sha256 now (.load kind token) =
      match (s.rows kind).selectByToken digest with
      | none => (s, .ok (.loaded none))
      | some row =>
        if row.expiresAt < micros now then
          (s.setTable kind ((s.rows kind).deleteByToken digest), .ok (.loaded none))
        else (s, .ok (.loaded (some (loadedRow token row)))) := by
  rw [tokenStep_load_eq, loadFrom_of_table h.1 (h.table kind) hd]
  cases (s.rows kind).selectByToken digest with
  | none => rfl
  | some row =>
    simp only
    split
    · rfl
    · rfl

/-- A load or delete of a token without a digest raises. -/
theorem tokenStep_of_hashToken_error (h : s.Ready) {e : StorageError}
    (he : hashToken sha256 token = .error e) :
    s.tokenStep sha256 now (.load kind token) = (s, .error e) ∧
      s.tokenStep sha256 now (.delete kind token) = (s, .error e) := by
  constructor
  · rw [tokenStep_load_eq, loadFrom, h.keyedTable_error kind he]
    rfl
  · rw [tokenStep_delete_eq, deleteFrom, h.keyedTable_error kind he]
    rfl

/-- A delete raises and changes nothing, or removes a row. -/
theorem tokenStep_delete_cases (sha256 : List UInt8 → PyStr) (now : ℚ) (h : s.Ready)
    (kind : TokenKind) (token : PyStr) :
    (∃ e, s.tokenStep sha256 now (.delete kind token) = (s, .error e)) ∨
      ∃ digest, hashToken sha256 token = .ok digest ∧
        s.tokenStep sha256 now (.delete kind token)
          = (s.setTable kind ((s.rows kind).deleteByToken digest), .ok .done) := by
  cases hd : hashToken sha256 token with
  | error e => exact Or.inl ⟨e, (tokenStep_of_hashToken_error h hd).2⟩
  | ok digest => exact Or.inr ⟨digest, rfl, tokenStep_delete h hd⟩

theorem tokenStep_cleanup (h : s.Ready) :
    s.tokenStep sha256 now (.cleanup kind)
      = (s.setTable kind ((s.rows kind).deleteExpired (micros now)).1,
          .ok (.number ((s.rows kind).deleteExpired (micros now)).2)) := by
  rw [tokenStep_cleanup_eq, cleanupFrom, h.openTable]
  rfl

theorem tokenStep_count (h : s.Ready) :
    s.tokenStep sha256 now (.count kind) = (s, .ok (.number (s.rows kind).size)) := by
  rw [tokenStep_count_eq, countOf, h.openTable]
  rfl

/-- Revocation deletes the client's rows of both tables and adds up how many there were. -/
theorem tokenStep_revokeClientTokens (sha256 : List UInt8 → PyStr) (now : ℚ) (h : s.Ready)
    (clientId : PyStr) :
    (∀ kind, (s.tokenStep sha256 now (.revokeClientTokens clientId)).1.rows kind
        = ((s.rows kind).deleteByClient clientId).1) ∧
      (s.tokenStep sha256 now (.revokeClientTokens clientId)).1.Ready ∧
      (s.tokenStep sha256 now (.revokeClientTokens clientId)).2
        = .ok (.number (((s.rows .access).deleteByClient clientId).2
            + ((s.rows .refresh).deleteByClient clientId).2)) := by
  obtain ⟨t, ht⟩ := Option.isSome_iff_exists.mp h.2
  simp only [tokenStep, revokeClientTokens, replying, h.requirePool, ht, Except.map]
  refine ⟨?_, ⟨h.1, rfl⟩, ?_⟩
  · intro kind
    cases kind <;> simp [rows, ht]
  · simp [rows, ht]

/-- **Every operation** leaves the pool open over both tables. -/
theorem Ready.tokenStep (sha256 : List UInt8 → PyStr) (now : ℚ) (h : s.Ready) (op : TokenOp) :
    (s.tokenStep sha256 now op).1.Ready := by
  cases op with
  | store kind args =>
    rcases tokenStep_store_cases sha256 now h kind args with ⟨e, hstep⟩ | ⟨digest, -, hstep⟩
    · rw [hstep]
      exact h
    · rw [hstep]
      exact h.setTable kind _
  | load kind token =>
    cases hd : hashToken sha256 token with
    | error e =>
      rw [(tokenStep_of_hashToken_error h hd).1]
      exact h
    | ok digest =>
      rw [tokenStep_load h hd]
      -- a load deletes the row it finds expired
      split
      · exact h
      · split
        · exact h.setTable kind _
        · exact h
  | delete kind token =>
    rcases tokenStep_delete_cases sha256 now h kind token with ⟨e, hstep⟩ | ⟨digest, -, hstep⟩
    · rw [hstep]
      exact h
    · rw [hstep]
      exact h.setTable kind _
  | cleanup kind =>
    rw [tokenStep_cleanup h]
    exact h.setTable kind _
  | revokeClientTokens clientId =>
    exact (tokenStep_revokeClientTokens sha256 now h clientId).2.1
  | count kind =>
    rw [tokenStep_count h]
    exact h

end PostgresTokenStorage

end McpAuthflow.Storage
