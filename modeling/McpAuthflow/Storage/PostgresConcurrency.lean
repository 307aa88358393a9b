import McpAuthflow.Foundations.Machine
import McpAuthflow.Storage.Postgres

/-! # Concurrent calls on one database, statement by statement

Calls of any number of tasks and replicas meet in the database, where single statements are atomic
and anything may happen between two statements of one call. A store, a delete and a revocation are
one statement; a cleanup reads the clock first; a load is a `SELECT`, a check of the expiry against
the clock and, for an expired row, a `DELETE` that does not look at the row again. A schedule is a
list of `Action`s, each the next thing that happens; an action that is not enabled does nothing, so
every list is one.

The `DELETE` of a slow load can meet a row that was stored after its `SELECT`, and a slow load can
find a row expired that had not expired when it began. As long as the `DELETE`s meet only rows that
have expired by then (`DropsOnlyExpired`) and loads begun in time also read in time (`ReadsInTime`),
every load begun by the expiry of a stored token returns it: **`stored_token_kept`**. Alone, a load
does what the sequential method does: `load_alone`. -/

namespace McpAuthflow.Storage

/-- What is left to do of a load. -/
inductive LoadStage where
  /-- The `SELECT` comes next. -/
  | selecting (kind : TokenKind) (token : PyStr)
  /-- The `SELECT` returned this row, whose expiry is checked next. -/
  | checking (kind : TokenKind) (token : PyStr) (row : Row)
  /-- The row had expired, and the `DELETE` comes next. -/
  | dropping (kind : TokenKind) (token : PyStr)
  /-- The load has returned or raised, at this clock reading. -/
  | returned (kind : TokenKind) (token : PyStr) (reply : Except StorageError (Option TokenData))
      (time : ℚ)
  deriving DecidableEq

/-- The database with the calls in progress. -/
structure Server where
  clock : ℚ
  storage : PostgresTokenStorage
  loads : Dict ℕ LoadStage
  /-- Cleanups that have read the clock, with what they read. -/
  cleanups : Dict ℕ (TokenKind × Micros)

/-- The next thing that happens. -/
inductive Action where
  | tick (now : ℚ)
  | store (kind : TokenKind) (args : TokenArgs)
  | delete (kind : TokenKind) (token : PyStr)
  | revokeClientTokens (clientId : PyStr)
  | beginCleanup (id : ℕ) (kind : TokenKind)
  | sweep (id : ℕ)
  | beginLoad (id : ℕ) (kind : TokenKind) (token : PyStr)
  | select (id : ℕ)
  | check (id : ℕ)
  | drop (id : ℕ)

namespace Server

variable (sha256 : List UInt8 → PyStr)

/-- A call of one statement. -/
def call (s : Server) (op : TokenOp) : Server × Option Result :=
  let (storage, result) := s.storage.tokenStep sha256 s.clock op
  ({ s with storage := storage }, some result)

/-- The `SELECT` of a load. -/
def selectRow (s : Server) (kind : TokenKind) (token : PyStr) : LoadStage :=
  match s.storage.keyedTable sha256 kind token with
  | .error e => .returned kind token (.error e) s.clock
  | .ok (digest, t) =>
    match t.selectByToken digest with
    | none => .returned kind token (.ok none) s.clock
    | some row => .checking kind token row

/-- The check of a row's expiry. -/
def checkRow (s : Server) (kind : TokenKind) (token : PyStr) (row : Row) : LoadStage :=
  if row.expiresAt < micros s.clock then .dropping kind token
  else .returned kind token (.ok (some (PostgresTokenStorage.loadedRow token row))) s.clock

/-- One action; a call of one statement shows its result. -/
def step (s : Server) : Action → Server × Option Result
  | .tick now => (if s.clock ≤ now then { s with clock := now } else s, none)
  | .store kind args => s.call sha256 (.store kind args)
  | .delete kind token => s.call sha256 (.delete kind token)
  | .revokeClientTokens clientId => s.call sha256 (.revokeClientTokens clientId)
  | .beginCleanup id kind =>
    match s.cleanups.lookup id with
    | none => ({ s with cleanups := s.cleanups.insert id (kind, micros s.clock) }, none)
    | some _ => (s, none)
  | .sweep id =>
    match s.cleanups.lookup id with
    -- with the clock reading made at the start of the cleanup
    | some (kind, now) =>
      ({ s with
          storage := s.storage.setTable kind ((s.storage.rows kind).deleteExpired now).1
          cleanups := s.cleanups.erase id }, none)
    | none => (s, none)
  | .beginLoad id kind token =>
    match s.loads.lookup id with
    | none => ({ s with loads := s.loads.insert id (.selecting kind token) }, none)
    | some _ => (s, none)
  | .select id =>
    match s.loads.lookup id with
    | some (.selecting kind token) =>
      ({ s with loads := s.loads.insert id (s.selectRow sha256 kind token) }, none)
    | _ => (s, none)
  | .check id =>
    match s.loads.lookup id with
    | some (.checking kind token row) =>
      ({ s with loads := s.loads.insert id (s.checkRow kind token row) }, none)
    | _ => (s, none)
  | .drop id =>
    match s.loads.lookup id with
    | some (.dropping kind token) =>
      -- by token alone: the row may not be the one that was selected
      let (storage, deleted) := s.storage.deleteFrom sha256 kind token
      let stage := LoadStage.returned kind token (deleted.map fun _ => none) s.clock
      ({ s with storage := storage, loads := s.loads.insert id stage }, none)
    | _ => (s, none)

/-- A server over an open storage with nothing in progress. -/
def start (storage : PostgresTokenStorage) (clock : ℚ) : Server := ⟨clock, storage, ∅, ∅⟩

end Server

/-! ## A load by itself -/

/-- **Alone, a load is the sequential `_load_from`**: run without other actions in between, it
replies and leaves the tables as the method does. -/
theorem load_alone (sha256 : List UInt8 → PyStr) {s : Server} {id : ℕ}
    (hid : s.loads.lookup id = none) (kind : TokenKind) (token : PyStr) :
    let s' := Machine.final (Server.step sha256) s
      [.beginLoad id kind token, .select id, .check id, .drop id]
    s'.storage = (s.storage.loadFrom sha256 kind token s.clock).1 ∧
      s'.loads.lookup id
        = some (.returned kind token (s.storage.loadFrom sha256 kind token s.clock).2 s.clock) := by
  simp only [Machine.final_cons, Machine.final_nil, Server.step, hid, AList.lookup_insert]
  unfold Server.selectRow PostgresTokenStorage.loadFrom
  simp only
  cases s.storage.keyedTable sha256 kind token with
  | error e => simp [AList.lookup_insert]
  | ok p =>
    obtain ⟨digest, t⟩ := p
    simp only
    cases t.selectByToken digest with
    | none => simp [AList.lookup_insert]
    | some row =>
      simp only [AList.lookup_insert, Server.checkRow]
      by_cases hexp : row.expiresAt < micros s.clock
      · simp [hexp, AList.lookup_insert]
      · simp [hexp, AList.lookup_insert]

/-! ## The condition and the invariant -/

/-- **The condition**: a load's `DELETE` meets no row, or one that has expired by now. -/
def DropsOnlyExpired (sha256 : List UInt8 → PyStr) (s : Server) (a : Action) : Prop :=
  match a with
  | .drop id => ∀ kind token digest row, s.loads.lookup id = some (.dropping kind token) →
      hashToken sha256 token = .ok digest → (s.storage.rows kind).lookup digest = some row →
      row.expiresAt < micros s.clock
  | _ => True

/-- Whether an action takes the record of a store away by design: another store or a delete of the
token, or a revocation of the client. -/
def Action.supersedes (kind : TokenKind) (args : TokenArgs) (a : Action) : Prop :=
  match a with
  | .store k other => k = kind ∧ other.token = args.token
  | .delete k token => k = kind ∧ token = args.token
  | .revokeClientTokens clientId => clientId = args.clientId
  | _ => False

/-- The tokens an action names. -/
def Action.tokens : Action → List PyStr
  | .store _ args => [args.token]
  | .delete _ token => [token]
  | .beginLoad _ _ token => [token]
  | _ => []

/-- A load of the token and kind has begun on the way from `s`, at a clock reading up to the
expiry. -/
def StartedBy (sha256 : List UInt8 → PyStr) (s : Server) (kind : TokenKind) (token : PyStr)
    (expiresAt : ℤ) (actions : List Action) (id : ℕ) : Prop :=
  ∃ before after, actions = before ++ .beginLoad id kind token :: after ∧
    (Machine.final (Server.step sha256) s before).loads.lookup id = none ∧
    (Machine.final (Server.step sha256) s before).clock ≤ expiresAt

/-- The action is the `SELECT` or the check of a load of the token and kind. -/
def Reads (s : Server) (kind : TokenKind) (token : PyStr) (a : Action) (id : ℕ) : Prop :=
  (a = .select id ∧ s.loads.lookup id = some (.selecting kind token)) ∨
    ∃ row, a = .check id ∧ s.loads.lookup id = some (.checking kind token row)

/-- **The condition on the loads** of a token stored in the server `stored`: one that begins up to
the expiry selects and checks the row up to the expiry. -/
def ReadsInTime (sha256 : List UInt8 → PyStr) (stored : Server) (kind : TokenKind)
    (args : TokenArgs) (s : Server) (actions : List Action) (a : Action) : Prop :=
  ∀ id, Reads s kind args.token a id →
    StartedBy sha256 stored kind args.token args.expiresAt actions id → s.clock ≤ args.expiresAt

/-- A load of the stored token has seen its row, as far as it has come. -/
def LoadStage.Shows (kind : TokenKind) (args : TokenArgs) : LoadStage → Prop
  | .selecting _ _ => True
  | .checking k token row => k = kind → token = args.token → row.toRowData = args.toRowData
  | .dropping k token => ¬ (k = kind ∧ token = args.token)
  | .returned k token reply _ => k = kind → token = args.token →
      ∃ row : Row, row.toRowData = args.toRowData ∧
        reply = .ok (some (PostgresTokenStorage.loadedRow token row))

/-- The storage is open over both tables, and the cleanups in progress have read the clock in the
past. -/
structure Server.WellFormed (s : Server) : Prop where
  ready : s.storage.Ready
  cleanups : ∀ id k now, s.cleanups.lookup id = some (k, now) → now ≤ micros s.clock

/-- **The invariant after a store**: until the expiry the row is there, and the loads begun in time
(`timely`) have seen it. -/
structure Kept (kind : TokenKind) (args : TokenArgs) (digest : PyStr) (timely : ℕ → Prop)
    (s : Server) : Prop where
  row : s.clock ≤ args.expiresAt →
    ∃ row : Row, (s.storage.rows kind).lookup digest = some row ∧ row.toRowData = args.toRowData
  loads : ∀ id stage, timely id → s.loads.lookup id = some stage → stage.Shows kind args

/-- A row that is expired has its expiry behind it. -/
theorem lt_of_lt_micros {clock : ℚ} {expiresAt : ℤ} (h : expiresAt * 1000000 < micros clock) :
    (expiresAt : ℚ) < clock := by
  by_contra hle
  exact absurd (micros_le_of_le (not_lt.mp hle)) (not_le.mpr h)

section Keeping

variable {sha256 : List UInt8 → PyStr} {kind : TokenKind} {args : TokenArgs} {digest : PyStr}
  {timely : ℕ → Prop} {s : Server}

/-- A load moves on to a stage that has seen the row. -/
theorem Kept.setLoad (h : Kept kind args digest timely s) {id : ℕ} {stage : LoadStage}
    (hstage : timely id → stage.Shows kind args) :
    Kept kind args digest timely { s with loads := s.loads.insert id stage } := by
  refine ⟨h.row, ?_⟩
  have hloads : ∀ id stage, s.loads.lookup id = some stage → timely id → stage.Shows kind args :=
    fun id stage hlookup htimely => h.loads id stage htimely hlookup
  intro id' stage' htimely hlookup
  exact AList.forall_lookup_insert hloads hstage id' stage' hlookup htimely

/-- More loads are known to be in time, if they have seen the row. -/
theorem Kept.extend (h : Kept kind args digest timely s) {timely' : ℕ → Prop}
    (hnew : ∀ id, timely' id → timely id ∨
      ∀ stage, s.loads.lookup id = some stage → stage.Shows kind args) :
    Kept kind args digest timely' s := by
  refine ⟨h.row, ?_⟩
  intro id stage htimely hlookup
  rcases hnew id htimely with hbefore | hshows
  · exact h.loads id stage hbefore hlookup
  · exact hshows stage hlookup

/-- A statement on another kind's table, or one that leaves the row in its table until the
expiry. -/
theorem Kept.setTable (h : Kept kind args digest timely s) {k : TokenKind} {t : Table}
    (ht : k = kind → s.clock ≤ args.expiresAt → ∀ row : Row,
      (s.storage.rows kind).lookup digest = some row → row.toRowData = args.toRowData →
      t.lookup digest = some row) :
    Kept kind args digest timely { s with storage := s.storage.setTable k t } := by
  refine ⟨?_, h.loads⟩
  intro htime
  obtain ⟨row, hrow, hdata⟩ := h.row htime
  refine ⟨row, ?_, hdata⟩
  by_cases hk : k = kind
  · subst hk
    rw [PostgresTokenStorage.rows_setTable_self]
    exact ht rfl htime row hrow hdata
  · rw [PostgresTokenStorage.rows_setTable_ne (Ne.symm hk), hrow]

/-- **The `DELETE` of a cleanup** spares the row: what the cleanup read lies behind, and the expiry
does not. -/
theorem Kept.sweep (hwf : s.WellFormed) (h : Kept kind args digest timely s) {id : ℕ}
    {k : TokenKind} {read : Micros} (hlookup : s.cleanups.lookup id = some (k, read)) :
    Kept kind args digest timely
      { s with storage := s.storage.setTable k ((s.storage.rows k).deleteExpired read).1 } := by
  refine h.setTable ?_
  rintro rfl htime row hrow hdata
  have hexpires : row.expiresAt = args.expiresAt * 1000000 := congrArg RowData.expiresAt hdata
  have hle := le_trans (hwf.cleanups id k read hlookup) (micros_le_of_le htime)
  rw [← hexpires] at hle
  rw [Table.deleteExpired, AList.lookup_filter, hrow, Option.filter_some_pos]
  simpa using hle

/-- **The `DELETE` of a load** spares the row, on the condition: the row it meets has expired, and
ours has not. -/
theorem Kept.drop (hready : s.storage.Ready) (h : Kept kind args digest timely s) {id : ℕ}
    {k : TokenKind} {token : PyStr} (hlookup : s.loads.lookup id = some (.dropping k token))
    (hguard : DropsOnlyExpired sha256 s (.drop id)) :
    Kept kind args digest timely
      { s with storage := (s.storage.deleteFrom sha256 k token).1 } := by
  unfold PostgresTokenStorage.deleteFrom
  cases hdig : hashToken sha256 token with
  | error e =>
    rw [hready.keyedTable_error k hdig]
    exact h
  | ok digest' =>
    rw [hready.keyedTable k hdig]
    refine h.setTable ?_
    rintro rfl htime row hrow hdata
    rw [Table.deleteByToken, AList.lookup_erase_ne, hrow]
    rintro rfl
    have hexp := hguard k token digest row hlookup hdig hrow
    have hexpires : row.expiresAt = args.expiresAt * 1000000 := congrArg RowData.expiresAt hdata
    rw [hexpires] at hexp
    exact absurd (lt_of_lt_micros hexp) (not_lt.mpr htime)

/-- **The `SELECT`** of a load sees the row, if it comes in time. -/
theorem Kept.selectRow (hready : s.storage.Ready) (h : Kept kind args digest timely s)
    (hd : hashToken sha256 args.token = .ok digest) (k : TokenKind) (token : PyStr)
    (htime : k = kind → token = args.token → s.clock ≤ args.expiresAt) :
    (s.selectRow sha256 k token).Shows kind args := by
  unfold Server.selectRow
  cases hdig : hashToken sha256 token with
  | error e =>
    rw [hready.keyedTable_error k hdig]
    rintro - rfl
    rw [hd] at hdig
    cases hdig
  | ok digest' =>
    rw [hready.keyedTable k hdig]
    simp only [Table.selectByToken]
    -- a load of our token selects by our digest
    have hsame : token = args.token → digest' = digest := by
      rintro rfl
      exact Except.ok.inj (hdig.symm.trans hd)
    cases hrow : (s.storage.rows k).lookup digest' with
    | none =>
      rintro rfl htoken
      obtain ⟨row, hlookup, -⟩ := h.row (htime rfl htoken)
      rw [hsame htoken, hlookup] at hrow
      cases hrow
    | some row =>
      rintro rfl htoken
      obtain ⟨row', hlookup, hdata⟩ := h.row (htime rfl htoken)
      rw [hsame htoken, hlookup] at hrow
      rw [← Option.some.inj hrow]
      exact hdata

/-- **The check** returns the row, if it comes in time. -/
theorem Kept.checkRow {k : TokenKind} {token : PyStr} {row : Row}
    (hstage : (LoadStage.checking k token row).Shows kind args)
    (htime : k = kind → token = args.token → s.clock ≤ args.expiresAt) :
    (s.checkRow k token row).Shows kind args := by
  unfold Server.checkRow
  split
  case isTrue hexp =>
    rintro ⟨hk, htoken⟩
    have hdata := hstage hk htoken
    have hexpires : row.expiresAt = args.expiresAt * 1000000 := congrArg RowData.expiresAt hdata
    rw [hexpires] at hexp
    exact absurd (htime hk htoken) (not_le.mpr (lt_of_lt_micros hexp))
  case isFalse =>
    intro hk htoken
    exact ⟨row, hstage hk htoken, rfl⟩

/-- **Time passes**: what was seen is seen later too. -/
theorem Kept.tick (h : Kept kind args digest timely s) (now : ℚ) :
    Kept kind args digest timely (s.step sha256 (.tick now)).1 := by
  unfold Server.step
  simp only
  split
  case isTrue hle =>
    exact ⟨fun htime => h.row (le_trans hle htime), h.loads⟩
  case isFalse => exact h

/-- **Another store** writes elsewhere. -/
theorem Kept.store (hready : s.storage.Ready) (h : Kept kind args digest timely s) {k : TokenKind}
    {other : TokenArgs} (hne : k = kind → ∀ digest', hashToken sha256 other.token = .ok digest' →
      digest ≠ digest') :
    Kept kind args digest timely (s.call sha256 (.store k other)).1 := by
  unfold Server.call
  rcases PostgresTokenStorage.tokenStep_store_cases sha256 s.clock hready k other with
    ⟨e, hstep⟩ | ⟨digest', hdig, hstep⟩
  · simp only [hstep]
    exact h
  · simp only [hstep]
    refine h.setTable ?_
    intro hk _ row hrow _
    subst hk
    rw [Table.lookup_upsert_ne (hne rfl digest' hdig), hrow]

/-- **Another delete** deletes elsewhere. -/
theorem Kept.delete (hready : s.storage.Ready) (h : Kept kind args digest timely s) {k : TokenKind}
    {token : PyStr} (hne : k = kind → ∀ digest', hashToken sha256 token = .ok digest' →
      digest ≠ digest') :
    Kept kind args digest timely (s.call sha256 (.delete k token)).1 := by
  unfold Server.call
  rcases PostgresTokenStorage.tokenStep_delete_cases sha256 s.clock hready k token with
    ⟨e, hstep⟩ | ⟨digest', hdig, hstep⟩
  · simp only [hstep]
    exact h
  · simp only [hstep]
    refine h.setTable ?_
    intro hk _ row hrow _
    subst hk
    rw [Table.deleteByToken, AList.lookup_erase_ne (hne rfl digest' hdig), hrow]

variable (sha256) in
/-- **A revocation** of another client spares the row. -/
theorem Kept.revokeClientTokens (hready : s.storage.Ready) (h : Kept kind args digest timely s)
    {clientId : PyStr} (hne : clientId ≠ args.clientId) :
    Kept kind args digest timely (s.call sha256 (.revokeClientTokens clientId)).1 := by
  obtain ⟨hrows, -, -⟩ :=
    PostgresTokenStorage.tokenStep_revokeClientTokens sha256 s.clock hready clientId
  refine ⟨?_, h.loads⟩
  intro htime
  obtain ⟨row, hrow, hdata⟩ := h.row htime
  have hclient : row.clientId = args.clientId := congrArg RowData.clientId hdata
  refine ⟨row, ?_, hdata⟩
  simp only [Server.call]
  rw [hrows, Table.deleteByClient, AList.lookup_filter, hrow, Option.filter_some_pos]
  rw [hclient]
  simpa using Ne.symm hne

/-- **One action** that does not supersede the store, on the condition, keeps its row. -/
theorem Kept.step (hwf : s.WellFormed) (h : Kept kind args digest timely s)
    (hd : hashToken sha256 args.token = .ok digest) {a : Action}
    (hinj : HashInjOn sha256 fun token => token = args.token ∨ token ∈ a.tokens)
    (hquiet : ¬ a.supersedes kind args) (hguard : DropsOnlyExpired sha256 s a)
    (htime : ∀ id, Reads s kind args.token a id → timely id → s.clock ≤ args.expiresAt) :
    Kept kind args digest timely (s.step sha256 a).1 := by
  -- another token of the action has another digest
  have hne : ∀ token, token ∈ a.tokens → token ≠ args.token → ∀ digest',
      hashToken sha256 token = .ok digest' → digest ≠ digest' := by
    rintro token hmem hneq digest' hdig rfl
    exact hneq (hinj token args.token digest (Or.inr hmem) (Or.inl rfl) hdig hd)
  cases a with
  | tick now => exact h.tick now
  | store k other =>
    exact h.store hwf.ready fun hk =>
      hne other.token (by simp [Action.tokens]) fun htoken => hquiet ⟨hk, htoken⟩
  | delete k token =>
    exact h.delete hwf.ready fun hk =>
      hne token (by simp [Action.tokens]) fun htoken => hquiet ⟨hk, htoken⟩
  | revokeClientTokens clientId => exact h.revokeClientTokens sha256 hwf.ready hquiet
  | beginCleanup id k =>
    unfold Server.step
    simp only
    split <;> exact ⟨h.row, h.loads⟩
  | sweep id =>
    unfold Server.step
    simp only
    split
    case h_1 k read hlookup =>
      have hswept := h.sweep hwf hlookup
      exact ⟨hswept.row, hswept.loads⟩
    case h_2 => exact h
  | beginLoad id k token =>
    unfold Server.step
    simp only
    split
    · exact h.setLoad fun _ => trivial
    · exact h
  | select id =>
    unfold Server.step
    simp only
    split
    case h_1 k token hlookup =>
      refine h.setLoad fun htimely => h.selectRow hwf.ready hd k token ?_
      rintro rfl rfl
      exact htime id (Or.inl ⟨rfl, hlookup⟩) htimely
    case h_2 => exact h
  | check id =>
    unfold Server.step
    simp only
    split
    case h_1 k token row hlookup =>
      refine h.setLoad fun htimely => Kept.checkRow (h.loads id _ htimely hlookup) ?_
      rintro rfl rfl
      exact htime id (Or.inr ⟨row, rfl, hlookup⟩) htimely
    case h_2 => exact h
  | drop id =>
    unfold Server.step
    simp only
    split
    case h_1 k token hlookup =>
      have hstage : ∀ reply, timely id →
          (LoadStage.returned k token reply s.clock).Shows kind args := by
        intro reply htimely hk htoken
        exact absurd ⟨hk, htoken⟩ (h.loads id _ htimely hlookup)
      have hdropped := h.drop hwf.ready hlookup hguard
      exact hdropped.setLoad (hstage _)
    case h_2 => exact h

end Keeping

/-! ## Runs -/

/-- A call of one statement leaves the readings of the cleanups alone. -/
theorem Server.WellFormed.call {sha256 : List UInt8 → PyStr} {s : Server} (h : s.WellFormed)
    (op : TokenOp) : (s.call sha256 op).1.WellFormed :=
  ⟨h.ready.tokenStep sha256 s.clock op, h.cleanups⟩

/-- A well-formed server stays well formed. -/
theorem Server.WellFormed.step {sha256 : List UInt8 → PyStr} {s : Server} (h : s.WellFormed)
    (a : Action) : (s.step sha256 a).1.WellFormed := by
  -- every cleanup in progress has read a clock that is behind
  have hread : ∀ id (read : TokenKind × Micros), s.cleanups.lookup id = some read →
      read.2 ≤ micros s.clock := fun id read hlookup => h.cleanups id read.1 read.2 hlookup
  unfold Server.step
  cases a with
  | tick now =>
    simp only
    split
    case isTrue hle =>
      exact ⟨h.ready, fun id k read hlookup =>
        le_trans (h.cleanups id k read hlookup) (micros_mono hle)⟩
    case isFalse => exact h
  | store kind args => exact h.call _
  | delete kind token => exact h.call _
  | revokeClientTokens clientId => exact h.call _
  | beginCleanup id kind =>
    simp only
    split
    · refine ⟨h.ready, ?_⟩
      intro id' k read hlookup
      exact AList.forall_lookup_insert hread le_rfl id' (k, read) hlookup
    · exact h
  | sweep id =>
    simp only
    split
    · refine ⟨h.ready.setTable _ _, ?_⟩
      intro id' k read hlookup
      exact AList.forall_lookup_erase hread id id' (k, read) hlookup
    · exact h
  | beginLoad id kind token =>
    simp only
    split <;> exact ⟨h.ready, h.cleanups⟩
  | select id =>
    simp only
    split <;> exact ⟨h.ready, h.cleanups⟩
  | check id =>
    simp only
    split <;> exact ⟨h.ready, h.cleanups⟩
  | drop id =>
    simp only
    split
    case h_1 kind token hlookup =>
      -- the `DELETE` of a load is that of a delete
      have hdelete := h.ready.tokenStep sha256 s.clock (.delete kind token)
      rw [PostgresTokenStorage.tokenStep_delete_eq] at hdelete
      exact ⟨hdelete, h.cleanups⟩
    case h_2 => exact h

/-- A server with nothing in progress is well formed, and so is every server it leads to. -/
theorem wellFormed_final (sha256 : List UInt8 → PyStr) {storage : PostgresTokenStorage}
    (h : storage.Ready) (clock : ℚ) (actions : List Action) :
    (Machine.final (Server.step sha256) (Server.start storage clock) actions).WellFormed :=
  Machine.trace_invariant (Server.step sha256) (fun s _ => s.WellFormed)
    (fun _ _ a hs => hs.step a) ⟨h, fun _ _ _ hlookup => by simp [Server.start] at hlookup⟩ actions

/-- A store that returned has its row in the table. -/
theorem kept_store {sha256 : List UInt8 → PyStr} {s : Server} (hwf : s.WellFormed)
    {kind : TokenKind} {args : TokenArgs}
    (hstored : (s.step sha256 (.store kind args)).2 = some (.ok .done)) :
    ∃ digest, hashToken sha256 args.token = .ok digest ∧
      Kept kind args digest (fun _ => False) (s.step sha256 (.store kind args)).1 := by
  unfold Server.step Server.call at hstored ⊢
  rcases PostgresTokenStorage.tokenStep_store_cases sha256 s.clock hwf.ready kind args with
    ⟨e, hstep⟩ | ⟨digest, hd, hstep⟩
  · simp [hstep] at hstored
  · obtain ⟨createdAt, hlookup⟩ :=
      Table.lookup_upsert_self (s.storage.rows kind) digest args.toRowData (micros s.clock)
    refine ⟨digest, hd, ?_, fun _ _ hnew => hnew.elim⟩
    intro _
    refine ⟨{ args.toRowData with createdAt := createdAt }, ?_, rfl⟩
    simp only [hstep, PostgresTokenStorage.rows_setTable_self]
    exact hlookup

/-- The load that an action begins has seen all there is to see so far. -/
theorem startedBy_concat {sha256 : List UInt8 → PyStr} {stored : Server} {kind : TokenKind}
    {token : PyStr} {expiresAt : ℤ} {actions : List Action} {a : Action} {id : ℕ}
    (h : StartedBy sha256 stored kind token expiresAt (actions ++ [a]) id) :
    StartedBy sha256 stored kind token expiresAt actions id ∨
      (Machine.final (Server.step sha256) stored (actions ++ [a])).loads.lookup id
        = some (.selecting kind token) := by
  obtain ⟨before, after, heq, hfresh, hclock⟩ := h
  rcases List.concat_split heq with ⟨rfl, rfl, -⟩ | ⟨after', -, rfl⟩
  · right
    rw [Machine.final_append]
    simp [Server.step, hfresh]
  · exact Or.inl ⟨before, after', rfl, hfresh, hclock⟩

/-- **A run** that does not supersede the store, on the conditions, keeps its row. -/
theorem kept_final {sha256 : List UInt8 → PyStr} {stored : Server} (hwf : stored.WellFormed)
    {kind : TokenKind} {args : TokenArgs} {digest : PyStr}
    (h : Kept kind args digest (fun _ => False) stored)
    (hd : hashToken sha256 args.token = .ok digest) {actions : List Action}
    (hinj : HashInjOn sha256 fun token => token = args.token ∨ ∃ a ∈ actions, token ∈ a.tokens)
    (hquiet : ∀ a ∈ actions, ¬ a.supersedes kind args)
    (hcondition : Machine.AllSteps (Server.step sha256)
      (fun s tr a => DropsOnlyExpired sha256 s a ∧
        ReadsInTime sha256 stored kind args s (tr.map Prod.fst) a) stored actions) :
    (Machine.final (Server.step sha256) stored actions).WellFormed ∧
      Kept kind args digest (StartedBy sha256 stored kind args.token args.expiresAt actions)
        (Machine.final (Server.step sha256) stored actions) := by
  induction actions using List.reverseRecOn with
  | nil =>
    refine ⟨hwf, h.extend ?_⟩
    rintro id ⟨before, after, heq, -⟩
    exact absurd heq (by simp)
  | append_singleton actions a ih =>
    rw [Machine.allSteps_concat, Machine.map_fst_trace] at hcondition
    obtain ⟨hbefore, hdrops, hreads⟩ := hcondition
    have hinj' : ∀ {P : PyStr → Prop}, (∀ token, P token → ∃ b ∈ actions ++ [a], token ∈ b.tokens) →
        HashInjOn sha256 fun token => token = args.token ∨ P token := by
      intro P hP token token' digest' ht ht'
      exact hinj token token' digest' (ht.imp_right (hP token)) (ht'.imp_right (hP token'))
    obtain ⟨hwf', hprev⟩ := ih
      (hinj' fun token ⟨b, hb, ht⟩ => ⟨b, List.mem_append_left _ hb, ht⟩)
      (fun b hb => hquiet b (List.mem_append_left _ hb)) hbefore
    have hnext := hprev.step hwf' hd (hinj' fun token ht => ⟨a, by simp, ht⟩)
      (hquiet a (by simp)) hdrops hreads
    rw [Machine.final_append]
    refine ⟨hwf'.step a, hnext.extend ?_⟩
    intro id hstarted
    -- a load is in time from before, or has just begun
    rcases startedBy_concat hstarted with hbefore | hbegun
    · exact Or.inl hbefore
    · right
      intro stage hlookup
      rw [Machine.final_append] at hbegun
      rw [Machine.final_cons, Machine.final_nil] at hbegun
      obtain rfl := Option.some.inj (hbegun.symm.trans hlookup)
      trivial

/-- The server after the actions `pre` and a store. -/
def storedAfter (sha256 : List UInt8 → PyStr) (storage : PostgresTokenStorage) (clock : ℚ)
    (pre : List Action) (kind : TokenKind) (args : TokenArgs) : Server × Option Result :=
  (Machine.final (Server.step sha256) (Server.start storage clock) pre).step sha256
    (.store kind args)

/-- **Every load begun by the expiry returns the stored token.** A store of a token returned after
`pre`; in `post` nothing supersedes it, the `DELETE`s of loads meet only expired rows, and the loads
of the token that begin up to the expiry read up to the expiry. Then each of these loads that
replies replies with the stored row. -/
theorem stored_token_kept (sha256 : List UInt8 → PyStr) (storage : PostgresTokenStorage)
    (clock : ℚ) (pre post : List Action) (kind : TokenKind) (args : TokenArgs) (id : ℕ)
    {reply : Except StorageError (Option TokenData)} {time : ℚ} (hready : storage.Ready)
    (hstored : (storedAfter sha256 storage clock pre kind args).2 = some (.ok .done))
    (hinj : HashInjOn sha256 fun token => token = args.token ∨ ∃ a ∈ post, token ∈ a.tokens)
    (hquiet : ∀ a ∈ post, ¬ a.supersedes kind args)
    (hcondition : Machine.AllSteps (Server.step sha256)
      (fun s tr a => DropsOnlyExpired sha256 s a ∧
        ReadsInTime sha256 (storedAfter sha256 storage clock pre kind args).1 kind args s
          (tr.map Prod.fst) a)
      (storedAfter sha256 storage clock pre kind args).1 post)
    (hstarted : StartedBy sha256 (storedAfter sha256 storage clock pre kind args).1 kind args.token
      args.expiresAt post id)
    (hreturned : (Machine.final (Server.step sha256)
        (storedAfter sha256 storage clock pre kind args).1 post).loads.lookup id
      = some (.returned kind args.token reply time)) :
    ∃ row : Row, row.toRowData = args.toRowData ∧
      reply = .ok (some (PostgresTokenStorage.loadedRow args.token row)) := by
  have hwf := wellFormed_final sha256 hready clock pre
  obtain ⟨digest, hd, hkept⟩ := kept_store hwf hstored
  obtain ⟨-, hrun⟩ := kept_final (hwf.step _) hkept hd hinj hquiet hcondition
  exact hrun.loads id _ hstarted hreturned rfl rfl

/-- **The condition on the `DELETE`s is needed**: once one has met a row that is not expired, the
next load finds nothing. -/
theorem load_after_drop (sha256 : List UInt8 → PyStr) {s : Server} (hready : s.storage.Ready)
    {id id' : ℕ} {kind : TokenKind} {token digest : PyStr}
    (hdropping : s.loads.lookup id = some (.dropping kind token))
    (hd : hashToken sha256 token = .ok digest) (hfresh : s.loads.lookup id' = none) :
    (Machine.final (Server.step sha256) s
        [.drop id, .beginLoad id' kind token, .select id']).loads.lookup id'
      = some (.returned kind token (.ok none) s.clock) := by
  have hid : id' ≠ id := by
    rintro rfl
    rw [hdropping] at hfresh
    cases hfresh
  have hdelete := PostgresTokenStorage.deleteFrom_of_table hready.1 (hready.table kind) hd
  simp only [Machine.final_cons, Machine.final_nil, Server.step, hdropping, hdelete,
    AList.lookup_insert_ne hid, hfresh, AList.lookup_insert, Server.selectRow,
    (hready.setTable kind _).keyedTable kind hd, PostgresTokenStorage.rows_setTable_self]
  simp [Table.selectByToken, Table.deleteByToken]

/-- **The condition on the loads is needed**: one whose check comes after the expiry of its row
drops it and returns nothing, whenever it began. -/
theorem load_after_expiry (sha256 : List UInt8 → PyStr) {s : Server} (hready : s.storage.Ready)
    {id : ℕ} {kind : TokenKind} {token digest : PyStr} {row : Row}
    (hchecking : s.loads.lookup id = some (.checking kind token row))
    (hd : hashToken sha256 token = .ok digest) (hexpired : row.expiresAt < micros s.clock) :
    (Machine.final (Server.step sha256) s [.check id, .drop id]).loads.lookup id
      = some (.returned kind token (.ok none) s.clock) := by
  have hdelete := PostgresTokenStorage.deleteFrom_of_table hready.1 (hready.table kind) hd
  simp only [Machine.final_cons, Machine.final_nil, Server.step, hchecking, Server.checkRow,
    if_pos hexpired, AList.lookup_insert, hdelete, Except.map]

/-- A load finds its row and takes its time. -/
def patientLoad : List Action :=
  [.beginLoad 1 .access (PyStr.ofString "a"), .select 1, .tick 10, .check 1]

theorem stored_token_kept_patientLoad :
    ∃ row : Row, row.toRowData = (sampleArgs (PyStr.ofString "a")).toRowData ∧
      (Except.ok (some { sampleArgs (PyStr.ofString "a") with createdAt := some 0 }) :
          Except StorageError (Option TokenData))
        = .ok (some (PostgresTokenStorage.loadedRow (PyStr.ofString "a") row)) := by
  have hinj : HashInjOn sampleSha256 fun token =>
      token = (sampleArgs (PyStr.ofString "a")).token ∨ ∃ a ∈ patientLoad, token ∈ a.tokens := by
    intro token token' _ ht ht' _ _
    simp only [patientLoad, sampleArgs, Action.tokens, List.mem_cons, List.not_mem_nil, or_false,
      exists_eq_or_imp, exists_eq_left, or_self] at ht ht'
    rw [ht, ht']
  have hreturned : (Machine.final (Server.step sampleSha256)
      (storedAfter sampleSha256 ⟨true, ∅, some ∅⟩ 0 [] .access (sampleArgs (PyStr.ofString "a"))).1
      patientLoad).loads.lookup 1
      = some (.returned .access (PyStr.ofString "a")
          (.ok (some { sampleArgs (PyStr.ofString "a") with createdAt := some 0 })) 10) := by
    decide +kernel
  refine stored_token_kept sampleSha256 ⟨true, ∅, some ∅⟩ 0 [] patientLoad .access
    (sampleArgs (PyStr.ofString "a")) 1 ⟨rfl, rfl⟩ (by decide +kernel) hinj ?_ ?_ ?_ hreturned
  · simp [Action.supersedes, patientLoad]
  · -- the clock does not go past the expiry
    have hclock : Machine.AllSteps (Server.step sampleSha256) (fun s _ _ => s.clock ≤ 10)
        (storedAfter sampleSha256 ⟨true, ∅, some ∅⟩ 0 [] .access
          (sampleArgs (PyStr.ofString "a"))).1 patientLoad := by
      decide +kernel
    rw [Machine.allSteps_iff] at hclock ⊢
    intro before a after heq
    refine ⟨?_, fun _ _ _ => hclock before a after heq⟩
    have hmem : a ∈ patientLoad := heq ▸ by simp
    simp only [patientLoad, List.mem_cons, List.not_mem_nil, or_false] at hmem
    rcases hmem with rfl | rfl | rfl | rfl <;> trivial
  · exact ⟨[], _, rfl, by decide +kernel, by decide +kernel⟩

/-- A slow load: it selects the row of an expired token and has yet to delete it. -/
def slowLoad : List Action :=
  [.store .access { sampleArgs (PyStr.ofString "a") with expiresAt := 1 }, .tick 5,
    .beginLoad 0 .access (PyStr.ofString "a"), .select 0, .check 0]

/-- The token is stored anew, the slow load deletes the new row, and the next load finds nothing. -/
theorem stored_token_lost :
    ((Machine.final (Server.step sampleSha256) (Server.start ⟨true, ∅, some ∅⟩ 0) slowLoad).step
        sampleSha256 (.store .access (sampleArgs (PyStr.ofString "a")))).2 = some (.ok .done) ∧
    (∀ a ∈ ([.drop 0, .beginLoad 1 .access (PyStr.ofString "a"), .select 1] : List Action),
      ¬ a.supersedes .access (sampleArgs (PyStr.ofString "a"))) ∧
    (Machine.final (Server.step sampleSha256) (Server.start ⟨true, ∅, some ∅⟩ 0)
        slowLoad).loads.lookup 1 = none ∧
    (Machine.final (Server.step sampleSha256) (Server.start ⟨true, ∅, some ∅⟩ 0)
        (slowLoad ++ .store .access (sampleArgs (PyStr.ofString "a")) ::
          [.drop 0, .beginLoad 1 .access (PyStr.ofString "a"), .select 1])).loads.lookup 1
      = some (.returned .access (PyStr.ofString "a") (.ok none) 5) ∧
    (5 : ℚ) ≤ (sampleArgs (PyStr.ofString "a")).expiresAt := by
  refine ⟨by decide +kernel, ?_, by decide +kernel, by decide +kernel, ?_⟩
  · simp [Action.supersedes]
  · norm_num [sampleArgs]

end McpAuthflow.Storage
