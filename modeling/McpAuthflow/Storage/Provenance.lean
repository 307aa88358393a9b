import McpAuthflow.Storage.PostgresConcurrency

/-! # Where a loaded token comes from

Loads race with stores, deletes, revocations, cleanups and the `DELETE`s of other loads. What a load
returns is nevertheless a record that some store wrote, under the digest of the token asked for, and
one that is not expired when the load looks (**`loaded_from_store`**): an interleaving loses records
(`stored_token_lost`), but makes none up. So a removal is final: a load that begins after a delete
or a revocation returns only what has been stored since, **`removal_final`**. -/

namespace McpAuthflow.Storage

/-- The record was in the table at `digest`, or an action of the run wrote it there. -/
def Sourced (sha256 : List UInt8 → PyStr) (s : Server) (actions : List Action) (kind : TokenKind)
    (digest : PyStr) (data : RowData) : Prop :=
  (∃ row : Row, (s.storage.rows kind).lookup digest = some row ∧ row.toRowData = data) ∨
    ∃ args, Action.store kind args ∈ actions ∧ hashToken sha256 args.token = .ok digest ∧
      args.toRowData = data

/-- What a load has in hand comes from `P`. -/
def LoadStage.ComesFrom (sha256 : List UInt8 → PyStr) (P : TokenKind → PyStr → RowData → Prop) :
    LoadStage → Prop
  | .selecting _ _ | .dropping _ _ => True
  | .checking kind token row =>
    ∃ digest, hashToken sha256 token = .ok digest ∧ P kind digest row.toRowData
  | .returned kind token reply time => ∀ data, reply = .ok (some data) →
    ∃ digest row, hashToken sha256 token = .ok digest ∧ P kind digest row.toRowData ∧
      data = PostgresTokenStorage.loadedRow token row ∧ micros time ≤ row.expiresAt

/-- **The invariant**: what is in the tables, and what the loads begun since (`new`) have in hand,
comes from `P`. -/
structure ComesFrom (sha256 : List UInt8 → PyStr) (P : TokenKind → PyStr → RowData → Prop)
    (new : ℕ → Prop) (s : Server) : Prop where
  rows : ∀ kind digest row, (s.storage.rows kind).lookup digest = some row →
    P kind digest row.toRowData
  loads : ∀ id stage, s.loads.lookup id = some stage → new id → stage.ComesFrom sha256 P

section

variable {sha256 : List UInt8 → PyStr} {P : TokenKind → PyStr → RowData → Prop} {new : ℕ → Prop}
  {s : Server}

/-- A statement writes one table, all of whose rows come from `P`. -/
theorem ComesFrom.setTable (h : ComesFrom sha256 P new s) {kind : TokenKind} {t : Table}
    (ht : ∀ digest row, t.lookup digest = some row → P kind digest row.toRowData) :
    ComesFrom sha256 P new { s with storage := s.storage.setTable kind t } := by
  refine ⟨?_, h.loads⟩
  intro k digest row hlookup
  by_cases hk : k = kind
  · subst hk
    rw [PostgresTokenStorage.rows_setTable_self] at hlookup
    exact ht digest row hlookup
  · rw [PostgresTokenStorage.rows_setTable_ne hk] at hlookup
    exact h.rows k digest row hlookup

/-- A load moves on, with what comes from `P` in hand. -/
theorem ComesFrom.setLoad (h : ComesFrom sha256 P new s) {id : ℕ} {stage : LoadStage}
    (hstage : new id → stage.ComesFrom sha256 P) :
    ComesFrom sha256 P new { s with loads := s.loads.insert id stage } :=
  ⟨h.rows, AList.forall_lookup_insert h.loads hstage⟩

/-- Rows that are left over when some are deleted. -/
theorem lookup_of_lookup_filter {t : Table} {p : PyStr → Row → Bool} {digest : PyStr} {row : Row}
    (h : (t.filter p).lookup digest = some row) :
    t.lookup digest = some row ∧ p digest row = true := by
  rw [AList.lookup_filter, Option.filter_eq_some_iff] at h
  exact h

/-- Rows that are left over when one is deleted. -/
theorem lookup_of_lookup_deleteByToken {t : Table} {digest digest' : PyStr} {row : Row}
    (h : (t.deleteByToken digest').lookup digest = some row) : t.lookup digest = some row := by
  rw [Table.deleteByToken] at h
  by_cases hd : digest = digest'
  · rw [hd, AList.lookup_erase] at h
    cases h
  · rwa [AList.lookup_erase_ne hd] at h

/-- **A store** writes its own row. -/
theorem ComesFrom.store (hready : s.storage.Ready) (h : ComesFrom sha256 P new s)
    {kind : TokenKind} {args : TokenArgs}
    (hargs : ∀ digest, hashToken sha256 args.token = .ok digest → P kind digest args.toRowData) :
    ComesFrom sha256 P new (s.call sha256 (.store kind args)).1 := by
  unfold Server.call
  rcases PostgresTokenStorage.tokenStep_store_cases sha256 s.clock hready kind args with
    ⟨e, hstep⟩ | ⟨digest, hd, hstep⟩
  · simp only [hstep]
    exact h
  · simp only [hstep]
    refine h.setTable ?_
    intro digest' row hlookup
    by_cases hdigest : digest' = digest
    · subst hdigest
      obtain ⟨createdAt, hself⟩ :=
        Table.lookup_upsert_self (s.storage.rows kind) digest' args.toRowData (micros s.clock)
      rw [hself] at hlookup
      obtain rfl := Option.some.inj hlookup
      exact hargs digest' hd
    · rw [Table.lookup_upsert_ne hdigest] at hlookup
      exact h.rows kind digest' row hlookup

/-- **A `DELETE` by token**, of a delete or of a load, writes nothing. -/
theorem ComesFrom.deleteFrom (hready : s.storage.Ready) (h : ComesFrom sha256 P new s)
    (kind : TokenKind) (token : PyStr) :
    ComesFrom sha256 P new { s with storage := (s.storage.deleteFrom sha256 kind token).1 } := by
  unfold PostgresTokenStorage.deleteFrom
  cases hd : hashToken sha256 token with
  | error e =>
    rw [hready.keyedTable_error kind hd]
    exact h
  | ok digest =>
    rw [hready.keyedTable kind hd]
    exact h.setTable fun digest' row hlookup =>
      h.rows kind digest' row (lookup_of_lookup_deleteByToken hlookup)

/-- **A revocation** writes nothing. -/
theorem ComesFrom.revokeClientTokens (hready : s.storage.Ready) (h : ComesFrom sha256 P new s)
    (clientId : PyStr) :
    ComesFrom sha256 P new (s.call sha256 (.revokeClientTokens clientId)).1 := by
  obtain ⟨hrows, -, -⟩ :=
    PostgresTokenStorage.tokenStep_revokeClientTokens sha256 s.clock hready clientId
  refine ⟨?_, h.loads⟩
  intro kind digest row hlookup
  simp only [Server.call] at hlookup
  rw [hrows, Table.deleteByClient] at hlookup
  exact h.rows kind digest row (lookup_of_lookup_filter hlookup).1

/-- **The `SELECT`** of a load finds a row of the table. -/
theorem ComesFrom.selectRow (hready : s.storage.Ready) (h : ComesFrom sha256 P new s)
    (kind : TokenKind) (token : PyStr) :
    (s.selectRow sha256 kind token).ComesFrom sha256 P := by
  unfold Server.selectRow
  cases hd : hashToken sha256 token with
  | error e =>
    rw [hready.keyedTable_error kind hd]
    intro data hreply
    cases hreply
  | ok digest =>
    rw [hready.keyedTable kind hd]
    simp only [Table.selectByToken]
    cases hrow : (s.storage.rows kind).lookup digest with
    | none =>
      intro data hreply
      cases hreply
    | some row => exact ⟨digest, hd, h.rows kind digest row hrow⟩

/-- **The check** lets a row pass that has not expired. -/
theorem LoadStage.ComesFrom.checkRow {kind : TokenKind} {token : PyStr} {row : Row}
    (h : (LoadStage.checking kind token row).ComesFrom sha256 P) :
    (s.checkRow kind token row).ComesFrom sha256 P := by
  unfold Server.checkRow
  split
  case isTrue => trivial
  case isFalse hexp =>
    rintro data ⟨⟩
    obtain ⟨digest, hd, hP⟩ := h
    exact ⟨digest, row, hd, hP, rfl, not_lt.mp hexp⟩

/-- **One action** keeps the invariant, if what it stores comes from `P`. -/
theorem ComesFrom.step (hwf : s.WellFormed) (h : ComesFrom sha256 P new s) {a : Action}
    (ha : ∀ kind args digest, a = .store kind args → hashToken sha256 args.token = .ok digest →
      P kind digest args.toRowData) :
    ComesFrom sha256 P new (s.step sha256 a).1 := by
  cases a with
  | tick now =>
    simp only [Server.step]
    split <;> exact ⟨h.rows, h.loads⟩
  | store kind args => exact h.store hwf.ready fun digest hd => ha kind args digest rfl hd
  | delete kind token =>
    have hdelete := h.deleteFrom hwf.ready kind token
    simp only [Server.step, Server.call, PostgresTokenStorage.tokenStep_delete_eq]
    exact hdelete
  | revokeClientTokens clientId => exact h.revokeClientTokens hwf.ready clientId
  | beginCleanup id kind =>
    simp only [Server.step]
    split <;> exact ⟨h.rows, h.loads⟩
  | sweep id =>
    simp only [Server.step]
    split
    case h_1 kind read _ =>
      have hrows : ∀ digest row, ((s.storage.rows kind).deleteExpired read).1.lookup digest
          = some row → P kind digest row.toRowData := fun digest row hlookup =>
        h.rows kind digest row (lookup_of_lookup_filter hlookup).1
      exact ⟨(h.setTable hrows).rows, h.loads⟩
    case h_2 => exact h
  | beginLoad id kind token =>
    simp only [Server.step]
    split
    · exact h.setLoad fun _ => trivial
    · exact h
  | select id =>
    simp only [Server.step]
    split
    · exact h.setLoad fun _ => h.selectRow hwf.ready _ _
    · exact h
  | check id =>
    simp only [Server.step]
    split
    case h_1 kind token row hlookup =>
      exact h.setLoad fun hnew => (h.loads id _ hlookup hnew).checkRow
    case h_2 => exact h
  | drop id =>
    simp only [Server.step]
    split
    case h_1 kind token hlookup =>
      refine (h.deleteFrom hwf.ready kind token).setLoad ?_
      -- the reply of a load that drops its row has no record in it
      rintro - data hreply
      cases hdeleted : (s.storage.deleteFrom sha256 kind token).2 with
      | error e =>
        rw [hdeleted] at hreply
        cases hreply
      | ok _ =>
        rw [hdeleted] at hreply
        cases hreply
    case h_2 => exact h

end

/-! ## Runs -/

/-- **A loaded token was stored**, whatever the interleaving. A load that begins after `pre` and
returns a record returns that of a row which was in the table after `pre` or was written by a store
of `post`, under the digest of the token asked for; and it had not expired when the load looked. -/
theorem loaded_from_store (sha256 : List UInt8 → PyStr) (storage : PostgresTokenStorage) (clock : ℚ)
    (pre post : List Action) (id : ℕ) (kind : TokenKind) (token : PyStr) {data : TokenData}
    {time : ℚ} (hready : storage.Ready)
    (hnew : (Machine.final (Server.step sha256) (Server.start storage clock) pre).loads.lookup id
      = none)
    (hreturned : (Machine.final (Server.step sha256) (Server.start storage clock)
        (pre ++ post)).loads.lookup id = some (.returned kind token (.ok (some data)) time)) :
    ∃ digest row, hashToken sha256 token = .ok digest ∧
      Sourced sha256 (Machine.final (Server.step sha256) (Server.start storage clock) pre) post
        kind digest row.toRowData ∧
      data = PostgresTokenStorage.loadedRow token row ∧ micros time ≤ row.expiresAt := by
  set s := Machine.final (Server.step sha256) (Server.start storage clock) pre with hs
  let Inv (u : Server) : Prop := u.WellFormed ∧
    ComesFrom sha256 (Sourced sha256 s post) (fun id => s.loads.lookup id = none) u
  have hinit : Inv s := by
    refine ⟨wellFormed_final sha256 hready clock pre, ?_, ?_⟩
    · exact fun kind digest row hlookup => Or.inl ⟨row, hlookup, rfl⟩
    · intro id stage hlookup hnone
      rw [hlookup] at hnone
      cases hnone
  have hstep : ∀ u, ∀ a ∈ post, Inv u → Inv (u.step sha256 a).1 := by
    rintro u a hmem ⟨hwf, hu⟩
    refine ⟨hwf.step a, hu.step hwf ?_⟩
    rintro kind args digest rfl hd
    exact Or.inr ⟨args, hmem, hd, rfl⟩
  have hfinal : Inv (Machine.final (Server.step sha256) s post) :=
    Machine.final_induction _ hstep hinit
  rw [Machine.final_append, ← hs] at hreturned
  exact hfinal.2.loads id _ hreturned hnew data rfl

/-- Whether an action removes a token of a client: a delete of the token, or a revocation of the
client. -/
def Action.removes (kind : TokenKind) (token clientId : PyStr) : Action → Prop
  | .delete k token' => k = kind ∧ token' = token
  | .revokeClientTokens clientId' => clientId' = clientId
  | _ => False

/-- A row that is left over from a removal is not one the removal is for. -/
theorem not_removes_of_lookup {sha256 : List UInt8 → PyStr} {s : Server}
    (hready : s.storage.Ready) {kind : TokenKind} {token digest : PyStr}
    (hd : hashToken sha256 token = .ok digest) {a : Action} {row : Row}
    (hlookup : ((s.step sha256 a).1.storage.rows kind).lookup digest = some row) :
    ¬ a.removes kind token row.clientId := by
  cases a with
  | delete k token' =>
    rintro ⟨rfl, rfl⟩
    simp only [Server.step, Server.call, PostgresTokenStorage.tokenStep_delete hready hd,
      PostgresTokenStorage.rows_setTable_self, Table.deleteByToken, AList.lookup_erase] at hlookup
    cases hlookup
  | revokeClientTokens clientId =>
    rintro rfl
    obtain ⟨hrows, -, -⟩ :=
      PostgresTokenStorage.tokenStep_revokeClientTokens sha256 s.clock hready row.clientId
    simp only [Server.step, Server.call] at hlookup
    rw [hrows, Table.deleteByClient] at hlookup
    have hkept := (lookup_of_lookup_filter hlookup).2
    simp at hkept
  | tick _ | store _ _ | beginCleanup _ _ | sweep _ | beginLoad _ _ _ | select _ | check _
  | drop _ => exact id

/-- **A removal is final**, whatever the interleaving: a load that begins after a delete of the
token, or after a revocation of the client whose token it returns, returns the record of a store
that came after the removal. -/
theorem removal_final (sha256 : List UInt8 → PyStr) (storage : PostgresTokenStorage) (clock : ℚ)
    (pre post : List Action) (removal : Action) (id : ℕ) (kind : TokenKind) (token : PyStr)
    {data : TokenData} {time : ℚ} (hready : storage.Ready)
    (hremoves : removal.removes kind token data.clientId)
    (hnew : (Machine.final (Server.step sha256) (Server.start storage clock)
      (pre ++ [removal])).loads.lookup id = none)
    (hreturned : (Machine.final (Server.step sha256) (Server.start storage clock)
        (pre ++ [removal] ++ post)).loads.lookup id
      = some (.returned kind token (.ok (some data)) time)) :
    ∃ args, Action.store kind args ∈ post ∧
      hashToken sha256 args.token = hashToken sha256 token ∧
      ∃ row : Row, row.toRowData = args.toRowData ∧
        data = PostgresTokenStorage.loadedRow token row := by
  obtain ⟨digest, row, hd, hsourced, rfl, -⟩ :=
    loaded_from_store sha256 storage clock _ post id kind token hready hnew hreturned
  rcases hsourced with ⟨old, hlookup, hold⟩ | ⟨args, hmem, hd', hargs⟩
  · -- no such row was left over
    rw [Machine.final_append] at hlookup
    have hready' := (wellFormed_final sha256 hready clock pre).ready
    have hclient : old.clientId = row.clientId := congrArg RowData.clientId hold
    have hnot := not_removes_of_lookup hready' hd hlookup
    rw [hclient] at hnot
    exact absurd hremoves hnot
  · exact ⟨args, hmem, hd'.trans hd.symm, row, hargs.symm, rfl⟩

/-- A load of a stored token crosses its delete. -/
def racingLoad : List Action :=
  [.store .access (sampleArgs (PyStr.ofString "a")), .beginLoad 0 .access (PyStr.ofString "a"),
    .select 0]

/-- The delete comes before the check, and the record is returned all the same: it was stored. -/
theorem loaded_from_store_racingLoad :
    ∃ digest row, hashToken sampleSha256 (PyStr.ofString "a") = .ok digest ∧
      Sourced sampleSha256 (Machine.final (Server.step sampleSha256)
          (Server.start ⟨true, ∅, some ∅⟩ 0) []) (racingLoad ++
            [.delete .access (PyStr.ofString "a"), .tick 9, .check 0]) .access digest
        row.toRowData ∧
      { sampleArgs (PyStr.ofString "a") with createdAt := some 0 }
        = PostgresTokenStorage.loadedRow (PyStr.ofString "a") row ∧ micros 9 ≤ row.expiresAt :=
  loaded_from_store sampleSha256 ⟨true, ∅, some ∅⟩ 0 [] _ 0 .access (PyStr.ofString "a")
    ⟨rfl, rfl⟩ rfl (by decide +kernel)

/-- The token is stored again after the revocation of its client, and loaded. -/
def storedAgain : List Action :=
  [.store .access (sampleArgs (PyStr.ofString "a")), .beginLoad 1 .access (PyStr.ofString "a"),
    .select 1, .drop 0, .check 1]

theorem removal_final_storedAgain :
    ∃ args, Action.store .access args ∈ storedAgain ∧
      hashToken sampleSha256 args.token = hashToken sampleSha256 (PyStr.ofString "a") ∧
      ∃ row : Row, row.toRowData = args.toRowData ∧
        { sampleArgs (PyStr.ofString "a") with createdAt := some 0 }
          = PostgresTokenStorage.loadedRow (PyStr.ofString "a") row := by
  have hreturned : (Machine.final (Server.step sampleSha256) (Server.start ⟨true, ∅, some ∅⟩ 0)
      (racingLoad ++ [.revokeClientTokens (PyStr.ofString "client")] ++ storedAgain)).loads.lookup 1
      = some (.returned .access (PyStr.ofString "a")
          (.ok (some { sampleArgs (PyStr.ofString "a") with createdAt := some 0 })) 0) := by
    decide +kernel
  exact removal_final sampleSha256 ⟨true, ∅, some ∅⟩ 0 racingLoad storedAgain
    (.revokeClientTokens (PyStr.ofString "client")) 1 .access (PyStr.ofString "a") ⟨rfl, rfl⟩ rfl
    (by decide +kernel) hreturned

end McpAuthflow.Storage
