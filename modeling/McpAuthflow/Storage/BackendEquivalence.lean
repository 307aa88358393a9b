import McpAuthflow.Foundations.Machine
import McpAuthflow.Storage.Memory
import McpAuthflow.Storage.Postgres

/-! # When the two backends answer alike

The rows of a token table are the records of the memory storage, with the scopes joined and the
expiry in microseconds (`Mirrors`). The backends read the clock differently: memory takes its whole
second, Postgres its whole microsecond. A record that expires in the very second the clock is in has
expired for Postgres from the next microsecond on, and for memory only at the next second
(`InGap`). So the backends answer a run alike exactly when no load and no cleanup meets such a
record (`backends_agree_iff`); the rest of the condition says that a load finds the token it asks
for, not another one with its digest. -/

namespace McpAuthflow.Storage

/-! ## The two clocks -/

/-- The clock is in the second of the expiry, at least a microsecond past it. -/
def InGap (now : ℚ) (expiresAt : ℤ) : Prop :=
  expiresAt = ⌊now⌋ ∧ expiresAt * 1000000 < micros now

instance (now : ℚ) (expiresAt : ℤ) : Decidable (InGap now expiresAt) :=
  inferInstanceAs (Decidable (_ ∧ _))

/-- **Expired for Postgres** is expired for memory, or in the gap. -/
theorem lt_micros_iff {now : ℚ} (h0 : 0 ≤ now) (expiresAt : ℤ) :
    expiresAt * 1000000 < micros now ↔ expiresAt < pyInt now ∨ InGap now expiresAt := by
  rw [pyInt_of_nonneg h0, InGap]
  constructor
  · intro h
    -- in rationals the expiry lies before the clock reading
    have hle : ((expiresAt * 1000000 + 1 : ℤ) : ℚ) ≤ now * 1000000 := Int.le_floor.mp h
    have hlt : (expiresAt : ℚ) ≤ now := by
      push_cast at hle
      linarith
    rcases lt_or_eq_of_le (Int.le_floor.mpr hlt) with hlt | heq
    · exact Or.inl hlt
    · exact Or.inr ⟨heq, h⟩
  · rintro (h | ⟨-, h⟩)
    · have hle : ((expiresAt + 1 : ℤ) : ℚ) ≤ now := Int.le_floor.mp h
      apply Int.le_floor.mpr
      push_cast at hle ⊢
      linarith
    · exact h

/-- A whole second survives the way through a datetime. -/
theorem toTimestamp_mul (n : ℤ) : toTimestamp (n * 1000000) = n := by
  have hdiv : ((n * 1000000 : ℤ) : ℚ) / 1000000 = n := by
    push_cast
    ring
  rw [toTimestamp, hdiv, pyInt]
  split
  · exact Int.floor_intCast n
  · exact Int.ceil_intCast n

/-! ## Records as rows -/

/-- What a row can hold: scopes that are words, and an expiry within the range of a datetime. -/
structure TokenArgs.Storable (args : TokenArgs) : Prop where
  scopes : ∀ w ∈ args.scopes, PyStr.IsWord w
  expiresAt : -62135596800 ≤ args.expiresAt ∧ args.expiresAt ≤ 253402300799

/-- No scopes at all are stored as the empty text, which splits into none. -/
theorem PostgresTokenStorage.scopesOf_eq_split (text : PyStr) : scopesOf text = text.split := by
  unfold scopesOf
  split
  case isTrue hempty =>
    obtain rfl := List.isEmpty_iff.mp hempty
    rfl
  case isFalse => rfl

/-- Joined scopes are read back. -/
theorem scopesOf_joinWords {scopes : List PyStr} (h : ∀ w ∈ scopes, PyStr.IsWord w) :
    PostgresTokenStorage.scopesOf (PyStr.joinWords scopes) = scopes := by
  rw [PostgresTokenStorage.scopesOf_eq_split]
  exact PyStr.split_joinWords h

/-- **Decoding.** A load builds from the row of a storable record the record again, under the token
it was asked for. -/
theorem loadedRow_of_toRowData {args : TokenArgs} (h : args.Storable) {row : Row}
    (hrow : row.toRowData = args.toRowData) (token : PyStr) :
    PostgresTokenStorage.loadedRow token row
      = { args with token := token, createdAt := row.createdAt.map toTimestamp } := by
  obtain ⟨data, createdAt⟩ := row
  simp only at hrow
  subst hrow
  simp only [PostgresTokenStorage.loadedRow, TokenArgs.toRowData, toTimestamp_mul,
    scopesOf_joinWords h.scopes]

/-- An upsert replaces the data of one row. -/
theorem mapValues_upsert (t : Table) (digest : PyStr) (data : RowData) (now : Micros) :
    (t.upsert digest data now).mapValues Row.toRowData
      = (t.mapValues Row.toRowData).insert digest data := by
  unfold Table.upsert
  split <;> rw [AList.mapValues_insert]

/-- The tables hold the records of the memory storage, all of them storable. -/
structure Mirrors (s : MemoryTokenStorage) (u : PostgresTokenStorage) : Prop where
  initialized : s.initialized = true
  ready : u.Ready
  rows : ∀ kind, (u.rows kind).mapValues Row.toRowData
    = (s.tokens kind).mapValues fun data => data.toTokenArgs.toRowData
  storable : ∀ kind, ∀ e ∈ (s.tokens kind).entries, e.2.toTokenArgs.Storable

/-- The row at a digest is the row of the record there. -/
theorem Mirrors.lookup {s : MemoryTokenStorage} {u : PostgresTokenStorage} (h : Mirrors s u)
    (kind : TokenKind) (digest : PyStr) :
    ((u.rows kind).lookup digest).map Row.toRowData
      = ((s.tokens kind).lookup digest).map fun data => data.toTokenArgs.toRowData := by
  have hlookup := congrArg (AList.lookup digest) (h.rows kind)
  rwa [AList.lookup_mapValues, AList.lookup_mapValues] at hlookup

/-- Changing the dict and the table of one kind alike. -/
theorem Mirrors.set {s : MemoryTokenStorage} {u : PostgresTokenStorage} {kind : TokenKind}
    (h : Mirrors s u) {store : TokenStore} {t : Table}
    (hrows : t.mapValues Row.toRowData = store.mapValues fun data => data.toTokenArgs.toRowData)
    (hstorable : ∀ e ∈ store.entries, e.2.toTokenArgs.Storable) :
    Mirrors (s.setTokens kind store) (u.setTable kind t) := by
  refine ⟨by rw [MemoryTokenStorage.initialized_setTokens, h.initialized], h.ready.setTable kind t,
    ?_, ?_⟩
  · intro k
    by_cases hk : k = kind
    · subst hk
      rw [PostgresTokenStorage.rows_setTable_self, MemoryTokenStorage.tokens_setTokens_self, hrows]
    · rw [PostgresTokenStorage.rows_setTable_ne hk, MemoryTokenStorage.tokens_setTokens_ne hk,
        h.rows k]
  · intro k e he
    by_cases hk : k = kind
    · subst hk
      rw [MemoryTokenStorage.tokens_setTokens_self] at he
      exact hstorable e he
    · rw [MemoryTokenStorage.tokens_setTokens_ne hk] at he
      exact h.storable k e he

/-- Deleting one record. -/
theorem Mirrors.erase {s : MemoryTokenStorage} {u : PostgresTokenStorage} (h : Mirrors s u)
    (kind : TokenKind) (digest : PyStr) :
    Mirrors (s.setTokens kind ((s.tokens kind).erase digest))
      (u.setTable kind ((u.rows kind).deleteByToken digest)) := by
  refine h.set ?_ ?_
  · rw [Table.deleteByToken, AList.mapValues_erase, h.rows, AList.mapValues_erase]
  · intro e he
    exact h.storable kind e ((List.kerase_sublist digest _).subset he)

/-- Writing one record: the row written is the record, re-encoded. -/
theorem Mirrors.insert {s : MemoryTokenStorage} {u : PostgresTokenStorage} (h : Mirrors s u)
    (kind : TokenKind) (digest : PyStr) {data : TokenData} (hdata : data.toTokenArgs.Storable)
    (now : Micros) :
    Mirrors (s.setTokens kind ((s.tokens kind).insert digest data))
      (u.setTable kind ((u.rows kind).upsert digest data.toTokenArgs.toRowData now)) := by
  refine h.set ?_ ?_
  · rw [mapValues_upsert, h.rows, AList.mapValues_insert]
  · intro e he
    rw [AList.entries_insert] at he
    rcases List.mem_cons.mp he with rfl | he
    · exact hdata
    · exact h.storable kind e ((List.kerase_sublist digest _).subset he)

/-- Keeping the records that pass a test of their row. -/
theorem Mirrors.mapValues_filter {s : MemoryTokenStorage} {u : PostgresTokenStorage}
    (h : Mirrors s u) (kind : TokenKind) (p : RowData → Bool) (q : TokenData → Bool)
    (hpq : ∀ e ∈ (s.tokens kind).entries, p e.2.toTokenArgs.toRowData = q e.2) :
    ((u.rows kind).filter fun _ row => p row.toRowData).mapValues Row.toRowData
      = ((s.tokens kind).filter fun _ data => q data).mapValues
          fun data => data.toTokenArgs.toRowData := by
  have hcongr : (s.tokens kind).filter (fun _ data => p data.toTokenArgs.toRowData)
      = (s.tokens kind).filter fun _ data => q data := AList.filter_congr hpq
  rw [← AList.filter_mapValues Row.toRowData (fun _ data => p data), h.rows, AList.filter_mapValues,
    hcongr]

/-- Equal re-encodings have equal sizes. -/
theorem size_eq_of_mapValues_eq {t : Table} {store : TokenStore}
    (h : t.mapValues Row.toRowData = store.mapValues fun data => data.toTokenArgs.toRowData) :
    t.size = store.size := by
  have hsize := congrArg AList.size h
  rwa [AList.size_mapValues, AList.size_mapValues] at hsize

/-- A test that lets strictly more entries of a dict through leaves more of them. -/
theorem size_filter_lt (p q : TokenData → Bool) {store : TokenStore}
    (hpq : ∀ data, p data = true → q data = true) {digest : PyStr} {data : TokenData}
    (hdata : store.lookup digest = some data) (hq : q data = true) (hp : p data = false) :
    (store.filter fun _ d => p d).size < (store.filter fun _ d => q d).size := by
  have hmem := AList.lookup_eq_some_iff_mem.mp hdata
  have hsub : List.Sublist (store.filter fun _ d => p d).entries
      (store.filter fun _ d => q d).entries :=
    List.monotone_filter_right _ fun e he => hpq e.2 he
  refine lt_of_le_of_ne hsub.length_le ?_
  intro heq
  have hsame := hsub.eq_of_length heq
  have hin : (⟨digest, data⟩ : Σ _ : PyStr, TokenData) ∈ (store.filter fun _ d => q d).entries :=
    List.mem_filter.mpr ⟨hmem, hq⟩
  rw [← hsame] at hin
  have hpt := (List.mem_filter.mp hin).2
  simp [hp] at hpt

/-! ## One operation -/

/-- An operation on tokens at a clock reading. -/
structure TokenCall where
  time : ℚ
  op : TokenOp

/-- A token call on the memory storage. -/
def memoryStep (sha256 : List UInt8 → PyStr) (s : MemoryTokenStorage) (c : TokenCall) :
    MemoryTokenStorage × Result :=
  s.tokenStep sha256 c.time c.op

/-- A token call on the Postgres storage. -/
def postgresStep (sha256 : List UInt8 → PyStr) (u : PostgresTokenStorage) (c : TokenCall) :
    PostgresTokenStorage × Result :=
  u.tokenStep sha256 c.time c.op

/-- A result without the `created_at` of a loaded record. -/
def Result.forgetCreatedAt : Result → Result
  | .ok (.loaded (some data)) => .ok (.loaded (some { data with createdAt := none }))
  | r => r

/-- **When a call is answered alike**: no record that it loads or that its cleanup passes is in the
gap between the two clocks, and a load that finds a live record finds one of its own token. -/
def AnsweredAlike (sha256 : List UInt8 → PyStr) (s : MemoryTokenStorage) (c : TokenCall) : Prop :=
  match c.op with
  | .load kind token => ∀ digest data, hashToken sha256 token = .ok digest →
      (s.tokens kind).lookup digest = some data →
      ¬ InGap c.time data.expiresAt ∧ (⌊c.time⌋ ≤ data.expiresAt → data.token = token)
  | .cleanup kind => ∀ digest data, (s.tokens kind).lookup digest = some data →
      ¬ InGap c.time data.expiresAt
  | _ => True

/-- The arguments of a call can be stored in a row. -/
def TokenCall.Storable (c : TokenCall) : Prop :=
  match c.op with
  | .store _ args => args.Storable
  | _ => True

variable {sha256 : List UInt8 → PyStr} {s : MemoryTokenStorage} {u : PostgresTokenStorage}

/-- On a storable expiry `fromtimestamp` returns. -/
theorem TokenArgs.Storable.fromTimestamp_eq {args : TokenArgs} (h : args.Storable) :
    fromTimestamp args.expiresAt = .ok (args.expiresAt * 1000000) :=
  if_pos h.expiresAt

/-- The row a load finds, given the record. -/
theorem Mirrors.row_of_lookup {kind : TokenKind} {digest : PyStr} {data : TokenData}
    (h : Mirrors s u) (hdata : (s.tokens kind).lookup digest = some data) :
    ∃ row, (u.rows kind).lookup digest = some row ∧ row.toRowData = data.toTokenArgs.toRowData := by
  have hlookup := h.lookup kind digest
  rw [hdata] at hlookup
  obtain ⟨row, hrow, heq⟩ := Option.map_eq_some_iff.mp hlookup
  exact ⟨row, hrow, heq⟩

/-- There is no row where there is no record. -/
theorem Mirrors.row_eq_none {kind : TokenKind} {digest : PyStr} (h : Mirrors s u)
    (hdata : (s.tokens kind).lookup digest = none) : (u.rows kind).lookup digest = none := by
  have hlookup := h.lookup kind digest
  rw [hdata] at hlookup
  exact Option.map_eq_none_iff.mp hlookup

variable (sha256) in
/-- A call is answered alike exactly on the condition, and then keeps the mirror. -/
structure AlikeIff (s : MemoryTokenStorage) (u : PostgresTokenStorage) (c : TokenCall) : Prop where
  reply : Result.forgetCreatedAt (memoryStep sha256 s c).2
      = Result.forgetCreatedAt (postgresStep sha256 u c).2 ↔ AnsweredAlike sha256 s c
  mirrors : AnsweredAlike sha256 s c → Mirrors (memoryStep sha256 s c).1 (postgresStep sha256 u c).1

/-- Where the condition holds anyway, the call is answered alike and keeps the mirror. -/
theorem AlikeIff.of_answeredAlike {c : TokenCall} (halike : AnsweredAlike sha256 s c)
    (hreply : (memoryStep sha256 s c).2 = (postgresStep sha256 u c).2)
    (hmirrors : Mirrors (memoryStep sha256 s c).1 (postgresStep sha256 u c).1) :
    AlikeIff sha256 s u c :=
  ⟨⟨fun _ => halike, fun _ => congrArg Result.forgetCreatedAt hreply⟩, fun _ => hmirrors⟩

variable (sha256) in
/-- A store, a delete, a count and a revocation are answered alike and keep the mirror. -/
theorem tokenStep_alike (h : Mirrors s u) {c : TokenCall} (hc : c.Storable)
    (hload : ∀ kind token, c.op ≠ .load kind token) (hcleanup : ∀ kind, c.op ≠ .cleanup kind) :
    (memoryStep sha256 s c).2 = (postgresStep sha256 u c).2 ∧
      Mirrors (memoryStep sha256 s c).1 (postgresStep sha256 u c).1 := by
  unfold memoryStep postgresStep
  obtain ⟨now, op⟩ := c
  cases op with
  | load kind token => exact absurd rfl (hload kind token)
  | cleanup kind => exact absurd rfl (hcleanup kind)
  | store kind args =>
    -- a token that has no digest raises the same error on both sides, and nothing is written
    have hargs : args.Storable := hc
    cases hd : hashToken sha256 args.token with
    | error e =>
      rw [MemoryTokenStorage.tokenStep_of_hashToken_error h.initialized
        (by simp [TokenOp.tokens]) hd,
        PostgresTokenStorage.tokenStep_store_error h.ready hargs.fromTimestamp_eq hd]
      exact ⟨rfl, h⟩
    | ok digest =>
      rw [MemoryTokenStorage.tokenStep_store h.initialized hd,
        PostgresTokenStorage.tokenStep_store h.ready hargs.fromTimestamp_eq hd]
      exact ⟨rfl, h.insert kind digest hargs (micros now)⟩
  | delete kind token =>
    cases hd : hashToken sha256 token with
    | error e =>
      rw [MemoryTokenStorage.tokenStep_of_hashToken_error h.initialized
          (by simp [TokenOp.tokens]) hd,
        (PostgresTokenStorage.tokenStep_of_hashToken_error h.ready hd).2]
      exact ⟨rfl, h⟩
    | ok digest =>
      rw [MemoryTokenStorage.tokenStep_delete h.initialized hd,
        PostgresTokenStorage.tokenStep_delete h.ready hd]
      exact ⟨rfl, h.erase kind digest⟩
  | count kind =>
    rw [MemoryTokenStorage.tokenStep_count h.initialized,
      PostgresTokenStorage.tokenStep_count h.ready, size_eq_of_mapValues_eq (h.rows kind)]
    exact ⟨rfl, h⟩
  | revokeClientTokens clientId =>
    obtain ⟨htokens, hinit, hresult⟩ := MemoryTokenStorage.tokenStep_revokeClientTokens
      sha256 now h.initialized clientId
    obtain ⟨hrows, hready, hresult'⟩ := PostgresTokenStorage.tokenStep_revokeClientTokens
      sha256 now h.ready clientId
    -- both answer with the number of records they delete
    have hissued := fun kind => size_eq_of_mapValues_eq (h.mapValues_filter kind
      (fun row => row.clientId = clientId) (fun data => data.clientId = clientId) fun _ _ => rfl)
    refine ⟨?_, ⟨hinit, hready, ?_, ?_⟩⟩
    · rw [hresult, hresult', Table.deleteByClient, Table.deleteByClient, ← hissued, ← hissued]
    · intro kind
      rw [htokens, hrows]
      exact h.mapValues_filter kind (fun row => !decide (row.clientId = clientId))
        (fun data => !decide (data.clientId = clientId)) fun _ _ => rfl
    · intro kind e he
      rw [htokens] at he
      exact h.storable kind e (List.mem_of_mem_filter he)

/-- The condition on a load whose token has no digest, or no record, is void. -/
theorem answeredAlike_load_of_forall_ne {now : ℚ} {kind : TokenKind} {token : PyStr}
    (h : ∀ digest data, hashToken sha256 token = .ok digest →
      (s.tokens kind).lookup digest ≠ some data) :
    AnsweredAlike sha256 s ⟨now, .load kind token⟩ :=
  fun digest data hd hdata => absurd hdata (h digest data hd)

/-- The condition on a load that finds a record speaks of that record. -/
theorem answeredAlike_load_iff {now : ℚ} {kind : TokenKind} {token digest : PyStr}
    {data : TokenData} (hd : hashToken sha256 token = .ok digest)
    (hdata : (s.tokens kind).lookup digest = some data) :
    AnsweredAlike sha256 s ⟨now, .load kind token⟩ ↔
      ¬ InGap now data.expiresAt ∧ (⌊now⌋ ≤ data.expiresAt → data.token = token) := by
  constructor
  · intro hall
    exact hall digest data hd hdata
  · rintro hone digest' data' hd' hdata'
    obtain rfl := Except.ok.inj (hd.symm.trans hd')
    obtain rfl := Option.some.inj (hdata.symm.trans hdata')
    exact hone

/-- A load that finds a record is answered alike exactly on the condition: the record has expired
for both backends, for Postgres alone, or for neither. -/
theorem load_alike_of_record (h : Mirrors s u) {now : ℚ} (h0 : 0 ≤ now) {kind : TokenKind}
    {token digest : PyStr} (hd : hashToken sha256 token = .ok digest) {data : TokenData}
    (hdata : (s.tokens kind).lookup digest = some data) :
    AlikeIff sha256 s u ⟨now, .load kind token⟩ := by
  obtain ⟨row, hrow, heq⟩ := h.row_of_lookup hdata
  have hexp : row.expiresAt = data.expiresAt * 1000000 := congrArg RowData.expiresAt heq
  have hstorable := h.storable kind _ (AList.lookup_eq_some_iff_mem.mp hdata)
  have hmemory : memoryStep sha256 s ⟨now, .load kind token⟩ = _ :=
    MemoryTokenStorage.tokenStep_load h.initialized hd
  have hpostgres : postgresStep sha256 u ⟨now, .load kind token⟩ = _ :=
    PostgresTokenStorage.tokenStep_load h.ready hd
  simp only [hdata] at hmemory
  rw [Table.selectByToken, hrow] at hpostgres
  simp only [hexp, lt_micros_iff h0] at hpostgres
  by_cases hexpired : data.expiresAt < pyInt now
  · -- expired for both
    rw [if_pos hexpired] at hmemory
    rw [if_pos (Or.inl hexpired)] at hpostgres
    rw [pyInt_of_nonneg h0] at hexpired
    refine .of_answeredAlike ((answeredAlike_load_iff hd hdata).mpr ⟨?_, ?_⟩) ?_ ?_
    · rintro ⟨hfloor, -⟩
      rw [hfloor] at hexpired
      exact lt_irrefl _ hexpired
    · intro hle
      exact absurd hexpired (not_lt.mpr hle)
    · rw [hmemory, hpostgres]
    · rw [hmemory, hpostgres]
      exact h.erase kind digest
  · rw [if_neg hexpired] at hmemory
    by_cases hgap : InGap now data.expiresAt
    · -- expired for Postgres alone
      rw [if_pos (Or.inr hgap)] at hpostgres
      have hnot : ¬ AnsweredAlike sha256 s ⟨now, .load kind token⟩ := by
        rw [answeredAlike_load_iff hd hdata]
        exact fun hcond => hcond.1 hgap
      refine ⟨⟨fun hreply => ?_, fun halike => absurd halike hnot⟩,
        fun halike => absurd halike hnot⟩
      rw [hmemory, hpostgres] at hreply
      simp [Result.forgetCreatedAt] at hreply
    · -- live for both, and alike iff the record was stored under this very token
      rw [if_neg (by simp [hexpired, hgap]), loadedRow_of_toRowData hstorable heq] at hpostgres
      rw [pyInt_of_nonneg h0] at hexpired
      refine ⟨?_, fun _ => ?_⟩
      · rw [hmemory, hpostgres, answeredAlike_load_iff hd hdata]
        simp only [Result.forgetCreatedAt, Except.ok.injEq, Reply.loaded.injEq, Option.some.injEq,
          TokenData.mk.injEq, and_true, hgap, not_false_eq_true, true_and, not_lt.mp hexpired,
          forall_const]
        constructor
        · intro hargs
          exact congrArg TokenArgs.token hargs
        · rintro rfl
          rfl
      · rw [hmemory, hpostgres]
        exact h

/-- **A load is answered alike exactly on the condition**, and then keeps the mirror. -/
theorem load_alike_iff (h : Mirrors s u) {now : ℚ} (h0 : 0 ≤ now) (kind : TokenKind)
    (token : PyStr) : AlikeIff sha256 s u ⟨now, .load kind token⟩ := by
  cases hd : hashToken sha256 token with
  | error e =>
    have hmemory : memoryStep sha256 s ⟨now, .load kind token⟩ = (s, .error e) :=
      MemoryTokenStorage.tokenStep_of_hashToken_error h.initialized (by simp [TokenOp.tokens]) hd
    have hpostgres : postgresStep sha256 u ⟨now, .load kind token⟩ = (u, .error e) :=
      (PostgresTokenStorage.tokenStep_of_hashToken_error h.ready hd).1
    refine .of_answeredAlike (answeredAlike_load_of_forall_ne (by simp [hd])) ?_ ?_
    · rw [hmemory, hpostgres]
    · rw [hmemory, hpostgres]
      exact h
  | ok digest =>
    cases hdata : (s.tokens kind).lookup digest with
    | some data => exact load_alike_of_record h h0 hd hdata
    | none =>
      have hmemory : memoryStep sha256 s ⟨now, .load kind token⟩ = _ :=
        MemoryTokenStorage.tokenStep_load h.initialized hd
      have hpostgres : postgresStep sha256 u ⟨now, .load kind token⟩ = _ :=
        PostgresTokenStorage.tokenStep_load h.ready hd
      rw [hdata] at hmemory
      rw [Table.selectByToken, h.row_eq_none hdata] at hpostgres
      have halike : AnsweredAlike sha256 s ⟨now, .load kind token⟩ := by
        apply answeredAlike_load_of_forall_ne
        intro digest' data hd'
        obtain rfl := Except.ok.inj (hd.symm.trans hd')
        simp [hdata]
      refine .of_answeredAlike halike ?_ ?_
      · rw [hmemory, hpostgres]
      · rw [hmemory, hpostgres]
        exact h

/-- Away from the gap the two clocks tell the same records to be expired. -/
theorem decide_expired_eq {now : ℚ} (h0 : 0 ≤ now) {store : TokenStore}
    (h : ∀ digest data, store.lookup digest = some data → ¬ InGap now data.expiresAt) :
    ∀ e ∈ store.entries,
      decide (e.2.expiresAt * 1000000 < micros now) = decide (e.2.expiresAt < pyInt now) := by
  intro e he
  rw [decide_eq_decide, lt_micros_iff h0]
  have hgap := h e.1 e.2 (AList.lookup_eq_some_iff_mem.mpr he)
  simp [hgap]

/-- **The expired records are as many for both clocks** iff none of them is in the gap. -/
theorem size_expired_eq_iff {now : ℚ} (h0 : 0 ≤ now) (store : TokenStore) :
    (store.filter fun _ data => data.expiresAt < pyInt now).size
        = (store.filter fun _ data => data.expiresAt * 1000000 < micros now).size ↔
      ∀ digest data, store.lookup digest = some data → ¬ InGap now data.expiresAt := by
  constructor
  · -- a record in the gap has expired for Postgres alone
    intro hcount digest data hdata hgap
    have hnot : ¬ data.expiresAt < pyInt now := by
      rw [pyInt_of_nonneg h0, hgap.1]
      exact lt_irrefl _
    have hlt := size_filter_lt (fun data => data.expiresAt < pyInt now)
      (fun data => data.expiresAt * 1000000 < micros now)
      (fun data hp => decide_eq_true ((lt_micros_iff h0 _).mpr (Or.inl (of_decide_eq_true hp))))
      hdata (decide_eq_true hgap.2) (decide_eq_false hnot)
    omega
  · intro hcond
    have hsame : (store.filter fun _ data => data.expiresAt * 1000000 < micros now)
        = store.filter fun _ data => data.expiresAt < pyInt now :=
      AList.filter_congr (decide_expired_eq h0 hcond)
    rw [hsame]

/-- **A cleanup is answered alike exactly on the condition**, and then keeps the mirror. -/
theorem cleanup_alike_iff (h : Mirrors s u) {now : ℚ} (h0 : 0 ≤ now) (kind : TokenKind) :
    AlikeIff sha256 s u ⟨now, .cleanup kind⟩ := by
  have hmemory : memoryStep sha256 s ⟨now, .cleanup kind⟩ = _ :=
    MemoryTokenStorage.tokenStep_cleanup h.initialized
  have hpostgres : postgresStep sha256 u ⟨now, .cleanup kind⟩ = _ :=
    PostgresTokenStorage.tokenStep_cleanup h.ready
  -- what Postgres deletes, counted on the records
  have hdeleted : ((u.rows kind).filter fun _ row => row.expiresAt < micros now).size
      = ((s.tokens kind).filter fun _ data => data.expiresAt * 1000000 < micros now).size :=
    size_eq_of_mapValues_eq (h.mapValues_filter kind (fun row => row.expiresAt < micros now)
      (fun data => data.expiresAt * 1000000 < micros now) fun _ _ => rfl)
  constructor
  · have hcond : AnsweredAlike sha256 s ⟨now, .cleanup kind⟩ ↔ _ :=
      (size_expired_eq_iff h0 (s.tokens kind)).symm
    rw [hmemory, hpostgres, Table.deleteExpired, hdeleted, hcond]
    simp [Result.forgetCreatedAt]
  · intro hcond
    rw [hmemory, hpostgres]
    refine h.set ?_ ?_
    · refine h.mapValues_filter kind (fun row => !decide (row.expiresAt < micros now))
        (fun data => !decide (data.expiresAt < pyInt now)) ?_
      intro e he
      exact congrArg not (decide_expired_eq h0 hcond e he)
    · intro e he
      exact h.storable kind e (List.mem_of_mem_filter he)

/-! ## Runs -/

/-- One call is answered alike, and keeps the mirror, exactly on the condition. -/
theorem step_alike_iff (h : Mirrors s u) {c : TokenCall} (h0 : 0 ≤ c.time) (hc : c.Storable) :
    AlikeIff sha256 s u c := by
  by_cases hload : ∃ kind token, c.op = .load kind token
  · obtain ⟨kind, token, hop⟩ := hload
    obtain ⟨now, op⟩ := c
    obtain rfl : op = .load kind token := hop
    exact load_alike_iff h h0 kind token
  · by_cases hcleanup : ∃ kind, c.op = .cleanup kind
    · obtain ⟨kind, hop⟩ := hcleanup
      obtain ⟨now, op⟩ := c
      obtain rfl : op = .cleanup kind := hop
      exact cleanup_alike_iff h h0 kind
    · -- the condition is about loads and cleanups
      have halike : AnsweredAlike sha256 s c := by
        unfold AnsweredAlike
        split
        case h_1 kind token hop => exact absurd ⟨kind, token, hop⟩ hload
        case h_2 kind hop => exact absurd ⟨kind, hop⟩ hcleanup
        case h_3 => trivial
      obtain ⟨hreply, hmirrors⟩ := tokenStep_alike sha256 h hc
        (fun kind token hop => hload ⟨kind, token, hop⟩) (fun kind hop => hcleanup ⟨kind, hop⟩)
      exact .of_answeredAlike halike hreply hmirrors

/-- An initialized memory storage. -/
def MemoryTokenStorage.fresh : MemoryTokenStorage := MemoryTokenStorage.init.initializeStorage

/-- An initialized Postgres storage over two empty tables. -/
def PostgresTokenStorage.fresh : PostgresTokenStorage := ⟨true, ∅, some ∅⟩

theorem mirrors_fresh : Mirrors .fresh .fresh := by
  refine ⟨rfl, ⟨rfl, rfl⟩, ?_, ?_⟩
  · intro kind
    cases kind <;> rfl
  · intro kind e he
    cases kind <;> exact absurd he List.not_mem_nil

/-- **When the backends are observationally equal.** A run of storable calls is answered alike by
both, `created_at` aside, iff every call of it meets the condition `AnsweredAlike`. -/
theorem backends_agree_iff (sha256 : List UInt8 → PyStr) {calls : List TokenCall}
    (hcalls : ∀ c ∈ calls, 0 ≤ c.time ∧ c.Storable) :
    (Machine.outputs (memoryStep sha256) .fresh calls).map Result.forgetCreatedAt
        = (Machine.outputs (postgresStep sha256) .fresh calls).map Result.forgetCreatedAt ↔
      Machine.AllSteps (memoryStep sha256) (fun s _ c => AnsweredAlike sha256 s c) .fresh calls :=
  Machine.outputs_eq_iff_allSteps
    (R := fun s u is => Mirrors s u ∧ ∀ c ∈ is, 0 ≤ c.time ∧ c.Storable)
    (fun s u c is hR hG => by
      obtain ⟨h, his⟩ := hR
      obtain ⟨h0, hc⟩ := his c List.mem_cons_self
      obtain ⟨hiff, hmirrors⟩ := step_alike_iff h h0 hc
      exact ⟨hiff.mpr hG, hmirrors hG, fun d hd => his d (List.mem_cons_of_mem c hd)⟩)
    (fun s u c is hR hG => by
      obtain ⟨h, his⟩ := hR
      obtain ⟨h0, hc⟩ := his c List.mem_cons_self
      exact fun hreply => hG ((step_alike_iff h h0 hc).reply.mp hreply))
    [] ⟨mirrors_fresh, hcalls⟩

/-- A token that expires at second 10 is stored at second 0 and loaded at a clock reading. -/
def gapCalls (now : ℚ) : List TokenCall :=
  [⟨0, .store .access (sampleArgs (PyStr.ofString "a"))⟩,
    ⟨now, .load .access (PyStr.ofString "a")⟩]

theorem gapCalls_storable {now : ℚ} (h : 0 ≤ now) :
    ∀ c ∈ gapCalls now, 0 ≤ c.time ∧ c.Storable := by
  intro c hc
  rcases List.mem_cons.mp hc with rfl | hc
  · refine ⟨le_rfl, ⟨?_, by decide⟩⟩
    simp [sampleArgs, PyStr.IsWord, PyStr.ofString, CodePoint.isSpace, CodePoint.ofChar]
  · obtain rfl := List.mem_singleton.mp hc
    exact ⟨h, trivial⟩

/-- At second 10 both backends return the token. -/
theorem backends_agree_iff_at_expiry :
    ((Machine.outputs (memoryStep sampleSha256) .fresh (gapCalls 10)).map Result.forgetCreatedAt
        = (Machine.outputs (postgresStep sampleSha256) .fresh (gapCalls 10)).map
            Result.forgetCreatedAt ↔
      Machine.AllSteps (memoryStep sampleSha256) (fun s _ c => AnsweredAlike sampleSha256 s c)
        .fresh (gapCalls 10)) ∧
    (Machine.outputs (memoryStep sampleSha256) .fresh (gapCalls 10)).map Result.forgetCreatedAt
      = (Machine.outputs (postgresStep sampleSha256) .fresh (gapCalls 10)).map
          Result.forgetCreatedAt := by
  refine ⟨backends_agree_iff sampleSha256 (gapCalls_storable (by norm_num)), by decide +kernel⟩

/-- Half a second later memory returns it still and Postgres does not. -/
theorem backends_disagree_in_gap :
    Machine.Nondecreasing TokenCall.time TokenCall.time 0 (gapCalls (21 / 2)) ∧
    (∀ c ∈ gapCalls (21 / 2), 0 ≤ c.time ∧ c.Storable) ∧
    (Machine.outputs (memoryStep sampleSha256) .fresh (gapCalls (21 / 2))).map
        Result.forgetCreatedAt
      ≠ (Machine.outputs (postgresStep sampleSha256) .fresh (gapCalls (21 / 2))).map
          Result.forgetCreatedAt := by
  refine ⟨?_, gapCalls_storable (by norm_num), by decide +kernel⟩
  norm_num [gapCalls, Machine.Nondecreasing]

end McpAuthflow.Storage
