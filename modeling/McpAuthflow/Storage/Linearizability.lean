import McpAuthflow.Storage.BackendEquivalence
import McpAuthflow.Storage.PostgresConcurrency
import Mathlib.Data.List.ReduceOption

/-! # Concurrent calls as one sequence of calls

A store, a delete and a revocation take effect in the database with their one statement, a cleanup
with its `DELETE`, and a load that drops an expired row with its own (`Server.commits`). A load that
drops nothing changes nothing, and its reply is due to the moment of its `SELECT`.

As long as the `DELETE` of a load meets only rows that have expired (`DropsOnlyExpired`), any
interleaving is indistinguishable from these calls made one after the other with nothing in between:
**`calls_linearizable`**. -/

namespace McpAuthflow.Storage

/-! ## The calls that take effect -/

/-- The calls that take effect in the database with an action. -/
def Server.commits (s : Server) : Action → List TokenCall
  | .store kind args => [⟨s.clock, .store kind args⟩]
  | .delete kind token => [⟨s.clock, .delete kind token⟩]
  | .revokeClientTokens clientId => [⟨s.clock, .revokeClientTokens clientId⟩]
  | .sweep id =>
    match s.cleanups.lookup id with
    -- at the moment the cleanup has read
    | some (kind, now) => [⟨(now : ℚ) / 1000000, .cleanup kind⟩]
    | none => []
  | .drop id =>
    match s.loads.lookup id with
    | some (.dropping kind token) => [⟨s.clock, .load kind token⟩]
    | _ => []
  | _ => []

/-- The calls of a run that take effect in the database, in the order they do. -/
def committed (sha256 : List UInt8 → PyStr) : Server → List Action → List TokenCall
  | _, [] => []
  | s, a :: actions => s.commits a ++ committed sha256 (s.step sha256 a).1 actions

/-- The calls of one statement that is always sent: they show their results at once. -/
def TokenOp.isStatement : TokenOp → Bool
  | .store _ _ | .delete _ _ | .revokeClientTokens _ => true
  | .load _ _ | .cleanup _ | .count _ => false

/-- **A load is answered by the sequential method**, called at one moment of the run at which the
load was under way: at its `SELECT`, where the method changes nothing, or at its `DELETE`. -/
def AnsweredAt (sha256 : List UInt8 → PyStr) (s : Server) (actions : List Action) (id : ℕ)
    (kind : TokenKind) (token : PyStr) (reply : Except StorageError (Option TokenData)) : Prop :=
  ∃ pre a post, actions = pre ++ a :: post ∧
    let u := Machine.final (Server.step sha256) s pre
    (a = .select id ∧ u.loads.lookup id = some (.selecting kind token) ∧
        u.storage.loadFrom sha256 kind token u.clock = (u.storage, reply)) ∨
      (a = .drop id ∧ u.loads.lookup id = some (.dropping kind token) ∧
        (u.storage.loadFrom sha256 kind token u.clock).2 = reply)

/-- **A run is linearizable**: its calls might have been made one after the other. -/
structure Linearizable (sha256 : List UInt8 → PyStr) (s : Server) (actions : List Action) :
    Prop where
  /-- The tables are those the calls lead to. -/
  storage : (Machine.final (Server.step sha256) s actions).storage
    = Machine.final (postgresStep sha256) s.storage (committed sha256 s actions)
  /-- The calls of one statement had their results. -/
  results : (Machine.outputs (Server.step sha256) s actions).reduceOption
    = ((Machine.trace (postgresStep sha256) s.storage (committed sha256 s actions)).filter
        fun e => e.1.op.isStatement).map Prod.snd
  /-- The loads had their replies. -/
  loads : ∀ id kind token reply time,
    (Machine.final (Server.step sha256) s actions).loads.lookup id
        = some (.returned kind token reply time) →
      AnsweredAt sha256 s actions id kind token reply

/-! ## One action -/

/-- A microsecond read from a datetime is that microsecond. -/
theorem micros_div (now : Micros) : micros ((now : ℚ) / 1000000) = now := by
  rw [micros, div_mul_cancel₀ _ (by norm_num), Int.floor_intCast]

/-- Writing the rows of a kind back changes nothing. -/
theorem PostgresTokenStorage.Ready.setTable_rows {s : PostgresTokenStorage} (h : s.Ready)
    (kind : TokenKind) : s.setTable kind (s.rows kind) = s := by
  obtain ⟨pool, access, refresh⟩ := s
  cases kind with
  | access => rfl
  | refresh =>
    obtain ⟨t, rfl⟩ := Option.isSome_iff_exists.mp h.2
    rfl

section

variable {sha256 : List UInt8 → PyStr} {s : Server}

/-- **The `DELETE` of a load**, on the condition, does what the sequential load does at that
moment: there is no row, or an expired one. -/
theorem loadFrom_eq_deleteFrom (hready : s.storage.Ready) {id : ℕ} {kind : TokenKind}
    {token : PyStr} (hlookup : s.loads.lookup id = some (.dropping kind token))
    (hguard : DropsOnlyExpired sha256 s (.drop id)) :
    s.storage.loadFrom sha256 kind token s.clock
      = ((s.storage.deleteFrom sha256 kind token).1,
          (s.storage.deleteFrom sha256 kind token).2.map fun _ => none) := by
  cases hd : hashToken sha256 token with
  | error e =>
    rw [PostgresTokenStorage.loadFrom, PostgresTokenStorage.deleteFrom,
      hready.keyedTable_error kind hd]
    rfl
  | ok digest =>
    rw [PostgresTokenStorage.loadFrom_of_table hready.1 (hready.table kind) hd,
      PostgresTokenStorage.deleteFrom_of_table hready.1 (hready.table kind) hd,
      Table.selectByToken]
    cases hrow : (s.storage.rows kind).lookup digest with
    | none =>
      have herase : (s.storage.rows kind).deleteByToken digest = s.storage.rows kind :=
        AList.erase_of_lookup_eq_none hrow
      rw [herase, hready.setTable_rows]
      rfl
    | some row =>
      have hexpired := hguard kind token digest row hlookup hd hrow
      simp only [if_pos hexpired]
      rfl

/-- **One action** does to the tables what the calls it commits do. -/
theorem storage_step (hready : s.storage.Ready) {a : Action}
    (hguard : DropsOnlyExpired sha256 s a) :
    (s.step sha256 a).1.storage
      = Machine.final (postgresStep sha256) s.storage (s.commits a) := by
  cases a with
  | tick now =>
    simp only [Server.step, Server.commits, Machine.final_nil]
    split <;> rfl
  | store kind args | delete kind token | revokeClientTokens clientId => rfl
  | beginCleanup id kind | beginLoad id kind token | select id | check id =>
    simp only [Server.step, Server.commits, Machine.final_nil]
    split <;> rfl
  | sweep id =>
    cases hlookup : s.cleanups.lookup id with
    | none => simp only [Server.step, Server.commits, hlookup, Machine.final_nil]
    | some read =>
      simp only [Server.step, Server.commits, hlookup, Machine.final_cons, Machine.final_nil,
        postgresStep, PostgresTokenStorage.tokenStep_cleanup hready, micros_div]
  | drop id =>
    cases hlookup : s.loads.lookup id with
    | none => simp only [Server.step, Server.commits, hlookup, Machine.final_nil]
    | some stage =>
      cases stage with
      | dropping kind token =>
        simp only [Server.step, Server.commits, hlookup, Machine.final_cons, Machine.final_nil,
          postgresStep, PostgresTokenStorage.tokenStep_load_eq, PostgresTokenStorage.replying,
          loadFrom_eq_deleteFrom hready hlookup hguard]
      | selecting kind token | checking kind token row | returned kind token reply time =>
        simp only [Server.step, Server.commits, hlookup, Machine.final_nil]

/-- **One action** shows the results of the statements it commits. -/
theorem result_step (s : Server) (a : Action) :
    (s.step sha256 a).2.toList
      = ((Machine.trace (postgresStep sha256) s.storage (s.commits a)).filter
          fun e => e.1.op.isStatement).map Prod.snd := by
  cases a with
  | store kind args | delete kind token | revokeClientTokens clientId | tick now => rfl
  | beginCleanup id kind | beginLoad id kind token | select id | check id =>
    simp only [Server.step]
    split <;> rfl
  | sweep id =>
    cases hlookup : s.cleanups.lookup id with
    | none =>
      simp only [Server.step, Server.commits, hlookup]
      rfl
    | some read =>
      simp only [Server.step, Server.commits, hlookup]
      rfl
  | drop id =>
    cases hlookup : s.loads.lookup id with
    | none =>
      simp only [Server.step, Server.commits, hlookup]
      rfl
    | some stage =>
      cases stage <;>
      · simp only [Server.step, Server.commits, hlookup]
        rfl

end

/-! ## The loads -/

/-- Where a load under way stands, at the end of a run: the row it checks is the one its `SELECT`
found, and its reply is the method's. -/
def LoadStage.Answered (sha256 : List UInt8 → PyStr) (s : Server) (actions : List Action) (id : ℕ)
    (clock : ℚ) : LoadStage → Prop
  | .selecting _ _ | .dropping _ _ => True
  | .checking kind token row =>
    ∃ pre post digest t, actions = pre ++ .select id :: post ∧
      let u := Machine.final (Server.step sha256) s pre
      u.loads.lookup id = some (.selecting kind token) ∧
        u.storage.keyedTable sha256 kind token = .ok (digest, t) ∧
        t.selectByToken digest = some row ∧ u.clock ≤ clock
  | .returned kind token reply _ => AnsweredAt sha256 s actions id kind token reply

section

variable {sha256 : List UInt8 → PyStr} {s : Server} {actions : List Action} {id : ℕ}
  {stage : LoadStage} {clock : ℚ}

/-- A longer run, with a later clock. -/
theorem LoadStage.Answered.concat (h : stage.Answered sha256 s actions id clock) (a : Action)
    {clock' : ℚ} (hle : clock ≤ clock') :
    stage.Answered sha256 s (actions ++ [a]) id clock' := by
  cases stage with
  | selecting kind token | dropping kind token => trivial
  | checking kind token row =>
    obtain ⟨pre, post, digest, t, rfl, hlookup, htable, hrow, hclock⟩ := h
    exact ⟨pre, post ++ [a], digest, t, by simp, hlookup, htable, hrow, hclock.trans hle⟩
  | returned kind token reply time =>
    obtain ⟨pre, a', post, rfl, hanswered⟩ := h
    exact ⟨pre, a', post ++ [a], by simp, hanswered⟩

/-- **The `SELECT`** finds what the sequential load would find. -/
theorem LoadStage.answered_selectRow {kind : TokenKind} {token : PyStr}
    (hlookup : (Machine.final (Server.step sha256) s actions).loads.lookup id
      = some (.selecting kind token)) :
    ((Machine.final (Server.step sha256) s actions).selectRow sha256 kind token).Answered sha256 s
      (actions ++ [.select id]) id (Machine.final (Server.step sha256) s actions).clock := by
  set u := Machine.final (Server.step sha256) s actions with hu
  unfold Server.selectRow
  cases htable : u.storage.keyedTable sha256 kind token with
  | error e =>
    refine ⟨actions, .select id, [], rfl, Or.inl ⟨rfl, hlookup, ?_⟩⟩
    rw [← hu, PostgresTokenStorage.loadFrom, htable]
  | ok p =>
    obtain ⟨digest, t⟩ := p
    simp only
    cases hrow : t.selectByToken digest with
    | none =>
      refine ⟨actions, .select id, [], rfl, Or.inl ⟨rfl, hlookup, ?_⟩⟩
      simp only [← hu, PostgresTokenStorage.loadFrom, htable, hrow]
    | some row => exact ⟨actions, [], digest, t, rfl, hlookup, htable, hrow, le_rfl⟩

/-- **The check**: a row that has not expired had not expired at the `SELECT`. -/
theorem LoadStage.Answered.checkRow {kind : TokenKind} {token : PyStr} {row : Row} {v : Server}
    (h : (LoadStage.checking kind token row).Answered sha256 s actions id v.clock) :
    (v.checkRow kind token row).Answered sha256 s actions id v.clock := by
  obtain ⟨pre, post, digest, t, rfl, hlookup, htable, hrow, hclock⟩ := h
  unfold Server.checkRow
  split
  case isTrue => trivial
  case isFalse hexp =>
    refine ⟨pre, .select id, post, rfl, Or.inl ⟨rfl, hlookup, ?_⟩⟩
    have hexp' : ¬ row.expiresAt < micros (Machine.final (Server.step sha256) s pre).clock :=
      fun hlt => hexp (lt_of_lt_of_le hlt (micros_mono hclock))
    simp only [PostgresTokenStorage.loadFrom, htable, hrow, if_neg hexp']

/-- Where every load stands. -/
def LoadsAnswered (sha256 : List UInt8 → PyStr) (s : Server) (actions : List Action) : Prop :=
  ∀ id stage, (Machine.final (Server.step sha256) s actions).loads.lookup id = some stage →
    stage.Answered sha256 s actions id (Machine.final (Server.step sha256) s actions).clock

/-- **One more action** leaves the loads where they may stand. -/
theorem LoadsAnswered.concat (h : LoadsAnswered sha256 s actions) {a : Action}
    (hready : (Machine.final (Server.step sha256) s actions).storage.Ready)
    (hguard : DropsOnlyExpired sha256 (Machine.final (Server.step sha256) s actions) a) :
    LoadsAnswered sha256 s (actions ++ [a]) := by
  unfold LoadsAnswered
  rw [Machine.final_append, Machine.final_cons, Machine.final_nil]
  set u := Machine.final (Server.step sha256) s actions with hu
  -- the loads of before, in the longer run
  have hkept : ∀ clock, u.clock ≤ clock → ∀ id stage, u.loads.lookup id = some stage →
      stage.Answered sha256 s (actions ++ [a]) id clock :=
    fun clock hle id stage hlookup => (h id stage hlookup).concat a hle
  cases a with
  | tick now =>
    simp only [Server.step]
    split
    case isTrue hle => exact hkept now hle
    case isFalse => exact hkept u.clock le_rfl
  | store kind args | delete kind token | revokeClientTokens clientId => exact hkept _ le_rfl
  | beginCleanup id kind | sweep id =>
    simp only [Server.step]
    split <;> exact hkept _ le_rfl
  | beginLoad id kind token =>
    simp only [Server.step]
    split
    · exact AList.forall_lookup_insert (hkept _ le_rfl) trivial
    · exact hkept _ le_rfl
  | select id =>
    simp only [Server.step]
    split
    case h_1 kind token hlookup =>
      exact AList.forall_lookup_insert (hkept _ le_rfl) (LoadStage.answered_selectRow hlookup)
    case h_2 => exact hkept _ le_rfl
  | check id =>
    simp only [Server.step]
    split
    case h_1 kind token row hlookup =>
      have hstage := hkept u.clock le_rfl id _ hlookup
      exact AList.forall_lookup_insert (hkept _ le_rfl) hstage.checkRow
    case h_2 => exact hkept _ le_rfl
  | drop id =>
    simp only [Server.step]
    split
    case h_1 kind token hlookup =>
      refine AList.forall_lookup_insert (hkept _ le_rfl) ?_
      refine ⟨actions, .drop id, [], rfl, Or.inr ⟨rfl, hlookup, ?_⟩⟩
      rw [← hu, loadFrom_eq_deleteFrom hready hlookup hguard]
    case h_2 => exact hkept _ le_rfl

end

/-! ## Runs -/

/-- The calls of a run of one more action. -/
theorem committed_concat (sha256 : List UInt8 → PyStr) (s : Server) (actions : List Action)
    (a : Action) :
    committed sha256 s (actions ++ [a])
      = committed sha256 s actions
          ++ (Machine.final (Server.step sha256) s actions).commits a := by
  induction actions generalizing s with
  | nil => simp [committed]
  | cons b actions ih =>
    rw [List.cons_append, committed, ih, committed, Machine.final_cons, List.append_assoc]

/-- A run of one more action is linearizable if the run is, and the action meets the condition. -/
theorem Linearizable.concat {sha256 : List UInt8 → PyStr} {s : Server} {actions : List Action}
    (h : Linearizable sha256 s actions) {a : Action}
    (hready : (Machine.final (Server.step sha256) s actions).storage.Ready)
    (hguard : DropsOnlyExpired sha256 (Machine.final (Server.step sha256) s actions) a)
    (hloads : LoadsAnswered sha256 s (actions ++ [a])) :
    Linearizable sha256 s (actions ++ [a]) := by
  refine ⟨?_, ?_, ?_⟩
  · rw [committed_concat, Machine.final_append, Machine.final_append, ← h.storage]
    exact storage_step hready hguard
  · have hresults := h.results
    rw [← Machine.map_snd_trace] at hresults
    rw [committed_concat, ← Machine.map_snd_trace, Machine.trace_append, Machine.trace_append,
      List.map_append, List.reduceOption_append, List.filter_append, List.map_append, hresults,
      ← h.storage, ← result_step, ← List.reduceOption_singleton]
    rfl
  · exact fun id kind token reply time hlookup => hloads id _ hlookup

/-- **Calls are linearizable**, on runs whose loads drop only expired rows: whatever the
interleaving, the tables, the results of the statements and the replies of the loads are those of
the calls made one after the other. -/
theorem calls_linearizable (sha256 : List UInt8 → PyStr) (storage : PostgresTokenStorage)
    (clock : ℚ) (actions : List Action) (hready : storage.Ready)
    (hdrops : Machine.AllSteps (Server.step sha256) (fun s _ a => DropsOnlyExpired sha256 s a)
      (Server.start storage clock) actions) :
    Linearizable sha256 (Server.start storage clock) actions := by
  have hboth : Linearizable sha256 (Server.start storage clock) actions ∧
      LoadsAnswered sha256 (Server.start storage clock) actions := by
    induction actions using List.reverseRecOn with
    | nil =>
      have hnone : ∀ id, (Server.start storage clock).loads.lookup id = none := fun _ => rfl
      refine ⟨⟨rfl, rfl, ?_⟩, ?_⟩
      · intro id kind token reply time hlookup
        rw [Machine.final_nil, hnone] at hlookup
        cases hlookup
      · intro id stage hlookup
        rw [Machine.final_nil, hnone] at hlookup
        cases hlookup
    | append_singleton actions a ih =>
      obtain ⟨hactions, hguard⟩ := (Machine.allSteps_concat _ _ _ _ _).mp hdrops
      obtain ⟨hlin, hloads⟩ := ih hactions
      have hwf := wellFormed_final sha256 hready clock actions
      have hloads' := hloads.concat hwf.ready hguard
      exact ⟨hlin.concat hwf.ready hguard hloads', hloads'⟩
  exact hboth.1

/-- A load of an expired token crosses a store and a cleanup, which deletes the row first. -/
def crossingLoad : List Action :=
  [.store .access { sampleArgs (PyStr.ofString "a") with expiresAt := 1 }, .tick 5,
    .beginCleanup 0 .access, .beginLoad 0 .access (PyStr.ofString "a"), .select 0,
    .store .access (sampleArgs (PyStr.ofString "b")), .check 0, .sweep 0]

theorem calls_linearizable_crossingLoad :
    Linearizable sampleSha256 (Server.start ⟨true, ∅, some ∅⟩ 0) (crossingLoad ++ [.drop 0]) := by
  refine calls_linearizable sampleSha256 ⟨true, ∅, some ∅⟩ 0 _ ⟨rfl, rfl⟩ ?_
  rw [Machine.allSteps_concat]
  refine ⟨by simp [Machine.AllSteps, Machine.AllStepsFrom, DropsOnlyExpired, crossingLoad], ?_⟩
  intro kind token digest row hlookup hd hrow
  have hstage : (Machine.final (Server.step sampleSha256) (Server.start ⟨true, ∅, some ∅⟩ 0)
      crossingLoad).loads.lookup 0 = some (.dropping .access (PyStr.ofString "a")) := by
    decide +kernel
  obtain ⟨rfl, rfl⟩ : TokenKind.access = kind ∧ PyStr.ofString "a" = token := by
    simpa using hstage.symm.trans hlookup
  have hgone : ((Machine.final (Server.step sampleSha256) (Server.start ⟨true, ∅, some ∅⟩ 0)
      crossingLoad).storage.rows .access).lookup (sampleSha256 [97]) = none := by
    decide +kernel
  rw [show sampleSha256 [97] = digest from Except.ok.inj hd, hrow] at hgone
  cases hgone

end McpAuthflow.Storage
