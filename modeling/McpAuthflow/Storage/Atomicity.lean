import McpAuthflow.Storage.Statements

/-! # Calls that a fault cuts off

On the way to the database a statement may get lost, and the answer of one that was executed may get
lost on the way back; either way the method raises an exception of the driver. Every method sends at
most one statement that writes, and sends it last (`program_commitsLast`), revocation included. So a
call is atomic, and over a whole series: **`failed_calls_atomic`**. -/

namespace McpAuthflow.Storage

open Program

/-! ## One statement writes, the last one -/

/-- The statements that only read. -/
def Statement.Reads : Statement → Prop
  | .selectByToken .. | .countRows .. | .hasRefreshTable => True
  | .upsert .. | .deleteByToken .. | .deleteExpired .. | .deleteByClient .. |
    .deleteAccessByClient .. => False

theorem Statement.Reads.execute {st : Statement} (h : st.Reads) (now : ℚ)
    (s : PostgresTokenStorage) : (s.execute now st).1 = s := by
  cases st with
  | selectByToken kind digest | countRows kind | hasRefreshTable => rfl
  | upsert | deleteByToken | deleteExpired | deleteByClient | deleteAccessByClient => exact h.elim

namespace Method

variable (sha256 : List UInt8 → PyStr) (pool : Bool)

theorem silent_requirePool : (requirePool pool).Silent := by
  cases pool <;> trivial

/-- Sending one statement. -/
theorem send_commitsLast (st : Statement) : (send st).CommitsLast Statement.Reads :=
  .inl fun _ => trivial

theorem storeTo_commitsLast (kind : TokenKind) (args : TokenArgs) :
    (storeTo sha256 pool kind args).CommitsLast Statement.Reads := by
  apply (silent_requirePool pool).bind_commitsLast
  intro _
  apply (silent_ofExcept _).bind_commitsLast
  intro expiresDatetime
  apply (silent_ofExcept _).bind_commitsLast
  intro digest
  exact (send_commitsLast _).bind fun _ => (silent_ofExcept _).bind fun _ => trivial

theorem deleteFrom_commitsLast (kind : TokenKind) (token : PyStr) :
    (deleteFrom sha256 pool kind token).CommitsLast Statement.Reads := by
  apply (silent_requirePool pool).bind_commitsLast
  intro _
  apply (silent_ofExcept _).bind_commitsLast
  intro digest
  exact (send_commitsLast _).bind fun _ => (silent_ofExcept _).bind fun _ => trivial

/-- The first statement of a load reads, and a second one is that of a delete. -/
theorem loadFrom_commitsLast (kind : TokenKind) (token : PyStr) (now : ℚ) :
    (loadFrom sha256 pool kind token now).CommitsLast Statement.Reads := by
  apply (silent_requirePool pool).bind_commitsLast
  intro _
  apply (silent_ofExcept _).bind_commitsLast
  intro digest
  simp only [send, request_bind, logLine_bind, pure_eq]
  refine .inr ⟨trivial, fun row => ?_⟩
  cases row with
  | none =>
    refine ((silent_ofExcept (tokenFingerprint sha256 token)).bind fun _ => ?_).commitsLast
    trivial
  | some row =>
    by_cases hexpired : row.expiresAt < micros now
    · simp only [if_pos hexpired]
      apply (silent_ofExcept _).bind_commitsLast
      intro fingerprint
      exact (deleteFrom_commitsLast sha256 pool kind token).bind fun _ => trivial
    · simp only [if_neg hexpired]
      trivial

theorem cleanupFrom_commitsLast (kind : TokenKind) (now : ℚ) :
    (cleanupFrom pool kind now).CommitsLast Statement.Reads := by
  apply (silent_requirePool pool).bind_commitsLast
  intro _
  refine (send_commitsLast _).bind fun count => ?_
  split <;> trivial

theorem countOf_commitsLast (kind : TokenKind) :
    (countOf pool kind).CommitsLast Statement.Reads :=
  (silent_requirePool pool).bind_commitsLast fun _ => (send_commitsLast _).bind fun _ => trivial

/-- A revocation looks for the table, and then deletes from both with one statement. -/
theorem revokeClientTokens_commitsLast (clientId : PyStr) :
    (revokeClientTokens pool clientId).CommitsLast Statement.Reads := by
  apply (silent_requirePool pool).bind_commitsLast
  intro _
  refine .inr ⟨trivial, fun hasRefreshTable => ?_⟩
  cases hasRefreshTable with
  | true =>
    refine (send_commitsLast (.deleteByClient clientId)).bind fun row => ?_
    simp only [pure_eq, ret_bind]
    split <;> trivial
  | false =>
    refine (send_commitsLast (.deleteAccessByClient clientId)).bind fun count => ?_
    simp only [pure_eq]
    split <;> trivial

/-- **Every method commits last.** -/
theorem program_commitsLast (now : ℚ) (op : TokenOp) :
    (program sha256 pool now op).CommitsLast Statement.Reads := by
  cases op with
  | store kind args => exact (storeTo_commitsLast sha256 pool kind args).bind fun _ => trivial
  | load kind token => exact (loadFrom_commitsLast sha256 pool kind token now).bind fun _ => trivial
  | delete kind token => exact (deleteFrom_commitsLast sha256 pool kind token).bind fun _ => trivial
  | cleanup kind => exact (cleanupFrom_commitsLast pool kind now).bind fun _ => trivial
  | revokeClientTokens clientId =>
    exact (revokeClientTokens_commitsLast pool clientId).bind fun _ => trivial
  | count kind => exact (countOf_commitsLast pool kind).bind fun _ => trivial

end Method

/-! ## Series of calls -/

variable {χ : Type} (sha256 : List UInt8 → PyStr)

/-- A call whose statements meet these faults, one entry for each. -/
structure FaultyCall (χ : Type) extends TokenCall where
  faults : List (Option (Fault χ))

/-- One call over a line with faults. -/
def callOverLine (s : PostgresTokenStorage) (c : FaultyCall χ) :
    PostgresTokenStorage × Ending StorageError (χ ⊕ StorageError) Reply :=
  let r := (Method.program sha256 s.pool c.time c.op).run
    (faulty (PostgresTokenStorage.execute c.time)) (s, c.faults)
  (r.state.1, r.ending)

/-- The result of a call, unless a fault ended it. -/
def answerOf : Ending StorageError (χ ⊕ StorageError) Reply → Option Result
  | .returned reply => some (.ok reply)
  | .raised e | .failed (.inr e) => some (.error e)
  | .failed (.inl _) => none

theorem answerOf_arrived (e : Ending StorageError StorageError Reply) :
    answerOf (e.arrived : Ending StorageError (χ ⊕ StorageError) Reply) = some e.result := by
  cases e <;> rfl

/-- **One call is atomic**: it is the call without faults, or a fault ended it with all of its
effects or none. -/
theorem callOverLine_atomic (s : PostgresTokenStorage) (c : FaultyCall χ) :
    let whole := postgresStep sha256 s c.toTokenCall
    (callOverLine sha256 s c).1 = whole.1 ∧ answerOf (callOverLine sha256 s c).2 = some whole.2 ∨
      answerOf (callOverLine sha256 s c).2 = none ∧
        ((callOverLine sha256 s c).1 = s ∨ (callOverLine sha256 s c).1 = whole.1) := by
  intro whole
  have hwhole : ((Method.program sha256 s.pool c.time c.op).run
      (PostgresTokenStorage.execute c.time) s).outcome = whole := Method.run_program s c.time c.op
  have hatomic := (Method.program_commitsLast sha256 s.pool c.time c.op).run_faulty
    (fun st h s => h.execute c.time s) s c.faults
  rw [← hwhole]
  rcases hatomic with ⟨hstate, hending⟩ | ⟨⟨e, hfault⟩, hstate⟩
  · left
    refine ⟨hstate, ?_⟩
    simp only [callOverLine, hending, answerOf_arrived]
    rfl
  · right
    refine ⟨?_, hstate⟩
    simp only [callOverLine, hfault]
    rfl

/-- **Failed calls are atomic.** However many statements and answers of a series of calls get lost:
some of the calls, made one after the other on a line without faults, lead to the same tables, and
every call that no fault ended is among them, with the same result. -/
theorem failed_calls_atomic (s : PostgresTokenStorage) (calls : List (FaultyCall χ)) :
    ∃ kept : List TokenCall, kept.Sublist (calls.map FaultyCall.toTokenCall) ∧
      Machine.final (callOverLine sha256) s calls = Machine.final (postgresStep sha256) s kept ∧
      (Machine.answered FaultyCall.toTokenCall answerOf
        (Machine.trace (callOverLine sha256) s calls)).Sublist
          (Machine.trace (postgresStep sha256) s kept) :=
  Machine.exists_sublist_of_atomic (callOverLine_atomic sha256) s calls

end McpAuthflow.Storage
