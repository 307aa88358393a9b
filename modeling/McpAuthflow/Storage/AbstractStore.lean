import McpAuthflow.Foundations.Machine
import McpAuthflow.Foundations.Register
import McpAuthflow.Storage.Base

/-! # What a token storage is for

The abstract store maps each token of each kind to the record last stored for it. Expired records
stay where they are: a load shows a record only while it has not expired, and neither a load nor a
cleanup changes anything. Counts are not part of it (how many expired records linger is the
implementation's business), so a reply that would be a number is `done`.

What the store holds is a fact about the calls that returned (`history`):
**`AbstractStore.records_eq_current`** says that the record of a token is the latest one stored for
it, unless it was deleted, its client revoked or the store closed since (`LatestStore`). -/

namespace McpAuthflow.Storage

/-! ## The store -/

/-- Whether a record may still be shown at a clock reading. -/
def TokenData.shownAt (now : ℚ) (data : TokenData) : Bool := decide (⌊now⌋ ≤ data.expiresAt)

/-- The abstract token store. -/
structure AbstractStore where
  records : TokenKind → PyStr → Option TokenData
  initialized : Bool

namespace AbstractStore

/-- The store before anything was called. -/
def init : AbstractStore := ⟨fun _ _ => none, false⟩

/-- Change the record of one token. -/
def setRecord (u : AbstractStore) (kind : TokenKind) (token : PyStr) (data : Option TokenData) :
    AbstractStore :=
  { u with records := fun k t => if k = kind ∧ t = token then data else u.records k t }

/-- An operation on tokens, on an initialized store. -/
def tokenStep (sha256 : List UInt8 → PyStr) (u : AbstractStore) (now : ℚ) (op : TokenOp) :
    AbstractStore × Result :=
  match op with
  | .store kind args =>
    match hashToken sha256 args.token with
    | .error e => (u, .error e)
    | .ok _ =>
      (u.setRecord kind args.token (some { args with createdAt := some (pyInt now) }), .ok .done)
  | .load kind token =>
    match hashToken sha256 token with
    | .error e => (u, .error e)
    | .ok _ => (u, .ok (.loaded ((u.records kind token).filter (TokenData.shownAt now))))
  | .delete kind token =>
    match hashToken sha256 token with
    | .error e => (u, .error e)
    | .ok _ => (u.setRecord kind token none, .ok .done)
  | .cleanup _ | .count _ => (u, .ok .done)
  | .revokeClientTokens clientId =>
    ({ u with records := fun k t => (u.records k t).filter fun data => data.clientId ≠ clientId },
      .ok .done)

/-- One call. -/
def step (sha256 : List UInt8 → PyStr) (u : AbstractStore) (c : Call) : AbstractStore × Result :=
  match c.op with
  | .initializeStorage => ({ u with initialized := true }, .ok .done)
  | .close => (init, .ok .done)
  | .token op =>
    if u.initialized then u.tokenStep sha256 c.time op
    else (u, .error (.notInitialized notInitializedMessage))

end AbstractStore

/-! ## The history -/

/-- The calls of a run with their results. -/
abbrev CallTrace := List (Call × Result)

/-- The calls that returned, in order. -/
def history (tr : CallTrace) : List Call := (tr.filter fun e => e.2.isOk).map Prod.fst

/-- The record a call stores for a token. -/
def Call.storedFor (kind : TokenKind) (token : PyStr) (c : Call) : Option TokenData :=
  match c.op with
  | .token (.store k args) =>
    if k = kind ∧ args.token = token then some { args with createdAt := some (pyInt c.time) }
    else none
  | _ => none

/-- Whether a call takes a token's record `data` away. -/
def Call.removes (kind : TokenKind) (token : PyStr) (c : Call) (data : TokenData) : Bool :=
  match c.op with
  | .close => true
  | .token (.delete k t) => decide (k = kind ∧ t = token)
  | .token (.revokeClientTokens clientId) => decide (data.clientId = clientId)
  | _ => false

/-- **The latest store of a token**: a call of the history stored `data` for it, and since then no
call has stored, deleted or closed it away, nor revoked the client it was stored for. -/
def LatestStore (calls : List Call) (kind : TokenKind) (token : PyStr) (data : TokenData) : Prop :=
  Register.Latest (Call.storedFor kind token) (Call.removes kind token) calls data

/-- Whether the storage is initialized after a history. -/
def initializedAfter (calls : List Call) : Bool :=
  calls.foldl (fun initialized c =>
    match c.op with
    | .initializeStorage => true
    | .close => false
    | .token _ => initialized) false

@[simp] theorem history_nil : history [] = [] := rfl

theorem history_concat_ok (tr : CallTrace) (c : Call) (r : Reply) :
    history (tr ++ [(c, .ok r)]) = history tr ++ [c] := by
  simp [history, Except.isOk, Except.toBool]

theorem history_concat_error (tr : CallTrace) (c : Call) (e : StorageError) :
    history (tr ++ [(c, .error e)]) = history tr := by
  simp [history, Except.isOk, Except.toBool]

/-- A history does not depend on what the calls returned. -/
theorem history_congr {tr tr' : CallTrace}
    (h : (tr.map fun e => (e.1, e.2.isOk)) = tr'.map fun e => (e.1, e.2.isOk)) :
    history tr = history tr' := by
  have hof : ∀ tr : CallTrace,
      history tr = ((tr.map fun e => (e.1, e.2.isOk)).filter fun e => e.2).map Prod.fst := by
    intro tr
    simp [history, List.filter_map, Function.comp_def]
  rw [hof, hof, h]

/-- One call changes the record of a token as it changes a register. -/
theorem AbstractStore.records_tokenStep (sha256 : List UInt8 → PyStr) {u u' : AbstractStore}
    {c : Call} {op : TokenOp} (hop : c.op = .token op) {r : Reply}
    (hstep : u.tokenStep sha256 c.time op = (u', .ok r)) (kind : TokenKind) (token : PyStr) :
    u'.records kind token
      = Register.update (Call.storedFor kind token) (Call.removes kind token)
          (u.records kind token) c := by
  unfold tokenStep at hstep
  cases op with
  | store k args =>
    simp only at hstep
    split at hstep
    · cases hstep
    · cases hstep
      -- the token written is this one, or another that leaves its register alone
      by_cases hk : kind = k ∧ token = args.token
      · obtain ⟨rfl, rfl⟩ := hk
        have hwrite : c.storedFor kind args.token
            = some { args with createdAt := some (pyInt c.time) } := by
          simp [Call.storedFor, hop]
        rw [Register.update_of_write hwrite]
        simp [setRecord]
      · have hk' : ¬ (k = kind ∧ args.token = token) := fun h => hk ⟨h.1.symm, h.2.symm⟩
        rw [Register.update_of_keep]
        · simp [setRecord, hk]
        · simp [Call.storedFor, hop, hk']
        · simp [Call.removes, hop]
  | load k t =>
    simp only at hstep
    split at hstep <;> cases hstep
    rw [Register.update_of_keep (by simp [Call.storedFor, hop]) (by simp [Call.removes, hop])]
  | delete k t =>
    simp only at hstep
    split at hstep
    · cases hstep
    · cases hstep
      by_cases hk : kind = k ∧ token = t
      · obtain ⟨rfl, rfl⟩ := hk
        rw [Register.update_of_clear (by simp [Call.storedFor, hop]) (by simp [Call.removes, hop])]
        simp [setRecord]
      · have hk' : ¬ (k = kind ∧ t = token) := fun h => hk ⟨h.1.symm, h.2.symm⟩
        rw [Register.update_of_keep (by simp [Call.storedFor, hop])
          (by simp [Call.removes, hop, hk'])]
        simp [setRecord, hk]
  | cleanup k =>
    cases hstep
    rw [Register.update_of_keep (by simp [Call.storedFor, hop]) (by simp [Call.removes, hop])]
  | count k =>
    cases hstep
    rw [Register.update_of_keep (by simp [Call.storedFor, hop]) (by simp [Call.removes, hop])]
  | revokeClientTokens clientId =>
    cases hstep
    -- whether a revocation clears the register depends on the record's client
    rw [Register.update_of_not_write (by simp [Call.storedFor, hop])]
    simp [Call.removes, hop]

/-- An operation on tokens that raises changes nothing. -/
theorem AbstractStore.tokenStep_error {sha256 : List UInt8 → PyStr} {u u' : AbstractStore} {now : ℚ}
    {op : TokenOp} {e : StorageError} (h : u.tokenStep sha256 now op = (u', .error e)) :
    u' = u := by
  unfold tokenStep at h
  split at h
  case h_4 => cases h
  case h_5 => cases h
  case h_6 => cases h
  all_goals
    split at h
    · exact (congrArg Prod.fst h).symm
    · cases h

/-- A token without a digest is refused by every operation that names it. -/
theorem AbstractStore.tokenStep_of_hashToken_error {sha256 : List UInt8 → PyStr} {op : TokenOp}
    {token : PyStr} (hop : token ∈ op.tokens) {e : StorageError}
    (he : hashToken sha256 token = .error e) (u : AbstractStore) (now : ℚ) :
    u.tokenStep sha256 now op = (u, .error e) := by
  cases op with
  | store kind args =>
    obtain rfl : token = args.token := List.mem_singleton.mp hop
    simp only [tokenStep, he]
  | load kind token' =>
    obtain rfl : token = token' := List.mem_singleton.mp hop
    simp only [tokenStep, he]
  | delete kind token' =>
    obtain rfl : token = token' := List.mem_singleton.mp hop
    simp only [tokenStep, he]
  | cleanup _ => simp [TokenOp.tokens] at hop
  | revokeClientTokens _ => simp [TokenOp.tokens] at hop
  | count _ => simp [TokenOp.tokens] at hop

theorem AbstractStore.initialized_tokenStep (sha256 : List UInt8 → PyStr) (u : AbstractStore)
    (now : ℚ) (op : TokenOp) : (u.tokenStep sha256 now op).1.initialized = u.initialized := by
  unfold tokenStep
  split <;> first | rfl | (split <;> rfl)

/-- A store that is what its history says. -/
structure AbstractStore.IsHistory (u : AbstractStore) (tr : CallTrace) : Prop where
  records : ∀ kind token, u.records kind token
    = Register.current (Call.storedFor kind token) (Call.removes kind token) (history tr)
  initialized : u.initialized = initializedAfter (history tr)

/-- One call and its entry in the history. -/
theorem AbstractStore.IsHistory.step {sha256 : List UInt8 → PyStr} {u : AbstractStore}
    {tr : CallTrace} (h : u.IsHistory tr) (c : Call) :
    (AbstractStore.step sha256 u c).1.IsHistory
      (tr ++ [(c, (AbstractStore.step sha256 u c).2)]) := by
  unfold AbstractStore.step
  cases hop : c.op with
  | initializeStorage =>
    simp only
    refine ⟨?_, by simp [history_concat_ok, initializedAfter, hop]⟩
    intro kind token
    rw [history_concat_ok, Register.current_concat, ← h.records,
      Register.update_of_keep (by simp [Call.storedFor, hop]) (by simp [Call.removes, hop])]
  | close =>
    simp only
    refine ⟨?_, by simp [history_concat_ok, initializedAfter, hop, init]⟩
    intro kind token
    rw [history_concat_ok, Register.current_concat, ← h.records,
      Register.update_of_clear (by simp [Call.storedFor, hop]) (by simp [Call.removes, hop])]
    rfl
  | token op =>
    simp only
    cases hu : u.initialized with
    | false =>
      simp only [Bool.false_eq_true, if_false]
      exact ⟨by rw [history_concat_error]; exact h.records,
        by rw [history_concat_error]; exact h.initialized⟩
    | true =>
      simp only [if_true]
      cases hstep : u.tokenStep sha256 c.time op with
      | mk u' result =>
        have hinit := initialized_tokenStep sha256 u c.time op
        rw [hstep] at hinit
        cases result with
        | error e =>
          -- a call that raised is not in the history, and changed nothing
          rw [tokenStep_error hstep]
          exact ⟨by rw [history_concat_error]; exact h.records,
            by rw [history_concat_error]; exact h.initialized⟩
        | ok r =>
          refine ⟨?_, ?_⟩
          · intro kind token
            rw [history_concat_ok, Register.current_concat, ← h.records]
            exact records_tokenStep sha256 hop hstep kind token
          · show u'.initialized = _
            rw [hinit, h.initialized, history_concat_ok]
            simp [initializedAfter, hop]

/-- **The abstract store is its history.** After every run a token's record is the register that
the calls write and clear, and the flag is the last one set. -/
theorem AbstractStore.records_eq_current (sha256 : List UInt8 → PyStr) (calls : List Call) :
    (Machine.final (step sha256) init calls).IsHistory
      (Machine.trace (step sha256) init calls) :=
  Machine.trace_invariant (step sha256) (fun u tr => u.IsHistory tr)
    (fun _ _ c h => h.step c) ⟨fun _ _ => rfl, rfl⟩ calls

/-! ## What a load shows -/

/-- Only an initialized store holds records, and only of tokens that have a digest. -/
structure AbstractStore.WellFormed (sha256 : List UInt8 → PyStr) (u : AbstractStore) : Prop where
  empty : u.initialized = false → ∀ kind token, u.records kind token = none
  digested : ∀ kind token data, u.records kind token = some data →
    ∃ digest, hashToken sha256 token = .ok digest

theorem AbstractStore.wellFormed_init (sha256 : List UInt8 → PyStr) : init.WellFormed sha256 := by
  refine ⟨fun _ _ _ => rfl, ?_⟩
  intro kind token data hrec
  cases hrec

/-- Setting or removing the record of a token that has a digest. -/
theorem AbstractStore.WellFormed.setRecord {sha256 : List UInt8 → PyStr} {u : AbstractStore}
    (h : u.WellFormed sha256) (hinit : u.initialized = true) {token digest : PyStr}
    (hd : hashToken sha256 token = .ok digest) (kind : TokenKind) (data : Option TokenData) :
    (u.setRecord kind token data).WellFormed sha256 := by
  refine ⟨fun hfalse => ?_, ?_⟩
  · rw [show (u.setRecord kind token data).initialized = u.initialized from rfl, hinit] at hfalse
    cases hfalse
  · intro k t d hrec
    by_cases hk : k = kind ∧ t = token
    · exact ⟨digest, by rw [hk.2, hd]⟩
    · simp only [AbstractStore.setRecord, hk, if_false] at hrec
      exact h.digested k t d hrec

theorem AbstractStore.WellFormed.step {sha256 : List UInt8 → PyStr} {u : AbstractStore}
    (h : u.WellFormed sha256) (c : Call) : (u.step sha256 c).1.WellFormed sha256 := by
  unfold AbstractStore.step
  cases c.op with
  | initializeStorage => exact ⟨fun hfalse => absurd hfalse (by simp), h.digested⟩
  | close => exact wellFormed_init sha256
  | token op =>
    simp only
    cases hu : u.initialized with
    | false => exact h
    | true =>
      simp only [if_true]
      cases op with
      | store k args =>
        unfold tokenStep
        cases hd : hashToken sha256 args.token with
        | error e => simpa only [hd] using h
        | ok digest => simpa only [hd] using h.setRecord hu hd k _
      | load k token =>
        unfold tokenStep
        cases hd : hashToken sha256 token <;> simpa only [hd] using h
      | delete k token =>
        unfold tokenStep
        cases hd : hashToken sha256 token with
        | error e => simpa only [hd] using h
        | ok digest => simpa only [hd] using h.setRecord hu hd k none
      | cleanup k => exact h
      | count k => exact h
      | revokeClientTokens clientId =>
        refine ⟨fun hfalse => ?_, ?_⟩
        · rw [show (u.tokenStep sha256 c.time (.revokeClientTokens clientId)).1.initialized
            = u.initialized from rfl, hu] at hfalse
          cases hfalse
        · intro k t d hrec
          -- a revocation leaves a part of the records
          exact h.digested k t d (Option.filter_eq_some_iff.mp hrec).1

theorem AbstractStore.wellFormed_final (sha256 : List UInt8 → PyStr) (calls : List Call) :
    (Machine.final (step sha256) init calls).WellFormed sha256 :=
  Machine.trace_invariant (AbstractStore.step sha256) (fun u _ => u.WellFormed sha256)
    (fun _ _ c h => h.step c) (wellFormed_init sha256) calls

/-- **A load of the abstract store** shows the record of the token, while it has not expired. -/
theorem AbstractStore.step_load {sha256 : List UInt8 → PyStr} {u : AbstractStore}
    (h : u.WellFormed sha256) {c : Call} {kind : TokenKind} {token : PyStr}
    (hop : c.op = .token (.load kind token)) (data : TokenData) :
    (u.step sha256 c).2 = .ok (.loaded (some data)) ↔
      u.records kind token = some data ∧ ⌊c.time⌋ ≤ data.expiresAt := by
  have hfilter : (u.records kind token).filter (TokenData.shownAt c.time) = some data ↔
      u.records kind token = some data ∧ ⌊c.time⌋ ≤ data.expiresAt := by
    rw [Option.filter_eq_some_iff, TokenData.shownAt, decide_eq_true_eq]
  rw [← hfilter, step, hop]
  simp only
  cases hu : u.initialized with
  | false => simp [h.empty hu kind token]
  | true =>
    simp only [if_true, tokenStep]
    cases hd : hashToken sha256 token with
    | error e =>
      -- a token without a digest has no record
      cases hrec : u.records kind token with
      | none => simp
      | some d =>
        obtain ⟨digest, hok⟩ := h.digested kind token d hrec
        rw [hd] at hok
        cases hok
    | ok digest => simp

/-! ## What a kind of tokens depends on -/

/-- What concerns one kind of tokens. -/
def AbstractStore.view (kind : TokenKind) (u : AbstractStore) : (PyStr → Option TokenData) × Bool :=
  (u.records kind, u.initialized)

/-- Whether a call can change what a kind of tokens holds: loads, cleanups and counts cannot, nor
can the stores and deletes of the other kind. -/
def Call.affects (kind : TokenKind) (c : Call) : Bool :=
  match c.op with
  | .initializeStorage | .close | .token (.revokeClientTokens _) => true
  | .token (.store k _) | .token (.delete k _) => decide (k = kind)
  | .token (.load _ _) | .token (.cleanup _) | .token (.count _) => false

/-- The view of a record that was set, as the view before determines it. -/
theorem AbstractStore.view_setRecord (u : AbstractStore) (k kind : TokenKind) (token : PyStr)
    (data : Option TokenData) :
    (u.setRecord k token data).view kind
      = (fun t => if kind = k ∧ t = token then data else (u.view kind).1 t, (u.view kind).2) :=
  rfl

/-- The view after a step is a function of the view before it. -/
theorem AbstractStore.view_step (sha256 : List UInt8 → PyStr) (kind : TokenKind)
    {u u' : AbstractStore} (c : Call) (h : u.view kind = u'.view kind) :
    (u.step sha256 c).1.view kind = (u'.step sha256 c).1.view kind := by
  have hrec : u.records kind = u'.records kind := congrArg Prod.fst h
  have hinit : u.initialized = u'.initialized := congrArg Prod.snd h
  -- the branches test the flag and the digest only, which both sides share
  unfold step
  cases c.op with
  | initializeStorage => simp [view, hrec]
  | close => rfl
  | token op =>
    simp only [hinit]
    split
    · cases op with
      | store k args =>
        unfold tokenStep
        simp only
        split
        · exact h
        · rw [view_setRecord, view_setRecord, h]
      | load k token =>
        unfold tokenStep
        simp only
        split <;> exact h
      | delete k token =>
        unfold tokenStep
        simp only
        split
        · exact h
        · rw [view_setRecord, view_setRecord, h]
      | cleanup k => exact h
      | count k => exact h
      | revokeClientTokens clientId => simp [tokenStep, view, hrec, hinit]
    · exact h

/-- A call that does not affect a kind keeps its view. -/
theorem AbstractStore.view_step_of_not_affects (sha256 : List UInt8 → PyStr) {kind : TokenKind}
    (u : AbstractStore) {c : Call} (h : c.affects kind = false) :
    (u.step sha256 c).1.view kind = u.view kind := by
  have hset : ∀ k token data, k ≠ kind → (u.setRecord k token data).view kind = u.view kind := by
    intro k token data hk
    rw [view_setRecord]
    simp [Ne.symm hk]
  -- only a write to this kind, a revocation, or the life of the store would change the view
  unfold step
  cases hop : c.op with
  | initializeStorage => simp [Call.affects, hop] at h
  | close => simp [Call.affects, hop] at h
  | token op =>
    simp only
    split
    · cases op with
      | store k args =>
        unfold tokenStep
        simp only
        split
        · rfl
        · exact hset k _ _ (by simpa [Call.affects, hop] using h)
      | load k token =>
        unfold tokenStep
        simp only
        split <;> rfl
      | delete k token =>
        unfold tokenStep
        simp only
        split
        · rfl
        · exact hset k _ _ (by simpa [Call.affects, hop] using h)
      | cleanup k => rfl
      | count k => rfl
      | revokeClientTokens clientId => simp [Call.affects, hop] at h
    · rfl

/-- **A kind of tokens depends on the calls that affect it alone**: two runs with the same ones
leave it the same view. -/
theorem AbstractStore.view_final_congr (sha256 : List UInt8 → PyStr) {kind : TokenKind}
    {calls calls' : List Call}
    (h : calls.filter (Call.affects kind) = calls'.filter (Call.affects kind)) (u : AbstractStore) :
    (Machine.final (step sha256) u calls).view kind
      = (Machine.final (step sha256) u calls').view kind := by
  have hfilter : ∀ calls : List Call, (Machine.final (step sha256) u calls).view kind
      = (Machine.final (step sha256) u (calls.filter (Call.affects kind))).view kind :=
    fun calls => Machine.view_final_filter (step sha256)
      (fun _ _ c hv => view_step sha256 kind c hv)
      (fun u _ hc => view_step_of_not_affects sha256 u hc) rfl calls
  rw [hfilter calls, hfilter calls', h]

end McpAuthflow.Storage
