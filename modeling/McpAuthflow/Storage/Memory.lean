import McpAuthflow.Foundations.Dict
import McpAuthflow.Storage.Base

/-! # `MemoryTokenStorage` (`mcp_authflow/storage/memory.py`)

Two dicts, keyed by token digest, and the initialized flag. The private methods (`storeTo`,
`loadFrom`, `deleteFrom`, `cleanupFrom`) work on the dict of one kind; the public ones are these at
a kind. Each returns the storage it leaves behind with its result, so an operation that raises may
still have changed the storage. -/

namespace McpAuthflow.Storage

/-- The dict of one kind of tokens. -/
abbrev TokenStore := Dict PyStr TokenData

/-- The state of a `MemoryTokenStorage`. -/
structure MemoryTokenStorage where
  accessTokens : TokenStore
  refreshTokens : TokenStore
  initialized : Bool

namespace MemoryTokenStorage

/-- A storage as `__init__` leaves it. -/
def init : MemoryTokenStorage := ⟨∅, ∅, false⟩

/-- The dict of a kind. -/
def tokens (s : MemoryTokenStorage) : TokenKind → TokenStore
  | .access => s.accessTokens
  | .refresh => s.refreshTokens

/-- Replace the dict of a kind. -/
def setTokens (s : MemoryTokenStorage) (kind : TokenKind) (store : TokenStore) :
    MemoryTokenStorage :=
  match kind with
  | .access => { s with accessTokens := store }
  | .refresh => { s with refreshTokens := store }

@[simp] theorem tokens_setTokens_self (s : MemoryTokenStorage) (kind : TokenKind)
    (store : TokenStore) : (s.setTokens kind store).tokens kind = store := by
  cases kind <;> rfl

@[simp] theorem tokens_setTokens_ne {s : MemoryTokenStorage} {kind kind' : TokenKind}
    (h : kind' ≠ kind) (store : TokenStore) :
    (s.setTokens kind store).tokens kind' = s.tokens kind' := by
  cases kind <;> cases kind' <;> first | rfl | exact absurd rfl h

@[simp] theorem initialized_setTokens (s : MemoryTokenStorage) (kind : TokenKind)
    (store : TokenStore) : (s.setTokens kind store).initialized = s.initialized := by
  cases kind <;> rfl

/-- `initialize`. -/
def initializeStorage (s : MemoryTokenStorage) : MemoryTokenStorage :=
  { s with initialized := true }

/-- `close`. -/
def close (_ : MemoryTokenStorage) : MemoryTokenStorage := ⟨∅, ∅, false⟩

/-- `_require_initialized`. -/
def requireInitialized (s : MemoryTokenStorage) : Except StorageError Unit :=
  if s.initialized then .ok () else .error (.notInitialized notInitializedMessage)

variable (sha256 : List UInt8 → PyStr)

/-- The checks every keyed operation starts with: the storage is initialized, then the token's
digest. -/
def digestOf (s : MemoryTokenStorage) (token : PyStr) : Except StorageError PyStr := do
  s.requireInitialized
  hashToken sha256 token

/-- `_store_to`. -/
def storeTo (s : MemoryTokenStorage) (kind : TokenKind) (args : TokenArgs) (now : ℚ) :
    MemoryTokenStorage × Except StorageError Unit :=
  match s.digestOf sha256 args.token with
  | .error e => (s, .error e)
  | .ok digest =>
    let data : TokenData := { args with createdAt := some (pyInt now) }
    (s.setTokens kind ((s.tokens kind).insert digest data), .ok ())

/-- `_delete_from`. -/
def deleteFrom (s : MemoryTokenStorage) (kind : TokenKind) (token : PyStr) :
    MemoryTokenStorage × Except StorageError Unit :=
  match s.digestOf sha256 token with
  | .error e => (s, .error e)
  | .ok digest => (s.setTokens kind ((s.tokens kind).erase digest), .ok ())

/-- `_load_from`: an expired record is deleted. -/
def loadFrom (s : MemoryTokenStorage) (kind : TokenKind) (token : PyStr) (now : ℚ) :
    MemoryTokenStorage × Except StorageError (Option TokenData) :=
  match s.digestOf sha256 token with
  | .error e => (s, .error e)
  | .ok digest =>
    match (s.tokens kind).lookup digest with
    | none => (s, .ok none)
    | some data =>
      if data.expiresAt < pyInt now then
        let (s, deleted) := s.deleteFrom sha256 kind token
        (s, deleted.map fun _ => none)
      else (s, .ok (some data))

/-- `_cleanup_from`: remove the expired records and say how many there were. -/
def cleanupFrom (s : MemoryTokenStorage) (kind : TokenKind) (now : ℚ) :
    MemoryTokenStorage × Except StorageError ℕ :=
  match s.requireInitialized with
  | .error e => (s, .error e)
  | .ok _ =>
    let expired := (s.tokens kind).filter fun _ data => data.expiresAt < pyInt now
    let kept := (s.tokens kind).filter fun _ data => !decide (data.expiresAt < pyInt now)
    (s.setTokens kind kept, .ok expired.size)

/-- The number of records of a kind. -/
def countOf (s : MemoryTokenStorage) (kind : TokenKind) :
    MemoryTokenStorage × Except StorageError ℕ :=
  (s, s.requireInitialized.map fun _ => (s.tokens kind).size)

/-- `revoke_client_tokens`: remove the client's records of both kinds. -/
def revokeClientTokens (s : MemoryTokenStorage) (clientId : PyStr) :
    MemoryTokenStorage × Except StorageError ℕ :=
  match s.requireInitialized with
  | .error e => (s, .error e)
  | .ok _ =>
    let issued (_ : PyStr) (data : TokenData) : Bool := data.clientId = clientId
    let others (_ : PyStr) (data : TokenData) : Bool := !decide (data.clientId = clientId)
    ({ s with
        accessTokens := s.accessTokens.filter others
        refreshTokens := s.refreshTokens.filter others },
      .ok ((s.accessTokens.filter issued).size + (s.refreshTokens.filter issued).size))

/-! ## The public methods -/

/-- `store_token`. -/
def storeToken (s : MemoryTokenStorage) := s.storeTo sha256 .access

/-- `store_refresh_token`. -/
def storeRefreshToken (s : MemoryTokenStorage) := s.storeTo sha256 .refresh

/-- `load_token`. -/
def loadToken (s : MemoryTokenStorage) := s.loadFrom sha256 .access

/-- `load_refresh_token`. -/
def loadRefreshToken (s : MemoryTokenStorage) := s.loadFrom sha256 .refresh

/-- `delete_token`. -/
def deleteToken (s : MemoryTokenStorage) := s.deleteFrom sha256 .access

/-- `delete_refresh_token`. -/
def deleteRefreshToken (s : MemoryTokenStorage) := s.deleteFrom sha256 .refresh

/-- `cleanup_expired_tokens`. -/
def cleanupExpiredTokens (s : MemoryTokenStorage) := s.cleanupFrom .access

/-- `cleanup_expired_refresh_tokens`. -/
def cleanupExpiredRefreshTokens (s : MemoryTokenStorage) := s.cleanupFrom .refresh

/-- `get_token_count`. -/
def getTokenCount (s : MemoryTokenStorage) := s.countOf .access

/-- `get_refresh_token_count`. -/
def getRefreshTokenCount (s : MemoryTokenStorage) := s.countOf .refresh

/-! ## The storage as a machine -/

/-- A method's result as a reply of the interface. -/
def replying {α : Type} (reply : α → Reply) (r : MemoryTokenStorage × Except StorageError α) :
    MemoryTokenStorage × Result :=
  (r.1, r.2.map reply)

/-- Dispatch an operation on tokens to its method. -/
def tokenStep (s : MemoryTokenStorage) (now : ℚ) : TokenOp → MemoryTokenStorage × Result
  | .store .access args => replying (fun _ => .done) (s.storeToken sha256 args now)
  | .store .refresh args => replying (fun _ => .done) (s.storeRefreshToken sha256 args now)
  | .load .access token => replying .loaded (s.loadToken sha256 token now)
  | .load .refresh token => replying .loaded (s.loadRefreshToken sha256 token now)
  | .delete .access token => replying (fun _ => .done) (s.deleteToken sha256 token)
  | .delete .refresh token => replying (fun _ => .done) (s.deleteRefreshToken sha256 token)
  | .cleanup .access => replying .number (s.cleanupExpiredTokens now)
  | .cleanup .refresh => replying .number (s.cleanupExpiredRefreshTokens now)
  | .revokeClientTokens clientId => replying .number (s.revokeClientTokens clientId)
  | .count .access => replying .number s.getTokenCount
  | .count .refresh => replying .number s.getRefreshTokenCount

/-- One call. -/
def step (s : MemoryTokenStorage) (c : Call) : MemoryTokenStorage × Result :=
  match c.op with
  | .initializeStorage => (s.initializeStorage, .ok .done)
  | .close => (s.close, .ok .done)
  | .token op => s.tokenStep sha256 c.time op

/-! ## The method of an operation, whatever the kind -/

theorem tokenStep_store_eq (s : MemoryTokenStorage) (kind : TokenKind) (args : TokenArgs)
    (now : ℚ) :
    s.tokenStep sha256 now (.store kind args)
      = replying (fun _ => .done) (s.storeTo sha256 kind args now) := by
  cases kind <;> rfl

theorem tokenStep_load_eq (s : MemoryTokenStorage) (kind : TokenKind) (token : PyStr) (now : ℚ) :
    s.tokenStep sha256 now (.load kind token)
      = replying .loaded (s.loadFrom sha256 kind token now) := by
  cases kind <;> rfl

theorem tokenStep_delete_eq (s : MemoryTokenStorage) (kind : TokenKind) (token : PyStr) (now : ℚ) :
    s.tokenStep sha256 now (.delete kind token)
      = replying (fun _ => .done) (s.deleteFrom sha256 kind token) := by
  cases kind <;> rfl

theorem tokenStep_cleanup_eq (s : MemoryTokenStorage) (kind : TokenKind) (now : ℚ) :
    s.tokenStep sha256 now (.cleanup kind) = replying .number (s.cleanupFrom kind now) := by
  cases kind <;> rfl

theorem tokenStep_count_eq (s : MemoryTokenStorage) (kind : TokenKind) (now : ℚ) :
    s.tokenStep sha256 now (.count kind) = replying .number (s.countOf kind) := by
  cases kind <;> rfl

/-! ## One lemma per method -/

variable {sha256} {s : MemoryTokenStorage} {kind : TokenKind} {token digest : PyStr} {now : ℚ}

/-- An uninitialized storage refuses every operation on tokens and stays as it is. -/
theorem tokenStep_of_not_initialized (h : s.initialized = false) (op : TokenOp) :
    s.tokenStep sha256 now op = (s, .error (.notInitialized notInitializedMessage)) := by
  have hreq : s.requireInitialized = .error (.notInitialized notInitializedMessage) := by
    simp [requireInitialized, h]
  have hdig : ∀ token,
      s.digestOf sha256 token = .error (.notInitialized notInitializedMessage) := by
    intro token
    rw [digestOf, hreq]
    rfl
  cases op with
  | store kind args =>
    rw [tokenStep_store_eq, storeTo, hdig]
    rfl
  | load kind token =>
    rw [tokenStep_load_eq, loadFrom, hdig]
    rfl
  | delete kind token =>
    rw [tokenStep_delete_eq, deleteFrom, hdig]
    rfl
  | cleanup kind =>
    rw [tokenStep_cleanup_eq, cleanupFrom, hreq]
    rfl
  | revokeClientTokens clientId =>
    rw [tokenStep, revokeClientTokens, hreq]
    rfl
  | count kind =>
    rw [tokenStep_count_eq, countOf, hreq]
    rfl

theorem requireInitialized_of_initialized (h : s.initialized = true) :
    s.requireInitialized = .ok () := by
  rw [requireInitialized, if_pos h]

/-- On an initialized storage the digest is all that can fail. -/
theorem digestOf_of_initialized (h : s.initialized = true) (token : PyStr) :
    s.digestOf sha256 token = hashToken sha256 token := by
  rw [digestOf, requireInitialized_of_initialized h]
  rfl

/-- A token without a digest is refused by every operation that names it. -/
theorem tokenStep_of_hashToken_error (h : s.initialized = true) {e : StorageError} {op : TokenOp}
    (hop : token ∈ op.tokens) (he : hashToken sha256 token = .error e) :
    s.tokenStep sha256 now op = (s, .error e) := by
  have hdig : s.digestOf sha256 token = .error e := by rw [digestOf_of_initialized h, he]
  cases op with
  | store kind args =>
    obtain rfl : token = args.token := List.mem_singleton.mp hop
    rw [tokenStep_store_eq, storeTo, hdig]
    rfl
  | load kind token' =>
    obtain rfl : token = token' := List.mem_singleton.mp hop
    rw [tokenStep_load_eq, loadFrom, hdig]
    rfl
  | delete kind token' =>
    obtain rfl : token = token' := List.mem_singleton.mp hop
    rw [tokenStep_delete_eq, deleteFrom, hdig]
    rfl
  | cleanup _ => simp [TokenOp.tokens] at hop
  | revokeClientTokens _ => simp [TokenOp.tokens] at hop
  | count _ => simp [TokenOp.tokens] at hop

theorem tokenStep_store (h : s.initialized = true) {args : TokenArgs}
    (hd : hashToken sha256 args.token = .ok digest) :
    s.tokenStep sha256 now (.store kind args)
      = (s.setTokens kind
            ((s.tokens kind).insert digest { args with createdAt := some (pyInt now) }),
          .ok .done) := by
  rw [tokenStep_store_eq, storeTo, digestOf_of_initialized h, hd]
  rfl

theorem tokenStep_delete (h : s.initialized = true) (hd : hashToken sha256 token = .ok digest) :
    s.tokenStep sha256 now (.delete kind token)
      = (s.setTokens kind ((s.tokens kind).erase digest), .ok .done) := by
  rw [tokenStep_delete_eq, deleteFrom, digestOf_of_initialized h, hd]
  rfl

/-- A load finds nothing, drops an expired record, or returns the record. -/
theorem tokenStep_load (h : s.initialized = true) (hd : hashToken sha256 token = .ok digest) :
    s.tokenStep sha256 now (.load kind token) =
      match (s.tokens kind).lookup digest with
      | none => (s, .ok (.loaded none))
      | some data =>
        if data.expiresAt < pyInt now then
          (s.setTokens kind ((s.tokens kind).erase digest), .ok (.loaded none))
        else (s, .ok (.loaded (some data))) := by
  have hdig : s.digestOf sha256 token = .ok digest := by rw [digestOf_of_initialized h, hd]
  rw [tokenStep_load_eq, loadFrom, hdig]
  simp only
  cases (s.tokens kind).lookup digest with
  | none => rfl
  | some data =>
    simp only
    split
    · simp [deleteFrom, replying, hdig, Except.map]
    · rfl

theorem tokenStep_cleanup (h : s.initialized = true) :
    s.tokenStep sha256 now (.cleanup kind)
      = (s.setTokens kind
            ((s.tokens kind).filter fun _ data => !decide (data.expiresAt < pyInt now)),
          .ok (.number
            ((s.tokens kind).filter fun _ data => data.expiresAt < pyInt now).size)) := by
  rw [tokenStep_cleanup_eq, cleanupFrom, requireInitialized_of_initialized h]
  rfl

theorem tokenStep_count (h : s.initialized = true) :
    s.tokenStep sha256 now (.count kind) = (s, .ok (.number (s.tokens kind).size)) := by
  rw [tokenStep_count_eq, countOf, requireInitialized_of_initialized h]
  rfl

/-- Revocation filters both dicts and adds up what it removed. -/
theorem tokenStep_revokeClientTokens (sha256 : List UInt8 → PyStr) (now : ℚ)
    (h : s.initialized = true) (clientId : PyStr) :
    (∀ kind, (s.tokenStep sha256 now (.revokeClientTokens clientId)).1.tokens kind
        = (s.tokens kind).filter fun _ data => !decide (data.clientId = clientId)) ∧
      (s.tokenStep sha256 now (.revokeClientTokens clientId)).1.initialized = true ∧
      (s.tokenStep sha256 now (.revokeClientTokens clientId)).2
        = .ok (.number (((s.tokens .access).filter fun _ data => data.clientId = clientId).size
            + ((s.tokens .refresh).filter fun _ data => data.clientId = clientId).size)) := by
  have hreq := requireInitialized_of_initialized h
  simp only [tokenStep, revokeClientTokens, replying, hreq, Except.map]
  refine ⟨?_, h, rfl⟩
  intro kind
  cases kind <;> rfl

end MemoryTokenStorage

end McpAuthflow.Storage
