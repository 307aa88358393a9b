import McpAuthflow.Foundations.Numbers
import McpAuthflow.Foundations.Text

/-! # The token storage interface (`mcp_authflow/storage/base.py`, `exceptions.py`)

`TokenStorage` has the same operations for access tokens and for refresh tokens; here they are one
family indexed by `TokenKind`. An operation (`Op`) is called at a clock reading (`Call`) and returns
a `Result`: a `Reply`, or the error it raises. SHA-256 is a parameter, `sha256`, of everything that
digests tokens. -/

namespace McpAuthflow.Storage

/-- `UserId`: an `int` or a `str`. -/
inductive UserId where
  | int (n : ℤ)
  | str (s : PyStr)
  deriving DecidableEq

/-- The two kinds of tokens, each kept in a dict or table of its own. -/
inductive TokenKind where
  | access
  | refresh
  deriving DecidableEq

/-- What an operation of a storage can raise. -/
inductive StorageError where
  /-- `StorageNotInitializedError(message)`. -/
  | notInitialized (message : String)
  /-- `UnicodeEncodeError`: the text to digest has a lone surrogate. -/
  | unicodeEncode (text : PyStr)
  /-- `datetime.fromtimestamp` refuses a time outside the years 1 to 9999. -/
  | timestampOutOfRange (timestamp : ℤ)
  /-- The table a statement names does not exist. -/
  | undefinedTable (table : String)
  deriving DecidableEq

/-- The text of `_require_initialized` and `_require_pool`. -/
def notInitializedMessage : String := "Token storage not initialized. Call initialize() first."

/-- `hash_token`: the SHA-256 hex digest of the token's UTF-8 bytes. -/
def hashToken (sha256 : List UInt8 → PyStr) (token : PyStr) : Except StorageError PyStr :=
  match token.encodeUtf8 with
  | none => .error (.unicodeEncode token)
  | some bytes => .ok (sha256 bytes)

/-- The arguments of `store_token` and `store_refresh_token`. -/
structure TokenArgs where
  token : PyStr
  clientId : PyStr
  scopes : List PyStr
  expiresAt : ℤ
  resource : Option PyStr
  userId : Option UserId
  deriving DecidableEq

/-- The dict a load returns. -/
structure TokenData extends TokenArgs where
  createdAt : Option ℤ
  deriving DecidableEq

/-- The operations on an initialized storage. -/
inductive TokenOp where
  | store (kind : TokenKind) (args : TokenArgs)
  | load (kind : TokenKind) (token : PyStr)
  | delete (kind : TokenKind) (token : PyStr)
  | cleanup (kind : TokenKind)
  | revokeClientTokens (clientId : PyStr)
  | count (kind : TokenKind)

/-- The operations of the interface. -/
inductive Op where
  | initializeStorage
  | close
  | token (op : TokenOp)

/-- An operation at a clock reading (`time.time()`). -/
structure Call where
  time : ℚ
  op : Op

/-- What an operation returns. -/
inductive Reply where
  | done
  | loaded (data : Option TokenData)
  | number (n : ℕ)
  deriving DecidableEq

/-- How an operation ends. -/
abbrev Result := Except StorageError Reply

/-- The tokens an operation names. -/
def TokenOp.tokens : TokenOp → List PyStr
  | .store _ args => [args.token]
  | .load _ token => [token]
  | .delete _ token => [token]
  | .cleanup _ | .revokeClientTokens _ | .count _ => []

/-- The tokens a call names. -/
def Call.tokens (c : Call) : List PyStr :=
  match c.op with
  | .initializeStorage | .close => []
  | .token op => op.tokens

/-- `hash_token` is injective on a set of tokens, where it returns. -/
def HashInjOn (sha256 : List UInt8 → PyStr) (tokens : PyStr → Prop) : Prop :=
  ∀ token token' digest, tokens token → tokens token' → hashToken sha256 token = .ok digest →
    hashToken sha256 token' = .ok digest → token = token'

/-! ## Sample data -/

/-- The digests of the tokens `a` and `b`. -/
def sampleSha256 (bytes : List UInt8) : PyStr :=
  if bytes = [97] then
    PyStr.ofString "ca978112ca1bbdcafac231b39a23dc4da786eff8147c4e72b9807785afee48bb"
  else if bytes = [98] then
    PyStr.ofString "3e23e8160039594a33894f6564e1b1348bbd7a0088d42c4acb73eeaed59c009d"
  else []

/-- A token that expires at second 10. -/
def sampleArgs (token : PyStr) : TokenArgs :=
  ⟨token, PyStr.ofString "client", [PyStr.ofString "read"], 10, none, some (.int 7)⟩

end McpAuthflow.Storage
