import McpAuthflow.Foundations.Dict
import McpAuthflow.Foundations.Json
import McpAuthflow.Foundations.Numbers

/-! # Client registries (`mcp_authflow/registration/base.py`, `memory.py`)

A registry issues credentials for a normalized request and stores the client. The interface is
`ClientRegistry`, over any state; `memoryClientRegistry` is the in-memory implementation. The random
tokens and the clock reading of a call are its `Env`: a token of `secrets.token_urlsafe` is a string
over the URL-safe alphabet by its type, so it never holds a lone surrogate. -/

namespace McpAuthflow.Registration

/-- How a callback of the host fails: inside or outside the hierarchy of `Exception`. -/
inductive Failure where
  | exception
  | baseException
  deriving DecidableEq

/-- A parsed and normalized registration request. -/
structure ClientRegistrationRequest where
  clientName : Option PyStr
  redirectUris : List PyStr
  grantTypes : List PyStr
  responseTypes : List PyStr
  tokenEndpointAuthMethod : PyStr
  scope : Option PyStr
  extra : JsonObject

/-- `is_public_client`. -/
def ClientRegistrationRequest.isPublicClient (request : ClientRegistrationRequest) : Bool :=
  request.tokenEndpointAuthMethod = PyStr.ofString "none"

/-- A client that has been issued credentials. -/
structure RegisteredClient where
  clientId : PyStr
  clientSecret : Option PyStr
  clientName : Option PyStr
  redirectUris : List PyStr
  grantTypes : List PyStr
  responseTypes : List PyStr
  tokenEndpointAuthMethod : PyStr
  scope : Option PyStr
  clientIdIssuedAt : ℤ
  clientSecretExpiresAt : ℤ := 0
  deriving DecidableEq

/-- The interface: `create_client` returns the client or fails, `get_client` looks one up. -/
structure ClientRegistry (σ : Type*) where
  createClient : σ → ClientRegistrationRequest → σ × Except Failure RegisteredClient
  getClient : σ → PyStr → Option RegisteredClient

/-! ## The in-memory registry -/

/-- The alphabet of URL-safe base 64. -/
def isUrlSafe (c : CodePoint) : Bool :=
  let n := c.val
  (0x30 ≤ n && n ≤ 0x39) || (0x41 ≤ n && n ≤ 0x5A) || (0x61 ≤ n && n ≤ 0x7A) || n == 0x2D ||
    n == 0x5F

/-- A result of `secrets.token_urlsafe`. -/
def UrlSafeToken := { s : PyStr // ∀ c ∈ s, isUrlSafe c = true }

/-- The URL-safe alphabet lies below the surrogates. -/
theorem UrlSafeToken.surrogateFree (t : UrlSafeToken) : PyStr.SurrogateFree t.val := by
  intro c hc hs
  have hsafe := t.property c hc
  have hle := hs.1
  simp only [isUrlSafe, Bool.or_eq_true, Bool.and_eq_true, decide_eq_true_eq, beq_iff_eq] at hsafe
  omega

/-- What a `create_client` call draws and reads: two random tokens and `time.time()`. -/
structure Env where
  idToken : UrlSafeToken
  secretToken : UrlSafeToken
  time : ℚ

/-- `MemoryClientRegistry._clients`. -/
abbrev MemoryClients := Dict PyStr RegisteredClient

/-- The id the next client gets: `f"mcp-{secrets.token_urlsafe(16)}"`. -/
def issuedId (env : Env) : PyStr := PyStr.ofString "mcp-" ++ env.idToken.val

/-- The client `create_client` builds. -/
def issuedClient (env : Env) (request : ClientRegistrationRequest) : RegisteredClient where
  clientId := issuedId env
  clientSecret := if request.isPublicClient then none else some env.secretToken.val
  clientName := request.clientName
  redirectUris := request.redirectUris
  grantTypes := request.grantTypes
  responseTypes := request.responseTypes
  tokenEndpointAuthMethod := request.tokenEndpointAuthMethod
  scope := request.scope
  clientIdIssuedAt := pyInt env.time

/-- `MemoryClientRegistry.get_client`. -/
def getMemoryClient (clients : MemoryClients) (clientId : PyStr) : Option RegisteredClient :=
  clients.lookup clientId

/-- `MemoryClientRegistry`. -/
def memoryClientRegistry (env : Env) : ClientRegistry MemoryClients where
  createClient clients request :=
    let client := issuedClient env request
    (clients.insert client.clientId client, .ok client)
  getClient := getMemoryClient

theorem surrogateFree_issuedId (env : Env) : (issuedId env).SurrogateFree := by
  rw [issuedId, PyStr.surrogateFree_append]
  exact ⟨PyStr.surrogateFree_ofString _, env.idToken.surrogateFree⟩

/-- A sample of the tokens and the clock reading of a call. -/
def sampleEnv : Env where
  idToken := ⟨PyStr.ofString "A", by simp [PyStr.ofString, isUrlSafe, CodePoint.ofChar]⟩
  secretToken := ⟨PyStr.ofString "B", by simp [PyStr.ofString, isUrlSafe, CodePoint.ofChar]⟩
  time := 0

end McpAuthflow.Registration
