import McpAuthflow.Foundations.Base64
import McpAuthflow.Registration.RedirectUris
import McpAuthflow.Validation
import Mathlib.Data.Vector.Defs

/-! # Registered clients are consistent

What the endpoint stores of a client is assembled in several places: grant types and auth method are
derived from the requested grant types, the name factory replaces a field of the request, the
registry draws an id and, unless the auth method says that the client is public, a secret, and the
response repeats the client. **`registered_clients_consistent`**: whatever was requested and
configured, after every request of every run the parts of each stored client agree, and a 201
response names a stored client and discloses a secret iff that client is confidential. -/

namespace McpAuthflow.Registration

open JsonBytes (Parser)

/-! ## Random tokens -/

/-- The digits of base 64 are URL-safe. -/
theorem isUrlSafe_of_mem_alphabet : ∀ c ∈ Base64.alphabet, isUrlSafe c = true := by
  have hall : Base64.alphabet.all isUrlSafe = true := by decide
  exact List.all_eq_true.mp hall

/-- `secrets.token_urlsafe(n)`, on the `n` fresh bytes it draws. -/
def tokenUrlsafe {n : ℕ} (bytes : List.Vector UInt8 n) : UrlSafeToken where
  val := Base64.encode bytes.toList
  property c hc := isUrlSafe_of_mem_alphabet c (Base64.mem_alphabet_of_mem_encode bytes.toList c hc)

/-- What a `create_client` call draws and reads: the bytes behind its tokens and `time.time()`. -/
structure Draw where
  idBytes : List.Vector UInt8 16
  secretBytes : List.Vector UInt8 32
  time : ℚ

/-- The tokens of a draw. -/
def Draw.env (draw : Draw) : Env where
  idToken := tokenUrlsafe draw.idBytes
  secretToken := tokenUrlsafe draw.secretBytes
  time := draw.time

/-- A registration request with what its `create_client` call draws. -/
def drawnCall (call : Request × Draw) : Call := ⟨call.1, call.2.env⟩

/-! ## What should hold -/

/-- The grant types of a public client. -/
def publicBundle : List PyStr :=
  ["authorization_code", "refresh_token", "device_code"].map PyStr.ofString

/-- A client that has to authenticate at the token endpoint. -/
def RegisteredClient.IsConfidential (client : RegisteredClient) : Prop :=
  client.tokenEndpointAuthMethod ≠ PyStr.ofString "none"

/-- **The parts of a stored client agree**, with each other and with the key it is stored at. -/
structure RegisteredClient.Consistent (id : PyStr) (client : RegisteredClient) : Prop where
  key : id = client.clientId
  valid : validateClientId client.clientId = true
  secret : client.clientSecret = none ↔ client.tokenEndpointAuthMethod = PyStr.ofString "none"
  method : client.tokenEndpointAuthMethod = PyStr.ofString "none" ↔
    PyStr.ofString "client_credentials" ∉ client.grantTypes
  grants : client.grantTypes = [PyStr.ofString "client_credentials"] ∨
    client.grantTypes = publicBundle

/-- The response has a member of that name. -/
def HasMember (response : JSONResponse) (field : String) : Prop :=
  (response.content.lookup (PyStr.ofString field)).isSome

/-- The response names the client and discloses a secret iff it is confidential. -/
structure Discloses (response : JSONResponse) (client : RegisteredClient) : Prop where
  named : response.content.lookup (PyStr.ofString "client_id") = some (.str client.clientId)
  secret : HasMember response "client_secret" ↔ client.IsConfidential
  expiry : HasMember response "client_secret_expires_at" ↔ client.IsConfidential

/-- Every client of the registry is consistent. -/
def AllConsistent (clients : MemoryClients) : Prop :=
  ∀ id client, getMemoryClient clients id = some client → client.Consistent id

/-- **What a registration promises**: the registry after it holds consistent clients only, and a 201
is about one of them. -/
structure ConsistentlyHandled (o : Outcome MemoryClients) : Prop where
  stored : AllConsistent o.registry
  acknowledged : ∀ response, o.result = .ok response → response.statusCode = 201 →
    ∃ client, getMemoryClient o.registry client.clientId = some client ∧ Discloses response client

/-! ## The client that is issued -/

theorem isIdChar_of_isUrlSafe {c : CodePoint} (h : isUrlSafe c = true) : isIdChar c = true := by
  simp only [isUrlSafe, isIdChar, Bool.or_eq_true, Bool.and_eq_true, decide_eq_true_eq,
    beq_iff_eq] at h ⊢
  omega

/-- An id whose token is not too long passes `validate_client_id`. -/
theorem validateClientId_issuedId {env : Env} (h : env.idToken.val.length ≤ 252) :
    validateClientId (issuedId env) = true := by
  have hprefix : (PyStr.ofString "mcp-").length = 4 := by decide
  refine (validateClientId_iff _).mpr ⟨issuedId env, [], (List.append_nil _).symm, ?_, ?_, ?_,
    Or.inl rfl⟩
  · intro c hc
    rcases List.mem_append.mp hc with hc | hc
    · have hall : (PyStr.ofString "mcp-").all isIdChar = true := by decide
      exact List.all_eq_true.mp hall c hc
    · exact isIdChar_of_isUrlSafe (env.idToken.property c hc)
  · rw [issuedId, List.length_append]
    omega
  · rw [issuedId, List.length_append]
    omega

/-- Sixteen bytes are twenty-two digits. -/
theorem length_idToken (draw : Draw) : draw.env.idToken.val.length = 22 := by
  show (Base64.encode draw.idBytes.toList).length = 22
  rw [Base64.length_encode, List.Vector.toList_length]

/-- **The two kinds of clients**: grant types and auth method are derived together. -/
theorem namedRequest_cases (cfg : Config) (payload : JsonObject) (metadata : Metadata) :
    ((namedRequest cfg payload metadata).grantTypes = [PyStr.ofString "client_credentials"] ∧
        (namedRequest cfg payload metadata).tokenEndpointAuthMethod
          = PyStr.ofString "client_secret_post") ∨
      (namedRequest cfg payload metadata).grantTypes = publicBundle ∧
        (namedRequest cfg payload metadata).tokenEndpointAuthMethod = PyStr.ofString "none" := by
  have hderived := derived_namedRequest cfg payload metadata
  unfold deriveGrantTypesAndAuthMethod at hderived
  split at hderived
  · exact Or.inl (Prod.mk.inj hderived)
  · exact Or.inr (Prod.mk.inj hderived)

/-- **An issued client is consistent**, whatever was requested. -/
theorem consistent_issuedClient (cfg : Config) {env : Env} (henv : env.idToken.val.length ≤ 252)
    (payload : JsonObject) (metadata : Metadata) :
    (issuedClient env (namedRequest cfg payload metadata)).Consistent
      (issuedClient env (namedRequest cfg payload metadata)).clientId := by
  have hsecret : (issuedClient env (namedRequest cfg payload metadata)).clientSecret = none ↔
      (namedRequest cfg payload metadata).tokenEndpointAuthMethod = PyStr.ofString "none" := by
    simp [issuedClient, ClientRegistrationRequest.isPublicClient]
  refine ⟨rfl, validateClientId_issuedId henv, hsecret, ?_, ?_⟩
  · show (namedRequest cfg payload metadata).tokenEndpointAuthMethod = _ ↔
      _ ∉ (namedRequest cfg payload metadata).grantTypes
    rcases namedRequest_cases cfg payload metadata with ⟨hgrants, hmethod⟩ | ⟨hgrants, hmethod⟩
    · rw [hgrants, hmethod]
      simp
    · rw [hgrants, hmethod]
      simp [publicBundle]
  · show (namedRequest cfg payload metadata).grantTypes = _ ∨
      (namedRequest cfg payload metadata).grantTypes = _
    exact (namedRequest_cases cfg payload metadata).imp And.left And.left

/-! ## The response -/

/-- What the body of a response says about the secret. -/
theorem lookup_buildResponseBody (client : RegisteredClient) :
    (buildResponseBody client).lookup (PyStr.ofString "client_id") = some (.str client.clientId) ∧
      (buildResponseBody client).lookup (PyStr.ofString "client_secret")
        = client.clientSecret.map .str ∧
      (buildResponseBody client).lookup (PyStr.ofString "client_secret_expires_at")
        = client.clientSecret.map fun _ => .int client.clientSecretExpiresAt := by
  unfold buildResponseBody
  cases client.clientName <;> cases client.scope <;> cases client.clientSecret <;>
    simp [List.lookup_cons]

/-- A response that repeats a consistent client discloses what it should. -/
theorem discloses_of_content {response : JSONResponse} {id : PyStr} {client : RegisteredClient}
    (hcontent : response.content = buildResponseBody client) (h : client.Consistent id) :
    Discloses response client := by
  obtain ⟨hnamed, hsecret, hexpiry⟩ := lookup_buildResponseBody client
  rw [← hcontent] at hnamed hsecret hexpiry
  have hconfidential : client.clientSecret.isSome ↔ client.IsConfidential := by
    rw [Option.isSome_iff_ne_none]
    exact not_congr h.secret
  refine ⟨hnamed, ?_, ?_⟩
  · rw [HasMember, hsecret, Option.isSome_map]
    exact hconfidential
  · rw [HasMember, hexpiry, Option.isSome_map]
    exact hconfidential

/-! ## Runs -/

/-- **A registration keeps the stored clients consistent** and answers with one of them. -/
theorem consistentlyHandled_registerHandler {clients : MemoryClients} (h : AllConsistent clients)
    (parse : Parser) (cfg : Config) {call : Call} (hcall : call.env.idToken.val.length ≤ 252) :
    ConsistentlyHandled (registerStep parse cfg clients call).2 := by
  show ConsistentlyHandled (registerHandler parse cfg _ clients call.request)
  rcases registerHandler_cases parse cfg call.env clients call.request with
    hnothing | ⟨payload, metadata, calls, -, -, hrun⟩
  · refine ⟨?_, ?_⟩
    · rw [hnothing.registry]
      exact h
    · intro response hresponse hstatus
      exact absurd hstatus (hnothing.status response hresponse)
  · rw [hrun]
    have hnew := consistent_issuedClient cfg hcall payload metadata
    refine ⟨AList.forall_lookup_insert h hnew, ?_⟩
    intro response hresponse _
    obtain ⟨hcontent, -⟩ := of_acknowledge_result hresponse
    exact ⟨issuedClient call.env (namedRequest cfg payload metadata), AList.lookup_insert clients,
      discloses_of_content hcontent hnew⟩

/-- **Along every run the registered clients are consistent.** For every configuration, parser and
list of requests, each with its own fresh bytes. -/
theorem registered_clients_consistent (parse : Parser) (cfg : Config)
    (calls : List (Request × Draw)) :
    Machine.AllSteps (registerStep parse cfg)
      (fun clients _ call => ConsistentlyHandled (registerStep parse cfg clients call).2) ∅
      (calls.map drawnCall) := by
  have hdrawn : Machine.AllSteps (registerStep parse cfg)
      (fun _ _ call => call.env.idToken.val.length ≤ 252) ∅ (calls.map drawnCall) := by
    rw [Machine.allSteps_iff]
    intro pre call post hsplit
    have hmem : call ∈ calls.map drawnCall := by simp [hsplit]
    obtain ⟨⟨request, draw⟩, -, rfl⟩ := List.mem_map.mp hmem
    have hlength := length_idToken draw
    show draw.env.idToken.val.length ≤ 252
    omega
  refine (Machine.allSteps_of_invariant (registerStep parse cfg)
    (fun clients _ => AllConsistent clients) ?_ ?_ ?_ hdrawn).2
  · intro clients _ call hclients hcall
    exact (consistentlyHandled_registerHandler hclients parse cfg hcall).stored
  · intro clients _ call hclients hcall
    exact consistentlyHandled_registerHandler hclients parse cfg hcall
  · intro id client hclient
    cases hclient

end McpAuthflow.Registration
