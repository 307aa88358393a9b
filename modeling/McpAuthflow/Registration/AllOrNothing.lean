import McpAuthflow.Registration.Handler

/-! # A registration is all or nothing, unless its answer cannot be written

A registration should either be answered 201 with the stored client, or leave the registry as it was
and run no hook. The handler keeps this on every branch up to the registry; after it, two things can
still fail: a hook that raises outside `Exception`, and the construction of the response, which
encodes client-chosen strings in strict UTF-8. **`register_all_or_nothing_iff`**: a request is
handled all or nothing iff, should it reach the registry, its client can be acknowledged. -/

namespace McpAuthflow.Registration

open JsonBytes (Parser)
open JsonText (FlatObject FlatValue)

/-! ## The two ways to end -/

/-- Every field of a client, under the name it has in a response. -/
def RegisteredClient.attributes (client : RegisteredClient) : List (PyStr × Option FlatValue) :=
  [(PyStr.ofString "client_id", some (.str client.clientId)),
    (PyStr.ofString "client_secret", client.clientSecret.map .str),
    (PyStr.ofString "client_name", client.clientName.map .str),
    (PyStr.ofString "redirect_uris", some (.strs client.redirectUris)),
    (PyStr.ofString "grant_types", some (.strs client.grantTypes)),
    (PyStr.ofString "response_types", some (.strs client.responseTypes)),
    (PyStr.ofString "token_endpoint_auth_method", some (.str client.tokenEndpointAuthMethod)),
    (PyStr.ofString "scope", client.scope.map .str),
    (PyStr.ofString "client_id_issued_at", some (.int client.clientIdIssuedAt)),
    (PyStr.ofString "client_secret_expires_at", some (.int client.clientSecretExpiresAt))]

/-- All: status 201, the registry gained exactly the client the response names, and each field of
the response is the client's field of that name. -/
structure Registered (prior after : MemoryClients) (response : JSONResponse)
    (client : RegisteredClient) : Prop where
  status : response.statusCode = 201
  named : response.content.lookup (PyStr.ofString "client_id") = some (.str client.clientId)
  found : getMemoryClient after client.clientId = some client
  fresh : getMemoryClient prior client.clientId = none
  others : ∀ id, id ≠ client.clientId → getMemoryClient after id = getMemoryClient prior id
  fields : ∀ m ∈ response.content, (m.1, some m.2) ∈ client.attributes

/-- Nothing: no 201, the registry as before, and no hook ran. -/
structure Unregistered (prior : MemoryClients) (o : Outcome MemoryClients) : Prop where
  status : ∀ response, o.result = .ok response → response.statusCode ≠ 201
  registry : o.registry = prior
  hooks : Invocation.postRegisterHook ∉ o.invocations

/-- **All or nothing.** -/
def AllOrNothing (prior : MemoryClients) (o : Outcome MemoryClients) : Prop :=
  (∃ response client, o.result = .ok response ∧ Registered prior o.registry response client) ∨
    Unregistered prior o

/-- The registration of `parsed` can be acknowledged: its client-chosen strings hold no lone
surrogate, and no hook raises outside `Exception` on the client it becomes. -/
structure Answerable (cfg : Config) (env : Env) (parsed : ClientRegistrationRequest) : Prop where
  clientName : ∀ name ∈ parsed.clientName, PyStr.SurrogateFree name
  redirectUris : ∀ uri ∈ parsed.redirectUris, PyStr.SurrogateFree uri
  responseTypes : ∀ responseType ∈ parsed.responseTypes, PyStr.SurrogateFree responseType
  scope : ∀ scope ∈ parsed.scope, PyStr.SurrogateFree scope
  hooks : ∀ hook ∈ cfg.postRegisterHooks, hook (issuedClient env parsed) ≠ some .baseException

/-! ## Before the registry -/

/-- A request that stops before the registry leaves everything as it was. -/
theorem unregistered_of_readMetadata_error {parse : Parser} {request : Request} {result : Answer}
    (h : readMetadata parse request = .error result) (cfg : Config) (env : Env)
    (prior : MemoryClients) :
    Unregistered prior (registerHandler parse cfg (memoryClientRegistry env) prior request) := by
  have hrun : registerHandler parse cfg (memoryClientRegistry env) prior request
      = ⟨prior, [], result⟩ := by
    rw [registerHandler, h]
  rw [hrun]
  refine ⟨?_, rfl, by simp⟩
  rintro response rfl
  have hle := statusCode_of_readMetadata_error h
  omega

/-- A request with a refused URI leaves everything as it was, whether or not the refusal can be
written. -/
theorem unregistered_of_rejectedUri {parse : Parser} {cfg : Config} {request : Request}
    {payload : JsonObject} {metadata : Metadata} {uri : PyStr}
    (hread : readMetadata parse request = .ok (payload, metadata))
    (huri : rejectedUri cfg (finalRedirectUris cfg metadata) = some uri) (env : Env)
    (prior : MemoryClients) :
    Unregistered prior (registerHandler parse cfg (memoryClientRegistry env) prior request) := by
  have hrun : registerHandler parse cfg (memoryClientRegistry env) prior request
      = ⟨prior, uriInvocations cfg (finalRedirectUris cfg metadata),
          answer (invalidRedirectUri (PyStr.ofString "Invalid redirect_uri: " ++ uri))⟩ := by
    simp only [registerHandler, hread, huri]
  rw [hrun]
  refine ⟨?_, rfl, postRegisterHook_notMem_uriInvocations cfg _⟩
  intro response hresponse
  dsimp only at hresponse
  rw [(isError_of_invalidRedirectUri (answer_eq_ok.mp hresponse)).1]
  omega

/-! ## From the registry on -/

/-- A request that reaches the in-memory registry is stored, then acknowledged. -/
theorem registerHandler_of_accepted {parse : Parser} {cfg : Config} {request : Request}
    {payload : JsonObject} {metadata : Metadata}
    (hread : readMetadata parse request = .ok (payload, metadata))
    (huri : rejectedUri cfg (finalRedirectUris cfg metadata) = none) (env : Env)
    (prior : MemoryClients) :
    ∃ calls, registerHandler parse cfg (memoryClientRegistry env) prior request
      = acknowledge cfg
          (prior.insert (issuedClient env (namedRequest cfg payload metadata)).clientId
            (issuedClient env (namedRequest cfg payload metadata)))
          calls (issuedClient env (namedRequest cfg payload metadata)) := by
  simp only [registerHandler, hread, huri, persist]
  exact ⟨_, rfl⟩

/-- **The two ways of the handler**: it stops before the registry, or stores the client it issued
for an accepted request and acknowledges it. -/
theorem registerHandler_cases (parse : Parser) (cfg : Config) (env : Env) (prior : MemoryClients)
    (request : Request) :
    Unregistered prior (registerHandler parse cfg (memoryClientRegistry env) prior request) ∨
      ∃ payload metadata calls, readMetadata parse request = .ok (payload, metadata) ∧
        rejectedUri cfg (finalRedirectUris cfg metadata) = none ∧
        registerHandler parse cfg (memoryClientRegistry env) prior request
          = acknowledge cfg
              (prior.insert (issuedId env) (issuedClient env (namedRequest cfg payload metadata)))
              calls (issuedClient env (namedRequest cfg payload metadata)) := by
  cases hread : readMetadata parse request with
  | error result => exact Or.inl (unregistered_of_readMetadata_error hread cfg env prior)
  | ok read =>
    obtain ⟨payload, metadata⟩ := read
    cases huri : rejectedUri cfg (finalRedirectUris cfg metadata) with
    | some uri => exact Or.inl (unregistered_of_rejectedUri hread huri env prior)
    | none =>
      obtain ⟨calls, hrun⟩ := registerHandler_of_accepted hread huri env prior
      exact Or.inr ⟨payload, metadata, calls, rfl, huri, hrun⟩

/-- Grant types and auth method are derived, whatever was requested: the name factory leaves them.
-/
theorem derived_namedRequest (cfg : Config) (payload : JsonObject) (metadata : Metadata) :
    ((namedRequest cfg payload metadata).grantTypes,
        (namedRequest cfg payload metadata).tokenEndpointAuthMethod)
      = deriveGrantTypesAndAuthMethod (metadata.grantTypes.getD []) := by
  unfold namedRequest
  cases cfg.clientNameFactory <;> rfl

/-- The generated and derived strings of an accepted request can always be written. -/
theorem acknowledgeable_issuedClient (cfg : Config) (env : Env) (payload : JsonObject)
    (metadata : Metadata) :
    Acknowledgeable cfg (issuedClient env (namedRequest cfg payload metadata)) ↔
      Answerable cfg env (namedRequest cfg payload metadata) := by
  constructor
  · intro h
    exact ⟨h.printable.clientName, h.printable.redirectUris, h.printable.responseTypes,
      h.printable.scope, h.hooks⟩
  · intro h
    have hderived := derived_namedRequest cfg payload metadata
    have hgrants : (namedRequest cfg payload metadata).grantTypes
        = (deriveGrantTypesAndAuthMethod (metadata.grantTypes.getD [])).1 :=
      congrArg Prod.fst hderived
    have hmethod : (namedRequest cfg payload metadata).tokenEndpointAuthMethod
        = (deriveGrantTypesAndAuthMethod (metadata.grantTypes.getD [])).2 :=
      congrArg Prod.snd hderived
    refine ⟨⟨surrogateFree_issuedId env, ?_, h.clientName, h.redirectUris, ?_, h.responseTypes, ?_,
      h.scope⟩, h.hooks⟩
    · -- a public client has no secret
      intro secret hsecret
      simp only [issuedClient] at hsecret
      split at hsecret
      · cases hsecret
      · obtain rfl := Option.some_inj.mp hsecret
        exact env.secretToken.surrogateFree
    · show ∀ grantType ∈ (namedRequest cfg payload metadata).grantTypes, _
      rw [hgrants, deriveGrantTypesAndAuthMethod]
      split <;> simp
    · show (namedRequest cfg payload metadata).tokenEndpointAuthMethod.SurrogateFree
      rw [hmethod, deriveGrantTypesAndAuthMethod]
      split <;> simp

/-- Each field of the response is a field of the client. -/
theorem mem_attributes_of_mem_buildResponseBody (client : RegisteredClient) :
    ∀ m ∈ buildResponseBody client, (m.1, some m.2) ∈ client.attributes := by
  unfold buildResponseBody RegisteredClient.attributes
  cases client.clientName <;> cases client.scope <;> cases client.clientSecret <;> simp

/-- A stored client is registered all or nothing iff it can be acknowledged: from the registry on
there is no way back. -/
theorem allOrNothing_acknowledge {prior : MemoryClients} {client : RegisteredClient}
    (hfresh : getMemoryClient prior client.clientId = none) (cfg : Config)
    (calls : List Invocation) :
    AllOrNothing prior (acknowledge cfg (prior.insert client.clientId client) calls client) ↔
      Acknowledgeable cfg client := by
  have hfound : getMemoryClient (prior.insert client.clientId client) client.clientId
      = some client := AList.lookup_insert prior
  rw [← exists_acknowledge_result cfg (prior.insert client.clientId client) calls]
  constructor
  · rintro (⟨response, -, hresponse, -⟩ | hnothing)
    · exact ⟨response, hresponse⟩
    · -- the registry has changed: its reading at the new id did
      have hkept : prior.insert client.clientId client = prior := hnothing.registry
      rw [hkept, hfresh] at hfound
      cases hfound
  · rintro ⟨response, hresponse⟩
    obtain ⟨hcontent, hstatus⟩ := of_acknowledge_result hresponse
    refine Or.inl ⟨response, client, hresponse, hstatus, ?_, hfound, hfresh, ?_, ?_⟩
    · rw [hcontent]
      rfl
    · intro id hid
      exact AList.lookup_insert_ne hid
    · rw [hcontent]
      exact mem_attributes_of_mem_buildResponseBody client

/-- **When registration is all or nothing.** For every body, verdict, configuration and prior
registry, and a fresh client id. -/
theorem register_all_or_nothing_iff (parse : Parser) (cfg : Config) (env : Env)
    (prior : MemoryClients) (request : Request)
    (hfresh : getMemoryClient prior (issuedId env) = none) :
    AllOrNothing prior (registerHandler parse cfg (memoryClientRegistry env) prior request) ↔
      ∀ payload metadata, readMetadata parse request = .ok (payload, metadata) →
        rejectedUri cfg (finalRedirectUris cfg metadata) = none →
        Answerable cfg env (namedRequest cfg payload metadata) := by
  cases hread : readMetadata parse request with
  | error result =>
    -- answered before any callback
    have hnothing := unregistered_of_readMetadata_error hread cfg env prior
    exact iff_of_true (Or.inr hnothing) (by simp)
  | ok read =>
    obtain ⟨payload, metadata⟩ := read
    cases huri : rejectedUri cfg (finalRedirectUris cfg metadata) with
    | some uri =>
      -- refused by the validator
      have hnothing := unregistered_of_rejectedUri hread huri env prior
      refine iff_of_true (Or.inr hnothing) ?_
      rintro payload' metadata' heq hnone
      obtain ⟨rfl, rfl⟩ := Prod.mk.inj (Except.ok.inj heq)
      rw [huri] at hnone
      cases hnone
    | none =>
      -- stored, and then acknowledged or not
      obtain ⟨calls, hrun⟩ := registerHandler_of_accepted hread huri env prior
      have hclient : getMemoryClient prior
          (issuedClient env (namedRequest cfg payload metadata)).clientId = none := hfresh
      rw [hrun, allOrNothing_acknowledge hclient, acknowledgeable_issuedClient]
      constructor
      · rintro h payload' metadata' heq -
        obtain ⟨rfl, rfl⟩ := Prod.mk.inj (Except.ok.inj heq)
        exact h
      · intro h
        exact h payload metadata rfl huri

/-- The client of the sample document can be acknowledged: the failing hook raises an
`Exception`. -/
theorem answerable_sampleRequest :
    Answerable strictConfig sampleEnv
      (namedRequest strictConfig (JsonText.payload sampleDocument) sampleMetadata) := by
  refine ⟨?_, ?_, ?_, ?_, ?_⟩
  · rintro name ⟨⟩
    exact PyStr.surrogateFree_ofString "App"
  · decide
  · decide
  · decide
  · simp [strictConfig]

/-- The sample document registers a client on a host with callbacks, all of it. -/
theorem register_all_or_nothing_iff_sampleRequest :
    AllOrNothing ∅
      (registerHandler JsonText.documentParser strictConfig (memoryClientRegistry sampleEnv) ∅
        sampleRequest) := by
  refine (register_all_or_nothing_iff _ strictConfig sampleEnv ∅ sampleRequest rfl).mpr ?_
  intro payload metadata hread _
  obtain ⟨rfl, rfl⟩ := Prod.mk.inj (Except.ok.inj (readMetadata_sampleRequest.symm.trans hread))
  exact answerable_sampleRequest

/-! ## A lone surrogate in the client name -/

/-- The document `{"client_name":"\ud800"}`. -/
def surrogateNameDocument : PyStr := PyStr.ofString "\x7b\"client_name\":\"\\ud800\"\x7d"

/-- What it parses to. -/
def surrogateNamePayload : JsonObject := [(PyStr.ofString "client_name", .str [0xD800])]

theorem readMetadata_surrogateNameDocument :
    readMetadata (parseOnly surrogateNameDocument (.obj surrogateNamePayload))
        ⟨none, none, asciiBytes surrogateNameDocument⟩
      = .ok (surrogateNamePayload, ⟨none, none, none, some [0xD800], none⟩) := by
  refine readMetadata_parseOnly (by decide +kernel) (by decide +kernel) ?_
  simp [checkMetadata, stringsField, stringField, optionalField, surrogateNamePayload, Json.get,
    Json.str?, List.lookup_cons]
  rfl

/-- **The client is stored and the answer raises.** -/
theorem register_not_all_or_nothing :
    ¬ AllOrNothing ∅
      (registerHandler (parseOnly surrogateNameDocument (.obj surrogateNamePayload)) sampleConfig
        (memoryClientRegistry sampleEnv) ∅ ⟨none, none, asciiBytes surrogateNameDocument⟩) := by
  have hvalid : rejectedUri sampleConfig
      (finalRedirectUris sampleConfig ⟨none, none, none, some [0xD800], none⟩) = none := rfl
  obtain ⟨calls, hrun⟩ := registerHandler_of_accepted readMetadata_surrogateNameDocument hvalid
    sampleEnv ∅
  rw [hrun, allOrNothing_acknowledge rfl]
  intro h
  have hname : PyStr.SurrogateFree [0xD800] := h.printable.clientName [0xD800] rfl
  exact absurd hname (by decide)

end McpAuthflow.Registration
