import McpAuthflow.Registration.AllOrNothing
import McpAuthflow.Registration.MalformedBodies

/-! # What a caller reads off an answer

The handler answers with bytes, and strings that the caller chose are in them. Read as JSON, the
bytes of an answer say what the handler meant: **`answers_read_back`** finds in a 201 the client
that is now stored, field by field, and in any other answer the error, with the registry as it was.
A client may therefore post the metadata it was sent to register once more:
**`reregistration_preserves`** says that it gets the same registration, under a new id. -/

namespace McpAuthflow.Registration

open JsonBytes (Parser)
open JsonText (FlatObject FlatValue Loadable ParsesDocuments readBytes)

/-! ## Reading answers -/

/-- The text at a member. -/
def textAt (o : FlatObject) (name : String) : Option PyStr :=
  match o.lookup (PyStr.ofString name) with
  | some (.str s) => some s
  | _ => none

/-- The texts at a member. -/
def textsAt (o : FlatObject) (name : String) : Option (List PyStr) :=
  match o.lookup (PyStr.ofString name) with
  | some (.strs items) => some items
  | _ => none

/-- The integer at a member. -/
def intAt (o : FlatObject) (name : String) : Option ℤ :=
  match o.lookup (PyStr.ofString name) with
  | some (.int n) => some n
  | _ => none

/-- The client that the body of a 201 describes; a secret that is not there does not expire. -/
def readClient (body : List UInt8) : Option RegisteredClient := do
  let o ← readBytes body
  let clientId ← textAt o "client_id"
  let redirectUris ← textsAt o "redirect_uris"
  let grantTypes ← textsAt o "grant_types"
  let responseTypes ← textsAt o "response_types"
  let authMethod ← textAt o "token_endpoint_auth_method"
  let issuedAt ← intAt o "client_id_issued_at"
  return {
    clientId := clientId
    clientSecret := textAt o "client_secret"
    clientName := textAt o "client_name"
    redirectUris := redirectUris
    grantTypes := grantTypes
    responseTypes := responseTypes
    tokenEndpointAuthMethod := authMethod
    scope := textAt o "scope"
    clientIdIssuedAt := issuedAt
    clientSecretExpiresAt := (intAt o "client_secret_expires_at").getD 0 }

/-- The code and the description that the body of an error gives. -/
def readError (body : List UInt8) : Option (PyStr × PyStr) := do
  let o ← readBytes body
  return (← textAt o "error", ← textAt o "error_description")

/-- What the body of a response has at each name. -/
theorem lookup_responseBody (client : RegisteredClient) :
    let body := buildResponseBody client
    body.lookup (PyStr.ofString "client_id") = some (.str client.clientId) ∧
      body.lookup (PyStr.ofString "client_id_issued_at") = some (.int client.clientIdIssuedAt) ∧
      body.lookup (PyStr.ofString "redirect_uris") = some (.strs client.redirectUris) ∧
      body.lookup (PyStr.ofString "response_types") = some (.strs client.responseTypes) ∧
      body.lookup (PyStr.ofString "grant_types") = some (.strs client.grantTypes) ∧
      body.lookup (PyStr.ofString "token_endpoint_auth_method")
        = some (.str client.tokenEndpointAuthMethod) ∧
      body.lookup (PyStr.ofString "client_name") = client.clientName.map .str ∧
      body.lookup (PyStr.ofString "scope") = client.scope.map .str ∧
      body.lookup (PyStr.ofString "client_secret") = client.clientSecret.map .str ∧
      body.lookup (PyStr.ofString "client_secret_expires_at")
        = client.clientSecret.map fun _ => .int client.clientSecretExpiresAt := by
  simp only [buildResponseBody]
  cases client.clientName <;> cases client.scope <;> cases client.clientSecret <;>
    simp [List.lookup_cons]

/-- **A client is read off its response.** -/
theorem readClient_of_content {response : JSONResponse} {client : RegisteredClient}
    (hcontent : response.content = buildResponseBody client)
    (hexpiry : client.clientSecret = none → client.clientSecretExpiresAt = 0) :
    readClient response.body = some client := by
  have hread : readBytes response.body = some (buildResponseBody client) := by
    rw [← hcontent]
    exact response_read_back response
  obtain ⟨hid, hissued, huris, htypes, hgrants, hmethod, hname, hscope, hsecret, hexpires⟩ :=
    lookup_responseBody client
  have htext : ∀ value : Option PyStr, (match value.map FlatValue.str with
      | some (.str s) => some s
      | _ => none) = value := by
    intro value
    cases value <;> rfl
  have hexpiresAt : (intAt (buildResponseBody client) "client_secret_expires_at").getD 0
      = client.clientSecretExpiresAt := by
    rw [intAt, hexpires]
    cases hnone : client.clientSecret with
    | none => exact (hexpiry hnone).symm
    | some secret => rfl
  simp only [readClient, hread, textAt, textsAt, hid, huris, htypes, hgrants, hmethod, hname,
     hscope, hsecret, hexpiresAt, htext, Option.bind_eq_bind, Option.bind_some]
  simp only [intAt, hissued]
  rfl

/-- **An error is read off its response.** -/
theorem readError_of_oauthError {error : String} {description : PyStr} {statusCode : ℕ}
    {extraHeaders : List (PyStr × PyStr)} {response : JSONResponse}
    (h : oauthError error description statusCode extraHeaders = some response) :
    readError response.body = some (PyStr.ofString error, description) := by
  have hread : readBytes response.body = some (errorContent error description) := by
    rw [← (jsonResponse_eq_some h).1]
    exact response_read_back response
  simp [readError, hread, errorContent, textAt, List.lookup_cons]

/-! ## Every answer is read back -/

/-- Why a request is refused, with the status, the code and the description it is told. -/
inductive RefusedWith (parse : Parser) (cfg : Config) (request : Request) :
    ℕ → String → PyStr → Prop
  | unauthorized (h : request.authorized = some false) :
    RefusedWith parse cfg request 401 "invalid_client" "Registration not authorized"
  | limited (retryAfter : ℤ) (h : request.rateLimit = some (.exceeded retryAfter)) :
    RefusedWith parse cfg request 429 "too_many_requests" "Too many registration requests"
  | noJson (h : readBody parse request.body = .error (.parse .jsonDecodeError)) :
    RefusedWith parse cfg request 400 "invalid_request" "Invalid JSON"
  | noObject (v : Json) (hread : readBody parse request.body = .ok v)
    (hv : ∀ payload, v ≠ .obj payload) :
    RefusedWith parse cfg request 400 "invalid_request" "Request body must be a JSON object"
  | mistyped (payload : JsonObject) (description : PyStr)
    (hread : readBody parse request.body = .ok (.obj payload))
    (hcheck : checkMetadata payload = .error description) :
    RefusedWith parse cfg request 400 "invalid_request" description
  | redirectUri (payload : JsonObject) (metadata : Metadata) (uri : PyStr)
    (hread : readMetadata parse request = .ok (payload, metadata))
    (huri : rejectedUri cfg (finalRedirectUris cfg metadata) = some uri) :
    RefusedWith parse cfg request 400 "invalid_redirect_uri"
      (PyStr.ofString "Invalid redirect_uri: " ++ uri)

/-- The answer tells a caller why it was refused. -/
def TellsRefusal (parse : Parser) (cfg : Config) (request : Request) (response : JSONResponse) :
    Prop :=
  ∃ error description, readError response.body = some (PyStr.ofString error, description) ∧
    RefusedWith parse cfg request response.statusCode error description

/-- An OAuth error tells what it was constructed with. -/
theorem tellsRefusal_of_refused {parse : Parser} {cfg : Config} {request : Request} {error : String}
    {description : PyStr} {statusCode : ℕ} {headers : List (PyStr × PyStr)}
    {response : JSONResponse}
    (hrefused : RefusedWith parse cfg request statusCode error description)
    (h : answer (oauthError error description statusCode headers) = .ok response) :
    TellsRefusal parse cfg request response := by
  have hresponse := answer_eq_ok.mp h
  refine ⟨error, description, readError_of_oauthError hresponse, ?_⟩
  rw [(isError_of_oauthError hresponse).1]
  exact hrefused

/-- The first half of the handler tells why it refuses. -/
theorem tellsRefusal_of_readMetadata_error {parse : Parser} {request : Request}
    {response : JSONResponse} (h : readMetadata parse request = .error (.ok response))
    (cfg : Config) : TellsRefusal parse cfg request response := by
  unfold readMetadata at h
  split_ifs at h with hauthorized
  · exact tellsRefusal_of_refused (.unauthorized hauthorized) (Except.error.inj h)
  · split at h
    case h_1 retryAfter hlimited =>
      exact tellsRefusal_of_refused (.limited retryAfter hlimited) (Except.error.inj h)
    case h_2 =>
      unfold readPayload at h
      split at h
      case h_1 hread => exact tellsRefusal_of_refused (.noJson hread) (Except.error.inj h)
      case h_2 => cases h
      case h_3 payload hread =>
        split at h
        case h_1 description hcheck =>
          exact tellsRefusal_of_refused (.mistyped payload description hread hcheck)
            (Except.error.inj h)
        case h_2 => cases h
      case h_4 v hv hread =>
        exact tellsRefusal_of_refused (.noObject v hread hv) (Except.error.inj h)

/-- The answer gives a caller its client, as it is stored now. -/
def TellsClient (o : Outcome MemoryClients) (response : JSONResponse) : Prop :=
  ∃ client, readClient response.body = some client ∧
    getMemoryClient o.registry client.clientId = some client

/-- A refusal is no 201. -/
theorem RefusedWith.status_ne {parse : Parser} {cfg : Config} {request : Request} {statusCode : ℕ}
    {error : String} {description : PyStr}
    (h : RefusedWith parse cfg request statusCode error description) : statusCode ≠ 201 := by
  cases h <;> decide

/-- **What a caller reads off an answer**: a 201 gives the client as it is stored; any other answer
gives the reason of the refusal, and nothing was stored. -/
theorem answers_read_back (parse : Parser) (cfg : Config) (env : Env) (prior : MemoryClients)
    (request : Request) (response : JSONResponse)
    (h : (registerHandler parse cfg (memoryClientRegistry env) prior request).result
      = .ok response) :
    let o := registerHandler parse cfg (memoryClientRegistry env) prior request
    (response.statusCode = 201 ∧ TellsClient o response) ∨
      response.statusCode ≠ 201 ∧ TellsRefusal parse cfg request response ∧ o.registry = prior := by
  have hrefused : TellsRefusal parse cfg request response → response.statusCode ≠ 201 :=
    fun ⟨_, _, _, hrefused⟩ => hrefused.status_ne
  cases hread : readMetadata parse request with
  | error result =>
    have hrun : registerHandler parse cfg (memoryClientRegistry env) prior request
        = ⟨prior, [], result⟩ := by rw [registerHandler, hread]
    rw [hrun] at h ⊢
    obtain rfl : result = .ok response := h
    have htold := tellsRefusal_of_readMetadata_error hread cfg
    exact Or.inr ⟨hrefused htold, htold, rfl⟩
  | ok read =>
    obtain ⟨payload, metadata⟩ := read
    cases huri : rejectedUri cfg (finalRedirectUris cfg metadata) with
    | some uri =>
      have hrun : registerHandler parse cfg (memoryClientRegistry env) prior request
          = ⟨prior, uriInvocations cfg (finalRedirectUris cfg metadata),
              answer (invalidRedirectUri (PyStr.ofString "Invalid redirect_uri: " ++ uri))⟩ := by
        simp only [registerHandler, hread, huri]
      rw [hrun] at h ⊢
      dsimp only at h
      rw [invalidRedirectUri] at h
      have htold := tellsRefusal_of_refused (.redirectUri payload metadata uri hread huri) h
      exact Or.inr ⟨hrefused htold, htold, rfl⟩
    | none =>
      obtain ⟨calls, hrun⟩ := registerHandler_of_accepted hread huri env prior
      rw [hrun] at h ⊢
      obtain ⟨hcontent, hstatus⟩ := of_acknowledge_result h
      exact Or.inl ⟨hstatus, _, readClient_of_content hcontent fun _ => rfl,
        AList.lookup_insert prior⟩

/-- The sample document is answered 201. -/
theorem exists_response_sampleRequest :
    ∃ response, (registerHandler JsonText.documentParser strictConfig
        (memoryClientRegistry sampleEnv) ∅ sampleRequest).result = .ok response ∧
      response.statusCode = 201 := by
  have huri : rejectedUri strictConfig (finalRedirectUris strictConfig sampleMetadata) = none := by
    decide
  obtain ⟨calls, hrun⟩ := registerHandler_of_accepted readMetadata_sampleRequest huri sampleEnv ∅
  obtain ⟨response, hresponse⟩ := (exists_acknowledge_result strictConfig _ calls _).mpr
    ((acknowledgeable_issuedClient strictConfig sampleEnv _ _).mpr answerable_sampleRequest)
  rw [hrun]
  exact ⟨response, hresponse, (of_acknowledge_result hresponse).2⟩

/-- The answer to the sample document gives the client that it registers. -/
theorem answers_read_back_sampleRequest :
    ∃ response : JSONResponse, response.statusCode = 201 ∧
      TellsClient (registerHandler JsonText.documentParser strictConfig
        (memoryClientRegistry sampleEnv) ∅ sampleRequest) response := by
  obtain ⟨response, hresponse, hstatus⟩ := exists_response_sampleRequest
  rcases answers_read_back JsonText.documentParser strictConfig sampleEnv ∅ sampleRequest
    response hresponse with ⟨-, hclient⟩ | ⟨hne, -⟩
  · exact ⟨response, hstatus, hclient⟩
  · exact absurd hstatus hne

/-! ## Posting an answer back -/

/-- The URIs after the rewriters. -/
def rewrite (cfg : Config) (uris : List PyStr) : List PyStr :=
  cfg.redirectUriRewriters.foldl (fun uris rewriter => rewriter uris) uris

/-- The rewriters have nothing left to do on what they made, nor on the defaults. -/
structure Config.Settled (cfg : Config) : Prop where
  rewritten : ∀ uris, rewrite cfg (rewrite cfg uris) = rewrite cfg uris
  defaults : rewrite cfg cfg.defaultRedirectUris = cfg.defaultRedirectUris

/-- The clients differ at most in their credentials, their time of issue and their names. -/
structure SameRegistration (client client' : RegisteredClient) : Prop where
  redirectUris : client'.redirectUris = client.redirectUris
  grantTypes : client'.grantTypes = client.grantTypes
  responseTypes : client'.responseTypes = client.responseTypes
  tokenEndpointAuthMethod : client'.tokenEndpointAuthMethod = client.tokenEndpointAuthMethod
  scope : client'.scope = client.scope
  secret : client'.clientSecret.isSome ↔ client.clientSecret.isSome

/-- The defaults of an option change nothing when they are applied twice. -/
theorem orDefault_orDefault {α : Type*} (value : Option (List α)) (default : List α) :
    orDefault (some (orDefault value default)) default = orDefault value default := by
  cases default with
  | nil => rcases value with _ | ⟨_ | _⟩ <;> rfl
  | cons => rcases value with _ | ⟨_ | _⟩ <;> rfl

/-- Deriving again from derived grant types changes nothing. -/
theorem derive_derive (requested : List PyStr) :
    deriveGrantTypesAndAuthMethod (deriveGrantTypesAndAuthMethod requested).1
      = deriveGrantTypesAndAuthMethod requested := by
  unfold deriveGrantTypesAndAuthMethod
  by_cases h : PyStr.ofString "client_credentials" ∈ requested <;> simp [h]

theorem finalRedirectUris_eq (cfg : Config) (metadata : Metadata) :
    finalRedirectUris cfg metadata = if rewrite cfg (metadata.redirectUris.getD []) = []
      then cfg.defaultRedirectUris else rewrite cfg (metadata.redirectUris.getD []) :=
  rfl

/-- The URIs of a client are what becomes of them when they are requested. -/
theorem finalRedirectUris_final {cfg : Config} (hcfg : cfg.Settled) {metadata again : Metadata}
    (h : again.redirectUris = some (finalRedirectUris cfg metadata)) :
    finalRedirectUris cfg again = finalRedirectUris cfg metadata := by
  have hfixed : rewrite cfg (finalRedirectUris cfg metadata) = finalRedirectUris cfg metadata := by
    rw [finalRedirectUris_eq]
    split_ifs with hempty
    · exact hcfg.defaults
    · exact hcfg.rewritten _
  rw [finalRedirectUris_eq cfg again, h, Option.getD_some, hfixed]
  split_ifs with hempty
  · -- nothing was left although the defaults were tried, so they are empty
    rw [hempty]
    rw [finalRedirectUris_eq] at hempty
    split_ifs at hempty with hrewritten
    · exact hempty
    · exact absurd hempty hrewritten
  · rfl

/-- The metadata that is read back from a client. -/
def RegisteredClient.metadata (client : RegisteredClient) : Metadata :=
  ⟨some client.redirectUris, some client.grantTypes, some client.responseTypes, client.clientName,
    client.scope⟩

/-- A member that is a list of texts passes its check. -/
theorem stringsField_payload {o : FlatObject} {field : String} {items : List PyStr}
    (h : o.lookup (PyStr.ofString field) = some (.strs items)) :
    stringsField (JsonText.payload o) field = .ok (some items) := by
  have hread := JsonText.strings?_strs items
  rw [stringsField, optionalField, JsonText.get_payload, h, Option.map_some, Option.getD_some]
  simp only [FlatValue.toJson] at hread ⊢
  rw [hread]

/-- A member that is a text passes its check, and so does one that is not there. -/
theorem stringField_payload {o : FlatObject} {field : String} {text : Option PyStr}
    (h : o.lookup (PyStr.ofString field) = text.map .str) :
    stringField (JsonText.payload o) field = .ok text := by
  rw [stringField, optionalField, JsonText.get_payload, h]
  cases text <;> rfl

/-- **The metadata of a response** is that of its client. -/
theorem checkMetadata_responseBody (client : RegisteredClient) :
    checkMetadata (JsonText.payload (buildResponseBody client))
      = .ok client.metadata := by
  obtain ⟨-, -, huris, htypes, hgrants, hmethod, hname, hscope, -, -⟩ := lookup_responseBody client
  have hauth : stringField (JsonText.payload (buildResponseBody client))
      "token_endpoint_auth_method" = .ok (some client.tokenEndpointAuthMethod) :=
    stringField_payload hmethod
  rw [checkMetadata, stringsField_payload huris, stringsField_payload hgrants,
    stringsField_payload htypes, stringField_payload hname, stringField_payload hscope,
    hauth]
  rfl

/-- `json.loads` reads a response whose time of issue is not too long a number. -/
theorem loadable_responseBody {client : RegisteredClient}
    (hissued : client.clientIdIssuedAt.natAbs < 10 ^ JsonText.maxStrDigits)
    (hexpires : client.clientSecretExpiresAt = 0) : Loadable (buildResponseBody client) := by
  have hzero : 0 < 10 ^ JsonText.maxStrDigits := Nat.pow_pos (by decide)
  constructor
  · unfold buildResponseBody
    cases client.clientName <;> cases client.scope <;> cases client.clientSecret <;> simp
  · unfold buildResponseBody
    cases client.clientName <;> cases client.scope <;> cases client.clientSecret <;>
      simp [hissued, hexpires, hzero]

/-- Bytes that hold a document are there. -/
theorem ne_nil_of_readBytes {body : List UInt8} {o : FlatObject} (h : readBytes body = some o) :
    body ≠ [] := by
  rintro rfl
  cases h

/-- **A posted response is read** as the metadata of its client. -/
theorem readMetadata_posted {parse : Parser} (hparse : ParsesDocuments parse)
    {client : RegisteredClient} (hload : Loadable (buildResponseBody client))
    {response : JSONResponse} (hcontent : response.content = buildResponseBody client)
    {again : Request} (hadmitted : again.Admitted) (hbody : again.body = response.body) :
    readMetadata parse again
      = .ok (JsonText.payload (buildResponseBody client), client.metadata) := by
  have hrendered : JsonText.render (buildResponseBody client) = some response.body := by
    rw [← hcontent]
    exact response.rendered
  have hne := ne_nil_of_readBytes (JsonText.readBytes_render hrendered)
  rw [readMetadata_of_admitted hadmitted, hbody, readPayload, readBody, if_neg hne,
    JsonText.loads_render hparse hload hrendered]
  simp only [checkMetadata_responseBody]

/-- What the request that reaches the registry takes from the metadata, besides the name. -/
structure ClientRegistrationRequest.From (cfg : Config) (metadata : Metadata)
    (request : ClientRegistrationRequest) : Prop where
  redirectUris : request.redirectUris = finalRedirectUris cfg metadata
  grantTypes : request.grantTypes
    = (deriveGrantTypesAndAuthMethod (metadata.grantTypes.getD [])).1
  responseTypes : request.responseTypes = orDefault metadata.responseTypes [PyStr.ofString "code"]
  tokenEndpointAuthMethod : request.tokenEndpointAuthMethod
    = (deriveGrantTypesAndAuthMethod (metadata.grantTypes.getD [])).2
  scope : request.scope = some (orDefault metadata.scope cfg.defaultScope)

theorem namedRequest_from (cfg : Config) (payload : JsonObject) (metadata : Metadata) :
    (namedRequest cfg payload metadata).From cfg metadata := by
  unfold namedRequest
  cases cfg.clientNameFactory <;> exact ⟨rfl, rfl, rfl, rfl, rfl⟩

/-- **Registering the metadata of a client** leads to the same registration. -/
theorem sameRegistration_issued {cfg : Config} (hcfg : cfg.Settled) (env env' : Env)
    {metadata : Metadata} {request request' : ClientRegistrationRequest}
    (h : request.From cfg metadata)
    (h' : request'.From cfg (issuedClient env request).metadata) :
    SameRegistration (issuedClient env request) (issuedClient env' request') := by
  have hderived : deriveGrantTypesAndAuthMethod request.grantTypes
      = deriveGrantTypesAndAuthMethod (metadata.grantTypes.getD []) := by
    rw [h.grantTypes, derive_derive]
  have hmethod : request'.tokenEndpointAuthMethod = request.tokenEndpointAuthMethod := by
    rw [h'.tokenEndpointAuthMethod, h.tokenEndpointAuthMethod, ← hderived]
    rfl
  have huris : finalRedirectUris cfg (issuedClient env request).metadata
      = finalRedirectUris cfg metadata :=
    finalRedirectUris_final hcfg (congrArg some h.redirectUris)
  refine ⟨?_, ?_, ?_, hmethod, ?_, ?_⟩
  · show request'.redirectUris = request.redirectUris
    rw [h'.redirectUris, h.redirectUris, huris]
  · show request'.grantTypes = request.grantTypes
    rw [h'.grantTypes, h.grantTypes, ← hderived]
    rfl
  · show request'.responseTypes = request.responseTypes
    rw [h'.responseTypes]
    show orDefault (some request.responseTypes) _ = _
    rw [h.responseTypes, orDefault_orDefault]
  · show request'.scope = request.scope
    rw [h'.scope]
    show some (orDefault request.scope _) = _
    rw [h.scope, orDefault_orDefault]
  · -- a secret is issued unless the client is public
    have hpublic : request'.isPublicClient = request.isPublicClient := by
      simp only [ClientRegistrationRequest.isPublicClient, hmethod]
    simp only [issuedClient, hpublic]
    cases request.isPublicClient <;> simp

/-- **A posted answer registers the same client again.** For every configuration whose rewriters are
settled, every request that was answered 201, and every later state of the registry. -/
theorem reregistration_preserves {parse : Parser} (hparse : ParsesDocuments parse) {cfg : Config}
    (hcfg : cfg.Settled) {env : Env}
    (hclock : (pyInt env.time).natAbs < 10 ^ JsonText.maxStrDigits) {prior : MemoryClients}
    {request : Request} {response : JSONResponse}
    (h : (registerHandler parse cfg (memoryClientRegistry env) prior request).result
      = .ok response) (hstatus : response.statusCode = 201)
    {again : Request} (hadmitted : again.Admitted) (hbody : again.body = response.body)
    (env' : Env) (later : MemoryClients) :
    ∃ client client', readClient response.body = some client ∧
      getMemoryClient (registerHandler parse cfg (memoryClientRegistry env') later again).registry
        (issuedId env') = some client' ∧
      client'.clientId = issuedId env' ∧ SameRegistration client client' ∧
      (cfg.clientNameFactory = none → client'.clientName = client.clientName ∧
        ((∀ hook ∈ cfg.postRegisterHooks, hook client' ≠ some .baseException) →
          ∃ response', (registerHandler parse cfg (memoryClientRegistry env') later again).result
            = .ok response' ∧ response'.statusCode = 201)) := by
  rcases registerHandler_cases parse cfg env prior request with
    hnothing | ⟨payload, metadata, calls, -, huri, hrun⟩
  · exact absurd hstatus (hnothing.status response h)
  rw [hrun] at h
  have hfrom := namedRequest_from cfg payload metadata
  have hacknowledged := (exists_acknowledge_result cfg _ calls _).mp ⟨response, h⟩
  have hcontent := (of_acknowledge_result h).1
  set client := issuedClient env (namedRequest cfg payload metadata) with hclient
  -- the posted answer is read as the client's metadata, and no URI in it is refused
  have hload : Loadable (buildResponseBody client) := loadable_responseBody hclock rfl
  have hread := readMetadata_posted hparse hload hcontent hadmitted hbody
  have hfrom' := namedRequest_from cfg (JsonText.payload (buildResponseBody client)) client.metadata
  have huri' : rejectedUri cfg (finalRedirectUris cfg client.metadata) = none := by
    rw [finalRedirectUris_final hcfg (congrArg some hfrom.redirectUris)]
    exact huri
  obtain ⟨calls', hrun'⟩ := registerHandler_of_accepted hread huri' env' later
  have hsame := sameRegistration_issued hcfg env env' hfrom hfrom'
  have hanswerable := (acknowledgeable_issuedClient cfg env payload metadata).mp hacknowledged
  set request' := namedRequest cfg (JsonText.payload (buildResponseBody client)) client.metadata
    with hrequest'
  refine ⟨client, issuedClient env' request', readClient_of_content hcontent fun _ => rfl, ?_, rfl,
    hsame, ?_⟩
  · rw [hrun']
    exact AList.lookup_insert later
  · intro hfactory
    have hname : request'.clientName = client.clientName := by
      rw [hrequest', namedRequest, hfactory]
      rfl
    refine ⟨hname, ?_⟩
    intro hhooks
    have hagain : Acknowledgeable cfg (issuedClient env' request') := by
      refine (acknowledgeable_issuedClient cfg env' _ client.metadata).mpr
        ⟨?_, ?_, ?_, ?_, hhooks⟩
      · rw [← hrequest', hname]
        exact hanswerable.clientName
      · have huris : request'.redirectUris = _ := hsame.redirectUris
        rw [← hrequest', huris]
        exact hanswerable.redirectUris
      · have htypes : request'.responseTypes = _ := hsame.responseTypes
        rw [← hrequest', htypes]
        exact hanswerable.responseTypes
      · have hscope : request'.scope = _ := hsame.scope
        rw [← hrequest', hscope]
        exact hanswerable.scope
    obtain ⟨response', hresponse'⟩ := (exists_acknowledge_result cfg _ calls' _).mpr hagain
    rw [hrun']
    exact ⟨response', hresponse', (of_acknowledge_result hresponse').2⟩

/-- The answer to the sample document, posted back. -/
theorem reregistration_preserves_sampleRequest :
    ∃ (response : JSONResponse) (client client' : RegisteredClient),
      readClient response.body = some client ∧ SameRegistration client client' ∧
      client'.clientName = client.clientName ∧
      ∃ response', (registerHandler JsonText.documentParser strictConfig
        (memoryClientRegistry sampleEnv) ∅ ⟨none, none, response.body⟩).result = .ok response' ∧
        response'.statusCode = 201 := by
  obtain ⟨response, hresponse, hstatus⟩ := exists_response_sampleRequest
  have hclock : (pyInt sampleEnv.time).natAbs < 10 ^ JsonText.maxStrDigits := by
    have hzero : pyInt sampleEnv.time = 0 := by decide
    rw [hzero]
    exact Nat.pow_pos (by decide)
  -- taking the first URI twice is taking it once
  have hsettled : strictConfig.Settled := by
    refine ⟨fun uris => ?_, rfl⟩
    simp [rewrite, strictConfig, List.take_take]
  have hadmitted : (⟨none, none, response.body⟩ : Request).Admitted := ⟨by simp, by simp⟩
  obtain ⟨client, client', hclient, -, -, hsame, hnamed⟩ :=
    reregistration_preserves JsonText.parsesDocuments_documentParser hsettled hclock hresponse
      hstatus hadmitted rfl sampleEnv ∅
  obtain ⟨hname, hagain⟩ := hnamed rfl
  exact ⟨response, client, client', hclient, hsame, hname, hagain (by simp [strictConfig])⟩

end McpAuthflow.Registration
