import McpAuthflow.Foundations.JsonBytes
import McpAuthflow.Registration.Base
import McpAuthflow.Responses

/-! # `register_handler` (`mcp_authflow/registration/handler.py`)

The endpoint is a pipeline. `readMetadata` is its first half: authorization, rate limit, JSON, type
checks; no callback of the host runs there. `registerHandler` continues with the rewriters, the
redirect-URI validator and the name factory, persists the client, runs the hooks and answers 201.
A run of it is an `Outcome`: the registry it leaves, the callbacks it invoked, and the response it
returns or the exception that leaves it. -/

namespace McpAuthflow.Registration

open JsonBytes (LoadsError Parser)
open JsonText (FlatObject)

/-! ## Requests and answers -/

/-- The verdict of the rate limiter, with the seconds `get_retry_after` returns. -/
inductive RateLimitVerdict where
  | allowed
  | exceeded (retryAfter : ℤ)

/-- A registration request as the handler reads it: the verdicts of the auth validator and of the
rate limiter on it, where they are configured, and its body. -/
structure Request where
  authorized : Option Bool
  rateLimit : Option RateLimitVerdict
  body : List UInt8

/-- An exception that leaves the handler. -/
inductive PyException where
  /-- Raised by `json.loads`. -/
  | loads (e : LoadsError)
  /-- `UnicodeEncodeError`, raised while a response is constructed. -/
  | unicodeEncodeError
  /-- Raised by a callback, outside the hierarchy of `Exception`. -/
  | baseException
  deriving DecidableEq

/-- How the handler ends. -/
abbrev Answer := Except PyException JSONResponse

/-- Return a response, if it can be constructed. -/
def answer (response : Option JSONResponse) : Answer :=
  match response with
  | none => .error .unicodeEncodeError
  | some response => .ok response

/-- The callbacks of the host. -/
inductive Invocation where
  | redirectUriRewriter
  | redirectUriValidator
  | clientNameFactory
  | registry
  | postRegisterHook
  deriving DecidableEq

/-- The arguments of `build_register_handler` that the endpoint uses after the verdicts. A hook
answers how it failed, if it did. -/
structure Config where
  defaultScope : PyStr
  defaultRedirectUris : List PyStr
  redirectUriRewriters : List (List PyStr → List PyStr)
  redirectUriValidator : Option (PyStr → Bool)
  clientNameFactory : Option (ClientRegistrationRequest → PyStr)
  postRegisterHooks : List (RegisteredClient → Option Failure)

/-- What a run of the handler leaves behind. -/
structure Outcome (σ : Type*) where
  registry : σ
  invocations : List Invocation
  result : Answer

/-! ## From the request to its metadata -/

/-- `json.loads(body) if body else {}`. -/
def readBody (parse : Parser) (body : List UInt8) : Except LoadsError Json :=
  if body = [] then .ok (.obj []) else JsonBytes.loads parse body

/-- A type check: null counts as omitted, `read` reads any other value or refuses it. -/
def optionalField {α : Type*} (read : Json → Option α) (requirement : String)
    (payload : JsonObject) (field : String) : Except PyStr (Option α) :=
  match Json.get payload (PyStr.ofString field) with
  | .null => .ok none
  | v =>
    match read v with
    | some x => .ok (some x)
    | none => .error (PyStr.ofString (field ++ requirement))

/-- The check of `redirect_uris`, `grant_types` and `response_types`. -/
def stringsField (payload : JsonObject) (field : String) : Except PyStr (Option (List PyStr)) :=
  optionalField Json.strings? " must be an array of strings" payload field

/-- The check of `client_name`, `scope` and `token_endpoint_auth_method`. -/
def stringField (payload : JsonObject) (field : String) : Except PyStr (Option PyStr) :=
  optionalField Json.str? " must be a string" payload field

/-- The metadata the handler reads; `none` stands for null or omitted. -/
structure Metadata where
  redirectUris : Option (List PyStr)
  grantTypes : Option (List PyStr)
  responseTypes : Option (List PyStr)
  clientName : Option PyStr
  scope : Option PyStr

/-- The type checks, in the order of the source. The auth method is checked and not read: the
handler derives it from the grant types. -/
def checkMetadata (payload : JsonObject) : Except PyStr Metadata := do
  let redirectUris ← stringsField payload "redirect_uris"
  let grantTypes ← stringsField payload "grant_types"
  let responseTypes ← stringsField payload "response_types"
  let clientName ← stringField payload "client_name"
  let scope ← stringField payload "scope"
  let _ ← stringField payload "token_endpoint_auth_method"
  return ⟨redirectUris, grantTypes, responseTypes, clientName, scope⟩

/-- Parse and check a body: its members and metadata, or the answer to a malformed one. Only
`JSONDecodeError` is caught. -/
def readPayload (parse : Parser) (body : List UInt8) : Except Answer (JsonObject × Metadata) :=
  match readBody parse body with
  | .error (.parse .jsonDecodeError) => .error (answer (invalidRequest "Invalid JSON"))
  -- the other errors of `json.loads` leave the handler
  | .error e => .error (.error (.loads e))
  | .ok (.obj payload) =>
    match checkMetadata payload with
    | .error description => .error (answer (invalidRequest description))
    | .ok metadata => .ok (payload, metadata)
  | .ok _ => .error (answer (invalidRequest "Request body must be a JSON object"))

/-- The first half of the handler, before any callback of the host runs. -/
def readMetadata (parse : Parser) (request : Request) : Except Answer (JsonObject × Metadata) :=
  if request.authorized = some false then
    .error (answer (invalidClient "Registration not authorized"))
  else
    match request.rateLimit with
    | some (.exceeded retryAfter) =>
      .error (answer (rateLimitExceeded "Too many registration requests" (some retryAfter)))
    | _ => readPayload parse request.body

/-! ## Host policy -/

/-- `value or default` on an optional list or text: empty counts as absent. -/
def orDefault {α : Type*} (value : Option (List α)) (default : List α) : List α :=
  match value with
  | none | some [] => default
  | some xs => xs

/-- The redirect URIs after the rewriters; the defaults replace an empty list. -/
def finalRedirectUris (cfg : Config) (metadata : Metadata) : List PyStr :=
  let uris := cfg.redirectUriRewriters.foldl (fun uris rewriter => rewriter uris)
    (metadata.redirectUris.getD [])
  if uris = [] then cfg.defaultRedirectUris else uris

/-- The first URI the validator refuses. -/
def rejectedUri (cfg : Config) (uris : List PyStr) : Option PyStr :=
  match cfg.redirectUriValidator with
  | none => none
  | some valid => uris.find? fun uri => !valid uri

/-- The callbacks that ran on the URIs: every rewriter, and the validator up to its first
refusal. -/
def uriInvocations (cfg : Config) (uris : List PyStr) : List Invocation :=
  cfg.redirectUriRewriters.map (fun _ => .redirectUriRewriter) ++
    match cfg.redirectUriValidator with
    | none => []
    | some valid =>
      (uris.takeWhile valid).map (fun _ => .redirectUriValidator) ++
        (uris.find? fun uri => !valid uri).toList.map fun _ => .redirectUriValidator

/-- `_derive_grant_types_and_auth_method`. -/
def deriveGrantTypesAndAuthMethod (requested : List PyStr) : List PyStr × PyStr :=
  if PyStr.ofString "client_credentials" ∈ requested then
    (["client_credentials"].map PyStr.ofString, PyStr.ofString "client_secret_post")
  else
    (["authorization_code", "refresh_token", "device_code"].map PyStr.ofString,
      PyStr.ofString "none")

/-- The members with a field of their own in a registration request. -/
def modelledMembers : List PyStr :=
  ["client_name", "redirect_uris", "grant_types", "response_types", "token_endpoint_auth_method",
    "scope"].map PyStr.ofString

/-- The normalized request, before the name factory. -/
def registrationRequest (cfg : Config) (payload : JsonObject) (metadata : Metadata) :
    ClientRegistrationRequest :=
  let (grantTypes, authMethod) := deriveGrantTypesAndAuthMethod (metadata.grantTypes.getD [])
  { clientName := metadata.clientName
    redirectUris := finalRedirectUris cfg metadata
    grantTypes := grantTypes
    responseTypes := orDefault metadata.responseTypes [PyStr.ofString "code"]
    tokenEndpointAuthMethod := authMethod
    scope := some (orDefault metadata.scope cfg.defaultScope)
    extra := payload.filter fun m => m.1 ∉ modelledMembers }

/-- The request that reaches the registry: the name factory, if there is one, names it. -/
def namedRequest (cfg : Config) (payload : JsonObject) (metadata : Metadata) :
    ClientRegistrationRequest :=
  let parsed := registrationRequest cfg payload metadata
  match cfg.clientNameFactory with
  | none => parsed
  | some factory => { parsed with clientName := some (factory parsed) }

/-- The callbacks that ran before the registry. -/
def policyInvocations (cfg : Config) (uris : List PyStr) : List Invocation :=
  uriInvocations cfg uris ++
    match cfg.clientNameFactory with
    | none => []
    | some _ => [.clientNameFactory]

/-! ## Persistence, hooks and the answer -/

/-- Run the hooks in order: how many ran, and whether an exception left the last of them. An
`Exception` is logged and swallowed. -/
def runHooks (client : RegisteredClient) : List (RegisteredClient → Option Failure) → ℕ × Bool
  | [] => (0, false)
  | hook :: hooks =>
    -- `except Exception` does not catch it, and the hooks after it do not run
    if hook client = some .baseException then (1, true)
    else
      let (ran, escaped) := runHooks client hooks
      (ran + 1, escaped)

/-- `_build_response_body`. -/
def buildResponseBody (client : RegisteredClient) : FlatObject :=
  [(PyStr.ofString "client_id", .str client.clientId),
    (PyStr.ofString "client_id_issued_at", .int client.clientIdIssuedAt),
    (PyStr.ofString "redirect_uris", .strs client.redirectUris),
    (PyStr.ofString "response_types", .strs client.responseTypes),
    (PyStr.ofString "grant_types", .strs client.grantTypes),
    (PyStr.ofString "token_endpoint_auth_method", .str client.tokenEndpointAuthMethod)] ++
  (match client.clientName with
    | none => []
    | some name => [(PyStr.ofString "client_name", .str name)]) ++
  (match client.scope with
    | none => []
    | some scope => [(PyStr.ofString "scope", .str scope)]) ++
  (match client.clientSecret with
    | none => []
    | some secret =>
      [(PyStr.ofString "client_secret", .str secret),
        (PyStr.ofString "client_secret_expires_at", .int client.clientSecretExpiresAt)])

/-- The last stage: the client is stored, the hooks run, the response is constructed. -/
def acknowledge {σ : Type*} (cfg : Config) (registry : σ) (calls : List Invocation)
    (client : RegisteredClient) : Outcome σ :=
  let (ran, escaped) := runHooks client cfg.postRegisterHooks
  { registry := registry
    invocations := calls ++ List.replicate ran .postRegisterHook
    result :=
      if escaped then .error .baseException
      else answer (jsonResponse (buildResponseBody client) 201 []) }

/-- Hand the request to the registry. -/
def persist {σ : Type*} (cfg : Config) (registry : ClientRegistry σ) (s : σ)
    (parsed : ClientRegistrationRequest) : Outcome σ :=
  let calls := policyInvocations cfg parsed.redirectUris ++ [.registry]
  match registry.createClient s parsed with
  | (s, .error .exception) => ⟨s, calls, answer (serverError "Failed to register client")⟩
  | (s, .error .baseException) => ⟨s, calls, .error .baseException⟩
  | (s, .ok client) => acknowledge cfg s calls client

/-- `register_handler`. -/
def registerHandler {σ : Type*} (parse : Parser) (cfg : Config) (registry : ClientRegistry σ)
    (s : σ) (request : Request) : Outcome σ :=
  match readMetadata parse request with
  | .error result => ⟨s, [], result⟩
  | .ok (payload, metadata) =>
    match rejectedUri cfg (finalRedirectUris cfg metadata) with
    | some uri =>
      ⟨s, uriInvocations cfg (finalRedirectUris cfg metadata),
        answer (invalidRedirectUri (PyStr.ofString "Invalid redirect_uri: " ++ uri))⟩
    | none => persist cfg registry s (namedRequest cfg payload metadata)

/-! ## One lemma per stage -/

/-- A response that was returned could be constructed. -/
theorem answer_eq_ok {response : Option JSONResponse} {r : JSONResponse} :
    answer response = .ok r ↔ response = some r := by
  cases response <;> simp [answer]

/-- A response is returned iff it can be constructed. -/
theorem exists_answer_eq_ok {response : Option JSONResponse} :
    (∃ r, answer response = .ok r) ↔ response.isSome := by
  simp only [answer_eq_ok, Option.isSome_iff_exists]

/-- **The handler answers early with errors only.** -/
theorem statusCode_of_readMetadata_error {parse : Parser} {request : Request} {r : JSONResponse}
    (h : readMetadata parse request = .error (.ok r)) : 400 ≤ r.statusCode := by
  -- every early answer is an OAuth error, whose status is that of its constructor
  have hstatus : ∀ {error : String} {description : PyStr} {statusCode : ℕ}
      {headers : List (PyStr × PyStr)}, 400 ≤ statusCode →
      answer (oauthError error description statusCode headers) = .ok r → 400 ≤ r.statusCode := by
    intro error description statusCode headers hle hr
    rw [(isError_of_oauthError (answer_eq_ok.mp hr)).1]
    exact hle
  unfold readMetadata at h
  split_ifs at h
  · exact hstatus (by omega) (Except.error.inj h)
  · split at h
    · exact hstatus (by omega) (Except.error.inj h)
    · unfold readPayload at h
      split at h
      · exact hstatus (by omega) (Except.error.inj h)
      · cases h
      · split at h
        · exact hstatus (by omega) (Except.error.inj h)
        · cases h
      · exact hstatus (by omega) (Except.error.inj h)

/-- The policy stages run no hook. -/
theorem postRegisterHook_notMem_uriInvocations (cfg : Config) (uris : List PyStr) :
    Invocation.postRegisterHook ∉ uriInvocations cfg uris := by
  unfold uriInvocations
  cases cfg.redirectUriValidator <;> simp

/-- An exception leaves the hooks iff one of them raises outside `Exception`. -/
theorem escaped_runHooks (client : RegisteredClient)
    (hooks : List (RegisteredClient → Option Failure)) :
    (runHooks client hooks).2 = true ↔ ∃ hook ∈ hooks, hook client = some .baseException := by
  induction hooks with
  | nil => simp [runHooks]
  | cons hook hooks ih =>
    rw [runHooks]
    by_cases h : hook client = some .baseException
    · simp [h]
    · simp [h, ih]

/-- What can be written of a client: none of its strings holds a lone surrogate. -/
structure RegisteredClient.Printable (client : RegisteredClient) : Prop where
  clientId : client.clientId.SurrogateFree
  clientSecret : ∀ secret ∈ client.clientSecret, PyStr.SurrogateFree secret
  clientName : ∀ name ∈ client.clientName, PyStr.SurrogateFree name
  redirectUris : ∀ uri ∈ client.redirectUris, PyStr.SurrogateFree uri
  grantTypes : ∀ grantType ∈ client.grantTypes, PyStr.SurrogateFree grantType
  responseTypes : ∀ responseType ∈ client.responseTypes, PyStr.SurrogateFree responseType
  tokenEndpointAuthMethod : client.tokenEndpointAuthMethod.SurrogateFree
  scope : ∀ scope ∈ client.scope, PyStr.SurrogateFree scope

/-- The response of a registration can be constructed iff the client can be written. -/
theorem isSome_registrationResponse (client : RegisteredClient) :
    (jsonResponse (buildResponseBody client) 201 []).isSome ↔ client.Printable := by
  rw [isSome_jsonResponse]
  have hbody : (∀ m ∈ buildResponseBody client, m.1.SurrogateFree ∧ m.2.SurrogateFree) ↔
      client.clientId.SurrogateFree ∧ (∀ uri ∈ client.redirectUris, PyStr.SurrogateFree uri) ∧
      (∀ t ∈ client.responseTypes, PyStr.SurrogateFree t) ∧
      (∀ g ∈ client.grantTypes, PyStr.SurrogateFree g) ∧
      client.tokenEndpointAuthMethod.SurrogateFree ∧
      (∀ name ∈ client.clientName, PyStr.SurrogateFree name) ∧
      (∀ scope ∈ client.scope, PyStr.SurrogateFree scope) ∧
      ∀ secret ∈ client.clientSecret, PyStr.SurrogateFree secret := by
    unfold buildResponseBody
    cases client.clientName <;> cases client.scope <;> cases client.clientSecret <;>
      simp [JsonText.FlatValue.SurrogateFree]
  rw [hbody]
  constructor
  · rintro ⟨hid, huris, htypes, hgrants, hmethod, hname, hscope, hsecret⟩
    exact ⟨hid, hsecret, hname, huris, hgrants, htypes, hmethod, hscope⟩
  · rintro ⟨hid, hsecret, hname, huris, hgrants, htypes, hmethod, hscope⟩
    exact ⟨hid, huris, htypes, hgrants, hmethod, hname, hscope, hsecret⟩

/-- A stored client can be acknowledged: it can be written, and no hook raises outside
`Exception`. -/
structure Acknowledgeable (cfg : Config) (client : RegisteredClient) : Prop where
  printable : client.Printable
  hooks : ∀ hook ∈ cfg.postRegisterHooks, hook client ≠ some .baseException

/-- **The last stage** returns iff the client can be acknowledged. -/
theorem exists_acknowledge_result {σ : Type*} (cfg : Config) (registry : σ)
    (calls : List Invocation) (client : RegisteredClient) :
    (∃ response, (acknowledge cfg registry calls client).result = .ok response) ↔
      Acknowledgeable cfg client := by
  have hresult : (acknowledge cfg registry calls client).result
      = if (runHooks client cfg.postRegisterHooks).2 = true then .error .baseException
        else answer (jsonResponse (buildResponseBody client) 201 []) := rfl
  rw [hresult]
  by_cases hescaped : (runHooks client cfg.postRegisterHooks).2 = true
  · obtain ⟨hook, hhook, hfails⟩ := (escaped_runHooks client _).mp hescaped
    simp only [hescaped, if_true, reduceCtorEq, exists_false, false_iff]
    intro h
    exact h.hooks hook hhook hfails
  · rw [if_neg hescaped, exists_answer_eq_ok, isSome_registrationResponse]
    rw [escaped_runHooks] at hescaped
    constructor
    · intro h
      exact ⟨h, fun hook hhook hfails => hescaped ⟨hook, hhook, hfails⟩⟩
    · intro h
      exact h.printable

/-- What the last stage returns: the client's response, at status 201. -/
theorem of_acknowledge_result {σ : Type*} {cfg : Config} {registry : σ}
    {calls : List Invocation} {client : RegisteredClient} {response : JSONResponse}
    (h : (acknowledge cfg registry calls client).result = .ok response) :
    response.content = buildResponseBody client ∧ response.statusCode = 201 := by
  simp only [acknowledge] at h
  split at h
  · cases h
  · exact jsonResponse_eq_some (answer_eq_ok.mp h)

/-! ## Sample data -/

/-- A parser that knows one document. -/
def parseOnly (document : PyStr) (v : Json) : Parser := fun text =>
  if text = document then .ok v else .error .jsonDecodeError

/-- The ASCII bytes of a document. -/
def asciiBytes (document : PyStr) : List UInt8 := document.map fun c => c.val.toUInt8

/-- A request without verdicts that carries the known document. -/
theorem readMetadata_parseOnly {document : PyStr} {payload : JsonObject} {metadata : Metadata}
    (hbody : asciiBytes document ≠ [])
    (hdecode : (JsonBytes.detectEncoding (asciiBytes document)).decode (asciiBytes document)
      = some document)
    (hcheck : checkMetadata payload = .ok metadata) :
    readMetadata (parseOnly document (.obj payload)) ⟨none, none, asciiBytes document⟩
      = .ok (payload, metadata) := by
  have hloads : JsonBytes.loads (parseOnly document (.obj payload)) (asciiBytes document)
      = .ok (.obj payload) := JsonBytes.loads_of_decode_eq_some hdecode (if_pos rfl)
  simp only [readMetadata, reduceCtorEq, if_false, readPayload, readBody, hbody, hloads, hcheck]

/-- No callbacks, no validator, and the default scope `read`. -/
def sampleConfig : Config := ⟨PyStr.ofString "read", [], [], none, none, []⟩

/-- A host that keeps the first redirect URI only, accepts `https` ones only, and has a hook that
always fails. -/
def strictConfig : Config where
  defaultScope := PyStr.ofString "read"
  defaultRedirectUris := []
  redirectUriRewriters := [List.take 1]
  redirectUriValidator := some fun uri => uri.take 8 = PyStr.ofString "https://"
  clientNameFactory := none
  postRegisterHooks := [fun _ => some .exception]

/-- The metadata of a confidential client with two redirect URIs. -/
def sampleMetadata : Metadata where
  redirectUris := some (["https://a/cb", "http://b/"].map PyStr.ofString)
  grantTypes := some [PyStr.ofString "client_credentials"]
  responseTypes := none
  clientName := some (PyStr.ofString "App")
  scope := some (PyStr.ofString "write")

/-- A document with this metadata. -/
def sampleDocument : FlatObject :=
  [(PyStr.ofString "client_name", .str (PyStr.ofString "App")),
    (PyStr.ofString "redirect_uris", .strs (["https://a/cb", "http://b/"].map PyStr.ofString)),
    (PyStr.ofString "grant_types", .strs [PyStr.ofString "client_credentials"]),
    (PyStr.ofString "scope", .str (PyStr.ofString "write"))]

/-- The document as it is posted. -/
def sampleRequest : Request where
  authorized := some true
  rateLimit := some .allowed
  body := asciiBytes (JsonText.dumps sampleDocument)

theorem readMetadata_sampleRequest :
    readMetadata JsonText.documentParser sampleRequest
      = .ok (JsonText.payload sampleDocument, sampleMetadata) := by
  have hrendered : JsonText.render sampleDocument
      = some (asciiBytes (JsonText.dumps sampleDocument)) := by decide +kernel
  have hload : JsonText.Loadable sampleDocument := ⟨by decide, by simp [sampleDocument]⟩
  have hloads := JsonText.loads_render JsonText.parsesDocuments_documentParser hload hrendered
  have hbody : asciiBytes (JsonText.dumps sampleDocument) ≠ [] := by decide +kernel
  have hcheck : checkMetadata (JsonText.payload sampleDocument) = .ok sampleMetadata := rfl
  simp only [readMetadata, sampleRequest, Option.some.injEq, Bool.true_eq_false, if_false,
    readPayload, readBody, hbody, hloads, hcheck]

end McpAuthflow.Registration
