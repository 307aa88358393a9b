import McpAuthflow.Foundations.Machine
import McpAuthflow.Registration.AllOrNothing

/-! # Stored redirect URIs have been validated

The redirect URIs of a request pass through the rewriters and the default substitution, in this
order, and the validator sees what comes out; the registry stores that list and no other. So along
every run of registrations every stored URI satisfies the validator (`validated_registerStep`). A
request with an invalid URI should moreover be answered 400 `invalid_redirect_uri`; the answer
quotes the URI, and can be written iff the URI has no lone surrogate.
**`redirect_uris_validated_iff`** puts the two together over runs. -/

namespace McpAuthflow.Registration

open JsonBytes (Parser)

/-- A registration request, with what its `create_client` call would draw. -/
structure Call where
  request : Request
  env : Env

/-- The endpoint in front of a `MemoryClientRegistry`. -/
def registerStep (parse : Parser) (cfg : Config) (clients : MemoryClients) (call : Call) :
    MemoryClients × Outcome MemoryClients :=
  let o := registerHandler parse cfg (memoryClientRegistry call.env) clients call.request
  (o.registry, o)

/-- The configuration with `p` as its redirect-URI validator. -/
def Config.withValidator (cfg : Config) (p : PyStr → Bool) : Config :=
  { cfg with redirectUriValidator := some p }

/-! ## What should hold -/

/-- Each redirect URI of each stored client satisfies `p`. -/
def Validated (p : PyStr → Bool) (clients : MemoryClients) : Prop :=
  ∀ id client, getMemoryClient clients id = some client →
    ∀ uri ∈ client.redirectUris, p uri = true

/-- The request gets as far as its final list of redirect URIs, and this is it. -/
def HasFinalUris (parse : Parser) (cfg : Config) (request : Request) (uris : List PyStr) : Prop :=
  ∃ payload metadata, readMetadata parse request = .ok (payload, metadata) ∧
    finalRedirectUris cfg metadata = uris

/-- Answered 400 `invalid_redirect_uri`, nothing persisted, no hook run. -/
structure Refused (prior : MemoryClients) (o : Outcome MemoryClients) : Prop where
  answered : ∃ response, o.result = .ok response ∧ response.IsError 400 "invalid_redirect_uri"
  registry : o.registry = prior
  persisted : Invocation.registry ∉ o.invocations
  hooks : Invocation.postRegisterHook ∉ o.invocations

/-- **What validation promises of one request**: the registry after it holds valid URIs only, and
the request is refused if its final list has an invalid one. -/
structure ValidationKept (parse : Parser) (cfg : Config) (p : PyStr → Bool)
    (clients : MemoryClients) (call : Call) : Prop where
  stored : Validated p (registerStep parse (cfg.withValidator p) clients call).1
  refused : ∀ uris, HasFinalUris parse (cfg.withValidator p) call.request uris →
    (∃ uri ∈ uris, p uri = false) →
    Refused clients (registerStep parse (cfg.withValidator p) clients call).2

/-! ## One request -/

/-- What the handler leaves in the registry: what was there, or one more client, whose URIs are the
final ones and were not refused. -/
theorem registry_registerHandler (parse : Parser) (cfg : Config) (env : Env)
    (prior : MemoryClients) (request : Request) :
    (registerHandler parse cfg (memoryClientRegistry env) prior request).registry = prior ∨
      ∃ client uris, client.redirectUris = uris ∧ rejectedUri cfg uris = none ∧
        (registerHandler parse cfg (memoryClientRegistry env) prior request).registry
          = prior.insert client.clientId client := by
  rcases registerHandler_cases parse cfg env prior request with
    hnothing | ⟨payload, metadata, calls, -, huri, hrun⟩
  · exact Or.inl hnothing.registry
  · refine Or.inr ⟨issuedClient env (namedRequest cfg payload metadata),
      finalRedirectUris cfg metadata, ?_, huri, by rw [hrun]; rfl⟩
    -- the name factory does not touch the URIs
    show (namedRequest cfg payload metadata).redirectUris = _
    unfold namedRequest
    cases cfg.clientNameFactory <;> rfl

/-- **A registration keeps the stored URIs valid.** -/
theorem validated_registerStep {p : PyStr → Bool} {clients : MemoryClients}
    (h : Validated p clients) (parse : Parser) (cfg : Config) (call : Call) :
    Validated p (registerStep parse (cfg.withValidator p) clients call).1 := by
  rcases registry_registerHandler parse (cfg.withValidator p) call.env clients call.request with
    hkept | ⟨new, uris, huris, haccepted, hinsert⟩
  · show Validated p (registerHandler _ _ _ _ _).registry
    rw [hkept]
    exact h
  · show Validated p (registerHandler _ _ _ _ _).registry
    rw [hinsert]
    have hnew : ∀ uri ∈ new.redirectUris, p uri = true := by
      intro uri huri
      have hall : ∀ uri ∈ uris, ¬ (!p uri) = true := List.find?_eq_none.mp haccepted
      have hvalid := hall uri (huris ▸ huri)
      simpa using hvalid
    exact AList.forall_lookup_insert h hnew

/-- A request with an invalid URI is refused iff the first of its invalid URIs can be quoted. -/
theorem refused_iff {parse : Parser} {cfg : Config} {p : PyStr → Bool} (call : Call)
    {uris : List PyStr} {uri : PyStr}
    (hfinal : HasFinalUris parse (cfg.withValidator p) call.request uris)
    (huri : (uris.find? fun uri => !p uri) = some uri) (clients : MemoryClients) :
    Refused clients (registerStep parse (cfg.withValidator p) clients call).2 ↔
      uri.SurrogateFree := by
  obtain ⟨payload, metadata, hread, rfl⟩ := hfinal
  have hrejected : rejectedUri (cfg.withValidator p)
      (finalRedirectUris (cfg.withValidator p) metadata) = some uri := huri
  have hkept := unregistered_of_rejectedUri hread hrejected call.env clients
  have hresult : (registerStep parse (cfg.withValidator p) clients call).2.result
      = answer (invalidRedirectUri (PyStr.ofString "Invalid redirect_uri: " ++ uri)) := by
    simp only [registerStep, registerHandler, hread, hrejected]
  have hcalls : (registerStep parse (cfg.withValidator p) clients call).2.invocations
      = uriInvocations (cfg.withValidator p)
          (finalRedirectUris (cfg.withValidator p) metadata) := by
    simp only [registerStep, registerHandler, hread, hrejected]
  -- the text around the URI is ASCII
  have hprintable : PyStr.SurrogateFree (PyStr.ofString "Invalid redirect_uri: " ++ uri) ↔
      uri.SurrogateFree := by
    simp
  constructor
  · rintro ⟨⟨response, hresponse, -⟩, -, -, -⟩
    rw [hresult, answer_eq_ok] at hresponse
    rw [← hprintable, ← isSome_oauthError "invalid_redirect_uri" _ 400 []]
    exact Option.isSome_of_eq_some hresponse
  · intro hfree
    obtain ⟨response, hsome, herror⟩ := exists_invalidRedirectUri (hprintable.mpr hfree)
    refine ⟨⟨response, ?_, herror⟩, hkept.registry, ?_, hkept.hooks⟩
    · rw [hresult]
      exact answer_eq_ok.mpr hsome
    · rw [hcalls]
      simp [uriInvocations, Config.withValidator]

/-! ## Runs -/

/-- **When validation is kept along a run**: iff in every request whose final list has an invalid
URI, the first invalid one has no lone surrogate. -/
theorem redirect_uris_validated_iff (parse : Parser) (cfg : Config) (p : PyStr → Bool)
    (calls : List Call) :
    Machine.AllSteps (registerStep parse (cfg.withValidator p))
        (fun clients _ call => ValidationKept parse cfg p clients call) ∅ calls ↔
      ∀ call ∈ calls, ∀ uris uri, HasFinalUris parse (cfg.withValidator p) call.request uris →
        (uris.find? fun uri => !p uri) = some uri → uri.SurrogateFree := by
  rw [Machine.allSteps_iff]
  constructor
  · intro h call hcall uris uri hfinal huri
    obtain ⟨pre, post, hsplit⟩ := List.append_of_mem hcall
    refine (refused_iff call hfinal huri _).mp ((h pre call post hsplit).refused uris hfinal ?_)
    exact ⟨uri, List.mem_of_find?_eq_some huri, by simpa using List.find?_some huri⟩
  · rintro h pre call post rfl
    -- the stored URIs: an invariant of the run
    have hpre : Validated p (Machine.final (registerStep parse (cfg.withValidator p)) ∅ pre) := by
      refine Machine.trace_invariant (registerStep parse (cfg.withValidator p))
        (fun clients _ => Validated p clients) ?_ ?_ pre
      · intro clients _ call hclients
        exact validated_registerStep hclients parse cfg call
      · intro id client hclient
        cases hclient
    refine ⟨validated_registerStep hpre parse cfg call, ?_⟩
    rintro uris hfinal ⟨bad, hbad, hinvalid⟩
    cases huri : uris.find? fun uri => !p uri with
    | none =>
      have hall := List.find?_eq_none.mp huri bad hbad
      simp [hinvalid] at hall
    | some uri => exact (refused_iff call hfinal huri _).mpr (h call (by simp) uris uri hfinal huri)

/-! ## An invalid URI that cannot be quoted -/

/-- The document `{"redirect_uris":["\ud800"]}`. -/
def surrogateUriDocument : PyStr :=
  PyStr.ofString "\x7b\"redirect_uris\":[\"\\ud800\"]\x7d"

/-- What it parses to. -/
def surrogateUriPayload : JsonObject := [(PyStr.ofString "redirect_uris", .arr [.str [0xD800]])]

theorem readMetadata_surrogateUriDocument :
    readMetadata (parseOnly surrogateUriDocument (.obj surrogateUriPayload))
        ⟨none, none, asciiBytes surrogateUriDocument⟩
      = .ok (surrogateUriPayload, ⟨some [[0xD800]], none, none, none, none⟩) := by
  refine readMetadata_parseOnly (by decide +kernel) (by decide +kernel) ?_
  simp [checkMetadata, stringsField, stringField, optionalField, surrogateUriPayload, Json.get,
    Json.strings?, Json.str?, List.lookup_cons]
  rfl

/-- A request with that document as its body. -/
def surrogateUriCall : Call := ⟨⟨none, none, asciiBytes surrogateUriDocument⟩, sampleEnv⟩

/-- **The refusal raises instead of answering.** -/
theorem surrogate_uri_not_refused :
    ¬ Machine.AllSteps
        (registerStep (parseOnly surrogateUriDocument (.obj surrogateUriPayload))
          (sampleConfig.withValidator fun _ => false))
        (fun clients _ call => ValidationKept
          (parseOnly surrogateUriDocument (.obj surrogateUriPayload)) sampleConfig
          (fun _ => false) clients call) ∅ [surrogateUriCall] := by
  intro h
  have hfinal : HasFinalUris (parseOnly surrogateUriDocument (.obj surrogateUriPayload))
      (sampleConfig.withValidator fun _ => false) surrogateUriCall.request [[0xD800]] := by
    refine ⟨_, _, readMetadata_surrogateUriDocument, ?_⟩
    simp [finalRedirectUris, Config.withValidator, sampleConfig]
  have hrefused := h.1.refused [[0xD800]] hfinal ⟨[0xD800], by simp, rfl⟩
  have hfree : PyStr.SurrogateFree [0xD800] :=
    (refused_iff surrogateUriCall hfinal (by simp) ∅).mp hrefused
  exact absurd hfree (by decide)

end McpAuthflow.Registration
