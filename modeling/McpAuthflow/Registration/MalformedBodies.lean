import McpAuthflow.Registration.Handler

/-! # Malformed registration bodies

Every body should be answered, and a body that is not a UTF-8 JSON object with well-typed metadata
should be answered 400 `invalid_request` before any callback of the host runs. The type checks are
exact (`exists_checkMetadata_ok`). What surrounds them is not: only `JSONDecodeError` is caught
around `json.loads`, which raises other errors and also reads UTF-16 and UTF-32; and an answer that
quotes a lone surrogate cannot be constructed. **`malformed_bodies_answered_iff`** names exactly the
bodies on which the promise is kept. -/

namespace McpAuthflow.Registration

open JsonBytes (Parser)

/-! ## What should hold -/

/-- Null, or an array of strings. -/
def IsStringsValue (v : Json) : Prop :=
  v = .null ∨ ∃ items, v = .arr items ∧ ∀ item ∈ items, ∃ s, item = .str s

/-- Null, or a string. -/
def IsStringValue (v : Json) : Prop := v = .null ∨ ∃ s, v = .str s

/-- The metadata of a registration is well typed. -/
structure FieldsTyped (payload : JsonObject) : Prop where
  strings : ∀ field ∈ ["redirect_uris", "grant_types", "response_types"],
    IsStringsValue (Json.get payload (PyStr.ofString field))
  string : ∀ field ∈ ["client_name", "scope", "token_endpoint_auth_method"],
    IsStringValue (Json.get payload (PyStr.ofString field))

/-- The bytes are the strict UTF-8 encoding, possibly marked as such, of a JSON object. -/
def IsUtf8Object (parse : Parser) (body : List UInt8) : Prop :=
  ∃ text bytes payload, text.encodeUtf8 = some bytes ∧
    (body = bytes ∨ body = JsonBytes.bomUtf8 ++ bytes) ∧ parse text = .ok (.obj payload)

/-- A malformed body: not empty, and either not a UTF-8 JSON object or an object with metadata of
the wrong type. -/
def Malformed (parse : Parser) (body : List UInt8) : Prop :=
  body ≠ [] ∧ (¬ IsUtf8Object parse body ∨
    ∃ payload, JsonBytes.loads parse body = .ok (.obj payload) ∧ ¬ FieldsTyped payload)

/-- **The promise**: a response is returned, and to a malformed body it is 400 `invalid_request`
with no callback invoked. -/
structure AnswersMalformed {σ : Type*} (parse : Parser) (body : List UInt8) (o : Outcome σ) :
    Prop where
  answered : ∃ response, o.result = .ok response
  rejected : Malformed parse body → o.invocations = [] ∧
    ∃ response, o.result = .ok response ∧ response.IsError 400 "invalid_request"

/-- The request passes the auth validator and the rate limiter. -/
structure Request.Admitted (request : Request) : Prop where
  authorized : request.authorized ≠ some false
  rateLimit : ∀ retryAfter, request.rateLimit ≠ some (.exceeded retryAfter)

/-- The answer to well-typed metadata can be constructed: the refusal of a redirect URI, the report
of a failed registry, or the response for the client. -/
def MetadataAnswered {σ : Type*} (cfg : Config) (registry : ClientRegistry σ) (s : σ)
    (payload : JsonObject) (metadata : Metadata) : Prop :=
  match rejectedUri cfg (finalRedirectUris cfg metadata) with
  | some uri => uri.SurrogateFree
  | none =>
    match (registry.createClient s (namedRequest cfg payload metadata)).2 with
    | .error failure => failure = .exception
    | .ok client => Acknowledgeable cfg client

/-- The bodies on which the promise is kept: `json.loads` raises nothing but `JSONDecodeError`, what
is read as a well-typed object was UTF-8, and the answer to it can be constructed. -/
structure Unproblematic {σ : Type*} (parse : Parser) (cfg : Config) (registry : ClientRegistry σ)
    (s : σ) (body : List UInt8) : Prop where
  loads : ∀ e, readBody parse body = .error e → e = .parse .jsonDecodeError
  utf8 : ∀ payload, readBody parse body = .ok (.obj payload) → FieldsTyped payload → body ≠ [] →
    IsUtf8Object parse body
  answer : ∀ payload metadata, readPayload parse body = .ok (payload, metadata) →
    MetadataAnswered cfg registry s payload metadata

/-! ## The type checks -/

/-- One check passes iff the value is null or can be read. -/
theorem exists_optionalField_ok {α : Type*} (read : Json → Option α) (requirement : String)
    (payload : JsonObject) (field : String) :
    (∃ x, optionalField read requirement payload field = .ok x) ↔
      Json.get payload (PyStr.ofString field) = .null ∨
        (read (Json.get payload (PyStr.ofString field))).isSome := by
  unfold optionalField
  split
  case h_1 h => simp [h]
  case h_2 v hv =>
    cases hread : read (Json.get payload (PyStr.ofString field)) with
    | none =>
      have hnull : Json.get payload (PyStr.ofString field) ≠ .null := hv
      simp [hnull]
    | some x => simp

theorem exists_stringsField_ok (payload : JsonObject) (field : String) :
    (∃ x, stringsField payload field = .ok x) ↔
      IsStringsValue (Json.get payload (PyStr.ofString field)) := by
  rw [stringsField, exists_optionalField_ok, Json.isSome_strings?, IsStringsValue]

theorem exists_stringField_ok (payload : JsonObject) (field : String) :
    (∃ x, stringField payload field = .ok x) ↔
      IsStringValue (Json.get payload (PyStr.ofString field)) := by
  rw [stringField, exists_optionalField_ok, Json.isSome_str?, IsStringValue]

/-- A failed check names its field. -/
theorem optionalField_error {α : Type*} {read : Json → Option α} {requirement : String}
    {payload : JsonObject} {field : String} {description : PyStr}
    (h : optionalField read requirement payload field = .error description) :
    description = PyStr.ofString (field ++ requirement) := by
  unfold optionalField at h
  split at h
  · cases h
  · split at h
    · cases h
    · exact (Except.error.inj h).symm

/-- A sequence of checks passes iff the first one does and the rest does. -/
private theorem exists_bind_ok {ε α β : Type} (x : Except ε α) (f : α → Except ε β) :
    (∃ b, (x >>= f) = .ok b) ↔ ∃ a, x = .ok a ∧ ∃ b, f a = .ok b := by
  cases x <;> simp [bind, Except.bind]

/-- A sequence of checks fails with the error of one of them. -/
private theorem bind_eq_error {ε α β : Type} {x : Except ε α} {f : α → Except ε β} {e : ε}
    (h : (x >>= f) = .error e) : x = .error e ∨ ∃ a, f a = .error e := by
  cases x with
  | error e' =>
    have he : e' = e := Except.error.inj h
    exact Or.inl (by rw [he])
  | ok a => exact Or.inr ⟨a, h⟩

/-- **The checks accept exactly the well-typed metadata.** -/
theorem exists_checkMetadata_ok (payload : JsonObject) :
    (∃ metadata, checkMetadata payload = .ok metadata) ↔ FieldsTyped payload := by
  have hpure : ∀ metadata : Metadata, ∃ b, (pure metadata : Except PyStr Metadata) = .ok b :=
    fun metadata => ⟨metadata, rfl⟩
  -- no check depends on what an earlier one read
  simp only [checkMetadata, exists_bind_ok, hpure, and_true, exists_and_right,
    exists_stringsField_ok, exists_stringField_ok]
  constructor
  · rintro ⟨huris, hgrants, htypes, hname, hscope, hmethod⟩
    exact ⟨by simp [huris, hgrants, htypes], by simp [hname, hscope, hmethod]⟩
  · rintro ⟨hstrings, hstring⟩
    simp only [List.forall_mem_cons] at hstrings hstring
    exact ⟨hstrings.1, hstrings.2.1, hstrings.2.2.1, hstring.1, hstring.2.1, hstring.2.2.1⟩

/-- **Every error of the checks names the field it checks.** -/
theorem checkMetadata_error {payload : JsonObject} {description : PyStr}
    (h : checkMetadata payload = .error description) :
    ∃ field requirement, description = PyStr.ofString (field ++ requirement) := by
  rcases bind_eq_error h with h | ⟨_, h⟩
  · exact ⟨_, _, optionalField_error h⟩
  rcases bind_eq_error h with h | ⟨_, h⟩
  · exact ⟨_, _, optionalField_error h⟩
  rcases bind_eq_error h with h | ⟨_, h⟩
  · exact ⟨_, _, optionalField_error h⟩
  rcases bind_eq_error h with h | ⟨_, h⟩
  · exact ⟨_, _, optionalField_error h⟩
  rcases bind_eq_error h with h | ⟨_, h⟩
  · exact ⟨_, _, optionalField_error h⟩
  rcases bind_eq_error h with h | ⟨_, h⟩
  · exact ⟨_, _, optionalField_error h⟩
  · cases h

/-! ## The answers -/

/-- An admitted request is judged by its body. -/
theorem readMetadata_of_admitted {request : Request} (h : request.Admitted) (parse : Parser) :
    readMetadata parse request = readPayload parse request.body := by
  rw [readMetadata, if_neg h.authorized]
  split
  case h_1 retryAfter hexceeded => exact absurd hexceeded (h.rateLimit retryAfter)
  case h_2 => rfl

/-- The outcomes of reading a body, one by one. -/
inductive Reading (parse : Parser) (body : List UInt8) :
    Except Answer (JsonObject × Metadata) → Prop
  | raises (e) (hread : readBody parse body = .error e) (hne : e ≠ .parse .jsonDecodeError) :
    Reading parse body (.error (.error (.loads e)))
  | refuses (response : JSONResponse) (herror : response.IsError 400 "invalid_request")
    (hread : ∀ payload, readBody parse body = .ok (.obj payload) → ¬ FieldsTyped payload)
    (hcaught : ∀ e, readBody parse body = .error e → e = .parse .jsonDecodeError) :
    Reading parse body (.error (.ok response))
  | accepts (payload : JsonObject) (metadata : Metadata)
    (hread : readBody parse body = .ok (.obj payload)) (htyped : FieldsTyped payload) :
    Reading parse body (.ok (payload, metadata))

/-- **How a body is read.** Every answer at this stage can be constructed. -/
theorem reading_readPayload (parse : Parser) (body : List UInt8) :
    Reading parse body (readPayload parse body) := by
  -- a refusal at this stage has a fixed text
  have hrefuse : ∀ text : String, (∀ payload, readBody parse body = .ok (.obj payload) →
      ¬ FieldsTyped payload) → (∀ e, readBody parse body = .error e → e = .parse .jsonDecodeError) →
      Reading parse body (.error (answer (invalidRequest text))) := by
    intro text hread hcaught
    obtain ⟨response, hresponse, herror⟩ :=
      exists_invalidRequest (PyStr.surrogateFree_ofString text)
    rw [hresponse]
    exact Reading.refuses response herror hread hcaught
  unfold readPayload
  split
  case h_1 hread => exact hrefuse _ (by simp [hread]) (by simp [hread])
  case h_2 e hne hread => exact Reading.raises e hread hne
  case h_3 payload hread =>
    split
    case h_1 description hcheck =>
      obtain ⟨field, requirement, rfl⟩ := checkMetadata_error hcheck
      refine hrefuse _ ?_ (by simp [hread])
      rintro payload' heq htyped
      obtain rfl : payload = payload' := by simpa [hread] using heq
      obtain ⟨metadata, hok⟩ := (exists_checkMetadata_ok payload).mpr htyped
      rw [hcheck] at hok
      cases hok
    case h_2 metadata hcheck =>
      have htyped := (exists_checkMetadata_ok payload).mp ⟨metadata, hcheck⟩
      exact Reading.accepts payload metadata hread htyped
  case h_4 v hne hread =>
    refine hrefuse _ ?_ (by simp [hread])
    rintro payload heq -
    rw [hread] at heq
    exact hne payload (Except.ok.inj heq)

/-- Well-typed metadata is answered iff the answer can be constructed. -/
theorem exists_result_of_read {σ : Type*} {parse : Parser} {request : Request}
    {payload : JsonObject} {metadata : Metadata}
    (hread : readMetadata parse request = .ok (payload, metadata)) (cfg : Config)
    (registry : ClientRegistry σ) (s : σ) :
    (∃ response, (registerHandler parse cfg registry s request).result = .ok response) ↔
      MetadataAnswered cfg registry s payload metadata := by
  unfold MetadataAnswered
  cases huri : rejectedUri cfg (finalRedirectUris cfg metadata) with
  | some uri =>
    simp only [registerHandler, hread, huri, exists_answer_eq_ok, invalidRedirectUri,
      isSome_oauthError]
    simp
  | none =>
    simp only [registerHandler, hread, huri, persist]
    rcases registry.createClient s (namedRequest cfg payload metadata) with ⟨s', failure | client⟩
    · cases failure with
      | exception =>
        simp only [exists_answer_eq_ok, serverError, isSome_oauthError,
          PyStr.surrogateFree_ofString]
      | baseException => simp
    · exact exists_acknowledge_result cfg s' _ client

/-- The answer to well-typed metadata is never `invalid_request`. -/
theorem not_isError_of_read {σ : Type*} {parse : Parser} {request : Request}
    {payload : JsonObject} {metadata : Metadata}
    (hread : readMetadata parse request = .ok (payload, metadata)) {cfg : Config}
    {registry : ClientRegistry σ} {s : σ} {response : JSONResponse}
    (h : (registerHandler parse cfg registry s request).result = .ok response) :
    ¬ response.IsError 400 "invalid_request" := by
  rintro ⟨hstatus, hcode⟩
  cases huri : rejectedUri cfg (finalRedirectUris cfg metadata) with
  | some uri =>
    simp only [registerHandler, hread, huri, answer_eq_ok] at h
    have hother := (isError_of_invalidRedirectUri h).2
    rw [hcode] at hother
    simp at hother
  | none =>
    simp only [registerHandler, hread, huri, persist] at h
    rcases hcreate : registry.createClient s (namedRequest cfg payload metadata) with
      ⟨s', failure | client⟩
    · rw [hcreate] at h
      cases failure with
      | exception =>
        dsimp only at h
        have hother := (isError_of_serverError (answer_eq_ok.mp h)).1
        omega
      | baseException => cases h
    · rw [hcreate] at h
      have hother := (of_acknowledge_result h).2
      omega

/-- **When a body is answered as promised**: on exactly the unproblematic bodies, for every parser,
registry and configuration of callbacks. -/
theorem malformed_bodies_answered_iff {σ : Type*} (parse : Parser) (cfg : Config)
    (registry : ClientRegistry σ) (s : σ) (request : Request) (hadmitted : request.Admitted) :
    AnswersMalformed parse request.body (registerHandler parse cfg registry s request) ↔
      Unproblematic parse cfg registry s request.body := by
  have hreading := reading_readPayload parse request.body
  have hmeta := readMetadata_of_admitted hadmitted parse
  cases hpayload : readPayload parse request.body with
  | error result =>
    have hrun : registerHandler parse cfg registry s request = ⟨s, [], result⟩ := by
      rw [registerHandler, hmeta, hpayload]
    rw [hpayload] at hreading
    rw [hrun]
    cases hreading with
    | raises e hread hne =>
      -- the exception leaves the handler
      refine iff_of_false ?_ fun h => hne (h.loads e hread)
      rintro ⟨⟨response, hresponse⟩, -⟩
      cases hresponse
    | refuses response herror hread hcaught =>
      refine iff_of_true ⟨⟨response, rfl⟩, fun _ => ⟨rfl, response, rfl, herror⟩⟩
        ⟨hcaught, ?_, ?_⟩
      · intro payload hobj htyped
        exact absurd htyped (hread payload hobj)
      · intro payload metadata hok
        rw [hpayload] at hok
        cases hok
  | ok read =>
    obtain ⟨payload, metadata⟩ := read
    rw [hpayload] at hmeta hreading
    cases hreading with | accepts _ _ hread htyped => ?_
    constructor
    · rintro ⟨hanswered, hrejected⟩
      refine ⟨by simp [hread], ?_, ?_⟩
      · intro _ _ _ hne
        -- otherwise the body is malformed, and was not answered with `invalid_request`
        by_contra hutf8
        obtain ⟨-, response, hresponse, herror⟩ := hrejected ⟨hne, Or.inl hutf8⟩
        exact not_isError_of_read hmeta hresponse herror
      · intro payload' metadata' hok
        obtain ⟨rfl, rfl⟩ := Prod.mk.inj (Except.ok.inj (hpayload.symm.trans hok))
        exact (exists_result_of_read hmeta cfg registry s).mp hanswered
    · intro h
      refine ⟨(exists_result_of_read hmeta cfg registry s).mpr (h.answer payload metadata hpayload),
        ?_⟩
      rintro ⟨hne, hnot | ⟨payload', hloads, huntyped⟩⟩
      · exact absurd (h.utf8 payload hread htyped hne) hnot
      · rw [readBody, if_neg hne, hloads] at hread
        obtain rfl := Json.obj.inj (Except.ok.inj hread)
        exact absurd htyped huntyped

/-- A body that is not JSON is answered as promised. -/
theorem malformed_bodies_answered_iff_brace :
    (⟨none, none, [0x7B]⟩ : Request).Admitted ∧
    AnswersMalformed (fun _ => .error .jsonDecodeError) [0x7B]
      (registerHandler (fun _ => .error .jsonDecodeError) sampleConfig
        (memoryClientRegistry sampleEnv) ∅ ⟨none, none, [0x7B]⟩) := by
  have hadmitted : (⟨none, none, [0x7B]⟩ : Request).Admitted := ⟨by simp, by simp⟩
  have hread : readBody (fun _ => .error .jsonDecodeError) [0x7B]
      = .error (.parse .jsonDecodeError) := rfl
  refine ⟨hadmitted, (malformed_bodies_answered_iff _ _ _ _ _ hadmitted).mpr ⟨?_, ?_, ?_⟩⟩
  · simp [hread]
  · simp [hread]
  · intro payload metadata hok
    simp only [readPayload, hread] at hok
    cases hok

/-- **The byte 0xFF is no UTF-8, and its `UnicodeDecodeError` is not caught.** -/
theorem invalid_utf8_not_answered :
    ¬ AnswersMalformed (fun _ => .error .jsonDecodeError) [0xFF]
      (registerHandler (fun _ => .error .jsonDecodeError) sampleConfig
        (memoryClientRegistry sampleEnv) ∅ ⟨none, none, [0xFF]⟩) := by
  rintro ⟨⟨response, hresponse⟩, -⟩
  have hraises : readMetadata (fun _ => .error .jsonDecodeError) ⟨none, none, [0xFF]⟩
      = .error (.error (.loads .unicodeDecodeError)) := rfl
  rw [registerHandler, hraises] at hresponse
  cases hresponse

end McpAuthflow.Registration
