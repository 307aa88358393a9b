import McpAuthflow.Foundations.JsonReader

/-! # OAuth error responses (`mcp_authflow/responses.py`)

A `JSONResponse` renders its content when it is constructed, so a response that exists carries the
bytes of its content as a field. Content with a lone surrogate has no bytes, and the constructor
raises `UnicodeEncodeError`: the functions below return `none` there. Every error response is
`oauthError` at its own code and status; it exists iff its description can be encoded
(`isSome_oauthError`). What arrives is what was meant: **`response_read_back`** says that the bytes
of a response, read as JSON, are its content, whatever the strings in it. -/

namespace McpAuthflow

open JsonText

/-- Starlette's `JSONResponse`: what it was constructed from and the bytes it renders to. -/
structure JSONResponse where
  content : FlatObject
  statusCode : ℕ
  headers : List (PyStr × PyStr)
  body : List UInt8
  rendered : render content = some body

/-- `JSONResponse(content, status_code, headers)`; `none` is `UnicodeEncodeError`. -/
def jsonResponse (content : FlatObject) (statusCode : ℕ) (headers : List (PyStr × PyStr)) :
    Option JSONResponse :=
  match h : render content with
  | none => none
  | some body => some ⟨content, statusCode, headers, body, h⟩

/-- `OAUTH_NO_CACHE_HEADERS`. -/
def oauthNoCacheHeaders : List (PyStr × PyStr) :=
  [(PyStr.ofString "Cache-Control", PyStr.ofString "no-store")]

/-- The content of an OAuth error. -/
def errorContent (error : String) (description : PyStr) : FlatObject :=
  [(PyStr.ofString "error", .str error), (PyStr.ofString "error_description", .str description)]

/-- `oauth_error`. The extra headers never repeat the cache header, so they follow it. -/
def oauthError (error : String) (description : PyStr) (statusCode : ℕ)
    (extraHeaders : List (PyStr × PyStr)) : Option JSONResponse :=
  jsonResponse (errorContent error description) statusCode (oauthNoCacheHeaders ++ extraHeaders)

/-- `invalid_request`. -/
def invalidRequest (description : PyStr) : Option JSONResponse :=
  oauthError "invalid_request" description 400 []

/-- `invalid_client`. -/
def invalidClient (description : PyStr) : Option JSONResponse :=
  oauthError "invalid_client" description 401 []

/-- `invalid_redirect_uri`. -/
def invalidRedirectUri (description : PyStr) : Option JSONResponse :=
  oauthError "invalid_redirect_uri" description 400 []

/-- The `Retry-After` header, left out when there is nothing to wait for. -/
def retryAfterHeader (retryAfter : Option ℤ) : List (PyStr × PyStr) :=
  match retryAfter with
  | none => []
  | some seconds =>
    if seconds = 0 then [] else [(PyStr.ofString "Retry-After", PyStr.ofInt seconds)]

/-- `rate_limit_exceeded`. -/
def rateLimitExceeded (description : PyStr) (retryAfter : Option ℤ) : Option JSONResponse :=
  oauthError "too_many_requests" description 429 (retryAfterHeader retryAfter)

/-- `server_error`, at its default status. -/
def serverError (description : PyStr) : Option JSONResponse :=
  oauthError "server_error" description 500 []

/-- `slow_down`: unlike a generic rate limit it is answered 400. -/
def slowDown (description : PyStr) (retryAfter : Option ℤ) : Option JSONResponse :=
  oauthError "slow_down" description 400 (retryAfterHeader retryAfter)

/-- `server_error`, at the status of a failing backend. -/
def serverErrorAt (statusCode : ℕ) (description : PyStr) : Option JSONResponse :=
  oauthError "server_error" description statusCode []

/-- `backend_timeout`. -/
def backendTimeout : Option JSONResponse := serverErrorAt 504 "Backend timeout"

/-- `backend_connection_error`. -/
def backendConnectionError : Option JSONResponse := serverErrorAt 502 "Backend connection error"

/-- `backend_invalid_response`. -/
def backendInvalidResponse : Option JSONResponse :=
  serverErrorAt 502 "Invalid response from backend"

/-- `invalid_grant`. -/
def invalidGrant (description : PyStr) : Option JSONResponse :=
  oauthError "invalid_grant" description 400 []

/-- `invalid_scope`. -/
def invalidScope (description : PyStr) : Option JSONResponse :=
  oauthError "invalid_scope" description 400 []

/-- `unsupported_grant_type`. -/
def unsupportedGrantType (description : PyStr) : Option JSONResponse :=
  oauthError "unsupported_grant_type" description 400 []

/-- `access_denied`. -/
def accessDenied (description : PyStr) : Option JSONResponse :=
  oauthError "access_denied" description 400 []

/-- `authorization_pending`. -/
def authorizationPending (description : PyStr := "Authorization pending") : Option JSONResponse :=
  oauthError "authorization_pending" description 400 []

/-- `expired_token`. -/
def expiredToken (description : PyStr := "Device code has expired") : Option JSONResponse :=
  oauthError "expired_token" description 400 []

/-- `pkce_required`. -/
def pkceRequired (description : PyStr := "PKCE is required for public clients") :
    Option JSONResponse :=
  oauthError "invalid_request" description 400 []

/-- `backend_oauth_error`: the members of the backend's error, in order. -/
def backendOauthError (errorDict : List (PyStr × PyStr)) (statusCode : ℕ) : Option JSONResponse :=
  jsonResponse (errorDict.map fun m => (m.1, .str m.2)) statusCode oauthNoCacheHeaders

/-! ## What a response says -/

/-- **What arrives is what was meant**: the bytes of a response, read as JSON, are its content. -/
theorem response_read_back (response : JSONResponse) :
    readBytes response.body = some response.content :=
  readBytes_render response.rendered

/-- A response keeps what it was constructed from. -/
theorem jsonResponse_eq_some {content : FlatObject} {statusCode : ℕ}
    {headers : List (PyStr × PyStr)} {response : JSONResponse}
    (h : jsonResponse content statusCode headers = some response) :
    response.content = content ∧ response.statusCode = statusCode := by
  unfold jsonResponse at h
  split at h
  · cases h
  · obtain rfl := Option.some_inj.mp h
    exact ⟨rfl, rfl⟩

/-- A response keeps the headers it was constructed with. -/
theorem headers_of_jsonResponse {content : FlatObject} {statusCode : ℕ}
    {headers : List (PyStr × PyStr)} {response : JSONResponse}
    (h : jsonResponse content statusCode headers = some response) : response.headers = headers := by
  unfold jsonResponse at h
  split at h
  · cases h
  · obtain rfl := Option.some_inj.mp h
    rfl

/-- A response can be constructed iff no lone surrogate occurs in its content. -/
theorem isSome_jsonResponse (content : FlatObject) (statusCode : ℕ)
    (headers : List (PyStr × PyStr)) :
    (jsonResponse content statusCode headers).isSome ↔
      ∀ m ∈ content, m.1.SurrogateFree ∧ m.2.SurrogateFree := by
  rw [← render_isSome_iff]
  unfold jsonResponse
  split
  case h_1 h => simp [h]
  case h_2 body h => simp [h]

/-- **An OAuth error can be answered iff its description has no lone surrogate.** -/
theorem isSome_oauthError (error : String) (description : PyStr) (statusCode : ℕ)
    (extraHeaders : List (PyStr × PyStr)) :
    (oauthError error description statusCode extraHeaders).isSome ↔ description.SurrogateFree := by
  rw [oauthError, isSome_jsonResponse]
  simp [errorContent, FlatValue.SurrogateFree]

/-- The response is the OAuth error `error` at the given status. -/
def JSONResponse.IsError (response : JSONResponse) (statusCode : ℕ) (error : String) : Prop :=
  response.statusCode = statusCode ∧
    response.content.lookup (PyStr.ofString "error") = some (.str error)

/-- What `oauth_error` constructs carries its status and its code. -/
theorem isError_of_oauthError {error : String} {description : PyStr} {statusCode : ℕ}
    {extraHeaders : List (PyStr × PyStr)} {response : JSONResponse}
    (h : oauthError error description statusCode extraHeaders = some response) :
    response.IsError statusCode error := by
  obtain ⟨hcontent, hstatus⟩ := jsonResponse_eq_some h
  refine ⟨hstatus, ?_⟩
  rw [hcontent]
  rfl

theorem isError_of_invalidRedirectUri {description : PyStr} {response : JSONResponse}
    (h : invalidRedirectUri description = some response) :
    response.IsError 400 "invalid_redirect_uri" :=
  isError_of_oauthError h

theorem isError_of_serverError {description : PyStr} {response : JSONResponse}
    (h : serverError description = some response) : response.IsError 500 "server_error" :=
  isError_of_oauthError h

/-- An OAuth error with a printable description is answered. -/
theorem exists_oauthError {error : String} {description : PyStr} {statusCode : ℕ}
    {extraHeaders : List (PyStr × PyStr)} (h : description.SurrogateFree) :
    ∃ response, oauthError error description statusCode extraHeaders = some response ∧
      response.IsError statusCode error := by
  obtain ⟨response, hresponse⟩ :=
    Option.isSome_iff_exists.mp
      ((isSome_oauthError error description statusCode extraHeaders).mpr h)
  exact ⟨response, hresponse, isError_of_oauthError hresponse⟩

theorem exists_invalidRequest {description : PyStr} (h : description.SurrogateFree) :
    ∃ response, invalidRequest description = some response ∧
      response.IsError 400 "invalid_request" :=
  exists_oauthError h

theorem exists_invalidRedirectUri {description : PyStr} (h : description.SurrogateFree) :
    ∃ response, invalidRedirectUri description = some response ∧
      response.IsError 400 "invalid_redirect_uri" :=
  exists_oauthError h

theorem exists_rateLimitExceeded {description : PyStr} (h : description.SurrogateFree)
    (retryAfter : Option ℤ) :
    ∃ response, rateLimitExceeded description retryAfter = some response ∧
      response.IsError 429 "too_many_requests" ∧
      response.headers = oauthNoCacheHeaders ++ retryAfterHeader retryAfter := by
  obtain ⟨response, hresponse, herror⟩ := exists_oauthError h
  exact ⟨response, hresponse, herror, headers_of_jsonResponse hresponse⟩

end McpAuthflow
