import McpAuthflow.Foundations.UrlEncoded
import McpAuthflow.Registration.RedirectPolicy

/-! # The device authorization response (`mcp_authflow/device.py`)

`build_device_authorization_response` answers a device with its codes and two URIs: the configured
one, and a complete one that also carries the user code. If none is given, the complete URI is
derived from the configured one by `_append_user_code`.
**`buildDeviceAuthorizationResponse_preserves`**: it has the same scheme, authority, path and
fragment, and a query that is read as the configured parameters followed by the user code. -/

namespace McpAuthflow.Device

open Urlparse UrlEncoded

variable {ext : Externals}

/-! ## The functions -/

/-- What `urllib.parse` raises. -/
inductive UriError where
  /-- The URI cannot be split. -/
  | valueError
  /-- A lone surrogate meets strict UTF-8. -/
  | unicodeEncodeError

/-- `_append_user_code`. -/
def appendUserCode (ext : Externals) (verificationUri userCode : PyStr) : Except UriError PyStr :=
  match urlsplit ext verificationUri with
  | none => .error .valueError
  | some parts =>
    match urlencode (parseQsl parts.query ++ [(PyStr.ofString "code", userCode)]) with
    | none => .error .unicodeEncodeError
    | some query => .ok (urlunsplit { parts with query })

/-- The dictionary that `build_device_authorization_response` returns. -/
structure DeviceAuthorizationResponse where
  deviceCode : PyStr
  userCode : PyStr
  verificationUri : PyStr
  verificationUriComplete : PyStr
  expiresIn : ℤ
  interval : ℤ

/-- `build_device_authorization_response`. -/
def buildDeviceAuthorizationResponse (ext : Externals)
    (deviceCode userCode verificationUri : PyStr) (expiresIn interval : ℤ)
    (verificationUriComplete : Option PyStr) : Except UriError DeviceAuthorizationResponse := do
  let complete ←
    match verificationUriComplete with
    | some complete => .ok complete
    | none => appendUserCode ext verificationUri userCode
  return ⟨deviceCode, userCode, verificationUri, complete, expiresIn, interval⟩

/-! ## What is preserved -/

/-- An `http` or `https` URI: behind its authority, the path is empty or begins with a slash. -/
structure IsHttpUri (r : SplitResult) : Prop where
  scheme : r.scheme = PyStr.ofString "http" ∨ r.scheme = PyStr.ofString "https"
  path : IsAbsOrEmpty r.path

/-- The path needs no check where there is an authority. -/
theorem isHttpUri_of_netloc {uri : PyStr} {r : SplitResult} (h : urlsplit ext uri = some r)
    (hscheme : r.scheme = PyStr.ofString "http" ∨ r.scheme = PyStr.ofString "https")
    (hnetloc : r.netloc ≠ []) : IsHttpUri r :=
  ⟨hscheme, isAbsOrEmpty_of_netloc h hnetloc⟩

/-- The scheme is read back and written with an authority. -/
theorem IsHttpUri.isScheme (hext : ext.Documented) {r : SplitResult} (h : IsHttpUri r) :
    IsScheme ext r.scheme ∧ r.scheme ∈ usesNetloc := by
  rcases h.scheme with heq | heq
  · rw [heq]
    exact ⟨isScheme_of_map_asciiLower hext (by decide) (by decide) (by decide), by decide +kernel⟩
  · rw [heq]
    exact ⟨isScheme_of_map_asciiLower hext (by decide) (by decide) (by decide), by decide +kernel⟩

/-- **The user code is appended to an `http` URI**, and nothing else of it changes. -/
theorem appendUserCode_spec (hext : ext.Documented) {uri userCode : PyStr} {r : SplitResult}
    (h : urlsplit ext uri = some r) (hhttp : IsHttpUri r) (huri : uri.SurrogateFree)
    (hcode : userCode.SurrogateFree) :
    ∃ complete query, appendUserCode ext uri userCode = .ok complete ∧
      urlsplit ext complete = some { r with query } ∧
      parseQsl query = parseQsl r.query ++ [(PyStr.ofString "code", userCode)] := by
  have hquery : r.query.SurrogateFree := fun c hc => huri c ((query_sublist h).subset hc)
  -- what is decoded can be encoded, even where bytes were replaced
  have hpairs : ∀ p ∈ parseQsl r.query ++ [(PyStr.ofString "code", userCode)],
      p.1.SurrogateFree ∧ p.2.SurrogateFree := by
    intro p hp
    rcases List.mem_append.mp hp with hp | hp
    · exact surrogateFree_parseQsl hquery hp
    · obtain rfl := List.mem_singleton.mp hp
      exact ⟨PyStr.surrogateFree_ofString _, hcode⟩
  obtain ⟨query, hencode⟩ := exists_urlencode hpairs
  have hread := parseQsl_urlencode (by simp) hencode
  -- the appended pair makes the query visible
  have hne : query ≠ [] := by
    rintro rfl
    exact absurd (congrArg List.length hread) (by simp [parseQsl])
  obtain ⟨hscheme, huses⟩ := hhttp.isScheme hext
  refine ⟨urlunsplit { r with query }, query, ?_, ?_, hread⟩
  · rw [appendUserCode, h]
    simp only [hencode]
  · exact urlsplit_urlunsplit ((parsed_of_urlsplit h).withQuery query) hscheme huses hhttp.path hne
      fun c hc => isQueryChar_of_mem_urlencode hencode hc

/-- **The derived URI preserves the configured one.** -/
theorem buildDeviceAuthorizationResponse_preserves (hext : ext.Documented)
    {verificationUri userCode : PyStr} {r : SplitResult}
    (h : urlsplit ext verificationUri = some r) (hhttp : IsHttpUri r)
    (huri : verificationUri.SurrogateFree) (hcode : userCode.SurrogateFree) (deviceCode : PyStr)
    (expiresIn interval : ℤ) :
    ∃ response complete,
      buildDeviceAuthorizationResponse ext deviceCode userCode verificationUri expiresIn interval
          none = .ok response ∧
        urlsplit ext response.verificationUriComplete = some complete ∧
        complete.scheme = r.scheme ∧ complete.netloc = r.netloc ∧ complete.path = r.path ∧
        complete.fragment = r.fragment ∧
        parseQsl complete.query = parseQsl r.query ++ [(PyStr.ofString "code", userCode)] := by
  obtain ⟨complete, query, happend, hsplit, hread⟩ := appendUserCode_spec hext h hhttp huri hcode
  refine ⟨⟨deviceCode, userCode, verificationUri, complete, expiresIn, interval⟩,
    { r with query }, ?_, hsplit, rfl, rfl, rfl, rfl, hread⟩
  rw [buildDeviceAuthorizationResponse, happend]
  rfl

/-- Blank parameters of one name, and a code with a space. -/
theorem buildDeviceAuthorizationResponse_preserves_blank :
    ∃ response complete,
      buildDeviceAuthorizationResponse Registration.sampleExternals (PyStr.ofString "dev123")
          (PyStr.ofString "WDJB MJHT") (PyStr.ofString "HTTPS://a/d?x=&x#f") 600 5 none
          = .ok response ∧
        urlsplit Registration.sampleExternals response.verificationUriComplete = some complete ∧
        complete.scheme = PyStr.ofString "https" ∧ complete.netloc = PyStr.ofString "a" ∧
        complete.path = PyStr.ofString "/d" ∧ complete.fragment = PyStr.ofString "f" ∧
        parseQsl complete.query
          = parseQsl (PyStr.ofString "x=&x")
            ++ [(PyStr.ofString "code", PyStr.ofString "WDJB MJHT")] :=
  buildDeviceAuthorizationResponse_preserves Registration.documented_sampleExternals
    (r := ⟨"https", "a", "/d", "x=&x", "f"⟩) rfl ⟨.inr rfl, .inr ⟨PyStr.ofString "d", rfl⟩⟩
    (by decide +kernel) (by decide +kernel) _ 600 5

example :
    (appendUserCode Registration.sampleExternals (PyStr.ofString "https://a/d?x=&x#f")
        (PyStr.ofString "A+B")).toOption
      = some (PyStr.ofString "https://a/d?x=&x=&code=A%2BB#f") := by
  decide +kernel

end McpAuthflow.Device
