import McpAuthflow.Foundations.Urlparse
import McpAuthflow.Foundations.VaryCache
import Mathlib.Data.List.DropRight

/-! # Cross-origin access (`mcp_authflow/cors.py`)

A page may read a response if the response names the page's origin. The module names the origin of a
request iff it is listed in an environment variable, and says with `Vary` that the answer depends on
the origin. **`granted_exactly`**: whatever caches stand between the server and the browsers, a
response is readable for the origin that requested it iff that origin is listed, and it is readable
for no other. -/

namespace McpAuthflow.Cors

/-! ## The functions -/

/-- `str.strip()`. -/
def strip (s : PyStr) : PyStr :=
  (s.dropWhile CodePoint.isSpace).rdropWhile CodePoint.isSpace

/-- `str.split(",")`. -/
def splitCommas (s : PyStr) : List PyStr := s.splitOnP (· = 0x2C)

/-- `parse_allowed_origins`, on the value of the environment variable. -/
def parseAllowedOrigins (envVar : Option PyStr) : List PyStr :=
  let raw := envVar.getD []
  if raw = [] then []
  else ((splitCommas raw).filter fun origin => strip origin ≠ []).map strip

/-- A request: its headers, with their names in lower case. -/
structure Request where
  headers : List (PyStr × PyStr)
  deriving DecidableEq

/-- `request.headers.get("origin", "")`. -/
def Request.origin (request : Request) : PyStr :=
  (request.headers.lookup (PyStr.ofString "origin")).getD []

/-- `get_cors_origin`. -/
def getCorsOrigin (request : Request) (allowedOrigins : List PyStr) : PyStr :=
  if request.origin ∈ allowedOrigins then request.origin else []

/-- The headers of a response. -/
abbrev Headers := List (PyStr × PyStr)

/-- `build_cors_headers`. -/
def buildCorsHeaders (request : Request) (allowedOrigins : List PyStr) : Headers :=
  let headers : Headers :=
    [(PyStr.ofString "Access-Control-Allow-Methods", PyStr.ofString "GET, OPTIONS"),
      (PyStr.ofString "Access-Control-Allow-Headers",
        PyStr.ofString "Authorization, Content-Type, Accept"),
      (PyStr.ofString "Vary", PyStr.ofString "Origin")]
  let origin := getCorsOrigin request allowedOrigins
  if origin ≠ [] then headers ++ [(PyStr.ofString "Access-Control-Allow-Origin", origin)]
  else headers

/-! ## Browsers and caches -/

/-- The browser's check: a page of this origin may read the response. -/
def Readable (response : Headers) (origin : PyStr) : Prop :=
  response.lookup (PyStr.ofString "Access-Control-Allow-Origin") = some origin ∨
    response.lookup (PyStr.ofString "Access-Control-Allow-Origin") = some (PyStr.ofString "*")

/-- The header names in the `Vary` header, in lower case. -/
def varyNames (response : Headers) : List PyStr :=
  (splitCommas ((response.lookup (PyStr.ofString "Vary")).getD [])).map fun name =>
    (strip name).map Urlparse.asciiLower

/-- The server, as caches see it. -/
def server (envVar : Option PyStr) : VaryCache.Server Request PyStr PyStr Headers where
  header request name := request.headers.lookup name
  vary := varyNames
  serve request := buildCorsHeaders request (parseAllowedOrigins envVar)

/-- The origin stands between the commas of the variable, perhaps with blanks around it. -/
def Listed (envVar : Option PyStr) (origin : PyStr) : Prop :=
  origin ≠ [] ∧ ∃ piece ∈ splitCommas (envVar.getD []), strip piece = origin

/-! ## What the headers say -/

/-- What is parsed is what is listed. -/
theorem mem_parseAllowedOrigins (envVar : Option PyStr) (origin : PyStr) :
    origin ∈ parseAllowedOrigins envVar ↔ Listed envVar origin := by
  unfold parseAllowedOrigins Listed
  by_cases hempty : envVar.getD [] = []
  · -- the only piece of an empty text is empty
    simp only [hempty, if_true, List.not_mem_nil, false_iff, not_and]
    rintro hne ⟨piece, hpiece, rfl⟩
    obtain rfl : piece = [] := by simpa [splitCommas] using hpiece
    exact hne rfl
  · simp only [if_neg hempty, List.mem_map, List.mem_filter, decide_eq_true_eq]
    constructor
    · rintro ⟨piece, ⟨hpiece, hne⟩, rfl⟩
      exact ⟨hne, piece, hpiece, rfl⟩
    · rintro ⟨hne, piece, hpiece, rfl⟩
      exact ⟨piece, ⟨hpiece, hne⟩, rfl⟩

/-- The origin is named iff it is allowed. -/
theorem lookup_allowOrigin (request : Request) (allowedOrigins : List PyStr) :
    (buildCorsHeaders request allowedOrigins).lookup (PyStr.ofString "Access-Control-Allow-Origin")
      = if request.origin ∈ allowedOrigins ∧ request.origin ≠ [] then some request.origin
        else none := by
  unfold buildCorsHeaders getCorsOrigin
  by_cases hmem : request.origin ∈ allowedOrigins
  · by_cases hne : request.origin = []
    · simp [hne, List.lookup_cons]
    · simp [hmem, hne, List.lookup_cons]
  · simp [hmem, List.lookup_cons]

/-- Every response varies with the origin, and with nothing else. -/
theorem varyNames_buildCorsHeaders (request : Request) (allowedOrigins : List PyStr) :
    varyNames (buildCorsHeaders request allowedOrigins) = [PyStr.ofString "origin"] := by
  have hlookup : (buildCorsHeaders request allowedOrigins).lookup (PyStr.ofString "Vary")
      = some (PyStr.ofString "Origin") := by
    unfold buildCorsHeaders
    by_cases h : getCorsOrigin request allowedOrigins = [] <;> simp [h, List.lookup_cons]
  rw [varyNames, hlookup]
  decide +kernel

/-- **The response names the header it depends on.** -/
theorem namesHeaders_server (envVar : Option PyStr) : (server envVar).NamesHeaders := by
  intro request request' hagree
  have horigin : request.headers.lookup (PyStr.ofString "origin")
      = request'.headers.lookup (PyStr.ofString "origin") := by
    refine hagree (PyStr.ofString "origin") ?_
    show _ ∈ varyNames (buildCorsHeaders request _)
    rw [varyNames_buildCorsHeaders]
    exact List.mem_singleton_self _
  have hsame : request'.origin = request.origin := by
    rw [Request.origin, Request.origin, horigin]
  have hgranted : getCorsOrigin request' (parseAllowedOrigins envVar)
      = getCorsOrigin request (parseAllowedOrigins envVar) := by
    simp only [getCorsOrigin, hsame]
  show buildCorsHeaders request' _ = buildCorsHeaders request _
  simp only [buildCorsHeaders, hgranted]

/-! ## What browsers may read -/

/-- **Listed origins are granted, each to itself**: a delivered response is readable for the origin
that asked iff that origin is listed, and for another one only if the request was for `*`. -/
def GrantedExactly (envVar : Option PyStr) (request : Request) (response : Headers) : Prop :=
  (Readable response request.origin ↔ Listed envVar request.origin) ∧
    ∀ origin, Readable response origin →
      origin = request.origin ∨ request.origin = PyStr.ofString "*"

/-- **What is delivered is granted exactly**, along every run of every cache. -/
theorem granted_exactly (envVar : Option PyStr) (acts : List (VaryCache.Act Request)) :
    ∀ e ∈ VaryCache.delivered (server envVar) acts, GrantedExactly envVar e.1 e.2 := by
  intro e he
  have hserved : e.2 = buildCorsHeaders e.1 (parseAllowedOrigins envVar) :=
    VaryCache.delivered_eq_serve (namesHeaders_server envVar) acts e he
  have hlookup := lookup_allowOrigin e.1 (parseAllowedOrigins envVar)
  rw [← hserved] at hlookup
  have hmem := mem_parseAllowedOrigins envVar e.1.origin
  unfold GrantedExactly Readable
  rw [hlookup]
  by_cases hlisted : Listed envVar e.1.origin
  · rw [if_pos ⟨hmem.mpr hlisted, hlisted.1⟩]
    simp [hlisted, eq_comm]
  · rw [if_neg fun h => hlisted (hmem.mp h.1)]
    simp [hlisted]

/-- The request of a page of an origin. -/
def pageRequest (origin : String) : Request :=
  ⟨[(PyStr.ofString "origin", PyStr.ofString origin)]⟩

/-- One page's response is kept; another page is refused it, and asks the server. -/
theorem granted_exactly_twoPages :
    let envVar := some (PyStr.ofString " https://a.com , https://b.com")
    let acts : List (VaryCache.Act Request) := [.forward (pageRequest "https://a.com") true,
      .reuse 0 (pageRequest "https://c.com"), .forward (pageRequest "https://c.com") false,
      .reuse 0 (pageRequest "https://a.com")]
    (VaryCache.delivered (server envVar) acts).length = 3 ∧
      ∀ e ∈ VaryCache.delivered (server envVar) acts, GrantedExactly envVar e.1 e.2 :=
  ⟨by decide +kernel, granted_exactly _ _⟩

end McpAuthflow.Cors
