import McpAuthflow.Foundations.Urlparse

/-! # The default redirect-URI policy (`mcp_authflow/registration/handler.py`)

`_default_redirect_uri_valid` parses a URI and tests what the parser reports: no fragment, and
`https` with a host or `http` with a loopback host. What is stored and redirected to is the URI
itself, so it is the URI that should be safe (`SafeUri`): clean, with the scheme in front, and with
a host in its authority, a loopback host for `http`. The parser does not report what it strips nor
an empty fragment, lets backslashes and blanks pass, and may find a host in brackets where the
authority has none. **`default_redirect_uri_safe_iff`**: an accepted URI is safe iff it has none of
this, whichever check of brackets the parser makes. -/

namespace McpAuthflow.Registration

open CodePoint (ofChar)
open Urlparse

/-! ## The policy -/

/-- `_LOOPBACK_HOSTS`. -/
def loopbackHosts : List PyStr := ["localhost", "127.0.0.1", "::1"].map PyStr.ofString

/-- `_default_redirect_uri_valid`. -/
def defaultRedirectUriValid (ext : Externals) (uri : PyStr) : Bool :=
  match urlsplit ext uri with
  | none => false
  | some parsed =>
    if parsed.fragment ≠ [] then false
    else
      let scheme := lower ext parsed.scheme
      if scheme = PyStr.ofString "https" then (parsed.hostname ext).any fun host => host ≠ []
      else if scheme = PyStr.ofString "http" then
        (parsed.hostname ext).any fun host => host ∈ loopbackHosts
      else false

/-! ## What it should accept -/

/-- A control character. -/
def isControl (c : CodePoint) : Bool := c.val ≤ 0x1F || (0x7F ≤ c.val && c.val ≤ 0x9F)

/-- No number sign, no backslash, no whitespace and no control character. -/
def Clean (uri : PyStr) : Prop :=
  ∀ c ∈ uri, c ≠ ofChar '#' ∧ c ≠ ofChar '\\' ∧ c.isSpace = false ∧ isControl c = false

-- the text is searched, not the million code points
instance decidableClean (uri : PyStr) : Decidable (Clean uri) := List.decidableBAll _ uri

/-- The URI begins with `start`, a text in lower case, up to ASCII case. -/
def BeginsWith (uri : PyStr) (start : String) : Prop :=
  (uri.take start.length).map asciiLower = PyStr.ofString start

/-- The text between `//` and the next `/`, `?` or the end. -/
def authority (uri : PyStr) : PyStr :=
  ((uri.dropWhile (· ≠ ofChar '/')).drop 2).takeWhile fun c => c ≠ ofChar '/' && c ≠ ofChar '?'

/-- Host and port: the authority without its userinfo. -/
def hostAndPort (uri : PyStr) : PyStr := (authority uri).rtakeWhile (· ≠ ofChar '@')

/-- An IP address in brackets, and nothing or a port after it: an address has a colon, or begins
with `v`. -/
def isLiteral (part : PyStr) : Bool :=
  let (address, port) := partition ']' part.tail
  part.head? = some (ofChar '[') && ofChar ']' ∈ part.tail &&
    (ofChar ':' ∈ address || address.head? = some (ofChar 'v')) &&
    (port = [] || port.head? = some (ofChar ':'))

/-- The host in front of a port. Only an address stands in brackets; a name ends before a colon. -/
def hostOf (part : PyStr) : Option PyStr :=
  if ofChar '[' ∈ part then
    if isLiteral part then some (ofChar '[' :: (partition ']' part.tail).1 ++ [ofChar ']'])
    else none
  else some (partition ':' part).1

/-- The host is this machine, up to ASCII case. -/
def IsLoopback (host : PyStr) : Prop :=
  host.map asciiLower ∈ ["localhost", "127.0.0.1", "[::1]"].map PyStr.ofString

/-- **A safe absolute URI.** -/
structure SafeUri (uri : PyStr) : Prop where
  clean : Clean uri
  scheme : BeginsWith uri "https://" ∨ BeginsWith uri "http://"
  host : ∃ host, hostOf (hostAndPort uri) = some host ∧ host ≠ [] ∧
    (BeginsWith uri "http://" → IsLoopback host)

/-- Brackets behind the userinfo enclose an IP address in front of the port. -/
def WellBracketed (uri : PyStr) : Prop :=
  ofChar '[' ∈ hostAndPort uri → isLiteral (hostAndPort uri) = true

instance decidableWellBracketed (uri : PyStr) : Decidable (WellBracketed uri) :=
  inferInstanceAs (Decidable (_ → _))

/-! ## What the parser saw -/

/-- What an accepted URI was found to be. -/
theorem of_defaultRedirectUriValid {ext : Externals} {uri : PyStr}
    (h : defaultRedirectUriValid ext uri = true) :
    ∃ parsed hostname, urlsplit ext uri = some parsed ∧ parsed.hostname ext = some hostname ∧
      (lower ext parsed.scheme = PyStr.ofString "https" ∨
        lower ext parsed.scheme = PyStr.ofString "http" ∧ hostname ∈ loopbackHosts) := by
  unfold defaultRedirectUriValid at h
  split at h
  case h_1 => cases h
  case h_2 parsed hparsed =>
    dsimp only at h
    split_ifs at h with hfragment hhttps hhttp
    · obtain ⟨hostname, hhostname, -⟩ := (Option.any_eq_true _ _).mp h
      exact ⟨parsed, hostname, hparsed, hhostname, Or.inl hhttps⟩
    · obtain ⟨hostname, hhostname, hmem⟩ := (Option.any_eq_true _ _).mp h
      exact ⟨parsed, hostname, hparsed, hhostname, Or.inr ⟨hhttp, by simpa using hmem⟩⟩

/-- **The parser sees a clean URI as it is.** -/
theorem sanitize_of_clean {uri : PyStr} (h : Clean uri) : sanitize uri = uri := by
  -- up to U+0020 there are control characters and the space
  have hlarge : ∀ c ∈ uri, 0x20 < c.val := by
    intro c hc
    obtain ⟨-, -, hspace, hcontrol⟩ := h c hc
    simp only [CodePoint.isSpace, isControl, Bool.or_eq_false_iff, Bool.and_eq_false_iff,
      decide_eq_false_iff_not] at hspace hcontrol
    omega
  have hdrop : uri.dropWhile (fun c => decide (c.val ≤ 0x20)) = uri := by
    cases uri with
    | nil => rfl
    | cons c uri =>
      have hc := hlarge c List.mem_cons_self
      exact List.dropWhile_cons_of_neg (by simpa using hc)
  rw [sanitize, hdrop, List.filter_eq_self]
  intro c hc
  have hle := hlarge c hc
  have htab : c ≠ ofChar '\t' ∧ c ≠ ofChar '\r' ∧ c ≠ ofChar '\n' := by
    refine ⟨?_, ?_, ?_⟩ <;>
    · rintro rfl
      revert hle
      decide
  simp [htab]

/-- Scheme characters are ASCII and no slash. -/
theorem of_isSchemeChar {c : CodePoint} (h : isSchemeChar c = true) :
    c.val < 0x80 ∧ c ≠ ofChar '/' := by
  have hval : c.val < 0x80 ∧ c.val ≠ 0x2F := by
    simp only [isSchemeChar, isAsciiLetter, Bool.or_eq_true, Bool.and_eq_true,
      decide_eq_true_eq] at h
    rcases h with (((h | h) | rfl) | rfl) | rfl
    · omega
    · omega
    · exact ⟨by decide, by decide⟩
    · exact ⟨by decide, by decide⟩
    · exact ⟨by decide, by decide⟩
  refine ⟨hval.1, ?_⟩
  rintro rfl
  exact hval.2 rfl

/-- Scheme, colon and slashes make the beginning of a URI. -/
theorem beginsWith_iff {raw after : PyStr} {scheme start : String}
    (hraw : raw.map asciiLower = PyStr.ofString scheme) :
    BeginsWith (raw ++ ofChar ':' :: (PyStr.ofString "//" ++ after)) start ↔
      (PyStr.ofString scheme ++ PyStr.ofString "://" ++ after.map asciiLower).take start.length
        = PyStr.ofString start := by
  have hsep : (PyStr.ofString "//").map asciiLower = PyStr.ofString "//" := by decide
  have hcolon : asciiLower (ofChar ':') = ofChar ':' := by decide
  rw [BeginsWith, List.map_take, List.map_append, List.map_cons, List.map_append, hraw, hsep,
    hcolon, List.append_assoc]
  rfl

/-- The authority of a clean URI is what the parser takes for it. -/
theorem authority_eq {raw after : PyStr} (hraw : ∀ c ∈ raw, isSchemeChar c = true)
    (hafter : ofChar '#' ∉ after) :
    authority (raw ++ ofChar ':' :: (PyStr.ofString "//" ++ after))
      = after.takeWhile fun c => !isDelimiter c := by
  have hslash : ∀ c ∈ raw, decide (c ≠ ofChar '/') = true := by
    intro c hc
    simpa using (of_isSchemeChar (hraw c hc)).2
  have hdrop : (raw ++ ofChar ':' :: (PyStr.ofString "//" ++ after)).dropWhile
      (· ≠ ofChar '/') = PyStr.ofString "//" ++ after := by
    rw [List.dropWhile_append_of_pos hslash, List.dropWhile_cons_of_pos (by decide)]
    exact List.dropWhile_cons_of_neg (by decide)
  rw [authority, hdrop]
  show after.takeWhile _ = _
  clear hdrop
  -- the two end at the same characters, the number sign aside
  induction after with
  | nil => rfl
  | cons c after ih =>
    rw [List.mem_cons, not_or] at hafter
    obtain ⟨hc, hafter⟩ := hafter
    simp only [List.takeWhile_cons, isDelimiter, ih hafter, Ne.symm hc]
    simp

/-! ## The host -/

/-- Only a colon is lowered to a colon. -/
theorem eq_colon_of_asciiLower {c : CodePoint} (h : asciiLower c = ofChar ':') :
    c = ofChar ':' := by
  have hval : (ofChar ':').val = 0x3A := by decide
  unfold asciiLower at h
  split at h
  · have hshift := congrArg Fin.val h
    dsimp only at hshift
    omega
  · exact h

theorem mem_loopbackHosts {host : PyStr} :
    host ∈ loopbackHosts ↔ host = PyStr.ofString "localhost" ∨
      host = PyStr.ofString "127.0.0.1" ∨ host = PyStr.ofString "::1" := by
  simp [loopbackHosts]

/-- A loopback name without a colon. -/
theorem isLoopback_of_name {host : PyStr} (hcolon : ofChar ':' ∉ host)
    (h : host.map asciiLower ∈ loopbackHosts) : IsLoopback host := by
  rcases mem_loopbackHosts.mp h with hname | hname | hname
  · simp [IsLoopback, hname]
  · simp [IsLoopback, hname]
  · -- `::1` has colons
    have hmem : ofChar ':' ∈ host.map asciiLower := by
      rw [hname]
      decide
    obtain ⟨c, hc, heq⟩ := List.mem_map.mp hmem
    exact absurd (eq_colon_of_asciiLower heq ▸ hc) hcolon

/-- A loopback address in brackets: the only one that the parser lets stand there is `::1`. -/
theorem isLoopback_of_literal {literal : PyStr}
    (hchecked : ofChar ':' ∈ literal ∨ literal.head? = some (ofChar 'v'))
    (h : literal.map asciiLower ∈ loopbackHosts) :
    IsLoopback (ofChar '[' :: literal ++ [ofChar ']']) := by
  have hlowered : ofChar ':' ∈ literal.map asciiLower ∨
      (literal.map asciiLower).head? = some (ofChar 'v') := by
    rcases hchecked with hmem | hhead
    · have hcolon : asciiLower (ofChar ':') = ofChar ':' := by decide
      exact Or.inl (List.mem_map.mpr ⟨ofChar ':', hmem, hcolon⟩)
    · rw [List.head?_map, hhead]
      exact Or.inr (by decide)
  rcases mem_loopbackHosts.mp h with hname | hname | hname
  · rw [hname] at hlowered
    exact absurd hlowered (by decide)
  · rw [hname] at hlowered
    exact absurd hlowered (by decide)
  · have hbracketed : (ofChar '[' :: literal ++ [ofChar ']']).map asciiLower
        = PyStr.ofString "[::1]" := by
      rw [List.map_append, List.map_cons, hname]
      decide
    rw [IsLoopback, hbracketed]
    decide

/-- The parts of a host in brackets. -/
theorem of_isLiteral {part : PyStr} (h : isLiteral part = true) :
    ∃ address port, part = ofChar '[' :: (address ++ ofChar ']' :: port) ∧
      ofChar ']' ∉ address ∧ (ofChar ':' ∈ address ∨ address.head? = some (ofChar 'v')) ∧
      hostOf part = some (ofChar '[' :: address ++ [ofChar ']']) := by
  cases part with
  | nil => simp [isLiteral] at h
  | cons c rest =>
    have hparts := h
    simp only [isLiteral, Bool.and_eq_true, Bool.or_eq_true, decide_eq_true_eq] at hparts
    simp only [List.head?_cons, List.tail_cons, Option.some_inj] at hparts
    obtain ⟨⟨⟨rfl, hclosed⟩, haddress⟩, -⟩ := hparts
    refine ⟨_, _, congrArg _ (partition_append hclosed).symm, notMem_partition_fst ']' rest,
      haddress, ?_⟩
    rw [hostOf, if_pos List.mem_cons_self, if_pos h]
    rfl

/-- **The host that the parser reports** is the host in front of the port, if that is well
bracketed. -/
theorem exists_hostOf {ext : Externals} (hext : ext.Documented) {parsed : SplitResult}
    {hostname : PyStr} (hhostname : parsed.hostname ext = some hostname)
    (hbrackets : ofChar '[' ∈ afterUserinfo parsed.netloc →
      isLiteral (afterUserinfo parsed.netloc) = true) :
    ∃ host, hostOf (afterUserinfo parsed.netloc) = some host ∧ host ≠ [] ∧
      (hostname ∈ loopbackHosts → IsLoopback host) := by
  have hlowered : hostname ∈ loopbackHosts →
      parsed.hostinfo.1.map asciiLower ∈ loopbackHosts := by
    intro hmem
    -- the lower case of the Kelvin sign is `k`, which stands in none of the hosts
    have hascii : loopbackHosts.all (fun w => w.all fun c =>
        c.val < 0x80 && c ≠ ofChar 'k' && c ≠ ofChar '%') = true := by
      decide
    have hall := List.all_eq_true.mp (List.all_eq_true.mp hascii hostname hmem)
    rw [map_asciiLower_of_hostname hext hhostname]
    · exact hmem
    · intro c hc
      simpa [and_assoc] using hall c hc
  -- a literal in brackets, or a name
  by_cases hopen : ofChar '[' ∈ afterUserinfo parsed.netloc
  · obtain ⟨address, port, hpart, hnotMem, haddress, hhost⟩ := of_isLiteral (hbrackets hopen)
    rw [hostinfo_of_brackets hpart hnotMem] at hlowered
    refine ⟨_, hhost, by simp, ?_⟩
    intro hmem
    exact isLoopback_of_literal haddress (hlowered hmem)
  · have hhost := hostinfo_of_notMem hopen
    refine ⟨parsed.hostinfo.1, ?_, (hostname_eq_some.mp hhostname).1, ?_⟩
    · rw [hostOf, if_neg hopen, hhost]
    · intro hmem
      refine isLoopback_of_name ?_ (hlowered hmem)
      rw [hhost]
      exact notMem_partition_fst ':' _

/-! ## When an accepted URI is safe -/

/-- A scheme is there, if its lower case is a word. -/
theorem scheme_ne_nil {ext : Externals} {scheme : PyStr} {word : String}
    (h : lower ext scheme = PyStr.ofString word) (hword : word ≠ "") : scheme ≠ [] := by
  rintro rfl
  have hnil : PyStr.ofString "" = PyStr.ofString word := h
  exact hword (PyStr.ofString_inj.mp hnil).symm

/-- A host comes from a network location. -/
theorem netloc_ne_nil {ext : Externals} {parsed : SplitResult} {hostname : PyStr}
    (h : parsed.hostname ext = some hostname) : parsed.netloc ≠ [] := by
  intro hnil
  refine (hostname_eq_some.mp h).1 ?_
  rw [SplitResult.hostinfo, hnil]
  rfl

/-- **An accepted URI that is clean and well bracketed is safe.** -/
theorem safeUri_of_accepted {ext : Externals} (hext : ext.Documented) {uri : PyStr}
    (h : defaultRedirectUriValid ext uri = true) (hclean : Clean uri)
    (hbrackets : WellBracketed uri) : SafeUri uri := by
  obtain ⟨parsed, hostname, hparsed, hhostname, hscheme⟩ := of_defaultRedirectUriValid h
  have hne : parsed.scheme ≠ [] := by
    rcases hscheme with hhttps | ⟨hhttp, -⟩
    · exact scheme_ne_nil hhttps (by decide)
    · exact scheme_ne_nil hhttp (by decide)
  obtain ⟨raw, after, hview, hraw, hlower, hnetloc⟩ :=
    urlsplit_spec hparsed hne (netloc_ne_nil hhostname)
  rw [sanitize_of_clean hclean] at hview
  -- the scheme, as it is written
  have hascii : ∀ c ∈ raw, c.val < 0x80 := fun c hc => (of_isSchemeChar (hraw c hc)).1
  have hwritten : lower ext parsed.scheme = raw.map asciiLower := by
    rw [hlower, lower_lower_of_isAscii hext hascii]
  -- the authority, as it is written
  have hmark : ofChar '#' ∉ after := by
    intro hmem
    have huri : ofChar '#' ∈ uri := by
      rw [hview]
      simp [hmem]
    exact (hclean _ huri).1 rfl
  have hauthority : authority uri = parsed.netloc := by
    rw [hview, authority_eq hraw hmark, hnetloc]
  have hpart : hostAndPort uri = afterUserinfo parsed.netloc := by
    rw [hostAndPort, hauthority]
    rfl
  rw [WellBracketed, hpart] at hbrackets
  obtain ⟨host, hhost, hnonempty, hloopback⟩ := exists_hostOf hext hhostname hbrackets
  rw [hwritten] at hscheme
  rcases hscheme with hhttps | ⟨hhttp, hmem⟩
  · refine ⟨hclean, Or.inl ?_, host, by rw [hpart, hhost], hnonempty, ?_⟩
    · rw [hview, beginsWith_iff hhttps]
      rfl
    · -- `https` is not `http`
      intro hhttp
      rw [hview, beginsWith_iff hhttps] at hhttp
      have hne : PyStr.ofString "https:/" ≠ PyStr.ofString "http://" := by decide
      exact absurd hhttp hne
  · refine ⟨hclean, Or.inr ?_, host, by rw [hpart, hhost], hnonempty, ?_⟩
    · rw [hview, beginsWith_iff hhttp]
      rfl
    · intro _
      exact hloopback hmem

/-- **When an accepted URI is safe.** -/
theorem default_redirect_uri_safe_iff {ext : Externals} (hext : ext.Documented) {uri : PyStr}
    (h : defaultRedirectUriValid ext uri = true) :
    SafeUri uri ↔ Clean uri ∧ WellBracketed uri := by
  constructor
  · intro hsafe
    refine ⟨hsafe.clean, ?_⟩
    intro hopen
    obtain ⟨host, hhost, -⟩ := hsafe.host
    rw [hostOf, if_pos hopen] at hhost
    split at hhost
    case isTrue hliteral => exact hliteral
    case isFalse => cases hhost
  · rintro ⟨hclean, hbrackets⟩
    exact safeUri_of_accepted hext h hclean hbrackets

/-! ## Accepted URIs -/

/-- The lower case of ASCII and of the Kelvin sign; in brackets, the address `::1`. -/
def sampleExternals : Externals where
  lowerCodePoint _ c _ := [if c = 0x212A then ofChar 'k' else asciiLower c]
  nfkc s := s
  checkBrackets netloc := (partition ']' (partition '[' netloc).2).1 = PyStr.ofString "::1"

theorem documented_sampleExternals : sampleExternals.Documented where
  lower_ascii before c after hc := by
    have hne : c ≠ 0x212A := by
      rintro rfl
      exact absurd hc (by decide)
    simp [sampleExternals, hne]
  lower_kelvin _ _ := rfl
  lower_other before c after hc hne := by
    refine ⟨asciiLower c, by simp [sampleExternals, hne], ?_⟩
    have hlt := (asciiLower_lt_iff c).not
    omega

/-- A loopback URI. -/
theorem default_redirect_uri_safe_iff_loopback :
    SafeUri (PyStr.ofString "HTTP://user@[::1]:3000/cb?next=/") :=
  (default_redirect_uri_safe_iff documented_sampleExternals (by decide +kernel)).mpr
    ⟨by decide +kernel, by decide +kernel⟩

/-- **An empty fragment passes**: so do blanks in front, and a host whose bracket is closed in the
userinfo. -/
theorem default_redirect_uri_unsafe :
    ¬ ∀ uri, defaultRedirectUriValid sampleExternals uri = true → SafeUri uri := by
  intro h
  have hsafe := h (PyStr.ofString "https://example.com/cb#") (by decide +kernel)
  have hmark : ofChar '#' ∈ PyStr.ofString "https://example.com/cb#" := by decide +kernel
  exact (hsafe.clean _ hmark).1 rfl

example :
    defaultRedirectUriValid sampleExternals (PyStr.ofString " https://example.com\\@evil.com/")
        = true ∧
      defaultRedirectUriValid sampleExternals (PyStr.ofString "http://]@[::1/") = true := by
  decide +kernel

end McpAuthflow.Registration
