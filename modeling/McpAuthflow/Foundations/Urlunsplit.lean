import McpAuthflow.Foundations.Urlparse

/-! # `urllib.parse.urlunsplit`

A URL is put together from its parts. **`urlsplit_urlunsplit`**: what is put together from the parts
of a parsed URL, with another query, is parsed into these parts again, if its scheme is `http` or
`https` and its path is empty or begins with a slash. -/

namespace Urlparse

open CodePoint (ofChar)

variable {ext : Externals}

/-! ## Putting a URL together -/

/-- `uses_netloc`. -/
def usesNetloc : List PyStr :=
  ["", "ftp", "http", "gopher", "nntp", "telnet", "imap", "wais", "file", "mms", "https", "shttp",
    "snews", "prospero", "rtsp", "rtsps", "rtspu", "rsync", "svn", "svn+ssh", "sftp", "nfs", "git",
    "git+ssh", "ws", "wss"].map PyStr.ofString

/-- The network location and the path, as CPython joins them from 3.12.4 on. Without a network
location the versions differ: up to 3.12.3 a path that begins with `//` gets no `//` of its own, and
the later ones put no slash before a path that has none. -/
def joinNetloc (scheme netloc path : PyStr) : PyStr :=
  if netloc ≠ [] ∨ (scheme ≠ [] ∧ scheme ∈ usesNetloc) ∨ path.take 2 = PyStr.ofString "//" then
    let path :=
      if path ≠ [] ∧ path.take 1 ≠ PyStr.ofString "/" then ofChar '/' :: path else path
    PyStr.ofString "//" ++ (netloc ++ path)
  else path

/-- `urlunsplit`. -/
def urlunsplit (r : SplitResult) : PyStr :=
  let url := joinNetloc r.scheme r.netloc r.path
  let url := if r.scheme ≠ [] then r.scheme ++ ofChar ':' :: url else url
  let url := if r.query ≠ [] then url ++ ofChar '?' :: r.query else url
  if r.fragment ≠ [] then url ++ ofChar '#' :: r.fragment else url

/-! ## What parsing establishes -/

/-- No tab and no line break. -/
def IsClean (s : PyStr) : Prop :=
  ∀ c ∈ s, c ≠ ofChar '\t' ∧ c ≠ ofChar '\r' ∧ c ≠ ofChar '\n'

/-- The parts of a parsed URL are free of the characters that end them. -/
structure Parsed (ext : Externals) (r : SplitResult) : Prop where
  netloc_clean : IsClean r.netloc
  path_clean : IsClean r.path
  fragment_clean : IsClean r.fragment
  netloc : ∀ c ∈ r.netloc, isDelimiter c = false
  valid : (bracketsValid ext r.netloc && checkNetloc ext r.netloc) = true
  path : ofChar '?' ∉ r.path ∧ ofChar '#' ∉ r.path

theorem IsClean.sublist {s t : PyStr} (h : IsClean t) (hsub : s.Sublist t) : IsClean s :=
  fun c hc => h c (hsub.subset hc)

theorem isClean_sanitize (url : PyStr) : IsClean (sanitize url) := by
  intro c hc
  have hkeep := (List.mem_filter.mp hc).2
  simpa [and_assoc] using hkeep

/-- The parts of a partition are parts of the text. -/
theorem partition_sublist (sep : Char) (s : PyStr) :
    (partition sep s).1.Sublist s ∧ (partition sep s).2.Sublist s :=
  ⟨List.takeWhile_sublist _, (List.tail_sublist _).trans (List.dropWhile_sublist _)⟩

theorem splitScheme_sublist (url : PyStr) : (splitScheme ext url).2.Sublist url := by
  unfold splitScheme
  dsimp only
  split_ifs
  · exact (partition_sublist ':' url).2
  · exact List.Sublist.refl _

theorem splitNetloc_sublist (url : PyStr) :
    (splitNetloc url).1.Sublist url ∧ (splitNetloc url).2.Sublist url := by
  unfold splitNetloc
  split_ifs
  · exact ⟨(List.takeWhile_sublist _).trans (List.drop_sublist _ _),
      (List.dropWhile_sublist _).trans (List.drop_sublist _ _)⟩
  · exact ⟨List.nil_sublist _, List.Sublist.refl _⟩

/-- A network location ends before a delimiter. -/
theorem isDelimiter_of_mem_splitNetloc {url : PyStr} {c : CodePoint}
    (h : c ∈ (splitNetloc url).1) : isDelimiter c = false := by
  unfold splitNetloc at h
  split_ifs at h
  · simpa using List.mem_takeWhile_imp h
  · cases h

/-- **Parsing establishes it.** -/
theorem parsed_of_urlsplit {url : PyStr} {r : SplitResult} (h : urlsplit ext url = some r) :
    Parsed ext r := by
  simp only [urlsplit] at h
  split at h
  case isTrue hvalid =>
    obtain rfl := Option.some_inj.mp h
    have hrest : IsClean (splitScheme ext (sanitize url)).2 :=
      (isClean_sanitize url).sublist (splitScheme_sublist _)
    obtain ⟨hnetloc, hafter⟩ := splitNetloc_sublist (splitScheme ext (sanitize url)).2
    obtain ⟨hurl, hfragment⟩ :=
      partition_sublist '#' (splitNetloc (splitScheme ext (sanitize url)).2).2
    obtain ⟨hpath, -⟩ :=
      partition_sublist '?' (partition '#' (splitNetloc (splitScheme ext (sanitize url)).2).2).1
    exact
      { netloc_clean := hrest.sublist hnetloc
        path_clean := hrest.sublist (hpath.trans (hurl.trans hafter))
        fragment_clean := hrest.sublist (hfragment.trans hafter)
        netloc := fun c hc => isDelimiter_of_mem_splitNetloc hc
        valid := hvalid
        path := ⟨notMem_partition_fst '?' _,
          fun hmem => notMem_partition_fst '#' _ (hpath.subset hmem)⟩ }
  case isFalse => cases h

/-- It says nothing of the query. -/
theorem Parsed.withQuery {r : SplitResult} (h : Parsed ext r) (query : PyStr) :
    Parsed ext { r with query } :=
  { netloc_clean := h.netloc_clean
    path_clean := h.path_clean
    fragment_clean := h.fragment_clean
    netloc := h.netloc
    valid := h.valid
    path := h.path }

/-- The query is a part of the URL. -/
theorem query_sublist {url : PyStr} {r : SplitResult} (h : urlsplit ext url = some r) :
    r.query.Sublist url := by
  simp only [urlsplit] at h
  split at h
  case isTrue =>
    obtain rfl := Option.some_inj.mp h
    -- outwards from the query: the parser cuts, one after another
    have hquery := (partition_sublist '?'
      (partition '#' (splitNetloc (splitScheme ext (sanitize url)).2).2).1).2
    have hurl := (partition_sublist '#' (splitNetloc (splitScheme ext (sanitize url)).2).2).1
    have hafter := (splitNetloc_sublist (splitScheme ext (sanitize url)).2).2
    have hrest : (splitScheme ext (sanitize url)).2.Sublist (sanitize url) :=
      splitScheme_sublist _
    have hsanitize : (sanitize url).Sublist url :=
      List.filter_sublist.trans (List.dropWhile_sublist _)
    exact hquery.trans (hurl.trans (hafter.trans (hrest.trans hsanitize)))
  case isFalse => cases h

/-! ## Parsing what was put together -/

/-- A scheme that stays what it is: ASCII in lower case, with a letter in front. -/
def IsScheme (ext : Externals) (scheme : PyStr) : Prop :=
  scheme ≠ [] ∧ scheme.head?.any isAsciiLetter = true ∧ scheme.all isSchemeChar = true ∧
    lower ext scheme = scheme

/-- The characters of a scheme are ASCII, so one in lower case stays. -/
theorem isScheme_of_map_asciiLower (hext : ext.Documented) {scheme : PyStr}
    (hhead : scheme.head?.any isAsciiLetter = true) (hall : scheme.all isSchemeChar = true)
    (hlower : scheme.map asciiLower = scheme) : IsScheme ext scheme := by
  have hne : scheme ≠ [] := by
    rintro rfl
    cases hhead
  refine ⟨hne, hhead, hall, ?_⟩
  rw [lower_of_isAscii hext, hlower]
  intro c hc
  have hchar := List.all_eq_true.mp hall c hc
  simp only [isSchemeChar, isAsciiLetter, Bool.or_eq_true, Bool.and_eq_true, decide_eq_true_eq]
    at hchar
  rcases hchar with (((hletter | hdigit) | rfl) | rfl) | rfl
  · omega
  · omega
  · decide
  · decide
  · decide

/-- The scheme is read off in front of the colon. -/
theorem splitScheme_append {scheme : PyStr} (h : IsScheme ext scheme) (rest : PyStr) :
    splitScheme ext (scheme ++ ofChar ':' :: rest) = (scheme, rest) := by
  obtain ⟨hne, hhead, hall, hlower⟩ := h
  have hcolon : ofChar ':' ∉ scheme := fun hmem =>
    absurd (List.all_eq_true.mp hall _ hmem) (by decide)
  have hpartition := partition_eq (t := rest) hcolon
  have hraw : (scheme ++ ofChar ':' :: rest).takeWhile (· ≠ ofChar ':') = scheme :=
    congrArg Prod.fst hpartition
  simp only [splitScheme, hraw, hpartition, hlower, hhead, hall]
  simp

/-- The network location is read off between two slashes and a delimiter. -/
theorem splitNetloc_append {netloc rest : PyStr} (hnetloc : ∀ c ∈ netloc, isDelimiter c = false)
    (hrest : rest.head?.all isDelimiter = true) :
    splitNetloc (PyStr.ofString "//" ++ (netloc ++ rest)) = (netloc, rest) := by
  have hslashes : PyStr.ofString "//" = [ofChar '/', ofChar '/'] := rfl
  have hall : ∀ c ∈ netloc, (!isDelimiter c) = true := fun c hc => by simp [hnetloc c hc]
  have hstop : rest.takeWhile (fun c => !isDelimiter c) = [] ∧
      rest.dropWhile (fun c => !isDelimiter c) = rest := by
    cases rest with
    | nil => exact ⟨rfl, rfl⟩
    | cons c rest =>
      have hc : isDelimiter c = true := by simpa using hrest
      simp [hc]
  simp only [splitNetloc, hslashes, List.cons_append, List.nil_append, List.take_succ_cons,
    List.take_zero, if_true, List.drop_succ_cons, List.drop_zero,
    List.takeWhile_append_of_pos hall, List.dropWhile_append_of_pos hall, hstop, List.append_nil]

/-- Nothing is removed from a clean text with a visible first character. -/
theorem sanitize_of_isClean {c : CodePoint} {s : PyStr} (hc : 0x20 < c.val)
    (h : IsClean (c :: s)) : sanitize (c :: s) = c :: s := by
  have hfirst : (c :: s).dropWhile (fun c => c.val ≤ 0x20) = c :: s := by
    rw [List.dropWhile_cons_of_neg (by simpa using hc)]
  rw [sanitize, hfirst, List.filter_eq_self]
  intro d hd
  simpa [and_assoc] using h d hd

/-- The fragment, and the query before it, are read off. -/
theorem partition_fragment {url fragment : PyStr} (h : ofChar '#' ∉ url) :
    partition '#' (if fragment ≠ [] then url ++ ofChar '#' :: fragment else url)
      = (url, fragment) := by
  split_ifs with hfragment
  · exact partition_eq h
  · have hall : ∀ c ∈ url, decide (c ≠ ofChar '#') = true := by
      intro c hc
      simp only [decide_eq_true_eq]
      rintro rfl
      exact h hc
    rw [partition, List.takeWhile_eq_self_iff.mpr hall, List.dropWhile_eq_nil_iff.mpr hall,
      not_ne_iff.mp hfragment]
    rfl

/-- A character of a query that ends neither it nor the URL, and that the parser keeps. -/
def IsQueryChar (c : CodePoint) : Prop := 0x20 < c.val ∧ c ≠ ofChar '#'

/-- An empty path, or one that begins with a slash. -/
def IsAbsOrEmpty (path : PyStr) : Prop := path = [] ∨ ∃ rest, path = ofChar '/' :: rest

/-- What stands behind a network location begins with a delimiter. -/
theorem head?_splitNetloc {url : PyStr} (h : (splitNetloc url).1 ≠ []) :
    (splitNetloc url).2.head?.all isDelimiter = true := by
  unfold splitNetloc at h ⊢
  split_ifs at h ⊢
  · have hstop := List.head?_dropWhile_not (fun c => !isDelimiter c) (url.drop 2)
    revert hstop
    cases ((url.drop 2).dropWhile fun c => !isDelimiter c).head? with
    | none =>
      intro hstop
      rfl
    | some c =>
      intro hstop
      simpa using hstop
  · exact absurd rfl h

/-- The path of a text that begins with a delimiter, if with anything. -/
theorem isAbsOrEmpty_partition {rest : PyStr} (h : rest.head?.all isDelimiter = true) :
    IsAbsOrEmpty (partition '?' (partition '#' rest).1).1 := by
  cases rest with
  | nil => exact .inl rfl
  | cons c rest =>
    have hc : isDelimiter c = true := by simpa using h
    simp only [isDelimiter, Bool.or_eq_true, decide_eq_true_eq] at hc
    rcases hc with (rfl | rfl) | rfl
    · have hslash : ofChar '/' ≠ ofChar '#' ∧ ofChar '/' ≠ ofChar '?' := by decide
      refine .inr ⟨(partition '?' (partition '#' rest).1).1, ?_⟩
      simp [partition, hslash.1, hslash.2]
    · have hmark : ofChar '?' ≠ ofChar '#' := by decide
      exact .inl (by simp [partition, hmark])
    · exact .inl (by simp [partition])

/-- Behind a network location no other path is parsed. -/
theorem isAbsOrEmpty_of_netloc {url : PyStr} {r : SplitResult} (h : urlsplit ext url = some r)
    (hnetloc : r.netloc ≠ []) : IsAbsOrEmpty r.path := by
  simp only [urlsplit] at h
  split at h
  case isTrue =>
    obtain rfl := Option.some_inj.mp h
    exact isAbsOrEmpty_partition (head?_splitNetloc hnetloc)
  case isFalse => cases h

/-- An absolute or empty path is put behind two slashes as it is. -/
theorem joinNetloc_eq {scheme path : PyStr} (hscheme : scheme ≠ []) (huses : scheme ∈ usesNetloc)
    (hpath : IsAbsOrEmpty path) (netloc : PyStr) :
    joinNetloc scheme netloc path = PyStr.ofString "//" ++ (netloc ++ path) := by
  have hslash : ¬ (path ≠ [] ∧ path.take 1 ≠ PyStr.ofString "/") := by
    rintro ⟨hne, htake⟩
    rcases hpath with rfl | ⟨rest, rfl⟩
    · exact hne rfl
    · exact htake rfl
  rw [joinNetloc, if_pos (.inr (.inl ⟨hscheme, huses⟩)), if_neg hslash]

/-- What is behind the network location: the path, the query and the fragment. -/
def afterNetloc (r : SplitResult) : PyStr :=
  if r.fragment ≠ [] then (r.path ++ ofChar '?' :: r.query) ++ ofChar '#' :: r.fragment
  else r.path ++ ofChar '?' :: r.query

/-- A URL with a scheme, an absolute or empty path and a query, put together. -/
theorem urlunsplit_eq {r : SplitResult} (hscheme : r.scheme ≠ []) (huses : r.scheme ∈ usesNetloc)
    (hpath : IsAbsOrEmpty r.path) (hquery : r.query ≠ []) :
    urlunsplit r
      = r.scheme ++ ofChar ':' :: (PyStr.ofString "//" ++ (r.netloc ++ afterNetloc r)) := by
  rw [urlunsplit, joinNetloc_eq hscheme huses hpath, afterNetloc]
  simp only [if_pos hscheme, if_pos hquery]
  split_ifs <;> simp

/-- It is clean. -/
theorem isClean_urlunsplit {r : SplitResult} (h : Parsed ext r) (hscheme : IsScheme ext r.scheme)
    (hquery : ∀ c ∈ r.query, IsQueryChar c) :
    IsClean (r.scheme ++ ofChar ':' :: (PyStr.ofString "//" ++ (r.netloc ++ afterNetloc r))) := by
  -- part by part, with the delimiters between them
  have hname : IsClean r.scheme := by
    intro c hc
    have hchar := List.all_eq_true.mp hscheme.2.2.1 c hc
    refine ⟨?_, ?_, ?_⟩ <;> (rintro rfl; exact absurd hchar (by decide))
  have hdata : IsClean r.query := by
    intro c hc
    have hchar := (hquery c hc).1
    refine ⟨?_, ?_, ?_⟩ <;> (rintro rfl; exact absurd hchar (by decide))
  have hrest : IsClean (afterNetloc r) := by
    have hpath := h.path_clean
    have hfragment := h.fragment_clean
    unfold afterNetloc
    simp only [IsClean] at hpath hfragment hdata ⊢
    split_ifs
    · simp only [List.forall_mem_append, List.forall_mem_cons]
      exact ⟨⟨hpath, by decide, hdata⟩, by decide, hfragment⟩
    · simp only [List.forall_mem_append, List.forall_mem_cons]
      exact ⟨hpath, by decide, hdata⟩
  have hslashes : IsClean (PyStr.ofString "//") := by
    intro c hc
    obtain rfl : c = ofChar '/' := by simpa [PyStr.ofString] using hc
    decide
  have hnetloc := h.netloc_clean
  simp only [IsClean] at hname hrest hslashes hnetloc ⊢
  simp only [List.forall_mem_append, List.forall_mem_cons]
  exact ⟨hname, by decide, hslashes, hnetloc, hrest⟩

/-- **The parts of a parsed URL, with another query, are parsed again.** -/
theorem urlsplit_urlunsplit {r : SplitResult} (h : Parsed ext r) (hscheme : IsScheme ext r.scheme)
    (huses : r.scheme ∈ usesNetloc) (hpath : IsAbsOrEmpty r.path) (hne : r.query ≠ [])
    (hquery : ∀ c ∈ r.query, IsQueryChar c) : urlsplit ext (urlunsplit r) = some r := by
  -- the text begins with a letter and holds nothing that the parser removes
  have hclean := isClean_urlunsplit h hscheme hquery
  have hsanitize : sanitize (urlunsplit r) = urlunsplit r := by
    rw [urlunsplit_eq hscheme.1 huses hpath hne]
    cases hname : r.scheme with
    | nil => exact absurd hname hscheme.1
    | cons c name =>
      have hletter : isAsciiLetter c = true := by simpa [hname] using hscheme.2.1
      rw [hname] at hclean
      refine sanitize_of_isClean ?_ hclean
      simp only [isAsciiLetter, Bool.or_eq_true, Bool.and_eq_true, decide_eq_true_eq] at hletter
      omega
  -- then the parser cuts where the parts were put together
  have hdelimiter : (afterNetloc r).head?.all isDelimiter = true := by
    unfold afterNetloc
    rcases hpath with hempty | ⟨rest, hrest⟩
    · rw [hempty]
      split_ifs <;> rfl
    · rw [hrest]
      split_ifs <;> rfl
  have hmark : ofChar '#' ∉ r.path ++ ofChar '?' :: r.query := by
    intro hmem
    rcases List.mem_append.mp hmem with hmem | hmem
    · exact h.path.2 hmem
    · rcases List.mem_cons.mp hmem with heq | hmem
      · exact absurd heq (by decide)
      · exact (hquery _ hmem).2 rfl
  rw [urlsplit, hsanitize, urlunsplit_eq hscheme.1 huses hpath hne, splitScheme_append hscheme]
  simp only [splitNetloc_append h.netloc hdelimiter]
  rw [if_pos h.valid, afterNetloc, partition_fragment hmark]
  simp only [partition_eq h.path.1]

end Urlparse
