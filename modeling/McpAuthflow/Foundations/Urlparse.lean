import McpAuthflow.Foundations.Text
import Mathlib.Data.List.DropRight
import Mathlib.Data.List.TakeWhile

/-! # `urllib.parse.urlsplit`

Python's parser of URLs, with what it takes from other modules, or does differently from version to
version, as a parameter (`Externals`). It looks at its argument with leading blanks, tabs and line
breaks removed (`sanitize`), so what it returns describes the text it was given only if there was
nothing to remove.

* **`map_asciiLower_of_lower`** — a text whose lower case is an ASCII word without `k` is that word,
  up to ASCII case;
* **`urlsplit_spec`** — the parts of a parsed URL, read off its sanitized text;
* **`map_asciiLower_of_hostname`** — the same of a host name as of a lower case. -/

namespace Urlparse

open CodePoint (ofChar)

/-! ## What comes from elsewhere -/

/-- `str.lower` of one code point between a text before and a text after it, the normal form NFKC,
and the check of a network location with brackets, which became stricter with the versions. -/
structure Externals where
  lowerCodePoint : PyStr → CodePoint → PyStr → PyStr
  nfkc : PyStr → PyStr
  checkBrackets : PyStr → Bool

/-- The lower case of an ASCII letter; every other code point stays. -/
def asciiLower (c : CodePoint) : CodePoint :=
  if h : 0x41 ≤ c.val ∧ c.val ≤ 0x5A then ⟨c.val + 0x20, by omega⟩ else c

/-- What is documented of `str.lower`: ASCII is mapped as expected, U+212A (the Kelvin sign) has the
lower case `k`, and the lower case of no other code point is in ASCII. -/
structure Externals.Documented (ext : Externals) : Prop where
  lower_ascii : ∀ before c after, c.val < 0x80 →
    ext.lowerCodePoint before c after = [asciiLower c]
  lower_kelvin : ∀ before after, ext.lowerCodePoint before 0x212A after = [ofChar 'k']
  lower_other : ∀ before c after, 0x80 ≤ c.val → c ≠ 0x212A →
    ∃ d ∈ ext.lowerCodePoint before c after, 0x80 ≤ d.val

variable (ext : Externals)

/-- `str.lower` of the rest of a text, `before` it. -/
def lowerFrom : PyStr → PyStr → PyStr
  | _, [] => []
  | before, c :: after => ext.lowerCodePoint before c after ++ lowerFrom (before ++ [c]) after

/-- `str.lower`. -/
def lower (s : PyStr) : PyStr := lowerFrom ext [] s

/-- `str.partition(sep)`, for a separator of one character: what is before the first one, and what
is after it. -/
def partition (sep : Char) (s : PyStr) : PyStr × PyStr :=
  (s.takeWhile (· ≠ ofChar sep), (s.dropWhile (· ≠ ofChar sep)).tail)

/-! ## The parser -/

/-- A parsed URL. `urlparse` splits the path once more, which fails on nothing. -/
structure SplitResult where
  scheme : PyStr
  netloc : PyStr
  path : PyStr
  query : PyStr
  fragment : PyStr

/-- What the parser looks at: no C0 control or space at the start, no tab or line break anywhere. -/
def sanitize (url : PyStr) : PyStr :=
  (url.dropWhile fun c => c.val ≤ 0x20).filter fun c =>
    c ≠ ofChar '\t' && c ≠ ofChar '\r' && c ≠ ofChar '\n'

/-- `isascii() and isalpha()`. -/
def isAsciiLetter (c : CodePoint) : Bool :=
  let n := c.val
  (0x41 ≤ n && n ≤ 0x5A) || (0x61 ≤ n && n ≤ 0x7A)

/-- `scheme_chars`. -/
def isSchemeChar (c : CodePoint) : Bool :=
  isAsciiLetter c || (0x30 ≤ c.val && c.val ≤ 0x39) || c = ofChar '+' || c = ofChar '-' ||
    c = ofChar '.'

/-- The scheme in front of the first colon, if it is one, and the rest. -/
def splitScheme (url : PyStr) : PyStr × PyStr :=
  let raw := url.takeWhile (· ≠ ofChar ':')
  if ofChar ':' ∈ url && raw.head?.any isAsciiLetter && raw.all isSchemeChar then
    (lower ext raw, (partition ':' url).2)
  else ([], url)

/-- The characters that end a network location. -/
def isDelimiter (c : CodePoint) : Bool := c = ofChar '/' || c = ofChar '?' || c = ofChar '#'

/-- The network location after `//`, and the rest. -/
def splitNetloc (url : PyStr) : PyStr × PyStr :=
  if url.take 2 = PyStr.ofString "//" then
    ((url.drop 2).takeWhile fun c => !isDelimiter c, (url.drop 2).dropWhile fun c => !isDelimiter c)
  else ([], url)

/-- What is after the userinfo: `rpartition("@")[2]`. -/
def afterUserinfo (netloc : PyStr) : PyStr := netloc.rtakeWhile (· ≠ ofChar '@')

/-- The brackets of a network location come together, and then they are checked; false is
`ValueError`. -/
def bracketsValid (netloc : PyStr) : Bool :=
  if ofChar '[' ∈ netloc && ofChar ']' ∈ netloc then ext.checkBrackets netloc
  else ofChar '[' ∉ netloc && ofChar ']' ∉ netloc

/-- `_checknetloc`; false is `ValueError`. -/
def checkNetloc (netloc : PyStr) : Bool :=
  if netloc.all fun c => c.val < 0x80 then true
  else
    let n := netloc.filter fun c =>
      c ≠ ofChar '@' && c ≠ ofChar ':' && c ≠ ofChar '#' && c ≠ ofChar '?'
    ext.nfkc n = n ||
      (ext.nfkc n).all fun c => !isDelimiter c && c ≠ ofChar '@' && c ≠ ofChar ':'

/-- `urlsplit(url)`; `none` is `ValueError`. -/
def urlsplit (url : PyStr) : Option SplitResult :=
  let (scheme, url) := splitScheme ext (sanitize url)
  let (netloc, url) := splitNetloc url
  if bracketsValid ext netloc && checkNetloc ext netloc then
    let (url, fragment) := partition '#' url
    let (path, query) := partition '?' url
    some ⟨scheme, netloc, path, query, fragment⟩
  else none

/-- `_hostinfo`. -/
def SplitResult.hostinfo (r : SplitResult) : PyStr × Option PyStr :=
  let hostinfo := afterUserinfo r.netloc
  let (hostname, port) :=
    if ofChar '[' ∈ hostinfo then
      let (hostname, rest) := partition ']' (partition '[' hostinfo).2
      (hostname, (partition ':' rest).2)
    else partition ':' hostinfo
  (hostname, if port = [] then none else some port)

/-- `.hostname`: the zone after a percent sign keeps its case. -/
def SplitResult.hostname (r : SplitResult) : Option PyStr :=
  let hostname := r.hostinfo.1
  if hostname = [] then none
  else
    some (lower ext (hostname.takeWhile (· ≠ ofChar '%')) ++ hostname.dropWhile (· ≠ ofChar '%'))

/-! ## Lower case -/

/-- Lowering reaches ASCII from ASCII only. -/
theorem asciiLower_lt_iff (c : CodePoint) : (asciiLower c).val < 0x80 ↔ c.val < 0x80 := by
  unfold asciiLower
  split
  · dsimp only
    omega
  · rfl

/-- What is lowered has no upper-case letter left. -/
theorem asciiLower_idem (c : CodePoint) : asciiLower (asciiLower c) = asciiLower c := by
  have hrange : ¬ (0x41 ≤ (asciiLower c).val ∧ (asciiLower c).val ≤ 0x5A) := by
    unfold asciiLower
    split
    · dsimp only
      omega
    · assumption
  rw [asciiLower, dif_neg hrange]

variable {ext}

/-- The lower case of an ASCII text. -/
theorem lower_of_isAscii (hext : ext.Documented) {s : PyStr} (h : ∀ c ∈ s, c.val < 0x80) :
    lower ext s = s.map asciiLower := by
  have hfrom : ∀ before, lowerFrom ext before s = s.map asciiLower := by
    induction s with
    | nil =>
      intro before
      rfl
    | cons c s ih =>
      intro before
      obtain ⟨hc, hs⟩ := List.forall_mem_cons.mp h
      rw [lowerFrom, hext.lower_ascii before c s hc, ih hs, List.map_cons, List.singleton_append]
  exact hfrom []

/-- Lowering an ASCII text once more changes nothing. -/
theorem lower_lower_of_isAscii (hext : ext.Documented) {s : PyStr} (h : ∀ c ∈ s, c.val < 0x80) :
    lower ext (lower ext s) = s.map asciiLower := by
  rw [lower_of_isAscii hext h, lower_of_isAscii hext]
  · rw [List.map_map]
    exact List.map_congr_left fun c _ => asciiLower_idem c
  · intro d hd
    obtain ⟨c, hc, rfl⟩ := List.mem_map.mp hd
    exact (asciiLower_lt_iff c).mpr (h c hc)

/-- **A text whose lower case is an ASCII word without `k`** is that word, up to ASCII case: nothing
but ASCII is lowered into it. -/
theorem map_asciiLower_of_lower (hext : ext.Documented) {s w : PyStr} (h : lower ext s = w)
    (hw : ∀ c ∈ w, c.val < 0x80 ∧ c ≠ ofChar 'k') : s.map asciiLower = w := by
  have hfrom : ∀ before w, lowerFrom ext before s = w →
      (∀ c ∈ w, c.val < 0x80 ∧ c ≠ ofChar 'k') → s.map asciiLower = w := by
    clear h hw
    induction s with
    | nil =>
      rintro before w rfl -
      rfl
    | cons c s ih =>
      rintro before w rfl hw
      rw [lowerFrom] at hw ⊢
      have hhead : ∀ d ∈ ext.lowerCodePoint before c s, d.val < 0x80 ∧ d ≠ ofChar 'k' :=
        fun d hd => hw d (List.mem_append_left _ hd)
      have hascii : c.val < 0x80 := by
        by_contra hc
        by_cases hkelvin : c = 0x212A
        · subst hkelvin
          rw [hext.lower_kelvin] at hhead
          exact (hhead (ofChar 'k') (List.mem_singleton.mpr rfl)).2 rfl
        · obtain ⟨d, hd, hle⟩ := hext.lower_other before c s (by omega) hkelvin
          have hlt := (hhead d hd).1
          omega
      rw [hext.lower_ascii before c s hascii, List.map_cons, List.singleton_append]
      rw [ih _ _ rfl fun d hd => hw d (List.mem_append_right _ hd)]
  exact hfrom [] w h hw

/-! ## Partitions -/

/-- The separator is not before itself. -/
theorem notMem_partition_fst (sep : Char) (s : PyStr) : ofChar sep ∉ (partition sep s).1 := by
  intro h
  have hne := List.mem_takeWhile_imp h
  simp at hne

/-- A text is cut at the first separator. -/
theorem partition_eq {sep : Char} {s t : PyStr} (h : ofChar sep ∉ s) :
    partition sep (s ++ ofChar sep :: t) = (s, t) := by
  have hall : ∀ c ∈ s, decide (c ≠ ofChar sep) = true := by
    intro c hc
    simp only [decide_eq_true_eq]
    rintro rfl
    exact h hc
  rw [partition, List.takeWhile_append_of_pos hall, List.dropWhile_append_of_pos hall]
  simp

/-- **A text with the separator** is what is before it, the separator, and what is after it. -/
theorem partition_append {sep : Char} {s : PyStr} (h : ofChar sep ∈ s) :
    (partition sep s).1 ++ ofChar sep :: (partition sep s).2 = s := by
  induction s with
  | nil => cases h
  | cons c s ih =>
    by_cases hc : c = ofChar sep
    · subst hc
      simp [partition]
    · have hmem : ofChar sep ∈ s := by
        rcases List.mem_cons.mp h with rfl | hmem
        · exact absurd rfl hc
        · exact hmem
      have hcons : partition sep (c :: s) = (c :: (partition sep s).1, (partition sep s).2) := by
        simp [partition, hc]
      rw [hcons, List.cons_append, ih hmem]

/-! ## The parts of a parsed URL -/

/-- A scheme that is there stands in front of a colon. -/
theorem splitScheme_spec {url : PyStr} (h : (splitScheme ext url).1 ≠ []) :
    ∃ raw, url = raw ++ ofChar ':' :: (splitScheme ext url).2 ∧
      (∀ c ∈ raw, isSchemeChar c = true) ∧ (splitScheme ext url).1 = lower ext raw := by
  unfold splitScheme at h ⊢
  dsimp only at h ⊢
  split at h
  case isTrue hcond =>
    simp only [Bool.and_eq_true, decide_eq_true_eq, List.all_eq_true] at hcond
    rw [if_pos (by simpa using hcond)]
    exact ⟨_, (partition_append hcond.1.1).symm, hcond.2, rfl⟩
  case isFalse => exact absurd rfl h

/-- A network location that is there stands after two slashes. -/
theorem splitNetloc_spec {url : PyStr} (h : (splitNetloc url).1 ≠ []) :
    ∃ after, url = PyStr.ofString "//" ++ after ∧
      (splitNetloc url).1 = after.takeWhile fun c => !isDelimiter c := by
  unfold splitNetloc at h ⊢
  split at h
  case isTrue hcond =>
    rw [if_pos hcond]
    refine ⟨url.drop 2, ?_, rfl⟩
    rw [← hcond, List.take_append_drop]
  case isFalse => exact absurd rfl h

/-- **The parts of a parsed URL** with a scheme and a network location, read off what the parser
looked at. -/
theorem urlsplit_spec {url : PyStr} {r : SplitResult} (h : urlsplit ext url = some r)
    (hscheme : r.scheme ≠ []) (hnetloc : r.netloc ≠ []) :
    ∃ raw after, sanitize url = raw ++ ofChar ':' :: (PyStr.ofString "//" ++ after) ∧
      (∀ c ∈ raw, isSchemeChar c = true) ∧ r.scheme = lower ext raw ∧
      r.netloc = after.takeWhile fun c => !isDelimiter c := by
  simp only [urlsplit] at h
  split at h
  case isTrue =>
    obtain rfl := Option.some_inj.mp h
    obtain ⟨raw, hurl, hraw, hlower⟩ := splitScheme_spec hscheme
    obtain ⟨after, hafter, htake⟩ := splitNetloc_spec hnetloc
    rw [hafter] at hurl
    exact ⟨raw, after, hurl, hraw, hlower, htake⟩
  case isFalse => cases h

/-- The host of a parsed URL without brackets ends before a colon. -/
theorem hostinfo_of_notMem {r : SplitResult} (h : ofChar '[' ∉ afterUserinfo r.netloc) :
    r.hostinfo.1 = (partition ':' (afterUserinfo r.netloc)).1 := by
  simp only [SplitResult.hostinfo, h, if_false]

/-- The host of a parsed URL in brackets is what they enclose. -/
theorem hostinfo_of_brackets {r : SplitResult} {literal port : PyStr}
    (h : afterUserinfo r.netloc = ofChar '[' :: (literal ++ ofChar ']' :: port))
    (hliteral : ofChar ']' ∉ literal) : r.hostinfo.1 = literal := by
  have hopen : partition '[' (ofChar '[' :: (literal ++ ofChar ']' :: port))
      = ([], literal ++ ofChar ']' :: port) := partition_eq (List.not_mem_nil)
  simp only [SplitResult.hostinfo, h, List.mem_cons_self, if_true, hopen, partition_eq hliteral]

/-- A host name is there iff the host is, and ends with its zone. -/
theorem hostname_eq_some {r : SplitResult} {hostname : PyStr} :
    r.hostname ext = some hostname ↔ r.hostinfo.1 ≠ [] ∧
      lower ext (r.hostinfo.1.takeWhile (· ≠ ofChar '%'))
        ++ r.hostinfo.1.dropWhile (· ≠ ofChar '%') = hostname := by
  unfold SplitResult.hostname
  dsimp only
  split
  case isTrue h => simp [h]
  case isFalse h => simp [h]

/-- **A host name that is an ASCII word without `k` and without a percent sign** is the host, up to
ASCII case. -/
theorem map_asciiLower_of_hostname (hext : ext.Documented) {r : SplitResult} {hostname : PyStr}
    (h : r.hostname ext = some hostname)
    (hw : ∀ c ∈ hostname, c.val < 0x80 ∧ c ≠ ofChar 'k' ∧ c ≠ ofChar '%') :
    r.hostinfo.1.map asciiLower = hostname := by
  obtain ⟨-, hparts⟩ := hostname_eq_some.mp h
  -- the zone begins with a percent sign
  have hzone : r.hostinfo.1.dropWhile (· ≠ ofChar '%') = [] := by
    cases hdrop : r.hostinfo.1.dropWhile (· ≠ ofChar '%') with
    | nil => rfl
    | cons c zone =>
      have hhead := List.head?_dropWhile_not (· ≠ ofChar '%') r.hostinfo.1
      rw [hdrop] at hhead hparts
      have hc : c = ofChar '%' := by simpa using hhead
      have hne := (hw c (hparts ▸ List.mem_append_right _ List.mem_cons_self)).2.2
      exact absurd hc hne
  have hname : r.hostinfo.1.takeWhile (· ≠ ofChar '%') = r.hostinfo.1 :=
    List.takeWhile_eq_self_iff.mpr (List.dropWhile_eq_nil_iff.mp hzone)
  rw [hzone, hname, List.append_nil] at hparts
  exact map_asciiLower_of_lower hext hparts fun c hc => ⟨(hw c hc).1, (hw c hc).2.1⟩

end Urlparse
