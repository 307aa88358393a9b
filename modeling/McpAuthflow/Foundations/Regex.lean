import McpAuthflow.Foundations.Text

/-! # Regular expressions, matched from the start of a text

The expressions are those made of `^`, `$`, character classes, concatenation and `r{lo,hi}`. `ends`
is the backtracking search of `re.match`: the positions at which a match that begins at a given one
can end, in the order in which they are tried. `Spans` says without a search what a match is.

* **`mem_ends_iff`** — the search finds the matches and nothing else;
* **`isMatch_whole_iff`** — `^[…]{lo,hi}$` accepts the runs of the class, and the runs with one
  newline behind them, since `$` also stands before a newline that ends the text;
* **`whole_exact_iff`** — where it tells the runs from all other texts. -/

/-- A regular expression. -/
inductive Regex where
  /-- `^`: the start of the text. -/
  | bol
  /-- `$`: the end of the text, or the newline that ends it. -/
  | eol
  /-- `[…]`: a character of one of the ranges, which hold both their bounds. -/
  | set (ranges : List (CodePoint × CodePoint))
  /-- `rs`. -/
  | seq (r s : Regex)
  /-- `r{lo,hi}`. -/
  | rep (r : Regex) (lo hi : ℕ)

namespace Regex

/-- `a-b` in a character class. -/
def range (a b : Char) : CodePoint × CodePoint := (CodePoint.ofChar a, CodePoint.ofChar b)

/-- A character that stands for itself in a character class. -/
def single (a : Char) : CodePoint × CodePoint := range a a

/-- A character is in a class. -/
def inRanges (ranges : List (CodePoint × CodePoint)) (c : CodePoint) : Bool :=
  ranges.any fun r => r.1 ≤ c && c ≤ r.2

theorem inRanges_nil (c : CodePoint) : inRanges [] c = false := rfl

theorem inRanges_cons_iff {r : CodePoint × CodePoint} {ranges : List (CodePoint × CodePoint)}
    {c : CodePoint} :
    inRanges (r :: ranges) c = true ↔
      (r.1.val ≤ c.val ∧ c.val ≤ r.2.val) ∨ inRanges ranges c = true := by
  rw [inRanges, List.any_cons, Bool.or_eq_true, Bool.and_eq_true, decide_eq_true_eq,
    decide_eq_true_eq]
  rfl

/-- `$` matches at a position. -/
def AtEnd (text : PyStr) (p : ℕ) : Prop :=
  p = text.length ∨ (p + 1 = text.length ∧ text[p]? = some (CodePoint.ofChar '\n'))

instance (text : PyStr) (p : ℕ) : Decidable (AtEnd text p) :=
  inferInstanceAs (Decidable (_ ∨ _))

/-! ## The search -/

/-- `lo` to `hi` rounds of `step`, as many as possible first. -/
def repEnds (step : ℕ → List ℕ) : ℕ → ℕ → ℕ → List ℕ
  | lo, 0, p => if lo = 0 then [p] else []
  | lo, hi + 1, p =>
    (step p).flatMap (repEnds step (lo - 1) hi) ++ if lo = 0 then [p] else []

/-- The positions at which a match that begins at `p` can end. -/
def ends (text : PyStr) : Regex → ℕ → List ℕ
  | bol, p => if p = 0 then [p] else []
  | eol, p => if AtEnd text p then [p] else []
  | set ranges, p =>
    match text[p]? with
    | some c => if inRanges ranges c then [p + 1] else []
    | none => []
  | seq r s, p => (ends text r p).flatMap (ends text s)
  | rep r lo hi, p => repEnds (ends text r) lo hi p

/-- `re.match` finds a match. -/
def isMatch (r : Regex) (text : PyStr) : Bool := !(r.ends text 0).isEmpty

/-! ## Matches -/

/-- **What a match is**: the expression matches the text from `p` to `q`. -/
inductive Spans (text : PyStr) : Regex → ℕ → ℕ → Prop where
  /-- `^` matches nothing, at the start. -/
  | bol : Spans text bol 0 0
  /-- `$` matches nothing, at the end. -/
  | eol {p : ℕ} : AtEnd text p → Spans text eol p p
  /-- A class matches one of its characters. -/
  | set {ranges : List (CodePoint × CodePoint)} {p : ℕ} {c : CodePoint} :
      text[p]? = some c → inRanges ranges c = true → Spans text (set ranges) p (p + 1)
  /-- The second part begins where the first one ends. -/
  | seq {r s : Regex} {p q t : ℕ} : Spans text r p q → Spans text s q t →
      Spans text (seq r s) p t
  /-- No round is left to do. -/
  | stop {r : Regex} {hi p : ℕ} : Spans text (rep r 0 hi) p p
  /-- One round, and then the others. -/
  | more {r : Regex} {lo hi p q t : ℕ} : Spans text r p q → Spans text (rep r (lo - 1) hi) q t →
      Spans text (rep r lo (hi + 1)) p t

section

variable {text : PyStr} {r s : Regex} {ranges : List (CodePoint × CodePoint)} {lo hi p q t : ℕ}

/-! ## The search finds the matches -/

/-- `^` matches at the start only. -/
theorem spans_bol_iff : Spans text bol p q ↔ p = 0 ∧ q = 0 := by
  constructor
  · intro h
    cases h with
    | bol => exact ⟨rfl, rfl⟩
  · rintro ⟨rfl, rfl⟩
    exact .bol

/-- `$` matches at the end, and takes nothing. -/
theorem spans_eol_iff : Spans text eol p q ↔ AtEnd text p ∧ q = p := by
  constructor
  · intro h
    cases h with
    | eol hend => exact ⟨hend, rfl⟩
  · rintro ⟨hend, rfl⟩
    exact .eol hend

/-- A match of a sequence, taken apart. -/
theorem spans_seq_iff : Spans text (seq r s) p t ↔ ∃ q, Spans text r p q ∧ Spans text s q t := by
  constructor
  · intro h
    cases h with
    | seq hr hs => exact ⟨_, hr, hs⟩
  · rintro ⟨q, hr, hs⟩
    exact .seq hr hs

/-- A match of a class is one character long. -/
theorem spans_set_iff :
    Spans text (set ranges) p q ↔
      q = p + 1 ∧ ∃ c, text[p]? = some c ∧ inRanges ranges c = true := by
  constructor
  · intro h
    cases h with
    | set hc hrange => exact ⟨rfl, _, hc, hrange⟩
  · rintro ⟨rfl, c, hc, hrange⟩
    exact .set hc hrange

/-- With no rounds allowed there is a match iff none is asked for. -/
theorem spans_rep_zero_iff : Spans text (rep r lo 0) p q ↔ lo = 0 ∧ q = p := by
  constructor
  · intro h
    cases h with
    | stop => exact ⟨rfl, rfl⟩
  · rintro ⟨rfl, rfl⟩
    exact .stop

/-- Otherwise a round is done, or none is asked for. -/
theorem spans_rep_succ_iff :
    Spans text (rep r lo (hi + 1)) p t ↔
      (∃ q, Spans text r p q ∧ Spans text (rep r (lo - 1) hi) q t) ∨ (lo = 0 ∧ t = p) := by
  constructor
  · intro h
    cases h with
    | stop => exact .inr ⟨rfl, rfl⟩
    | more hr hrest => exact .inl ⟨_, hr, hrest⟩
  · rintro (⟨q, hr, hrest⟩ | ⟨rfl, rfl⟩)
    · exact .more hr hrest
    · exact .stop

/-- The rounds of a search that finds the matches of `r` are the matches of `r{lo,hi}`. -/
theorem mem_repEnds_iff {step : ℕ → List ℕ} (hstep : ∀ p q, q ∈ step p ↔ Spans text r p q) :
    q ∈ repEnds step lo hi p ↔ Spans text (rep r lo hi) p q := by
  -- on the rounds that are allowed; those asked for and the position change with each
  induction hi generalizing lo p with
  | zero =>
    rw [spans_rep_zero_iff, repEnds]
    split_ifs with hlo <;> simp [hlo]
  | succ hi ih =>
    rw [spans_rep_succ_iff, repEnds, List.mem_append, List.mem_flatMap]
    simp only [hstep, ih]
    split_ifs with hlo <;> simp [hlo]

/-- **The search finds the matches**, all of them and nothing else. -/
theorem mem_ends_iff (r : Regex) (p q : ℕ) : q ∈ r.ends text p ↔ Spans text r p q := by
  -- one case for each constructor; the parts of a sequence meet at any position
  induction r generalizing p q with
  | bol =>
    rw [spans_bol_iff, ends]
    split_ifs with hp <;> simp [hp]
  | eol =>
    rw [spans_eol_iff, ends]
    split_ifs with hend <;> simp [hend]
  | set ranges =>
    rw [spans_set_iff, ends]
    cases hc : text[p]? with
    | none => simp
    | some c =>
      show q ∈ (if inRanges ranges c = true then [p + 1] else []) ↔ _
      split_ifs with hrange <;> simp [hrange]
  | seq r s ihr ihs =>
    rw [spans_seq_iff, ends, List.mem_flatMap]
    simp only [ihr, ihs]
  | rep r lo hi ih => exact mem_repEnds_iff fun p q => ih p q

/-- There is a match iff the search finds one. -/
theorem isMatch_iff : r.isMatch text = true ↔ ∃ q, Spans text r 0 q := by
  rw [isMatch, Bool.not_eq_true', List.isEmpty_eq_false_iff_exists_mem]
  simp only [mem_ends_iff]

/-! ## A bounded run of one class -/

/-- A text of `lo` to `hi` characters of a class. -/
def IsRun (ranges : List (CodePoint × CodePoint)) (lo hi : ℕ) (word : PyStr) : Prop :=
  lo ≤ word.length ∧ word.length ≤ hi ∧ ∀ c ∈ word, inRanges ranges c = true

/-- `[…]{lo,hi}` matches the runs of the class. -/
theorem spans_rep_set_iff :
    Spans text (rep (set ranges) lo hi) p q ↔
      ∃ word, IsRun ranges lo hi word ∧ word <+: text.drop p ∧ q = p + word.length := by
  induction hi generalizing lo p with
  | zero =>
    rw [spans_rep_zero_iff]
    constructor
    · rintro ⟨rfl, rfl⟩
      exact ⟨[], by simp [IsRun], List.nil_prefix, by simp⟩
    · rintro ⟨word, ⟨hlo, hhi, -⟩, -, rfl⟩
      omega
  | succ hi ih =>
    simp only [spans_rep_succ_iff, spans_set_iff, ih]
    constructor
    · rintro (⟨q', ⟨rfl, c, hc, hrange⟩, word, ⟨hlo, hhi, hword⟩, hpre, rfl⟩ | ⟨rfl, rfl⟩)
      · -- the character of the first round stands before the word of the others
        have hdrop : text.drop p = c :: text.drop (p + 1) := by
          obtain ⟨hp, rfl⟩ := List.getElem?_eq_some_iff.mp hc
          exact List.drop_eq_getElem_cons hp
        refine ⟨c :: word, ⟨?_, ?_, ?_⟩, ?_, ?_⟩
        · rw [List.length_cons]
          omega
        · rw [List.length_cons]
          omega
        · exact List.forall_mem_cons.mpr ⟨hrange, hword⟩
        · rw [hdrop]
          exact (List.prefix_cons_inj c).mpr hpre
        · rw [List.length_cons]
          omega
      · exact ⟨[], by simp [IsRun], List.nil_prefix, by simp⟩
    · -- the first character of the word is the first round
      rintro ⟨word, ⟨hlo, hhi, hword⟩, hpre, rfl⟩
      cases word with
      | nil => exact .inr ⟨by simpa using hlo, by simp⟩
      | cons c word =>
        obtain ⟨rest, hrest⟩ := hpre
        have hc : text[p]? = some c := by
          rw [← List.head?_drop, ← hrest]
          rfl
        have hdrop : text.drop (p + 1) = word ++ rest := by
          rw [← List.tail_drop, ← hrest]
          rfl
        rw [List.length_cons] at hlo hhi
        refine .inl ⟨p + 1, ⟨rfl, c, hc, hword c List.mem_cons_self⟩, word, ⟨by omega, by omega,
          fun d hd => hword d (List.mem_cons_of_mem c hd)⟩, ⟨rest, hdrop.symm⟩, ?_⟩
        rw [List.length_cons]
        omega

/-- `^[…]{lo,hi}$`. -/
def whole (ranges : List (CodePoint × CodePoint)) (lo hi : ℕ) : Regex :=
  seq bol (seq (rep (set ranges) lo hi) eol)

/-- `$` stands behind a word iff nothing but one newline does. -/
theorem atEnd_append_iff {word rest : PyStr} :
    AtEnd (word ++ rest) word.length ↔ rest = [] ∨ rest = PyStr.ofString "\n" := by
  have hnewline : PyStr.ofString "\n" = [CodePoint.ofChar '\n'] := rfl
  rw [AtEnd, List.length_append, List.getElem?_append_right le_rfl, Nat.sub_self, hnewline]
  cases rest with
  | nil => simp
  | cons c rest =>
    cases rest with
    | nil => simp
    | cons d rest => simp

/-- **What `^[…]{lo,hi}$` accepts.** -/
theorem isMatch_whole_iff :
    (whole ranges lo hi).isMatch text = true ↔
      ∃ word rest, text = word ++ rest ∧ IsRun ranges lo hi word ∧
        (rest = [] ∨ rest = PyStr.ofString "\n") := by
  rw [isMatch_iff]
  constructor
  · rintro ⟨q, h⟩
    -- `^` stays at the start, the class takes the word, and `$` looks at what is left
    obtain ⟨_, hbol, h⟩ := spans_seq_iff.mp h
    obtain ⟨-, rfl⟩ := spans_bol_iff.mp hbol
    obtain ⟨_, hrep, heol⟩ := spans_seq_iff.mp h
    obtain ⟨word, hrun, ⟨rest, rfl⟩, rfl⟩ := spans_rep_set_iff.mp hrep
    obtain ⟨hend, -⟩ := spans_eol_iff.mp heol
    rw [Nat.zero_add] at hend
    exact ⟨word, rest, rfl, hrun, atEnd_append_iff.mp hend⟩
  · rintro ⟨word, rest, rfl, hrun, hrest⟩
    have hrep : Spans (word ++ rest) (rep (set ranges) lo hi) 0 word.length :=
      spans_rep_set_iff.mpr ⟨word, hrun, List.prefix_append word rest, by rw [Nat.zero_add]⟩
    exact ⟨word.length, .seq .bol (.seq hrep (.eol (atEnd_append_iff.mpr hrest)))⟩

/-- **Where `^[…]{lo,hi}$` tells the runs from all other texts**: everywhere but on the runs with a
newline behind them, unless newlines are in the class. -/
theorem whole_exact_iff (hnewline : inRanges ranges (CodePoint.ofChar '\n') = false) :
    ((whole ranges lo hi).isMatch text = true ↔ IsRun ranges lo hi text) ↔
      ¬ ∃ word, IsRun ranges lo hi word ∧ text = word ++ PyStr.ofString "\n" := by
  constructor
  · rintro hexact ⟨word, hrun, rfl⟩
    have hmatch := isMatch_whole_iff.mpr ⟨word, PyStr.ofString "\n", rfl, hrun, .inr rfl⟩
    obtain ⟨-, -, hall⟩ := hexact.mp hmatch
    have hmem : CodePoint.ofChar '\n' ∈ word ++ PyStr.ofString "\n" := by
      simp [PyStr.ofString]
    rw [hall _ hmem] at hnewline
    cases hnewline
  · intro hnone
    constructor
    · intro hmatch
      obtain ⟨word, rest, rfl, hrun, rfl | rfl⟩ := isMatch_whole_iff.mp hmatch
      · rw [List.append_nil]
        exact hrun
      · exact absurd ⟨word, hrun, rfl⟩ hnone
    · intro hrun
      exact isMatch_whole_iff.mpr ⟨text, [], (List.append_nil text).symm, hrun, .inl rfl⟩

end

/-- The class is left at the newline only. -/
example :
    (whole [range 'a' 'z', single '-'] 1 3).isMatch "a-b" = true ∧
      (whole [range 'a' 'z', single '-'] 1 3).isMatch "a-b\n" = true ∧
      (whole [range 'a' 'z', single '-'] 1 3).isMatch "a-b\nc" = false ∧
      (whole [range 'a' 'z', single '-'] 1 3).isMatch "a-bc" = false := by
  decide +kernel

end Regex
