import TagSearch.Proofs.GlobText
import TagSearch.Proofs.Inert
import TagSearch.Proofs.PathGrammar
import TagSearch.Proofs.Wildcard

/-!
# Values with wildcards in documents

In a document, a value with wildcards is searched for by an expression between the start and the end
of the text.  The search follows every beginning of a match and finds one exactly if a match can be
completed from some place on.  For the expression of a value this is so exactly if the text is one
that the value stands for, and no wildcard in it stands for a line feed: in this the documents
differ from the store.

Main results:

- Theorem `Regex.isMatch_iff`: what the search for an expression finds.
- Definition `Glob.lineLanguage`: the texts that a value stands for within lines.
- Theorem `Glob.isMatch_regex`: the expression of a value matches exactly those texts.
- Theorem `Glob.mem_lineLanguage_iff`: without a line feed they are all that the value stands for.
- Theorem `Tree.accepts_wildcards`: which documents a value with wildcards matches.
- Theorem `Tree.accepts_wildcards_lineFeed`: a line feed that the store takes and documents do not.
-/

namespace TagSearch

/-! ## The search for an expression -/

namespace Regex

/-- From a place with a given character before it, an expression matches some first part of the text
that follows. -/
def Completes (r : Regex) (before : Option Char) : List Char → Prop
  | [] => r.nullable ⟨before, none⟩ = true
  | c :: cs => r.nullable ⟨before, some c⟩ = true ∨
      ∃ s ∈ r.derive ⟨before, some c⟩ c, s.Completes (some c) cs

/-- From a place with a given character before it or from a later one, an expression matches some
part of the text that follows. -/
def Occurs (r : Regex) (before : Option Char) : List Char → Prop
  | [] => r.Completes before []
  | c :: cs => r.Completes before (c :: cs) ∨ r.Occurs (some c) cs

variable {r q : Regex} {before : Option Char} {c : Char} {cs text : List Char}

/-- A search finds a match that begins where it stands or later, or completes one that it has
begun. -/
theorem searchFrom_iff (states : List Regex) :
    searchFrom r states before text = true ↔
      r.Occurs before text ∨ ∃ s ∈ states, s.Completes before text := by
  induction text generalizing states before with
  | nil =>
    simp [searchFrom, Occurs, Completes]
  | cons c cs ih =>
    -- the states behind a character are what may remain of those before it
    have hstates : (∃ s ∈ ((r :: states).flatMap (derive ⟨before, some c⟩ c)).eraseDups,
        s.Completes (some c) cs) ↔
          ∃ s ∈ r :: states, ∃ s' ∈ s.derive ⟨before, some c⟩ c, s'.Completes (some c) cs := by
      simp only [List.mem_eraseDups, List.mem_flatMap]
      constructor
      · rintro ⟨s', ⟨s, hs, hs'⟩, h⟩
        exact ⟨s, hs, s', hs', h⟩
      · rintro ⟨s, hs, s', hs', h⟩
        exact ⟨s', ⟨s, hs, hs'⟩, h⟩
    rw [searchFrom, Bool.or_eq_true, ih, hstates]
    simp only [List.any_cons, Bool.or_eq_true, List.any_eq_true, List.exists_mem_cons_iff, Occurs,
      Completes]
    constructor
    · rintro ((h | ⟨s, hs, h⟩) | h | h | ⟨s, hs, h⟩)
      · exact .inl (.inl (.inl h))
      · exact .inr ⟨s, hs, .inl h⟩
      · exact .inl (.inr h)
      · exact .inl (.inl (.inr h))
      · exact .inr ⟨s, hs, .inr h⟩
    · rintro ((( h | h) | h) | ⟨s, hs, h | h⟩)
      · exact .inl (.inl h)
      · exact .inr (.inr (.inl h))
      · exact .inr (.inl h)
      · exact .inl (.inr ⟨s, hs, h⟩)
      · exact .inr (.inr (.inr ⟨s, hs, h⟩))

/-- An expression matches a text if a match begins somewhere in it. -/
theorem isMatch_iff {s : String} : r.isMatch s = true ↔ r.Occurs none s.toList := by
  rw [isMatch, searchFrom_iff]
  simp

/-! ## Expressions in sequence -/

/-- Nothing but the empty text can follow the end of a text. -/
theorem completes_stop : (assert .stop).Completes before text ↔ text = [] := by
  cases text with
  | nil => simp [Completes, nullable, Assertion.holds]
  | cons c cs => simp [Completes, nullable, derive, Assertion.holds]

/-- What begins at the start of a text does not begin later. -/
theorem not_completes_start (c : Char) (text : List Char) :
    ¬ (seq (assert .start) q).Completes (some c) text := by
  cases text with
  | nil => simp [Completes, nullable, Assertion.holds]
  | cons d cs => simp [Completes, nullable, derive, Assertion.holds]

theorem completes_start :
    (seq (assert .start) q).Completes none text ↔ q.Completes none text := by
  cases text with
  | nil => simp [Completes, nullable, Assertion.holds]
  | cons c cs => simp [Completes, nullable, derive, Assertion.holds]

/-- An expression that begins at the start of a text is only found there. -/
theorem occurs_start : (seq (assert .start) q).Occurs none text ↔ q.Completes none text := by
  have hlater : ∀ (cs : List Char) (c : Char), ¬ (seq (assert .start) q).Occurs (some c) cs := by
    intro cs
    induction cs with
    | nil => exact fun c => not_completes_start c []
    | cons d cs ih =>
      rintro c (h | h)
      · exact not_completes_start c _ h
      · exact ih d h
  cases text with
  | nil => exact completes_start
  | cons c cs =>
    rw [Occurs, completes_start]
    simp [hlater]

/-- A character of a set, and the rest behind it. -/
theorem completes_set (s : CharSet) :
    (seq (set s) q).Completes before text ↔
      ∃ c cs, text = c :: cs ∧ s.contains c.toNat = true ∧ q.Completes (some c) cs := by
  cases text with
  | nil => simp [Completes, nullable]
  | cons c cs =>
    by_cases h : s.contains c.toNat = true
    · simp [Completes, nullable, derive, h, andThen]
    · simp [Completes, nullable, derive, h]

/-- A run of characters of a set ends, or goes on with a character. -/
theorem completes_run_cons (s : CharSet) :
    (seq (loop 0 none (set s)) q).Completes before (c :: cs) ↔
      q.Completes before (c :: cs) ∨
        (s.contains c.toNat = true ∧ (seq (loop 0 none (set s)) q).Completes (some c) cs) := by
  by_cases h : s.contains c.toNat = true
  · simp only [Completes, nullable, derive, h, andThen]
    simp only [if_true, List.map_cons, List.map_nil, List.cons_append, List.nil_append,
      List.exists_mem_cons_iff, BEq.rfl, Bool.true_or, Bool.true_and, reduceCtorEq, if_false,
      true_and]
    rw [or_assoc]
    exact or_congr_right or_comm
  · simp [Completes, nullable, derive, h]

/-- A run of characters of a set, and the rest behind it. -/
theorem completes_run (s : CharSet) :
    (seq (loop 0 none (set s)) q).Completes before text ↔
      ∃ run rest, text = run ++ rest ∧ (∀ c ∈ run, s.contains c.toNat = true) ∧
        q.Completes (run.getLast?.or before) rest := by
  induction text generalizing before with
  | nil => simp [Completes, nullable]
  | cons c cs ih =>
    have hlast : ∀ run : List Char,
        (c :: run).getLast?.or before = run.getLast?.or (some c) := by
      intro run
      rw [List.getLast?_cons]
      cases run.getLast? with
      | none => rfl
      | some d => rfl
    rw [completes_run_cons, ih]
    constructor
    · rintro (h | ⟨hc, run, rest, rfl, hrun, h⟩)
      · exact ⟨[], c :: cs, rfl, by simp, h⟩
      · refine ⟨c :: run, rest, rfl, List.forall_mem_cons.mpr ⟨hc, hrun⟩, ?_⟩
        rwa [hlast]
    · rintro ⟨run, rest, htext, hrun, h⟩
      cases run with
      | nil =>
        rw [List.nil_append] at htext
        rw [htext]
        exact .inl h
      | cons d run =>
        rw [List.cons_append, List.cons.injEq] at htext
        obtain ⟨rfl, rfl⟩ := htext
        obtain ⟨hc, hrun⟩ := List.forall_mem_cons.mp hrun
        rw [hlast] at h
        exact .inr ⟨hc, run, rest, rfl, hrun, h⟩

end Regex

/-! ## Values -/

namespace Glob

/-- The runs of characters within a line. -/
def lineRun : Language Char :=
  {run | '\n' ∉ run}

/-- The texts of one character within a line. -/
def lineCharacter : Language Char :=
  {text | ∃ c, c ≠ '\n' ∧ text = [c]}

/-- The texts that one character of a value stands for within a line.  A wildcard stands for no line
feed. -/
def lineCharLanguage (c : Char) : Language Char :=
  if c = '*' then lineRun
  else if c = '?' then lineCharacter
  else if c = quotedStar then {['*']}
  else if c = quotedQuestion then {['?']}
  else {[c]}

/-- The texts that a value stands for if no wildcard stands for a line feed. -/
def lineLanguage (value : String) : Language Char :=
  (value.toList.map lineCharLanguage).prod

variable {q : Regex} {l : Language Char} {before : Option Char} {text : List Char}

theorem contains_notLineFeed (c : Char) :
    CharSet.notLineFeed.contains c.toNat = true ↔ c ≠ '\n' := by
  rw [CharSet.notLineFeed, CharSet.contains_compl, CharSet.contains_single, Bool.not_eq_true',
    beq_eq_false_iff_ne, ne_eq, Char.toNat_inj]

theorem completes_char (hq : ∀ before text, q.Completes before text ↔ text ∈ l) (c : Char) :
    (Regex.seq (.char c) q).Completes before text ↔ text ∈ ({[c]} : Language Char) * l := by
  rw [Regex.char, Regex.completes_set, mem_character_mul_iff]
  simp only [CharSet.contains_single, beq_iff_eq, Char.toNat_inj, hq]
  constructor
  · rintro ⟨d, rest, htext, rfl, hrest⟩
    exact ⟨rest, htext, hrest⟩
  · rintro ⟨rest, htext, hrest⟩
    exact ⟨c, rest, htext, rfl, hrest⟩

/-- The expression of a character, and behind it one that matches a language. -/
theorem completes_charRegex (hq : ∀ before text, q.Completes before text ↔ text ∈ l) (c : Char) :
    (Regex.seq (charRegex c) q).Completes before text ↔ text ∈ lineCharLanguage c * l := by
  rw [charRegex, lineCharLanguage]
  by_cases hstar : c = '*'
  · rw [if_pos hstar, if_pos hstar, Regex.completes_run, Language.mem_mul]
    simp only [contains_notLineFeed, hq]
    constructor
    · rintro ⟨run, rest, rfl, hrun, hrest⟩
      exact ⟨run, fun hlineFeed => hrun '\n' hlineFeed rfl, rest, hrest, rfl⟩
    · rintro ⟨run, hrun, rest, hrest, rfl⟩
      refine ⟨run, rest, rfl, ?_, hrest⟩
      rintro c hc rfl
      exact hrun hc
  rw [if_neg hstar, if_neg hstar]
  by_cases hquestion : c = '?'
  · rw [if_pos hquestion, if_pos hquestion, Regex.completes_set, Language.mem_mul]
    simp only [contains_notLineFeed, hq]
    constructor
    · rintro ⟨d, rest, rfl, hd, hrest⟩
      exact ⟨[d], ⟨d, hd, rfl⟩, rest, hrest, rfl⟩
    · rintro ⟨_, ⟨d, hd, rfl⟩, rest, hrest, rfl⟩
      exact ⟨d, rest, rfl, hd, hrest⟩
  rw [if_neg hquestion, if_neg hquestion]
  -- every other character stands for one character, in the expression and in the language
  split_ifs
  · exact completes_char hq '*'
  · exact completes_char hq '?'
  · exact completes_char hq c

/-- The expressions of characters, and behind them the end of the text. -/
theorem completes_chars (cs : List Char) :
    ∀ before text, (Regex.seqAll (cs.map charRegex ++ [.assert .stop])).Completes before text ↔
      text ∈ (cs.map lineCharLanguage).prod := by
  induction cs with
  | nil =>
    intro before text
    exact Regex.completes_stop.trans (Language.mem_one text).symm
  | cons c cs ih =>
    intro before text
    have hseq : Regex.seqAll ((c :: cs).map charRegex ++ [.assert .stop]) =
        .seq (charRegex c) (Regex.seqAll (cs.map charRegex ++ [.assert .stop])) := by
      cases cs with
      | nil => rfl
      | cons d cs => rfl
    rw [hseq, completes_charRegex ih, List.map_cons, List.prod_cons]

/-- The expression of a value matches the texts that the value stands for within lines. -/
theorem isMatch_regex (value text : String) :
    (regex value).isMatch text = true ↔ text.toList ∈ lineLanguage value := by
  rw [Regex.isMatch_iff, regex, Regex.occurs_start, completes_chars, lineLanguage]

/-! ## Line feeds -/

theorem lineCharLanguage_le (c : Char) : lineCharLanguage c ≤ charLanguage c := by
  unfold lineCharLanguage charLanguage
  split_ifs
  · exact le_top
  · rintro _ ⟨d, _, rfl⟩
    exact ⟨d, rfl⟩
  · exact le_rfl
  · exact le_rfl
  · exact le_rfl

/-- A text without a line feed that a character stands for, it stands for within a line. -/
theorem mem_lineCharLanguage {c : Char} (hline : '\n' ∉ text) (h : text ∈ charLanguage c) :
    text ∈ lineCharLanguage c := by
  unfold charLanguage at h
  unfold lineCharLanguage
  split_ifs at h ⊢
  · exact hline
  · obtain ⟨d, rfl⟩ := h
    refine ⟨d, ?_, rfl⟩
    rintro rfl
    exact hline (List.mem_singleton_self _)
  · exact h
  · exact h
  · exact h

/-- What a value stands for within lines it stands for. -/
theorem lineLanguage_le (value : String) : lineLanguage value ≤ language value := by
  rw [lineLanguage, language]
  induction value.toList with
  | nil => exact le_rfl
  | cons c cs ih =>
    rw [List.map_cons, List.prod_cons, List.map_cons, List.prod_cons]
    exact mul_le_mul' (lineCharLanguage_le c) ih

/-- The texts without a line feed that a value stands for are those that it stands for within
lines. -/
theorem mem_lineLanguage_iff {value : String} (hline : '\n' ∉ text) :
    text ∈ lineLanguage value ↔ text ∈ language value := by
  refine ⟨fun h => lineLanguage_le value h, ?_⟩
  rw [lineLanguage, language]
  induction value.toList generalizing text with
  | nil => exact id
  | cons c cs ih =>
    rw [List.map_cons, List.prod_cons, List.map_cons, List.prod_cons, Language.mem_mul,
      Language.mem_mul]
    rintro ⟨first, hfirst, rest, hrest, rfl⟩
    rw [List.mem_append, not_or] at hline
    exact ⟨first, mem_lineCharLanguage hline.1 hfirst, rest, ih hline.2 hrest, rfl⟩

end Glob

/-! ## Documents -/

theorem isNullText_of_hasWildcard {v : String} (h : hasWildcard v = true) :
    isNullText v = false := by
  rw [Bool.eq_false_iff, ne_eq, isNullText_iff]
  rintro (rfl | rfl)
  · exact absurd h (by decide)
  · exact absurd h (by decide)

/-- A string in a document is searched for a match of the expression of a value with wildcards. -/
theorem Leaf.accepts_of_hasWildcard {category v text : String} {path : Path} {document : Json}
    (hwildcard : hasWildcard v = true) (hpath : Path.parse? category = some path)
    (hfound : path.resolve? document = some (.string text)) :
    (matching category v).accepts document =
      (Glob.compile v).map fun r => r.isMatch text := by
  have htest : ValueTest.ofLeaf (matching category v) = (Glob.compile v).map .fits := by
    simp [ValueTest.ofLeaf, matching, isNullText_of_hasWildcard hwildcard, hwildcard]
  have hcheck : ∀ r : Regex, ValueTest.check (.fits r) (some (.string text)) = r.isMatch text :=
    fun r => rfl
  rw [accepts, htest]
  cases Glob.compile v with
  | error e => rfl
  | ok r => simp only [matching, Except.map, bind, Except.bind, hpath, hfound, hcheck]

namespace Tree

variable {name v text : String} {members : List (String × Json)}

section Member

variable (hname : Path.IsName name.toList) (hwildcard : hasWildcard v = true)
  (hmember : Json.member? name members = some (.string text))

include hname hwildcard hmember

/-- A string that is the member of a name is searched for a match of the expression of a value. -/
theorem accepts_of_hasWildcard : (matching name v).accepts (.object members) =
    (Glob.compile v).map fun r => r.isMatch text := by
  have hpath : Path.parse? name = some ⟨name, []⟩ := Path.parse?_name_iff.mpr hname
  have hfound : Path.resolve? ⟨name, []⟩ (.object members) = some (.string text) :=
    (Path.resolve_of_segments_nil name members).trans hmember
  rw [accepts_matching, Leaf.accepts_of_hasWildcard hwildcard hpath hfound]

/-- A document with a string as the member of a name is searched for a value with wildcards in it.
The search is refused exactly if the expression of the value takes too much room.  Else the document
matches exactly if the value stands for the string within lines.  The store takes every string that
the documents take, and exactly these as long as the string has no line feed. -/
theorem accepts_wildcards :
    ((Glob.regex v).fits = false → (matching name v).accepts (.object members) =
      .error (.invalidRequest (.invalidPattern (Glob.text v)))) ∧
    ((Glob.regex v).fits = true →
      ∃ accepted liked, (matching name v).accepts (.object members) = .ok accepted ∧
        Like.accepts? (Like.pattern v) text = some liked ∧
        (accepted = true ↔ text.toList ∈ Glob.lineLanguage v) ∧
        (liked = true ↔ text.toList ∈ Glob.language v) ∧
        (accepted = true → liked = true) ∧
        ('\n' ∉ text.toList → accepted = liked)) := by
  have haccepts := accepts_of_hasWildcard hname hwildcard hmember
  constructor
  · intro hfits
    rw [haccepts, Glob.compile_eq, hfits]
    rfl
  · intro hfits
    have haccepted := Glob.isMatch_regex v text
    have hliked := Like.accepts_charParts v text
    refine ⟨(Glob.regex v).isMatch text, Like.accepts (v.toList.map Like.charPart) text.toList,
      ?_, ?_, haccepted, hliked, ?_, ?_⟩
    · rw [haccepts, Glob.compile_eq, hfits]
      rfl
    · rw [Like.accepts?, Like.parts?_pattern]
      rfl
    · rw [haccepted, hliked]
      exact fun h => Glob.lineLanguage_le v h
    · intro hline
      rw [Bool.eq_iff_iff, haccepted, hliked]
      exact Glob.mem_lineLanguage_iff hline

end Member

/-- The characters that a wildcard stands for in documents. -/
def withinLine : Text.Ranges :=
  [(0, 9), (11, 0xD7FF), (0xE000, 0x10FFFF)]

/-- A value with both wildcards, two characters that mean something in expressions, and two that
mean something in patterns. -/
theorem accepts_wildcards_specials :
    Path.IsName "name".toList ∧ hasWildcard "a.*(?%_" = true ∧
    Json.member? "name" [("name", .string "a.bc(d%_")] = some (.string "a.bc(d%_") ∧
    (Glob.regex "a.*(?%_").fits = true ∧
    (matching "name" "a.*(?%_").accepts (.object [("name", .string "a.bc(d%_")]) = .ok true ∧
    Like.accepts? (Like.pattern "a.*(?%_") "a.bc(d%_" = some true := by
  have hname : Path.IsName "name".toList := Path.parse?_name_iff.mp (by decide +kernel)
  have hwildcard : hasWildcard "a.*(?%_" = true := by decide
  have hmember : Json.member? "name" [("name", .string "a.bc(d%_")] =
      some (.string "a.bc(d%_") := rfl
  have hform : (Glob.regex "a.*(?%_").form = [.assert .start, .literal [97, 46],
      .loop 0 none true [.set withinLine], .literal [40], .set withinLine, .literal [37, 95],
      .assert .stop] := by cbv
  have hfits : (Glob.regex "a.*(?%_").fits = true := by
    rw [Regex.fits, Regex.room, Regex.room, hform]
    decide +kernel
  have hliked : Like.accepts? (Like.pattern "a.*(?%_") "a.bc(d%_" = some true := by decide +kernel
  obtain ⟨accepted, liked, haccepted, hlike, _, _, _, hsame⟩ :=
    (accepts_wildcards hname hwildcard hmember).2 hfits
  have hequal : accepted = true := by
    rw [hliked, Option.some.injEq] at hlike
    rw [hlike]
    exact hsame (by decide +kernel)
  rw [hequal] at haccepted
  exact ⟨hname, hwildcard, hmember, hfits, haccepted, hliked⟩

/-- A star stands for a line feed in the store, and not in documents. -/
theorem accepts_wildcards_lineFeed :
    Path.IsName "name".toList ∧ hasWildcard "a*b" = true ∧
    Json.member? "name" [("name", .string "a\nb")] = some (.string "a\nb") ∧
    "a\nb".toList ∈ Glob.language "a*b" ∧
    Like.accepts? (Like.pattern "a*b") "a\nb" = some true ∧
    (matching "name" "a*b").accepts (.object [("name", .string "a\nb")]) = .ok false := by
  have hname : Path.IsName "name".toList := Path.parse?_name_iff.mp (by decide +kernel)
  have hwildcard : hasWildcard "a*b" = true := by decide
  have hmember : Json.member? "name" [("name", .string "a\nb")] = some (.string "a\nb") := rfl
  have hlanguage : "a\nb".toList ∈ Glob.language "a*b" := by
    rw [← Like.accepts_charParts]
    decide +kernel
  have hform : (Glob.regex "a*b").form = [.assert .start, .literal [97],
      .loop 0 none true [.set withinLine], .literal [98], .assert .stop] := by cbv
  have hfits : (Glob.regex "a*b").fits = true := by
    rw [Regex.fits, Regex.room, Regex.room, hform]
    decide +kernel
  have hmatch : (Glob.regex "a*b").isMatch "a\nb" = false := by decide +kernel
  refine ⟨hname, hwildcard, hmember, hlanguage, by decide +kernel, ?_⟩
  rw [accepts_of_hasWildcard hname hwildcard hmember, Glob.compile_eq, if_pos hfits, Except.map,
    hmatch]

end Tree

end TagSearch
