import Mathlib.Algebra.Ring.Parity
import Mathlib.Computability.Language
import Mathlib.Data.List.DropRight
import TagSearch.Sql.Like

/-!
# The texts that a value with wildcards stands for

A value with wildcards stands for a language of texts, one character behind the other.  The store
is given a pattern instead, which it takes apart into runs, single characters and characters that
stand for themselves; it refuses a pattern whose last backslash has nothing to escape.

Main results:

- Definition `Glob.language`: the texts that a value stands for.
- Definition `Like.accepts?`: what the store makes of a pattern and a text.
- Theorem `Like.accepts_iff_mem_language`: taking a pattern apart gives a language, too.
- Theorem `Like.parts?_eq_none_iff`: the store refuses exactly the patterns that end in an unpaired
  escape.
- Theorem `Like.parts?_pattern`: the pattern of a value has one part for each of its characters.
- Theorem `Like.accepts?_pattern`: the pattern of a value is never refused, and is matched by
  exactly the texts that the value stands for.
-/

namespace TagSearch

/-! ## Languages -/

/-- The texts of one character. -/
def singleCharacter : Language Char :=
  {text | ∃ c, text = [c]}

section Product

variable {l : Language Char} {text : List Char}

theorem mem_top_mul_iff : text ∈ (⊤ : Language Char) * l ↔ ∃ rest, rest <:+ text ∧ rest ∈ l := by
  rw [Language.mem_mul]
  constructor
  · rintro ⟨run, -, rest, hrest, rfl⟩
    exact ⟨rest, List.suffix_append run rest, hrest⟩
  · rintro ⟨rest, ⟨run, rfl⟩, hrest⟩
    exact ⟨run, trivial, rest, hrest, rfl⟩

theorem mem_singleCharacter_mul_iff :
    text ∈ singleCharacter * l ↔ ∃ c rest, text = c :: rest ∧ rest ∈ l := by
  rw [Language.mem_mul]
  constructor
  · rintro ⟨_, ⟨c, rfl⟩, rest, hrest, rfl⟩
    exact ⟨c, rest, rfl, hrest⟩
  · rintro ⟨c, rest, rfl, hrest⟩
    exact ⟨[c], ⟨c, rfl⟩, rest, hrest, rfl⟩

theorem mem_character_mul_iff {c : Char} :
    text ∈ ({[c]} : Language Char) * l ↔ ∃ rest, text = c :: rest ∧ rest ∈ l := by
  rw [Language.mem_mul]
  constructor
  · rintro ⟨_, rfl, rest, hrest, rfl⟩
    exact ⟨rest, rfl, hrest⟩
  · rintro ⟨rest, rfl, hrest⟩
    exact ⟨[c], rfl, rest, hrest, rfl⟩

end Product

/-! ## Values -/

namespace Glob

/-- The texts that one character of a value stands for.  A star stands for any run of characters, a
question mark for any one character, a quoted wildcard for the wildcard itself, and every other
character for itself. -/
def charLanguage (c : Char) : Language Char :=
  if c = '*' then ⊤
  else if c = '?' then singleCharacter
  else if c = quotedStar then {['*']}
  else if c = quotedQuestion then {['?']}
  else {[c]}

/-- The texts that a value stands for. -/
def language (value : String) : Language Char :=
  (value.toList.map charLanguage).prod

end Glob

namespace Like

/-! ## Patterns of the store -/

/-- A part of a pattern. -/
inductive Part where
  | anyRun
  | anyOne
  | exactly (c : Char)
deriving DecidableEq, Repr

/-- Takes a pattern apart.  A backslash makes the character behind it stand for itself; there are
no parts if nothing stands behind it. -/
def parts? : List Char → Option (List Part)
  | [] => some []
  | ['\\'] => none
  | '\\' :: c :: rest => (parts? rest).map (.exactly c :: ·)
  | '%' :: rest => (parts? rest).map (.anyRun :: ·)
  | '_' :: rest => (parts? rest).map (.anyOne :: ·)
  | c :: rest => (parts? rest).map (.exactly c :: ·)

/-- Whether the parts of a pattern match the whole of a text.  A run is tried at every length. -/
def accepts : List Part → List Char → Bool
  | [], text => text.isEmpty
  | .anyRun :: parts, text => text.tails.any (accepts parts)
  | .anyOne :: parts, text =>
    match text with
    | [] => false
    | _ :: rest => accepts parts rest
  | .exactly c :: parts, text =>
    match text with
    | [] => false
    | d :: rest => d == c && accepts parts rest

/-- Whether a text matches a pattern, unless the pattern is refused. -/
def accepts? (pattern text : String) : Option Bool :=
  (parts? pattern.toList).map fun parts => accepts parts text.toList

/-- The number of backslashes at the end of a pattern. -/
def escapes (pattern : List Char) : Nat :=
  (pattern.rtakeWhile (· == '\\')).length

theorem escapes_le_length (pattern : List Char) : escapes pattern ≤ pattern.length := by
  have hsuffix : pattern.rtakeWhile (· == '\\') <:+ pattern := List.rtakeWhile_suffix _ _
  exact hsuffix.length_le

/-- A character in front counts only if it is a backslash before nothing but backslashes. -/
theorem escapes_cons (c : Char) (rest : List Char) :
    escapes (c :: rest) =
      if c = '\\' ∧ escapes rest = rest.length then escapes rest + 1 else escapes rest := by
  simp only [escapes, List.rtakeWhile, List.reverse_cons, List.length_reverse,
    List.takeWhile_append]
  by_cases hall : (rest.reverse.takeWhile (· == '\\')).length = rest.length
  · by_cases hc : c = '\\' <;> simp [hall, hc]
  · simp [hall]

theorem escapes_cons_of_ne {c : Char} (h : c ≠ '\\') (rest : List Char) :
    escapes (c :: rest) = escapes rest := by
  rw [escapes_cons, if_neg fun hall => h hall.1]

/-- The store refuses exactly the patterns with an odd number of backslashes at the end, the last
of which has nothing to escape. -/
theorem parts?_eq_none_iff (pattern : List Char) :
    parts? pattern = none ↔ Odd (escapes pattern) := by
  fun_induction parts? pattern with
  | case1 => simp [escapes]
  | case2 =>
    have hone : escapes ['\\'] = 1 := rfl
    simp [hone]
  | case3 c rest ih =>
    -- Two characters go at once.  If backslashes alone follow, both of them count or none does.
    have hlength := escapes_le_length rest
    rw [Option.map_eq_none_iff, ih, escapes_cons, escapes_cons, List.length_cons]
    by_cases hall : c = '\\' ∧ escapes rest = rest.length
    · simp [hall, Nat.odd_add]
    · have hshort : escapes rest ≠ rest.length + 1 := by omega
      simp [hall, hshort]
  | case4 rest ih => rw [Option.map_eq_none_iff, ih, escapes_cons_of_ne (by decide)]
  | case5 rest ih => rw [Option.map_eq_none_iff, ih, escapes_cons_of_ne (by decide)]
  | case6 c rest hlast hescape _ _ ih =>
    have hne : c ≠ '\\' := by
      intro hc
      cases rest with
      | nil => exact hlast hc rfl
      | cons d rest => exact hescape d rest hc rfl
    rw [Option.map_eq_none_iff, ih, escapes_cons_of_ne hne]

/-! ## Languages of patterns -/

namespace Part

/-- The texts that a part of a pattern stands for. -/
def language : Part → Language Char
  | anyRun => ⊤
  | anyOne => singleCharacter
  | exactly c => {[c]}

end Part

/-- A text matches the parts of a pattern exactly when it is made of texts that they stand for. -/
theorem accepts_iff_mem_language (parts : List Part) (text : List Char) :
    accepts parts text = true ↔ text ∈ (parts.map Part.language).prod := by
  induction parts generalizing text with
  | nil => simp [accepts, Language.mem_one]
  | cons part parts ih =>
    rw [List.map_cons, List.prod_cons]
    cases part with
    | anyRun =>
      rw [accepts, List.any_eq_true, Part.language, mem_top_mul_iff]
      simp only [List.mem_tails, ih]
    | anyOne =>
      rw [Part.language, mem_singleCharacter_mul_iff]
      cases text with
      | nil => simp [accepts]
      | cons d rest => simp [accepts, ih]
    | exactly c =>
      rw [Part.language, mem_character_mul_iff]
      cases text with
      | nil => simp [accepts]
      | cons d rest => simp [accepts, ih]

/-! ## The pattern of a value -/

/-- The part of a pattern that a character of a value becomes. -/
def charPart (c : Char) : Part :=
  if c = '*' then .anyRun
  else if c = '?' then .anyOne
  else if c = quotedStar then .exactly '*'
  else if c = quotedQuestion then .exactly '?'
  else .exactly c

theorem language_charPart (c : Char) : (charPart c).language = Glob.charLanguage c := by
  unfold charPart Glob.charLanguage
  rw [apply_ite Part.language, apply_ite Part.language, apply_ite Part.language,
    apply_ite Part.language]
  rfl

/-- What a character of a value is written as is taken apart into one part. -/
theorem parts?_charPattern (c : Char) (rest : List Char) :
    parts? (charPattern c ++ rest) = (parts? rest).map (charPart c :: ·) := by
  by_cases hspecial : isSpecial c = true
  · -- A special character is escaped, and no wildcard is special.
    have hpart : charPart c = .exactly c := by
      simp only [isSpecial, Bool.or_eq_true, beq_iff_eq] at hspecial
      rcases hspecial with (rfl | rfl) | rfl <;> rfl
    rw [charPattern, if_pos hspecial, hpart]
    rfl
  · have hplain : c ≠ '%' ∧ c ≠ '_' ∧ c ≠ '\\' := by
      simpa [isSpecial, and_assoc] using hspecial
    rw [charPattern, if_neg hspecial]
    unfold charPart
    split_ifs <;> simp [parts?, hplain]

theorem parts?_pattern (value : String) :
    parts? (pattern value).toList = some (value.toList.map charPart) := by
  rw [pattern, String.toList_ofList]
  induction value.toList with
  | nil => rfl
  | cons c cs ih => rw [List.flatMap_cons, parts?_charPattern, ih, List.map_cons, Option.map_some]

/-- The parts of the pattern of a value match exactly the texts that the value stands for. -/
theorem accepts_charParts (value text : String) :
    accepts (value.toList.map charPart) text.toList = true ↔ text.toList ∈ Glob.language value := by
  have hlanguages : (value.toList.map charPart).map Part.language =
      value.toList.map Glob.charLanguage := by
    rw [List.map_map]
    exact List.map_congr_left fun c _ => language_charPart c
  rw [accepts_iff_mem_language, hlanguages, Glob.language]

/-- The pattern of a value does not end in an unpaired escape, so the store takes it, and a text
matches it exactly when the value stands for that text. -/
theorem accepts?_pattern (value text : String) :
    ¬ Odd (escapes (pattern value).toList) ∧
      ∃ accepted, accepts? (pattern value) text = some accepted ∧
        (accepted = true ↔ text.toList ∈ Glob.language value) := by
  have hparts := parts?_pattern value
  constructor
  · rw [← parts?_eq_none_iff, hparts]
    exact Option.some_ne_none _
  · refine ⟨accepts (value.toList.map charPart) text.toList, ?_, ?_⟩
    · rw [accepts?, hparts, Option.map_some]
    · exact accepts_charParts value text

example : accepts? (pattern "50%*\\") "50% off\\" = some true := by decide +kernel

end Like

end TagSearch
