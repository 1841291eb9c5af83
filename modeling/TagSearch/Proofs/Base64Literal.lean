import Mathlib.Data.List.TakeWhile
import TagSearch.Query.Scanner

/-!
# Base64 literals

Whether a `b` opens a base64 literal is decided by looking ahead: a quote or a slash has to stand
behind it, with a label in brackets before them or not.  The literal is then read from its front.
The look ahead takes a backslash in a label for an escape, and the reader does not.

Main results:

- Definition `Recognizes`: what the look ahead sees of a literal.
- Theorem `base64Ahead_iff`: the look ahead answers yes exactly where it sees a literal.
- Theorem `Recognizes.readLabel_iff`: the reader comes to the delimiter that was seen exactly when
  no bracket is escaped in the label.
- Theorem `readBase64_of_base64Ahead`: the reader takes the literal that was seen, but for such
  labels.
-/

namespace TagSearch

/-! ## What is seen -/

/-- The look ahead sees a label, the quote or slash behind it, and the text that follows.  A label
stands in brackets, and ends at the first bracket that is not escaped; without brackets it is
empty. -/
inductive Recognizes :
    (text label : List Char) → (delimiter : Char) → (body : List Char) → Prop where
  | plain {delimiter : Char} {body : List Char} (hdelimiter : delimiter = '"' ∨ delimiter = '/') :
      Recognizes (delimiter :: body) [] delimiter body
  | labelled {cs label body : List Char} {delimiter : Char}
      (hlabel : splitUnescaped ']' cs = some (label, delimiter :: body))
      (hdelimiter : delimiter = '"' ∨ delimiter = '/') :
      Recognizes ('[' :: cs) label delimiter body

variable {cs label body payload rest : List Char} {delimiter : Char}

theorem base64Ahead_iff :
    base64Ahead cs = true ↔ ∃ label delimiter body, Recognizes cs label delimiter body := by
  constructor
  · intro h
    unfold base64Ahead at h
    split at h
    · exact ⟨_, _, _, .plain (.inl rfl)⟩
    · exact ⟨_, _, _, .plain (.inr rfl)⟩
    · split at h
      · next hlabel => exact ⟨_, _, _, .labelled hlabel (.inl rfl)⟩
      · next hlabel => exact ⟨_, _, _, .labelled hlabel (.inr rfl)⟩
      · cases h
    · cases h
  · rintro ⟨label, delimiter, body, h⟩
    cases h with
    | plain hdelimiter => rcases hdelimiter with rfl | rfl <;> rfl
    | labelled hlabel hdelimiter => rcases hdelimiter with rfl | rfl <;> simp [base64Ahead, hlabel]

/-- A text is made up of what stands before an unescaped delimiter, the delimiter, and what
follows it. -/
theorem eq_append_of_splitUnescaped {text : List Char}
    (h : splitUnescaped delimiter cs = some (text, rest)) : cs = text ++ delimiter :: rest := by
  fun_induction splitUnescaped delimiter cs generalizing text with
  | case1 | case2 => cases h
  | case3 c cs ih | case5 c cs _ _ _ ih =>
    obtain ⟨⟨text', rest'⟩, hsplit, hpair⟩ := Option.map_eq_some_iff.mp h
    cases hpair
    rw [ih hsplit]
    rfl
  | case4 cs =>
    cases h
    rfl

/-! ## What is read -/

theorem takeWhile_append_cons {c : Char} {text : List Char} (h : c ∉ text) (rest : List Char) :
    (text ++ c :: rest).takeWhile (· != c) = text := by
  have hne : ∀ d ∈ text, (d != c) = true := fun d hd => bne_iff_ne.mpr (ne_of_mem_of_not_mem hd h)
  rw [List.takeWhile_append_of_pos hne]
  simp

theorem dropWhile_append_cons {c : Char} {text : List Char} (h : c ∉ text) (rest : List Char) :
    (text ++ c :: rest).dropWhile (· != c) = c :: rest := by
  have hne : ∀ d ∈ text, (d != c) = true := fun d hd => bne_iff_ne.mpr (ne_of_mem_of_not_mem hd h)
  rw [List.dropWhile_append_of_pos hne]
  simp

/-- The reader ends a label at its first bracket, whatever stands before that bracket. -/
theorem bracket_notMem_readLabel (cs : List Char) : ']' ∉ (readLabel cs).1 := by
  unfold readLabel
  split
  · intro hmem
    exact absurd (List.mem_takeWhile_imp hmem) (by decide)
  · exact List.not_mem_nil

theorem readLabel_bracket (h : ']' ∉ label) (rest : List Char) :
    readLabel ('[' :: (label ++ ']' :: rest)) = (label, rest) := by
  simp [readLabel, takeWhile_append_cons h, dropWhile_append_cons h]

/-- The payload of a literal is the text up to where its delimiter returns. -/
theorem readBase64_of_readLabel
    (hlabel : readLabel cs = (label, delimiter :: (payload ++ delimiter :: rest)))
    (hpayload : delimiter ∉ payload) :
    readBase64 cs = some ⟨label, delimiter, payload, rest⟩ := by
  simp [readBase64, hlabel, takeWhile_append_cons hpayload, dropWhile_append_cons hpayload]

theorem readBase64_eq_none (hlabel : readLabel cs = (label, delimiter :: body))
    (hbody : delimiter ∉ body) : readBase64 cs = none := by
  have hdrop : body.dropWhile (· != delimiter) = [] :=
    List.dropWhile_eq_nil_iff.mpr fun c hc => bne_iff_ne.mpr (ne_of_mem_of_not_mem hc hbody)
  simp [readBase64, hlabel, hdrop]

/-! ## The two together -/

/-- The reader takes a literal as it was seen: it passes over the label, comes to the delimiter, and
takes the text up to where that delimiter returns.  It reads nothing if the delimiter does not
return. -/
structure TakesLiteral (cs label : List Char) (delimiter : Char) (body : List Char) : Prop where
  readLabel_eq : readLabel cs = (label, delimiter :: body)
  closed : ∀ payload rest, body = payload ++ delimiter :: rest → delimiter ∉ payload →
    readBase64 cs = some ⟨label, delimiter, payload, rest⟩
  unclosed : delimiter ∉ body → readBase64 cs = none

theorem takesLiteral_of_readLabel (h : readLabel cs = (label, delimiter :: body)) :
    TakesLiteral cs label delimiter body where
  readLabel_eq := h
  closed payload rest hbody hpayload := by
    rw [hbody] at h
    exact readBase64_of_readLabel h hpayload
  unclosed := readBase64_eq_none h

theorem Recognizes.delimiter_cases (h : Recognizes cs label delimiter body) :
    delimiter = '"' ∨ delimiter = '/' := by
  cases h with
  | plain hdelimiter => exact hdelimiter
  | labelled _ hdelimiter => exact hdelimiter

/-- The reader comes to the delimiter that was seen exactly when no bracket is escaped in the
label. -/
theorem Recognizes.readLabel_iff (h : Recognizes cs label delimiter body) :
    readLabel cs = (label, delimiter :: body) ↔ ']' ∉ label := by
  constructor
  · intro hread
    have hnot := bracket_notMem_readLabel cs
    rwa [hread] at hnot
  · intro hnot
    cases h with
    | plain hdelimiter => rcases hdelimiter with rfl | rfl <;> rfl
    | labelled hlabel _ =>
      rw [eq_append_of_splitUnescaped hlabel]
      exact readLabel_bracket hnot _

/-- Where the look ahead answers yes, it sees a literal that opens with a quote or a slash, and the
reader takes that literal exactly when no bracket is escaped in its label. -/
theorem readBase64_of_base64Ahead (h : base64Ahead cs = true) :
    ∃ label delimiter body, Recognizes cs label delimiter body ∧
      (delimiter = '"' ∨ delimiter = '/') ∧
      (TakesLiteral cs label delimiter body ↔ ']' ∉ label) := by
  obtain ⟨label, delimiter, body, hseen⟩ := base64Ahead_iff.mp h
  refine ⟨label, delimiter, body, hseen, hseen.delimiter_cases, ?_⟩
  constructor
  · intro htakes
    exact hseen.readLabel_iff.mp htakes.readLabel_eq
  · intro hnot
    exact takesLiteral_of_readLabel (hseen.readLabel_iff.mpr hnot)

/-- A label with a quote, an opening bracket and a backslash inside. -/
theorem readBase64_of_base64Ahead_labelled :
    let cs := "[a\"[\\b]/YQ==\"/x".toList
    base64Ahead cs = true ∧
      ∃ label delimiter body, Recognizes cs label delimiter body ∧
        (delimiter = '"' ∨ delimiter = '/') ∧
        (TakesLiteral cs label delimiter body ↔ ']' ∉ label) := by
  intro cs
  have hahead : base64Ahead cs = true := by decide
  exact ⟨hahead, readBase64_of_base64Ahead hahead⟩

/-- With an escaped bracket in the label a letter of the label becomes the delimiter.  The look
ahead sees a literal for one text behind the label; the scanner takes another text out of the
label, and what was seen as the literal is left over. -/
theorem readBase64_strays :
    let cs := "[\\]xaGk=x]\"Ynll\"".toList
    base64Ahead cs = true ∧
      Recognizes cs "\\]xaGk=x".toList '"' "Ynll\"".toList ∧
      Base64.decodeString .standard "Ynll".toList = some "bye" ∧
      ¬ TakesLiteral cs "\\]xaGk=x".toList '"' "Ynll\"".toList ∧
      readBase64 cs = some ⟨['\\'], 'x', "aGk=".toList, "]\"Ynll\"".toList⟩ ∧
      (Scanner.ofString "b[\\]xaGk=x]\"Ynll\"").next.1 = ⟨.tagValue, "hi]Ynll", 0⟩ := by
  intro cs
  have hseen : Recognizes cs "\\]xaGk=x".toList '"' "Ynll\"".toList :=
    .labelled (by decide) (.inl rfl)
  refine ⟨by decide, hseen, by decide +kernel, ?_, by decide, by decide +kernel⟩
  intro htakes
  exact absurd htakes.readLabel_eq (by decide)

end TagSearch
