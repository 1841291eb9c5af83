import TagSearch.Proofs.Quoting
import TagSearch.Text.Letter

/-!
# The characters of names

Names are made of letters, digits and low lines, in the sense of the Unicode standard.  None of
these is blank, has a meaning to the scanner, or stands before or between names.

Main results:

- Definition `Text.isWordChar`: letters, digits and the low line.
- Theorem `Text.Ranges.contains_of_avoids`: what a set holds that avoids another.
- Theorem `Text.not_contains_marks`: no character of a name is one of the marks.
-/

namespace TagSearch.Text

namespace Ranges

/-- No run of one set meets a run of the other. -/
def avoids (r s : Ranges) : Bool :=
  r.all fun (first, last) => s.all fun (a, b) => last < a || b < first

theorem contains_of_avoids {r s : Ranges} (h : r.avoids s = true) {n : Nat}
    (hn : s.contains n = true) : r.contains n = false := by
  rw [contains, List.any_eq_true] at hn
  obtain ⟨run, hmem, hn⟩ := hn
  rw [contains, List.any_eq_false]
  intro run' hrun
  have hapart := List.all_eq_true.mp (List.all_eq_true.mp h _ hrun) _ hmem
  simp only [Bool.or_eq_true, Bool.and_eq_true, decide_eq_true_eq] at hapart hn ⊢
  omega

/-- Each run of one set lies in a run of the other. -/
def covers (r s : Ranges) : Bool :=
  s.all fun (first, last) => r.any fun (a, b) => a ≤ first && last ≤ b

theorem contains_of_covers {r s : Ranges} (h : r.covers s = true) {n : Nat}
    (hn : s.contains n = true) : r.contains n = true := by
  rw [contains, List.any_eq_true] at hn
  obtain ⟨run, hmem, hn⟩ := hn
  obtain ⟨run', hmem', hinside⟩ := List.any_eq_true.mp (List.all_eq_true.mp h run hmem)
  rw [contains, List.any_eq_true]
  refine ⟨run', hmem', ?_⟩
  simp only [Bool.and_eq_true, decide_eq_true_eq] at hinside hn ⊢
  omega

/-- The numbers that texts write, with the characters of each text at hand, so that a table is
read text by text. -/
inductive Writes : List String → List Nat → Prop
  | nil : Writes [] []
  | cons (cs : List Char) {texts : List String} {ns : List Nat} (h : Writes texts ns) :
    Writes (String.ofList cs :: texts) (numbers none cs ++ ns)

theorem Writes.flatMap_eq {texts : List String} {ns : List Nat} (h : Writes texts ns) :
    (texts.flatMap fun s => numbers none s.toList) = ns := by
  induction h with
  | nil => rfl
  | cons cs _ ih => rw [List.flatMap_cons, String.toList_ofList, ih]

theorem ofTexts_of_writes (p : Ranges → Bool) {texts : List String} {ns : List Nat}
    (hw : Writes texts ns) (h : p (ofGaps 0 ns) = true) : p (ofTexts texts) = true := by
  rwa [ofTexts, hw.flatMap_eq]

end Ranges

/-- Whether a character is a letter, a digit or another number, or a low line. -/
def isWordChar (c : Char) : Bool :=
  isLetter c || isNumber c || c == '_'

/-- Blanks, the characters that have a meaning to the scanner, which are quotes, parentheses, the
star, the comma, the slash, the colon, the question mark and the opening bracket, and the minus sign
and the full stop, which stand before names and between them. -/
def marks : Ranges :=
  [(9, 13), (0x20, 0x20), (0x22, 0x22), (0x28, 0x2A), (0x2C, 0x2F), (0x3A, 0x3A),
    (0x3F, 0x3F), (0x5B, 0x5B), (0x85, 0x85), (0xA0, 0xA0), (0x1680, 0x1680), (0x2000, 0x200A),
    (0x2028, 0x2029), (0x202F, 0x202F), (0x205F, 0x205F), (0x3000, 0x3000)]

/-- The letters of the basic block, and those with diacritics in the block after it. -/
def latinLetters : Ranges :=
  [(0x41, 0x5A), (0x61, 0x7A), (0xC0, 0xD6), (0xD8, 0xF6), (0xF8, 0xFF)]

/-- The digits of the basic block. -/
def arabicDigits : Ranges :=
  [(0x30, 0x39)]

theorem avoids_alphabetic : Property.alphabetic.avoids marks = true :=
  Ranges.ofTexts_of_writes (·.avoids marks) (by repeat constructor) (by decide +kernel)

theorem avoids_newLetters : newLetters.avoids marks = true := by
  decide +kernel

theorem avoids_decimalNumber : Category.decimalNumber.avoids marks = true :=
  Ranges.ofTexts_of_writes (·.avoids marks) (by repeat constructor) (by decide +kernel)

theorem avoids_letterNumber : Category.letterNumber.avoids marks = true := by
  decide +kernel

theorem avoids_otherNumber : Category.otherNumber.avoids marks = true :=
  Ranges.ofTexts_of_writes (·.avoids marks) (by repeat constructor) (by decide +kernel)

theorem avoids_newNumbers : newNumbers.avoids marks = true := by
  decide +kernel

theorem covers_alphabetic : Property.alphabetic.covers latinLetters = true :=
  Ranges.ofTexts_of_writes (·.covers latinLetters) (by repeat constructor) (by decide +kernel)

theorem covers_decimalNumber : Category.decimalNumber.covers arabicDigits = true :=
  Ranges.ofTexts_of_writes (·.covers arabicDigits) (by repeat constructor) (by decide +kernel)

/-- No character of a name is one of the marks. -/
theorem not_contains_marks {c : Char} (h : isWordChar c = true) :
    marks.contains c.toNat = false := by
  rw [← Bool.not_eq_true]
  intro hmark
  have hletter : isLetter c = false := by
    rw [isLetter, Ranges.contains_of_avoids avoids_alphabetic hmark,
      Ranges.contains_of_avoids avoids_newLetters hmark]
    rfl
  have hnumber : isNumber c = false := by
    simp only [isNumber, List.any_cons, List.any_nil,
      Ranges.contains_of_avoids avoids_decimalNumber hmark,
      Ranges.contains_of_avoids avoids_letterNumber hmark,
      Ranges.contains_of_avoids avoids_otherNumber hmark,
      Ranges.contains_of_avoids avoids_newNumbers hmark, Bool.or_false]
  rw [isWordChar, hletter, hnumber, Bool.false_or, Bool.false_or, beq_iff_eq] at h
  rw [h] at hmark
  exact absurd hmark (by decide)

theorem ne_of_isWordChar {c d : Char} (h : isWordChar c = true)
    (hd : marks.contains d.toNat = true) : c ≠ d := by
  rintro rfl
  rw [not_contains_marks h] at hd
  cases hd

/-- Latin letters, Arabic digits and the low line stand in names. -/
theorem isWordChar_of_latin {c : Char}
    (h : (latinLetters ++ arabicDigits).contains c.toNat = true ∨ c = '_') :
    isWordChar c = true := by
  rw [isWordChar, Bool.or_eq_true, Bool.or_eq_true, beq_iff_eq]
  rcases h with h | h
  · rw [Ranges.contains_append, Bool.or_eq_true] at h
    rcases h with h | h
    · exact .inl (.inl (isLetter_of_alphabetic (Ranges.contains_of_covers covers_alphabetic h)))
    · have hdigit := Ranges.contains_of_covers covers_decimalNumber h
      exact .inl (.inr (by simp [isNumber, hdigit]))
  · exact .inr h

end TagSearch.Text
