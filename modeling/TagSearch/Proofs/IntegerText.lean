import Mathlib.Data.List.DropRight
import TagSearch.Number.Power
import TagSearch.Text.Blank
import TagSearch.Text.Integer

/-!
# Integers in texts

A signed integer is written as digits, behind a sign or behind none, and may stand between blanks.
An integer that fits 64 bits is read from all of its numerals and from no other text, and its own
text is one of them.

Main results:

- Definition `Text.IsNumeral`: the numerals of an integer.
- Theorem `Text.readInt64_eq_some_iff`: what is read from a text without blanks around it.
- Theorem `Text.readInt64_trim_eq_some_iff`: what is read from a text with blanks around it.
- Theorem `Text.isNumeral_toString`: the text of an integer is a numeral of it.
-/

namespace TagSearch.Text

/-! ## Numerals -/

/-- A text of digits, at least one. -/
structure IsDigits (cs : List Char) : Prop where
  ne_nil : cs ≠ []
  isDigit : ∀ c ∈ cs, c.isDigit = true

/-- A text is a decimal numeral of an integer: digits, behind a sign or behind none. -/
inductive IsNumeral : List Char → Int → Prop where
  | plain {digits : List Char} (h : IsDigits digits) :
    IsNumeral digits (Nat.ofDigitChars 10 digits 0)
  | plus {digits : List Char} (h : IsDigits digits) :
    IsNumeral ('+' :: digits) (Nat.ofDigitChars 10 digits 0)
  | minus {digits : List Char} (h : IsDigits digits) :
    IsNumeral ('-' :: digits) (-(Nat.ofDigitChars 10 digits 0 : Int))

/-- An integer fits 64 bits. -/
def IsInt64 (i : Int) : Prop :=
  -(twoTo 63 : Int) ≤ i ∧ i < twoTo 63

variable {cs core before after : List Char} {n : Nat} {i : Int}

theorem digitsValue_eq (cs : List Char) : digitsValue cs = Nat.ofDigitChars 10 cs 0 := by
  have hstep : ∀ m : Nat, cs.foldl (fun n c => n * 10 + (c.toNat - '0'.toNat)) m =
      Nat.ofDigitChars 10 cs m := by
    induction cs with
    | nil =>
      intro m
      simp
    | cons c cs ih =>
      intro m
      rw [List.foldl_cons, ih, Nat.ofDigitChars_cons, Nat.mul_comm m 10]
  exact hstep 0

/-- Digits write a number below the power of ten that their count gives. -/
theorem ofDigitChars_lt {digits : List Char} (h : ∀ c ∈ digits, c.isDigit = true) :
    Nat.ofDigitChars 10 digits 0 < tenTo digits.length := by
  induction digits with
  | nil => simp
  | cons c digits ih =>
    have hdigit : 48 ≤ c.toNat ∧ c.toNat ≤ 57 :=
      Char.isDigit_iff_toNat.mp (h c List.mem_cons_self)
    have hvalue : c.toNat - '0'.toNat ≤ 9 := by
      have hzero : '0'.toNat = 48 := rfl
      omega
    have hpower : 10 ^ digits.length = tenTo digits.length := rfl
    have hproduct : tenTo digits.length * (c.toNat - '0'.toNat) ≤ tenTo digits.length * 9 :=
      Nat.mul_le_mul_left _ hvalue
    have hrest := ih fun c hc => h c (List.mem_cons_of_mem _ hc)
    rw [Nat.ofDigitChars_cons, Nat.ofDigitChars_eq_ofDigitChars_zero, Nat.mul_zero, Nat.zero_add,
      List.length_cons, tenTo_succ, hpower]
    omega

theorem readDigits_eq_some_iff :
    readDigits cs = some n ↔ IsDigits cs ∧ n = Nat.ofDigitChars 10 cs 0 := by
  rw [readDigits, digitsValue_eq]
  by_cases h : cs ≠ [] ∧ cs.all Char.isDigit = true
  · have hdigits : IsDigits cs := ⟨h.1, List.all_eq_true.mp h.2⟩
    rw [if_pos h]
    simp [hdigits, eq_comm]
  · have hdigits : ¬ IsDigits cs := fun hcs => h ⟨hcs.ne_nil, List.all_eq_true.mpr hcs.isDigit⟩
    rw [if_neg h]
    simp [hdigits]

/-- An integer made of the value of digits, on which there is a bound. -/
theorem bounded_eq_some_iff {f : Nat → Int} {fits : Nat → Bool} :
    ((readDigits cs).filter fits).map f = some i ↔
      IsDigits cs ∧ fits (Nat.ofDigitChars 10 cs 0) = true ∧
        f (Nat.ofDigitChars 10 cs 0) = i := by
  simp only [Option.map_eq_some_iff, Option.filter_eq_some_iff, readDigits_eq_some_iff]
  constructor
  · rintro ⟨n, ⟨⟨hdigits, rfl⟩, hfits⟩, hi⟩
    exact ⟨hdigits, hfits, hi⟩
  · rintro ⟨hdigits, hfits, hi⟩
    exact ⟨_, ⟨⟨hdigits, rfl⟩, hfits⟩, hi⟩

/-- Digits do not begin with a sign. -/
theorem IsDigits.ne_cons {sign : Char} (h : IsDigits cs) (hsign : sign.isDigit = false)
    (rest : List Char) : cs ≠ sign :: rest := by
  intro hcs
  have hdigit : sign.isDigit = true := h.isDigit sign (by rw [hcs]; exact List.mem_cons_self)
  rw [hsign] at hdigit
  cases hdigit

theorem readInt64_minus (digits : List Char) :
    readInt64 ('-' :: digits) =
      ((readDigits digits).filter (· ≤ twoTo 63)).map fun n : Nat => -(n : Int) := by
  rw [readInt64]
  cases (readDigits digits).filter (· ≤ twoTo 63) with
  | none => rfl
  | some n => rfl

theorem readInt64_plus (digits : List Char) :
    readInt64 ('+' :: digits) =
      ((readDigits digits).filter (· < twoTo 63)).map fun n : Nat => (n : Int) := by
  rw [readInt64]
  cases (readDigits digits).filter (· < twoTo 63) with
  | none => rfl
  | some n => rfl

/-- A text without a sign is read as digits. -/
theorem readInt64_plain (hminus : ∀ rest, cs ≠ '-' :: rest) (hplus : ∀ rest, cs ≠ '+' :: rest) :
    readInt64 cs = ((readDigits cs).filter (· < twoTo 63)).map fun n : Nat => (n : Int) := by
  unfold readInt64
  split
  · next rest => exact absurd rfl (hminus rest)
  · next rest => exact absurd rfl (hplus rest)
  · cases (readDigits cs).filter (· < twoTo 63) with
    | none => rfl
    | some n => rfl

/-- An integer that fits 64 bits is read from its numerals and from no other text. -/
theorem readInt64_eq_some_iff : readInt64 cs = some i ↔ IsNumeral cs i ∧ IsInt64 i := by
  have hpos := twoTo_pos 63
  constructor
  · intro h
    by_cases hminus : ∃ rest, cs = '-' :: rest
    · obtain ⟨digits, rfl⟩ := hminus
      rw [readInt64_minus, bounded_eq_some_iff, decide_eq_true_eq] at h
      obtain ⟨hdigits, hfits, rfl⟩ := h
      refine ⟨.minus hdigits, ?_, ?_⟩ <;> omega
    by_cases hplus : ∃ rest, cs = '+' :: rest
    · obtain ⟨digits, rfl⟩ := hplus
      rw [readInt64_plus, bounded_eq_some_iff, decide_eq_true_eq] at h
      obtain ⟨hdigits, hfits, rfl⟩ := h
      refine ⟨.plus hdigits, ?_, ?_⟩ <;> omega
    · rw [readInt64_plain (not_exists.mp hminus) (not_exists.mp hplus), bounded_eq_some_iff,
        decide_eq_true_eq] at h
      obtain ⟨hdigits, hfits, rfl⟩ := h
      refine ⟨.plain hdigits, ?_, ?_⟩ <;> omega
  · rintro ⟨hnumeral, hlow, hhigh⟩
    cases hnumeral with
    | plain hdigits =>
      rw [readInt64_plain (hdigits.ne_cons (by decide)) (hdigits.ne_cons (by decide)),
        bounded_eq_some_iff, decide_eq_true_eq]
      exact ⟨hdigits, by omega, rfl⟩
    | plus hdigits =>
      rw [readInt64_plus, bounded_eq_some_iff, decide_eq_true_eq]
      exact ⟨hdigits, by omega, rfl⟩
    | minus hdigits =>
      rw [readInt64_minus, bounded_eq_some_iff, decide_eq_true_eq]
      exact ⟨hdigits, by omega, rfl⟩

theorem isDigits_toDigits (n : Nat) : IsDigits (Nat.toDigits 10 n) where
  ne_nil := Nat.toDigits_ne_nil
  isDigit _ hc := Nat.isDigit_of_mem_toDigits (by decide) (by decide) hc

/-- The text of an integer that is not negative has no sign. -/
theorem toList_toString_ofNat (n : Nat) : (toString (Int.ofNat n)).toList = Nat.toDigits 10 n := by
  rw [show toString (Int.ofNat n) = toString n from rfl, Nat.toString_eq_ofList_toDigits,
    String.toList_ofList]

/-- The text of a negative integer has the sign before its digits. -/
theorem toList_toString_negSucc (n : Nat) :
    (toString (Int.negSucc n)).toList = '-' :: Nat.toDigits 10 (n + 1) := by
  rw [show toString (Int.negSucc n) = "-" ++ toString (n + 1) from rfl]
  simp

/-- The text of an integer is a numeral of it. -/
theorem isNumeral_toString (i : Int) : IsNumeral (toString i).toList i := by
  cases i with
  | ofNat n =>
    have hplain := IsNumeral.plain (isDigits_toDigits n)
    rw [Nat.ofDigitChars_ten_toDigits] at hplain
    rw [toList_toString_ofNat]
    exact hplain
  | negSucc n =>
    have hminus := IsNumeral.minus (isDigits_toDigits (n + 1))
    rw [Nat.ofDigitChars_ten_toDigits] at hminus
    rw [toList_toString_negSucc]
    exact hminus

/-! ## Blanks at the ends -/

theorem not_isBlank_of_isDigit {c : Char} (h : c.isDigit = true) : isBlank c = false := by
  have hrange : 48 ≤ c.toNat ∧ c.toNat ≤ 57 := Char.isDigit_iff_toNat.mp h
  rw [← Bool.not_eq_true]
  intro hblank
  simp only [isBlank, Bool.or_eq_true, Bool.and_eq_true, decide_eq_true_eq, beq_iff_eq] at hblank
  omega

theorem IsNumeral.ne_nil (h : IsNumeral cs i) : cs ≠ [] := by
  cases h with
  | plain hdigits => exact hdigits.ne_nil
  | plus hdigits => exact List.cons_ne_nil _ _
  | minus hdigits => exact List.cons_ne_nil _ _

/-- A numeral holds no blanks. -/
theorem IsNumeral.not_isBlank (h : IsNumeral cs i) : ∀ c ∈ cs, isBlank c = false := by
  cases h with
  | plain hdigits => exact fun c hc => not_isBlank_of_isDigit (hdigits.isDigit c hc)
  | plus hdigits =>
    rw [List.forall_mem_cons]
    exact ⟨by decide, fun c hc => not_isBlank_of_isDigit (hdigits.isDigit c hc)⟩
  | minus hdigits =>
    rw [List.forall_mem_cons]
    exact ⟨by decide, fun c hc => not_isBlank_of_isDigit (hdigits.isDigit c hc)⟩

/-- A numeral holds digits and signs only. -/
theorem IsNumeral.notMem (h : IsNumeral cs i) {c : Char} (hdigit : c.isDigit = false)
    (hplus : c ≠ '+') (hminus : c ≠ '-') : c ∉ cs := by
  have hrun : ∀ {digits : List Char}, IsDigits digits → c ∉ digits := by
    intro digits hdigits hmem
    rw [hdigits.isDigit c hmem] at hdigit
    cases hdigit
  cases h with
  | plain hdigits => exact hrun hdigits
  | plus hdigits => exact List.not_mem_cons_of_ne_of_not_mem hplus (hrun hdigits)
  | minus hdigits => exact List.not_mem_cons_of_ne_of_not_mem hminus (hrun hdigits)

/-- Blanks before a text without blanks are what is trimmed at its start. -/
theorem trimStart_append (hbefore : ∀ c ∈ before, isBlank c = true) {rest : List Char}
    (hrest : ∀ c ∈ rest.head?, isBlank c = false) : trimStart (before ++ rest) = rest := by
  rw [trimStart, List.dropWhile_append_of_pos hbefore]
  cases rest with
  | nil => rfl
  | cons c rest => exact List.dropWhile_cons_of_neg (by simp [hrest c rfl])

/-- Blanks around a text without blanks are what is trimmed. -/
theorem trim_between (hbefore : ∀ c ∈ before, isBlank c = true)
    (hafter : ∀ c ∈ after, isBlank c = true) (hne : core ≠ [])
    (hcore : ∀ c ∈ core, isBlank c = false) : trim (before ++ core ++ after) = core := by
  have hstart : trimStart (before ++ core ++ after) = core ++ after := by
    rw [List.append_assoc]
    apply trimStart_append hbefore
    intro c hc
    rw [List.head?_append_of_ne_nil core hne] at hc
    exact hcore c (List.mem_of_mem_head? hc)
  have hstop : trimStart (core ++ after).reverse = core.reverse := by
    rw [List.reverse_append]
    apply trimStart_append
    · intro c hc
      exact hafter c (List.mem_reverse.mp hc)
    · intro c hc
      exact hcore c (List.mem_reverse.mp (List.mem_of_mem_head? hc))
  rw [trim, hstart, hstop, List.reverse_reverse]

/-- A text without blanks has none at its ends. -/
theorem trim_eq_self (h : ∀ c ∈ cs, isBlank c = false) : trim cs = cs := by
  cases cs with
  | nil => rfl
  | cons c cs =>
    have hblank : ∀ c ∈ ([] : List Char), isBlank c = true := fun c hc => by cases hc
    have htrim := trim_between hblank hblank (List.cons_ne_nil c cs) h
    rwa [List.nil_append, List.append_nil] at htrim

/-- A text stands between its blanks. -/
theorem exists_blanks (cs : List Char) :
    ∃ before after, (∀ c ∈ before, isBlank c = true) ∧ (∀ c ∈ after, isBlank c = true) ∧
      cs = before ++ trim cs ++ after := by
  refine ⟨takeBlank cs, (trimStart cs).rtakeWhile isBlank, ?_, ?_, ?_⟩
  · intro c hc
    exact isBlank_of_mem_takeBlank hc
  · intro c hc
    exact List.mem_rtakeWhile_imp hc
  · have htrim : trim cs = (trimStart cs).rdropWhile isBlank := rfl
    rw [htrim, List.append_assoc, List.rdropWhile_append_rtakeWhile, takeBlank_append_trimStart]

/-- An integer that fits 64 bits is read from its numerals between blanks, and from no other
text. -/
theorem readInt64_trim_eq_some_iff :
    readInt64 (trim cs) = some i ↔ IsInt64 i ∧ ∃ before numeral after,
      (∀ c ∈ before, isBlank c = true) ∧ IsNumeral numeral i ∧
        (∀ c ∈ after, isBlank c = true) ∧ cs = before ++ numeral ++ after := by
  rw [readInt64_eq_some_iff]
  constructor
  · rintro ⟨hnumeral, hrange⟩
    obtain ⟨before, after, hbefore, hafter, hcs⟩ := exists_blanks cs
    exact ⟨hrange, before, trim cs, after, hbefore, hnumeral, hafter, hcs⟩
  · rintro ⟨hrange, before, numeral, after, hbefore, hnumeral, hafter, rfl⟩
    rw [trim_between hbefore hafter hnumeral.ne_nil hnumeral.not_isBlank]
    exact ⟨hnumeral, hrange⟩

end TagSearch.Text
