import TagSearch.Number.DecimalText

/-!
# Numerals that read back

Digits are read one after the other, each worth ten times the next.  A numeral with digits behind
its point gives the number that all of its digits write, at the scale of those behind the point.

Main results:

- Theorem `Decimal.Reading.read_digits`: what a run of digits adds to what was read.
- Theorems `Decimal.readPlain_toDigits` and `Decimal.readPlain_point`: the numerals of whole numbers
  and those with a point.
-/

namespace TagSearch.Decimal

/-- Digits only make a number larger. -/
theorem le_ofDigitChars (digits : List Char) (m : Nat) : m ≤ Nat.ofDigitChars 10 digits m := by
  have hpositive : 1 ≤ 10 ^ digits.length := Nat.one_le_pow _ _ (by decide)
  have hproduct : 1 * m ≤ 10 ^ digits.length * m := Nat.mul_le_mul_right m hpositive
  rw [Nat.ofDigitChars_eq_ofDigitChars_zero]
  omega

/-- The parts of a decimal that are in range make one up. -/
theorem exists_ofParts {m s : Nat} (negative : Bool) (hm : m < twoTo 96) (hs : s ≤ maxScale) :
    ∃ d, ofParts? negative m s = some d ∧ d.mantissa = m ∧ d.scale = s :=
  ⟨⟨negative, m, s, hm, hs⟩, ofParts?_eq_some_iff.mpr ⟨rfl, rfl, rfl⟩, rfl, rfl⟩

namespace Reading

variable {digits cs : List Char} {m s : Nat} {negative point some? : Bool}

/-- A digit that has room, before the point or behind it. -/
theorem read_digit {c : Char} (hc : c.isDigit = true)
    (hfits : m * 10 + (c.toNat - '0'.toNat) < bound) (hroom : point = true → s < maxScale) :
    Reading.read ⟨negative, m, s, point, some?⟩ (c :: cs) =
      Reading.read ⟨negative, m * 10 + (c.toNat - '0'.toNat), if point then s + 1 else 0, point,
        true⟩ cs := by
  have hopen : (point && s == maxScale) = false := by
    cases point with
    | false => rfl
    | true => simpa using Nat.ne_of_lt (hroom rfl)
  rw [read, if_pos hc]
  simp only [hopen, Bool.false_eq_true, if_false, if_pos hfits]

/-- Digits that have room, before the point or behind it. -/
theorem read_digits (hsome : some? = true ∨ digits ≠ [])
    (hdigits : ∀ c ∈ digits, c.isDigit = true) (hfits : Nat.ofDigitChars 10 digits m < bound)
    (hwhole : point = false → s = 0) (hroom : point = true → s + digits.length ≤ maxScale) :
    Reading.read ⟨negative, m, s, point, some?⟩ (digits ++ cs) =
      Reading.read ⟨negative, Nat.ofDigitChars 10 digits m, if point then s + digits.length else 0,
        point, true⟩ cs := by
  induction digits generalizing m s some? with
  | nil =>
    have hread : some? = true := by simpa using hsome
    cases point with
    | false => simp [hread, hwhole rfl]
    | true => simp [hread]
  | cons c digits ih =>
    have hnext : m * 10 + (c.toNat - '0'.toNat) = 10 * m + (c.toNat - '0'.toNat) := by omega
    rw [Nat.ofDigitChars_cons, ← hnext] at hfits ⊢
    have hdigit : c.isDigit = true := hdigits c List.mem_cons_self
    have hrest : ∀ c' ∈ digits, c'.isDigit = true := fun c' hc' =>
      hdigits c' (List.mem_cons_of_mem c hc')
    have hfirst := Nat.lt_of_le_of_lt (le_ofDigitChars digits _) hfits
    have hspace : point = true → s < maxScale := by
      intro hpoint
      have := hroom hpoint
      rw [List.length_cons] at this
      omega
    rw [List.cons_append, read_digit hdigit hfirst hspace, ih (.inl rfl) hrest hfits]
    · cases point with
      | false => simp
      | true => simp [Nat.add_right_comm, Nat.add_assoc]
    · intro hpoint
      simp [hpoint]
    · intro hpoint
      have := hroom hpoint
      rw [List.length_cons] at this
      simp only [hpoint, if_true]
      omega

end Reading

/-- A numeral that begins with a digit has no sign. -/
theorem readPlain_of_digit {c : Char} (hc : c.isDigit = true) (cs : List Char) :
    readPlain (c :: cs) = Reading.read { negative := false } (c :: cs) := by
  unfold readPlain
  split
  · next h =>
    cases h
    exact absurd hc (by decide)
  · next h =>
    cases h
    exact absurd hc (by decide)
  · rfl

/-- The digits of a number at the front of a numeral. -/
theorem readPlain_toDigits_append {n : Nat} (hn : n < bound) (cs : List Char) :
    readPlain (Nat.toDigits 10 n ++ cs) = Reading.read ⟨false, n, 0, false, true⟩ cs := by
  have hdigits : ∀ c ∈ Nat.toDigits 10 n, c.isDigit = true := fun c hc =>
    Nat.isDigit_of_mem_toDigits (by decide) (by decide) hc
  have hvalue : Nat.ofDigitChars 10 (Nat.toDigits 10 n) 0 = n := Nat.ofDigitChars_ten_toDigits
  have hsign : readPlain (Nat.toDigits 10 n ++ cs) =
      Reading.read ⟨false, 0, 0, false, false⟩ (Nat.toDigits 10 n ++ cs) := by
    cases hcs : Nat.toDigits 10 n with
    | nil => exact absurd hcs Nat.toDigits_ne_nil
    | cons c digits =>
      rw [hcs] at hdigits
      exact readPlain_of_digit (hdigits c List.mem_cons_self) (digits ++ cs)
  rw [← hvalue] at hn
  rw [hsign, Reading.read_digits (.inr Nat.toDigits_ne_nil) hdigits hn (by simp) (by simp), hvalue]
  rfl

/-- The numeral of a whole number. -/
theorem readPlain_toDigits {n : Nat} (hn : n < bound) :
    ∃ d, readPlain (Nat.toDigits 10 n) = some d ∧ d.mantissa = n ∧ d.scale = 0 := by
  have hread := readPlain_toDigits_append hn []
  rw [List.append_nil] at hread
  rw [hread]
  exact exists_ofParts _ hn (Nat.zero_le maxScale)

/-- The numeral of a number with digits behind the point. -/
theorem readPlain_point {n : Nat} {fraction : List Char}
    (hdigits : ∀ c ∈ fraction, c.isDigit = true) (hroom : fraction.length ≤ maxScale)
    (hfits : Nat.ofDigitChars 10 fraction n < bound) :
    ∃ d, readPlain (Nat.toDigits 10 n ++ '.' :: fraction) = some d ∧
      d.mantissa = Nat.ofDigitChars 10 fraction n ∧ d.scale = fraction.length := by
  have hn := Nat.lt_of_le_of_lt (le_ofDigitChars fraction n) hfits
  have hpoint : Reading.read ⟨false, n, 0, false, true⟩ ('.' :: fraction) =
      Reading.read ⟨false, n, 0, true, true⟩ (fraction ++ []) := by
    rw [Reading.read, List.append_nil]
    simp
  rw [readPlain_toDigits_append hn, hpoint,
    Reading.read_digits (.inl rfl) hdigits hfits (by simp) (by simpa using hroom), if_pos rfl,
    Nat.zero_add]
  exact exists_ofParts _ hfits hroom

end TagSearch.Decimal
