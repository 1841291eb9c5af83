import Mathlib.Data.Nat.Find
import TagSearch.Proofs.DecimalRange
import TagSearch.Proofs.IntegerText
import TagSearch.Proofs.Numeral

/-!
# Numerals beyond the precision of decimals

A numeral of any length is read to as many places behind the point as leave a mantissa that fits,
and the digit behind the last place rounds it.  The numeral is refused only if its whole part alone
is too large.

Main results:

- Definition `Numeral.kept`: the number that is left of a numeral.
- Theorems `Numeral.parse_eq_none_iff` and `Numeral.exists_parse`: a numeral is refused, or read as
  that number.
- Theorem `Numeral.kept_eq_value`: a numeral that fits loses nothing.
- Theorems `Numeral.kept_le_of_value_le` and `Numeral.le_kept_of_le_value`: rounding does not pass
  an integer.
- Theorem `Numeral.exists_parse_ofInt`: the text of an integer that fits is read as the integer.
-/

namespace TagSearch

/-! ## Rounding to a number of places -/

theorem le_roundHalfUp_iff {num den b : Nat} (hden : 0 < den) :
    b ≤ roundHalfUp num den ↔ b * (2 * den) ≤ 2 * num + den := by
  rw [roundHalfUp, Nat.le_div_iff_mul_le (by omega)]

theorem roundHalfUp_lt_iff {num den b : Nat} (hden : 0 < den) :
    roundHalfUp num den < b ↔ 2 * num + den < b * (2 * den) := by
  rw [roundHalfUp, Nat.div_lt_iff_lt_mul (by omega)]

theorem roundHalfUp_eq {num den q : Nat} (hden : 0 < den) (hlow : q * (2 * den) ≤ 2 * num + den)
    (hhigh : 2 * num + den < (q + 1) * (2 * den)) : roundHalfUp num den = q :=
  Nat.le_antisymm (Nat.lt_succ_iff.mp ((roundHalfUp_lt_iff hden).mpr hhigh))
    ((le_roundHalfUp_iff hden).mpr hlow)

namespace Decimal

variable {n s k m : Nat}

/-- The number `n / 10 ^ s` in units of the place `k` behind the point, where half a unit counts as
a whole one. -/
def units (n s k : Nat) : Nat :=
  roundHalfUp n (tenTo (s - k))

/-- The places behind the point that are kept of `n / 10 ^ s`: as many of its own as leave a
mantissa that fits. -/
def places (n s : Nat) : Nat :=
  Nat.findGreatest (fun k => units n s k < bound) (min s maxScale)

/-- The decimal that is left of `±n / 10 ^ s`. -/
def nearest (negative : Bool) (n s : Nat) : Option Decimal :=
  ofParts? (negative && units n s (places n s) != 0) (units n s (places n s)) (places n s)

theorem units_self (n s : Nat) : units n s s = n := by
  have hunits : roundHalfUp n 1 = n := by
    rw [roundHalfUp]
    omega
  rw [units, Nat.sub_self, tenTo_zero, hunits]

theorem places_le (n s : Nat) : places n s ≤ min s maxScale :=
  Nat.findGreatest_le _

/-- The places that are kept are those that leave room, when one more does not. -/
theorem places_eq (hs : k ≤ s) (hscale : k ≤ maxScale) (hfits : units n s k < bound)
    (hfull : ∀ j, k < j → j ≤ s → j ≤ maxScale → bound ≤ units n s j) : places n s = k := by
  refine Nat.findGreatest_eq_iff.mpr ⟨le_min hs hscale, fun _ => hfits, fun j hj hjs => ?_⟩
  exact Nat.not_lt.mpr (hfull j hj (hjs.trans (min_le_left _ _)) (hjs.trans (min_le_right _ _)))

/-- A number whose digits fit is kept whole. -/
theorem places_of_fits (hs : s ≤ maxScale) (hn : n < bound) : places n s = s := by
  refine places_eq (Nat.le_refl s) hs ?_ fun j hj hjs _ => absurd hj (Nat.not_lt.mpr hjs)
  rw [units_self]
  exact hn

theorem units_places_lt (h : units n s 0 < bound) : units n s (places n s) < bound :=
  Nat.findGreatest_spec (P := fun k => units n s k < bound) (Nat.zero_le _) h

/-- Without room for the whole part there is no place that leaves room. -/
theorem bound_le_units (h : bound ≤ units n s 0) (hk : k ≤ s) : bound ≤ units n s k := by
  have hpower : tenTo (s - 0) = tenTo (s - k) * tenTo k := by
    rw [← tenTo_add, Nat.sub_zero, Nat.sub_add_cancel hk]
  have hpos := tenTo_pos (s - k)
  have hten : 1 ≤ tenTo k := tenTo_pos k
  rw [units, le_roundHalfUp_iff (tenTo_pos _)] at h ⊢
  rw [hpower] at h
  have hbound : 0 < bound := by decide
  nlinarith

/-- There is no decimal only if the whole part leaves no room. -/
theorem nearest_eq_none_iff {negative : Bool} :
    nearest negative n s = none ↔ bound ≤ units n s 0 := by
  have hscale : places n s ≤ 28 := (places_le n s).trans (min_le_right _ _)
  rw [nearest, ofParts?]
  constructor
  · intro h
    by_contra hfits
    rw [dif_pos ⟨units_places_lt (Nat.not_le.mp hfits), hscale⟩] at h
    cases h
  · intro h
    have hplaces := (places_le n s).trans (min_le_left _ _)
    exact dif_neg fun hfits => absurd hfits.1 (Nat.not_lt.mpr (bound_le_units h hplaces))

/-! ## Reading -/

namespace Reading

variable {negative : Bool} {c : Char} {digits : List Char}

/-- What `n / 10 ^ t` is when digits of it have been read: `m` up to the place `s`, then one more,
and `rest` places are still to come. -/
structure Splits (n t m s digit rest : Nat) : Prop where
  places : t = s + (rest + 1)
  digit_le : digit ≤ 9
  low : (10 * m + digit) * tenTo rest ≤ n
  high : n < (10 * m + digit + 1) * tenTo rest

theorem splits_of_digits (hc : c.isDigit = true) (hdigits : ∀ c ∈ digits, c.isDigit = true) :
    Splits (Nat.ofDigitChars 10 (c :: digits) m) (s + (c :: digits).length) m s
      (c.toNat - '0'.toNat) digits.length := by
  have hrange : 48 ≤ c.toNat ∧ c.toNat ≤ 57 := Char.isDigit_iff_toNat.mp hc
  have hzero : '0'.toNat = 48 := rfl
  have hpower : tenTo digits.length = 10 ^ digits.length := rfl
  have hrest := Text.ofDigitChars_lt hdigits
  have hvalue : Nat.ofDigitChars 10 (c :: digits) m =
      (10 * m + (c.toNat - '0'.toNat)) * tenTo digits.length +
        Nat.ofDigitChars 10 digits 0 := by
    rw [Nat.ofDigitChars_cons, Nat.ofDigitChars_eq_ofDigitChars_zero, hpower, Nat.mul_comm]
  refine ⟨by rw [List.length_cons], by omega, ?_, ?_⟩
  · rw [hvalue]
    exact Nat.le_add_right _ _
  · rw [hvalue, Nat.add_one_mul (10 * m + _)]
    exact Nat.add_lt_add_left hrest _

variable {t digit rest : Nat}

/-- Up to the place `s` the number rounds down or up as the next digit says. -/
theorem Splits.units_eq (h : Splits n t m s digit rest) :
    units n t s = if digit < 5 then m else m + 1 := by
  have hpower : tenTo (t - s) = 10 * tenTo rest := by
    rw [h.places, Nat.add_sub_cancel_left, tenTo_succ, Nat.mul_comm]
  have hpos := tenTo_pos rest
  have hlow := h.low
  have hhigh := h.high
  have hdigit := h.digit_le
  rw [units, hpower]
  split
  · next hdown => apply roundHalfUp_eq (by omega) <;> nlinarith
  · next hup => apply roundHalfUp_eq (by omega) <;> nlinarith

/-- If rounding up at the place `s` fills the mantissa, the place before it rounds up, too. -/
theorem Splits.units_pred (h : Splits n t m (s + 1) digit rest) (hm : m + 1 = bound) :
    units n t s = (m + 5) / 10 := by
  have hpower : tenTo (t - s) = 100 * tenTo rest := by
    have hplaces : t - s = rest + 2 := by
      rw [h.places]
      omega
    rw [hplaces, tenTo_add, Nat.mul_comm]
    rfl
  have hbound : bound = 79228162514264337593543950336 := by decide
  have hmantissa : m = 79228162514264337593543950335 := by omega
  have hpos := tenTo_pos rest
  have hlow := h.low
  have hhigh := h.high
  have hdigit := h.digit_le
  rw [units, hpower]
  subst hmantissa
  apply roundHalfUp_eq (by omega) <;> nlinarith

/-- More places than leave room do not leave room. -/
theorem Splits.bound_le_units (h : Splits n t m s digit rest) (hfull : bound ≤ 10 * m + digit)
    {j : Nat} (hj : s < j) (hjt : j ≤ t) : bound ≤ units n t j := by
  have hpower : tenTo rest = tenTo (t - j) * tenTo (j - (s + 1)) := by
    have hplaces := h.places
    rw [← tenTo_add]
    congr 1
    omega
  have hpos := tenTo_pos (t - j)
  have hten : 1 ≤ tenTo (j - (s + 1)) := tenTo_pos _
  have hlow := h.low
  rw [units, le_roundHalfUp_iff hpos]
  rw [hpower] at hlow
  nlinarith

/-- A digit for which there is no room rounds what was read. -/
theorem round_eq (h : Splits n t m s digit rest) (hm : m < bound) (hs : s ≤ maxScale)
    (hfull : s = maxScale ∨ bound ≤ 10 * m + digit) :
    Reading.round ⟨negative, m, s, true, true⟩ digit = nearest negative n t := by
  have hst : s ≤ t := by
    rw [h.places]
    omega
  have hbeyond : ∀ j, s < j → j ≤ t → j ≤ maxScale → bound ≤ units n t j := by
    intro j hj hjt hjscale
    rcases hfull with hscale | hfull
    · omega
    · exact h.bound_le_units hfull hj hjt
  have hunits := h.units_eq
  rw [Reading.round]
  by_cases hdown : digit < 5
  · rw [if_pos hdown] at hunits ⊢
    have hplaces : places n t = s := places_eq hst hs (hunits ▸ hm) hbeyond
    rw [nearest, hplaces, hunits]
    rfl
  rw [if_neg hdown] at hunits ⊢
  by_cases hup : m + 1 < bound
  · have hplaces : places n t = s := places_eq hst hs (hunits ▸ hup) hbeyond
    rw [if_pos hup, nearest, hplaces, hunits]
    rfl
  · -- The mantissa would grow too large: one more place is given up.
    have hlast : m + 1 = bound := by omega
    rw [if_neg hup]
    cases s with
    | zero =>
      rw [if_pos rfl]
      exact (nearest_eq_none_iff.mpr (by omega)).symm
    | succ s =>
      have hpred := h.units_pred hlast
      have hroom : (m + 5) / 10 < bound := by
        have hbound : bound = 79228162514264337593543950336 := by decide
        omega
      have hplaces : places n t = s := by
        refine places_eq (by omega) (by omega) (hpred ▸ hroom) fun j hj hjt hjscale => ?_
        rcases Nat.lt_or_eq_of_le (Nat.succ_le_of_lt hj) with hless | rfl
        · exact hbeyond j hless hjt hjscale
        · exact (hunits.trans hlast).ge
      rw [if_neg (Nat.succ_ne_zero s), nearest, hplaces, hpred]
      rfl

/-- Digits behind the point are read as the number that is left of them. -/
theorem read_fraction (hdigits : ∀ c ∈ digits, c.isDigit = true) (hm : m < bound)
    (hs : s ≤ maxScale) :
    Reading.read ⟨negative, m, s, true, true⟩ digits =
      nearest negative (Nat.ofDigitChars 10 digits m) (s + digits.length) := by
  -- what was read before the digits stays free: each digit becomes a part of it
  induction digits generalizing m s with
  | nil =>
    have hplaces := places_of_fits hs hm
    rw [Nat.ofDigitChars_nil, List.length_nil, Nat.add_zero, nearest, hplaces, units_self]
    rfl
  | cons c digits ih =>
    have hdigit : c.isDigit = true := hdigits c List.mem_cons_self
    have hrest : ∀ c' ∈ digits, c'.isDigit = true := fun c' hc' =>
      hdigits c' (List.mem_cons_of_mem c hc')
    have hsplits : Splits (Nat.ofDigitChars 10 (c :: digits) m) (s + (c :: digits).length) m s
      (c.toNat - '0'.toNat) digits.length := splits_of_digits hdigit hrest
    have hcomm : m * 10 + (c.toNat - '0'.toNat) = 10 * m + (c.toNat - '0'.toNat) := by omega
    by_cases hroom : s < maxScale ∧ 10 * m + (c.toNat - '0'.toNat) < bound
    · rw [read_digit hdigit (by omega) fun _ => hroom.1, if_pos rfl, ih hrest (by omega) hroom.1,
        Nat.ofDigitChars_cons, List.length_cons, hcomm]
      congr 1
      omega
    · have hfull : s = maxScale ∨ bound ≤ 10 * m + (c.toNat - '0'.toNat) := by omega
      rw [read, if_pos hdigit, ← round_eq hsplits hm hs hfull]
      rcases hfull with rfl | hfull
      · rfl
      · simp only [hcomm, if_neg (Nat.not_lt.mpr hfull)]
        split <;> rfl

/-- Digits before the point that are too large on their own are refused. -/
theorem read_eq_none {cs : List Char} {some? : Bool} (hdigits : ∀ c ∈ digits, c.isDigit = true)
    (hm : m < bound) (hlarge : bound ≤ Nat.ofDigitChars 10 digits m) :
    Reading.read ⟨negative, m, 0, false, some?⟩ (digits ++ cs) = none := by
  induction digits generalizing m some? with
  | nil =>
    rw [Nat.ofDigitChars_nil] at hlarge
    exact absurd hm (Nat.not_lt.mpr hlarge)
  | cons c digits ih =>
    have hdigit : c.isDigit = true := hdigits c List.mem_cons_self
    have hrest : ∀ c' ∈ digits, c'.isDigit = true := fun c' hc' =>
      hdigits c' (List.mem_cons_of_mem c hc')
    rw [Nat.ofDigitChars_cons, Nat.mul_comm] at hlarge
    by_cases hroom : m * 10 + (c.toNat - '0'.toNat) < bound
    · rw [List.cons_append, read_digit hdigit hroom (by simp)]
      exact ih hrest hroom hlarge
    · rw [List.cons_append, read, if_pos hdigit]
      simp only [Bool.false_and, Bool.false_eq_true, if_false, if_neg hroom]

end Reading

/-! ## Values -/

/-- A number with its sign. -/
def signed (negative : Bool) (x : ℚ) : ℚ :=
  if negative then -x else x

theorem abs_signed (negative : Bool) {x : ℚ} (hx : 0 ≤ x) : |signed negative x| = x := by
  cases negative with
  | false => exact abs_of_nonneg hx
  | true => exact (abs_neg x).trans (abs_of_nonneg hx)

/-- The value of a decimal. -/
def value (d : Decimal) : ℚ :=
  signed d.negative d.absValue

theorem scaled_eq (d : Decimal) : (d.scaled : ℚ) = d.value * tenTo maxScale := by
  have hpos : ((tenTo maxScale : Nat) : ℚ) ≠ 0 := by exact_mod_cast (tenTo_pos _).ne'
  have habs : d.absValue =
      ((d.mantissa * tenTo (maxScale - d.scale) : Nat) : ℚ) / tenTo maxScale :=
    absValue_eq_div d.scale_le
  rw [eq_div_iff hpos] at habs
  rw [scaled, value, signed]
  split
  · rw [neg_mul, habs]
    push_cast
    rfl
  · rw [habs]
    push_cast
    rfl

/-- What is left of a number has the value of its units. -/
theorem value_of_nearest {negative : Bool} {d : Decimal} (h : nearest negative n s = some d) :
    d.value = signed negative (units n s (places n s) / tenTo (places n s)) := by
  obtain ⟨hsign, hmantissa, hscale⟩ := ofParts?_eq_some_iff.mp h
  rw [value, absValue, hsign, hmantissa, hscale]
  by_cases hzero : units n s (places n s) = 0
  · simp [hzero, signed]
  · have hne : (units n s (places n s) != 0) = true := bne_iff_ne.mpr hzero
    rw [hne, Bool.and_true]

end Decimal

/-! ## Numerals -/

/-- A decimal numeral: a sign or none, digits, and a point with digits behind it or none. -/
structure Numeral where
  negative : Bool
  whole : List Char
  /-- The digits behind the point; there is no point without them. -/
  fraction : List Char
  isDigits_whole : Text.IsDigits whole
  isDigit_of_mem_fraction : ∀ c ∈ fraction, c.isDigit = true

namespace Numeral

open Decimal (bound limit maxScale signed)

/-- The characters of a numeral. -/
def chars (v : Numeral) : List Char :=
  (if v.negative then ['-'] else []) ++
    (v.whole ++ if v.fraction = [] then [] else '.' :: v.fraction)

/-- The text of a numeral. -/
def text (v : Numeral) : String :=
  String.ofList v.chars

/-- The number that all digits of a numeral write. -/
def digits (v : Numeral) : Nat :=
  Nat.ofDigitChars 10 (v.whole ++ v.fraction) 0

/-- The digits behind the point. -/
def scale (v : Numeral) : Nat :=
  v.fraction.length

/-- The exact value of a numeral. -/
def value (v : Numeral) : ℚ :=
  signed v.negative (v.digits / tenTo v.scale)

/-- The places behind the point that are kept of a numeral. -/
def places (v : Numeral) : Nat :=
  Decimal.places v.digits v.scale

/-- What is left of the absolute value of a numeral. -/
def keptAbs (v : Numeral) : ℚ :=
  Decimal.units v.digits v.scale v.places / tenTo v.places

/-- The number that is left of a numeral when it is rounded to the places that are kept. -/
def kept (v : Numeral) : ℚ :=
  signed v.negative v.keptAbs

variable (v : Numeral)

theorem mem_chars {c : Char} (hc : c ∈ v.chars) : c.isDigit = true ∨ c = '-' ∨ c = '.' := by
  simp only [chars, List.mem_append] at hc
  rcases hc with hc | hc | hc
  · split at hc
    · exact .inr (.inl (List.mem_singleton.mp hc))
    · cases hc
  · exact .inl (v.isDigits_whole.isDigit c hc)
  · split at hc
    · cases hc
    · rcases List.mem_cons.mp hc with rfl | hc
      · exact .inr (.inr rfl)
      · exact .inl (v.isDigit_of_mem_fraction c hc)

theorem not_isBlank_of_mem_chars {c : Char} (hc : c ∈ v.chars) : Text.isBlank c = false := by
  rcases v.mem_chars hc with hdigit | rfl | rfl
  · exact Text.not_isBlank_of_isDigit hdigit
  · decide
  · decide

theorem abs_value : |v.value| = v.digits / tenTo v.scale :=
  Decimal.abs_signed _ (div_nonneg (Nat.cast_nonneg _) (Nat.cast_nonneg _))

theorem limit_le_iff : limit ≤ |v.value| ↔ bound ≤ Decimal.units v.digits v.scale 0 := by
  have hbound : bound = twoTo 96 := rfl
  have hpositive : 0 < twoTo 96 := twoTo_pos 96
  rw [v.abs_value, Decimal.limit_le_div_iff, Decimal.units, le_roundHalfUp_iff (tenTo_pos _),
    Nat.sub_zero, hbound, Nat.sub_mul, Nat.one_mul]
  have hdouble : twoTo 96 * (2 * tenTo v.scale) = 2 * twoTo 96 * tenTo v.scale := by
    rw [← Nat.mul_assoc, Nat.mul_comm (twoTo 96) 2]
  rw [hdouble]
  omega

/-- A numeral whose digits fit stays below the limit. -/
theorem abs_value_lt_limit (h : v.digits < bound) : |v.value| < limit := by
  rw [← not_le, limit_le_iff, not_le, Decimal.units, roundHalfUp_lt_iff (tenTo_pos _)]
  have hpos := tenTo_pos (v.scale - 0)
  nlinarith

/-- The sign of a numeral is read before its digits. -/
theorem readPlain_chars :
    Decimal.readPlain v.chars = Decimal.Reading.read ⟨v.negative, 0, 0, false, false⟩
      (v.whole ++ if v.fraction = [] then [] else '.' :: v.fraction) := by
  rw [chars]
  cases hsign : v.negative with
  | true => rfl
  | false =>
    cases hwhole : v.whole with
    | nil => exact absurd hwhole v.isDigits_whole.ne_nil
    | cons c cs =>
      have hdigit : c.isDigit = true := v.isDigits_whole.isDigit c (by simp [hwhole])
      exact Decimal.readPlain_of_digit hdigit _

/-- Without a power of ten after it a numeral is not read as a number with one. -/
theorem readScientific_chars : Decimal.readScientific v.chars = none := by
  have hmark : ∀ c ∈ v.chars, (!(c == 'e' || c == 'E')) = true := by
    intro c hc
    rcases v.mem_chars hc with hdigit | rfl | rfl
    · rw [Bool.not_eq_true', Bool.or_eq_false_iff, beq_eq_false_iff_ne, beq_eq_false_iff_ne]
      constructor
      · rintro rfl
        exact absurd hdigit (by decide)
      · rintro rfl
        exact absurd hdigit (by decide)
    · decide
    · decide
  simp only [Decimal.readScientific, List.dropWhile_eq_nil_iff.mpr hmark]

theorem digits_eq :
    v.digits = Nat.ofDigitChars 10 v.fraction (Nat.ofDigitChars 10 v.whole 0) := by
  rw [digits, Nat.ofDigitChars_append]

/-- Behind the whole part the digits of the fraction follow, whether a point stands before them or
there are none. -/
theorem read_point (m : Nat) :
    Decimal.Reading.read ⟨v.negative, m, 0, false, true⟩
        (if v.fraction = [] then [] else '.' :: v.fraction) =
      Decimal.Reading.read ⟨v.negative, m, 0, true, true⟩ v.fraction := by
  cases v.fraction with
  | nil => rfl
  | cons c cs =>
    rw [if_neg (List.cons_ne_nil c cs), Decimal.Reading.read]
    simp

/-- A whole part that leaves no room alone leaves none with the fraction. -/
theorem bound_le_units_of_whole (h : bound ≤ Nat.ofDigitChars 10 v.whole 0) :
    bound ≤ Decimal.units v.digits v.scale 0 := by
  rw [Decimal.units, le_roundHalfUp_iff (tenTo_pos _), Nat.sub_zero, digits_eq,
    Nat.ofDigitChars_eq_ofDigitChars_zero]
  have hproduct : bound * tenTo v.scale ≤
      10 ^ v.fraction.length * Nat.ofDigitChars 10 v.whole 0 :=
    (Nat.mul_le_mul_right _ h).trans (Nat.mul_comm _ _).le
  nlinarith

theorem readPlain_eq_nearest :
    Decimal.readPlain v.chars = Decimal.nearest v.negative v.digits v.scale := by
  rw [readPlain_chars]
  by_cases hroom : Nat.ofDigitChars 10 v.whole 0 < bound
  · rw [Decimal.Reading.read_digits (.inr v.isDigits_whole.ne_nil) v.isDigits_whole.isDigit hroom
      (by simp) (by simp), if_neg (by simp), read_point,
      Decimal.Reading.read_fraction v.isDigit_of_mem_fraction hroom (Nat.zero_le _), digits_eq,
      Nat.zero_add, scale]
  · have hlarge := Nat.not_lt.mp hroom
    rw [Decimal.Reading.read_eq_none v.isDigits_whole.isDigit (by decide) hlarge]
    exact (Decimal.nearest_eq_none_iff.mpr (v.bound_le_units_of_whole hlarge)).symm

/-- A numeral is read as the decimal that is left of it. -/
theorem parse_eq_nearest :
    Decimal.parse v.text = Decimal.nearest v.negative v.digits v.scale := by
  have htrim : Text.trim v.text.toList = v.chars := by
    rw [text, String.toList_ofList]
    exact Text.trim_eq_self fun c hc => v.not_isBlank_of_mem_chars hc
  rw [Decimal.parse, htrim]
  simp only [readPlain_eq_nearest, readScientific_chars]
  cases Decimal.nearest v.negative v.digits v.scale with
  | none => rfl
  | some d => rfl

/-- A numeral is refused exactly if its absolute value reaches the limit. -/
theorem parse_eq_none_iff : Decimal.parse v.text = none ↔ limit ≤ |v.value| := by
  rw [parse_eq_nearest, Decimal.nearest_eq_none_iff, limit_le_iff]

/-- Any other numeral is read as the number that is left of it. -/
theorem exists_parse (h : |v.value| < limit) :
    ∃ d, Decimal.parse v.text = some d ∧ d.value = v.kept := by
  have hsome : Decimal.parse v.text ≠ none := fun hnone =>
    absurd (v.parse_eq_none_iff.mp hnone) (not_le.mpr h)
  obtain ⟨d, hd⟩ := Option.ne_none_iff_exists'.mp hsome
  rw [parse_eq_nearest] at hd
  exact ⟨d, v.parse_eq_nearest.trans hd, Decimal.value_of_nearest hd⟩

/-- A numeral that fits loses nothing. -/
theorem kept_eq_value (hscale : v.scale ≤ maxScale) (hdigits : v.digits < bound) :
    v.kept = v.value := by
  have hplaces : v.places = v.scale := Decimal.places_of_fits hscale hdigits
  rw [kept, keptAbs, value, hplaces, Decimal.units_self]

/-! ## Rounding and integers -/

/-- Rounding up does not pass an integer. -/
theorem units_le {n s k m : Nat} (hk : k ≤ s) (h : n ≤ m * tenTo s) :
    Decimal.units n s k ≤ m * tenTo k := by
  have hpower : m * tenTo s = m * tenTo k * tenTo (s - k) := by
    rw [Nat.mul_assoc, ← tenTo_add, Nat.add_sub_cancel' hk]
  rw [hpower] at h
  rw [← Nat.lt_succ_iff, Decimal.units, roundHalfUp_lt_iff (tenTo_pos _)]
  have hpos := tenTo_pos (s - k)
  nlinarith

/-- Rounding down does not pass an integer. -/
theorem le_units {n s k m : Nat} (hk : k ≤ s) (h : m * tenTo s ≤ n) :
    m * tenTo k ≤ Decimal.units n s k := by
  have hpower : m * tenTo s = m * tenTo k * tenTo (s - k) := by
    rw [Nat.mul_assoc, ← tenTo_add, Nat.add_sub_cancel' hk]
  rw [hpower] at h
  rw [Decimal.units, le_roundHalfUp_iff (tenTo_pos _)]
  nlinarith

theorem places_le_scale : v.places ≤ v.scale :=
  (Decimal.places_le _ _).trans (min_le_left _ _)

theorem keptAbs_nonneg : 0 ≤ v.keptAbs :=
  div_nonneg (Nat.cast_nonneg _) (Nat.cast_nonneg _)

/-- Rounding up does not pass an integer. -/
theorem keptAbs_le {n : Int} (h : |v.value| ≤ n) : v.keptAbs ≤ n := by
  have hpos : (0 : ℚ) < tenTo v.scale := by exact_mod_cast tenTo_pos v.scale
  have hplaces : (0 : ℚ) < tenTo v.places := by exact_mod_cast tenTo_pos v.places
  obtain ⟨m, rfl⟩ : ∃ m : Nat, n = m := by
    have hnonneg : (0 : ℚ) ≤ n := (abs_nonneg _).trans h
    exact ⟨n.toNat, (Int.toNat_of_nonneg (by exact_mod_cast hnonneg)).symm⟩
  rw [v.abs_value, div_le_iff₀ hpos] at h
  rw [keptAbs, div_le_iff₀ hplaces]
  exact_mod_cast units_le v.places_le_scale (by exact_mod_cast h)

/-- Rounding down does not pass an integer. -/
theorem le_keptAbs {n : Int} (h : n ≤ |v.value|) : n ≤ v.keptAbs := by
  have hpos : (0 : ℚ) < tenTo v.scale := by exact_mod_cast tenTo_pos v.scale
  have hplaces : (0 : ℚ) < tenTo v.places := by exact_mod_cast tenTo_pos v.places
  cases n with
  | negSucc m =>
    have hnegative : ((Int.negSucc m : Int) : ℚ) ≤ 0 := by exact_mod_cast (Int.negSucc_lt_zero m).le
    exact hnegative.trans v.keptAbs_nonneg
  | ofNat m =>
    rw [Int.ofNat_eq_natCast, Int.cast_natCast] at h ⊢
    rw [v.abs_value, le_div_iff₀ hpos] at h
    rw [keptAbs, le_div_iff₀ hplaces]
    exact_mod_cast le_units v.places_le_scale (by exact_mod_cast h)

theorem value_eq_signed : v.value = signed v.negative |v.value| := by
  rw [abs_value, value]

/-- Rounding does not take a numeral above an integer that it does not exceed. -/
theorem kept_le_of_value_le {n : Int} (h : v.value ≤ n) : v.kept ≤ n := by
  rw [value_eq_signed] at h
  rw [kept]
  -- half a unit goes away from zero, so for a negative number it is the other bound that counts
  cases hsign : v.negative with
  | false =>
    rw [hsign] at h
    exact v.keptAbs_le h
  | true =>
    rw [hsign] at h
    have hflipped := v.le_keptAbs (by rw [Int.cast_neg]; exact neg_le.mp h)
    rw [Int.cast_neg] at hflipped
    exact neg_le.mp hflipped

/-- Rounding does not take a numeral below an integer that it reaches. -/
theorem le_kept_of_le_value {n : Int} (h : n ≤ v.value) : n ≤ v.kept := by
  rw [value_eq_signed] at h
  rw [kept]
  cases hsign : v.negative with
  | false =>
    rw [hsign] at h
    exact v.le_keptAbs h
  | true =>
    rw [hsign] at h
    have hflipped := v.keptAbs_le (by rw [Int.cast_neg]; exact le_neg.mp h)
    rw [Int.cast_neg] at hflipped
    exact le_neg.mp hflipped

/-- An integer that is not what is left of a numeral stands to both in the same order. -/
theorem lt_kept_iff {n : Int} (h : (n : ℚ) ≠ v.kept) : n < v.kept ↔ n < v.value := by
  constructor
  · intro hless
    by_contra hvalue
    exact absurd hless (not_lt.mpr (v.kept_le_of_value_le (not_lt.mp hvalue)))
  · intro hless
    exact lt_of_le_of_ne (v.le_kept_of_le_value hless.le) h

theorem kept_lt_iff {n : Int} (h : (n : ℚ) ≠ v.kept) : v.kept < n ↔ v.value < n := by
  constructor
  · intro hless
    by_contra hvalue
    exact absurd hless (not_lt.mpr (v.le_kept_of_le_value (not_lt.mp hvalue)))
  · intro hless
    exact lt_of_le_of_ne (v.kept_le_of_value_le hless.le) h.symm

/-! ## Integers -/

/-- The numeral of an integer. -/
def ofInt (n : Int) : Numeral where
  negative := decide (n < 0)
  whole := Nat.toDigits 10 n.natAbs
  fraction := []
  isDigits_whole := Text.isDigits_toDigits n.natAbs
  isDigit_of_mem_fraction _ hc := nomatch hc

theorem text_ofInt (n : Int) : (ofInt n).text = toString n := by
  apply String.toList_injective
  rw [text, String.toList_ofList]
  cases n with
  | ofNat n =>
    rw [Text.toList_toString_ofNat]
    simp [chars, ofInt]
  | negSucc n =>
    rw [Text.toList_toString_negSucc]
    simp [chars, ofInt]

theorem digits_ofInt (n : Int) : (ofInt n).digits = n.natAbs := by
  rw [digits, ofInt, List.append_nil, Nat.ofDigitChars_ten_toDigits]

theorem value_ofInt (n : Int) : (ofInt n).value = n := by
  have hscale : (ofInt n).scale = 0 := rfl
  rw [value, digits_ofInt, hscale, tenTo_zero, Nat.cast_one, div_one, signed]
  by_cases hsign : n < 0
  · rw [if_pos (by simpa [ofInt] using hsign)]
    have habs : (n.natAbs : Int) = -n := by omega
    have hcast : ((n.natAbs : Int) : ℚ) = ((-n : Int) : ℚ) := by rw [habs]
    rw [Int.cast_natCast, Int.cast_neg] at hcast
    rw [hcast, neg_neg]
  · rw [if_neg (by simpa [ofInt] using hsign)]
    have habs : (n.natAbs : Int) = n := by omega
    have hcast : ((n.natAbs : Int) : ℚ) = (n : ℚ) := by rw [habs]
    rwa [Int.cast_natCast] at hcast

/-- An integer that fits is read from its text. -/
theorem exists_parse_ofInt {n : Int} (hn : n.natAbs < bound) :
    ∃ d, Decimal.parse (toString n) = some d ∧ d.value = n := by
  have hexact : (ofInt n).kept = n := by
    rw [(ofInt n).kept_eq_value (Nat.zero_le _) (by rw [digits_ofInt]; exact hn), value_ofInt]
  have hless : |(ofInt n).value| < limit := by
    rw [← not_le, limit_le_iff, digits_ofInt]
    have hunits : Decimal.units n.natAbs (ofInt n).scale 0 = n.natAbs := Decimal.units_self _ 0
    rw [hunits]
    exact Nat.not_le.mpr hn
  obtain ⟨d, hd, hvalue⟩ := (ofInt n).exists_parse hless
  exact ⟨d, text_ofInt n ▸ hd, hvalue.trans hexact⟩

end Numeral

end TagSearch
