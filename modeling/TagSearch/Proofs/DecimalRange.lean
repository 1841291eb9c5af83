import Mathlib.Algebra.Order.Field.Basic
import Mathlib.Data.Rat.Cast.Order
import Mathlib.Tactic.FieldSimp
import Mathlib.Tactic.Linarith
import Mathlib.Tactic.NormNum
import TagSearch.Number.Decimal

/-!
# The range of decimals

Arithmetic on decimals gives up fraction digits until the mantissa fits, so it has no result only
when the whole part alone is too large.  Whole numbers lose nothing in this way.

Main results:

- Theorem `le_roundHalfEven_iff`: when a quotient rounds to an even number or more.
- Theorem `Decimal.fit_eq_none_iff`: there is no result from half a unit below `2 ^ 96` on.
- Theorem `Decimal.addAbs_eq_none_iff`: the same for sums.
- Theorem `Decimal.addAbs_of_counts`: the sum of whole numbers is exact.
-/

namespace TagSearch

/-- A quotient rounds to an even number or more from half a unit below that number on. -/
theorem le_roundHalfEven_iff {bound num den : Nat} (heven : bound % 2 = 0) (hbound : 0 < bound)
    (hden : 0 < den) :
    bound ≤ roundHalfEven num den ↔ (2 * bound - 1) * den ≤ 2 * num := by
  have hdivision : den * (num / den) + num % den = num := Nat.div_add_mod num den
  have hremainder : num % den < den := Nat.mod_lt num hden
  simp only [roundHalfEven]
  generalize num / den = q at hdivision ⊢
  generalize num % den = r at hdivision hremainder ⊢
  obtain ⟨half, rfl⟩ : ∃ half, bound = half + 1 := ⟨bound - 1, by omega⟩
  have hdouble : (2 * (half + 1) - 1) * den = 2 * (den * half) + den := by
    have hfactor : 2 * (half + 1) - 1 = 2 * half + 1 := by omega
    rw [hfactor, Nat.add_mul, Nat.one_mul, Nat.mul_assoc, Nat.mul_comm half den]
  rw [hdouble]
  rcases Nat.lt_trichotomy q half with hless | rfl | hgreater
  · -- The quotient stays below the number even if it is rounded up.
    have hproduct : den * (q + 1) ≤ den * half := Nat.mul_le_mul_left den hless
    rw [Nat.mul_add, Nat.mul_one] at hproduct
    split <;> omega
  · -- The quotient is odd, so that a tie goes up.
    split <;> omega
  · have hproduct : den * (half + 1) ≤ den * q := Nat.mul_le_mul_left den hgreater
    rw [Nat.mul_add, Nat.mul_one] at hproduct
    split <;> omega

namespace Decimal

/-- The absolute value of a decimal. -/
def absValue (d : Decimal) : ℚ :=
  d.mantissa / tenTo d.scale

/-- Half a unit below `2 ^ 96`.  From there on absolute values round to more than a mantissa can
hold. -/
def limit : ℚ :=
  2 ^ 96 - 1 / 2

theorem limit_le_div_iff {m s : Nat} :
    limit ≤ (m : ℚ) / tenTo s ↔ (2 * twoTo 96 - 1) * tenTo s ≤ 2 * m := by
  have hpos : (0 : ℚ) < tenTo s := by exact_mod_cast tenTo_pos s
  have hlimit : limit = ((2 * twoTo 96 - 1 : Nat) : ℚ) / 2 := by
    norm_num [limit, twoTo]
  rw [hlimit, div_le_div_iff₀ two_pos hpos, mul_comm (m : ℚ)]
  exact_mod_cast Iff.rfl

theorem le_roundHalfEven_tenTo_iff {m k : Nat} :
    bound ≤ roundHalfEven m (tenTo k) ↔ (2 * twoTo 96 - 1) * tenTo k ≤ 2 * m :=
  le_roundHalfEven_iff (by decide) (by decide) (tenTo_pos k)

/-- A mantissa that was brought into range was rounded, and its scale is smaller by the digits that
were given up. -/
theorem parts_of_fit {negative : Bool} {m s : Nat} {d : Decimal} (h : fit negative m s = some d) :
    ∃ k ≤ s, d.mantissa = roundHalfEven m (tenTo k) ∧ d.scale = s - k := by
  simp only [fit] at h
  split at h
  · next k hfind =>
    have hmem : k ∈ List.range (s + 1) := List.mem_of_find?_eq_some hfind
    obtain ⟨_, hmantissa, hscale⟩ := ofParts?_eq_some_iff.mp h
    exact ⟨k, Nat.lt_succ_iff.mp (List.mem_range.mp hmem), hmantissa, hscale⟩
  · cases h

/-- Giving up some digits is enough to bring a mantissa into range. -/
theorem exists_fit {negative : Bool} {m s k : Nat} (hs : s ≤ maxScale) (hk : k ≤ s)
    (hround : roundHalfEven m (tenTo k) < bound) : ∃ d, fit negative m s = some d := by
  have hscale : s ≤ maxScale + k := Nat.le_add_right_of_le hs
  simp only [fit]
  split
  · next j hfind =>
    have hj := List.find?_some hfind
    simp only [Bool.and_eq_true, decide_eq_true_eq] at hj
    have hless : s - j ≤ maxScale := (Nat.sub_le s j).trans hs
    exact ⟨⟨negative, _, s - j, hj.1, hless⟩, ofParts?_eq_some_iff.mpr ⟨rfl, rfl, rfl⟩⟩
  · next hfind =>
    have hmem : k ∈ List.range (s + 1) := List.mem_range.mpr (Nat.lt_succ_of_le hk)
    have hnone := List.find?_eq_none.mp hfind k hmem
    simp [hround, hscale] at hnone

/-- A mantissa cannot be brought into range exactly if it is still too large when all of its
fraction is given up. -/
theorem fit_eq_none_iff {negative : Bool} {m s : Nat} (hs : s ≤ maxScale) :
    fit negative m s = none ↔ limit ≤ (m : ℚ) / tenTo s := by
  rw [limit_le_div_iff]
  constructor
  · intro h
    rw [← le_roundHalfEven_tenTo_iff]
    by_contra hfits
    obtain ⟨d, hd⟩ := exists_fit hs (Nat.le_refl s) (Nat.not_le.mp hfits)
    rw [h] at hd
    cases hd
  · intro hlimit
    cases hfit : fit negative m s with
    | none => rfl
    | some d =>
      obtain ⟨k, hk, hmantissa, _⟩ := parts_of_fit hfit
      have hpower : tenTo k ≤ tenTo s := Nat.pow_le_pow_right (by decide) hk
      have hlarge : (2 * twoTo 96 - 1) * tenTo k ≤ 2 * m :=
        (Nat.mul_le_mul_left _ hpower).trans hlimit
      rw [← le_roundHalfEven_tenTo_iff, ← hmantissa] at hlarge
      exact absurd d.mantissa_lt (Nat.not_lt.mpr hlarge)

theorem absValue_eq_div {d : Decimal} {s : Nat} (hs : d.scale ≤ s) :
    d.absValue = ((d.mantissa * tenTo (s - d.scale) : Nat) : ℚ) / tenTo s := by
  have hpower : tenTo s = tenTo d.scale * tenTo (s - d.scale) := by
    rw [← tenTo_add, Nat.add_sub_cancel' hs]
  have hpos : ((tenTo (s - d.scale) : Nat) : ℚ) ≠ 0 := by exact_mod_cast (tenTo_pos _).ne'
  rw [absValue, hpower, Nat.cast_mul, Nat.cast_mul, mul_div_mul_right _ _ hpos]

/-- A sum has no result exactly if its exact value reaches the limit. -/
theorem addAbs_eq_none_iff (a b : Decimal) :
    a.addAbs b = none ↔ limit ≤ a.absValue + b.absValue := by
  have hscale : max a.scale b.scale ≤ maxScale := max_le a.scale_le b.scale_le
  rw [absValue_eq_div (le_max_left a.scale b.scale), absValue_eq_div (le_max_right a.scale b.scale),
    ← add_div, ← Nat.cast_add]
  exact fit_eq_none_iff hscale

/-! ## Whole numbers -/

/-- The absolute value of a decimal is a whole number. -/
def Counts (d : Decimal) (n : Nat) : Prop :=
  d.mantissa = n * tenTo d.scale

theorem counts_zero : zero.Counts 0 := rfl

theorem Counts.wholeAbs {d : Decimal} {n : Nat} (h : d.Counts n) : d.wholeAbs = n := by
  rw [Decimal.wholeAbs, h, Nat.mul_div_cancel n (tenTo_pos d.scale)]

/-- A whole number that is small enough is brought into range without a loss. -/
theorem fit_counts (negative : Bool) {n s : Nat} (hs : s ≤ maxScale) (hn : n < twoTo 96) :
    ∃ d, fit negative (n * tenTo s) s = some d ∧ d.Counts n := by
  have hround : ∀ k ≤ s, roundHalfEven (n * tenTo s) (tenTo k) = n * tenTo (s - k) := by
    intro k hk
    have hpower : n * tenTo s = n * tenTo (s - k) * tenTo k := by
      rw [Nat.mul_assoc, ← tenTo_add, Nat.sub_add_cancel hk]
    rw [hpower, roundHalfEven_mul _ (tenTo_pos k)]
  have hfits : roundHalfEven (n * tenTo s) (tenTo s) < bound := by
    rw [hround s (Nat.le_refl s), Nat.sub_self, tenTo_zero, Nat.mul_one]
    exact hn
  obtain ⟨d, hd⟩ := exists_fit hs (Nat.le_refl s) hfits
  obtain ⟨k, hk, hmantissa, hscale⟩ := parts_of_fit hd
  refine ⟨d, hd, ?_⟩
  rw [Counts, hmantissa, hround k hk, hscale]

theorem mulNat_of_counts {d : Decimal} {m n : Nat} (h : d.mantissa * m = n * tenTo d.scale)
    (hn : n < twoTo 96) : ∃ p, d.mulNat m = some p ∧ p.Counts n := by
  rw [mulNat, h]
  exact fit_counts d.negative d.scale_le hn

/-- The sum of whole numbers is exact. -/
theorem addAbs_of_counts {a b : Decimal} {m n : Nat} (ha : a.Counts m) (hb : b.Counts n)
    (hsum : m + n < twoTo 96) : ∃ d, a.addAbs b = some d ∧ d.Counts (m + n) := by
  have hscale : max a.scale b.scale ≤ maxScale := max_le a.scale_le b.scale_le
  have hraised : ∀ {d : Decimal} {k s : Nat}, d.Counts k → d.scale ≤ s →
      d.mantissa * tenTo (s - d.scale) = k * tenTo s := by
    intro d k s hd hs
    rw [hd, Nat.mul_assoc, ← tenTo_add, Nat.add_sub_cancel' hs]
  have hmantissa : a.mantissa * tenTo (max a.scale b.scale - a.scale) +
      b.mantissa * tenTo (max a.scale b.scale - b.scale) =
        (m + n) * tenTo (max a.scale b.scale) := by
    rw [hraised ha (le_max_left _ _), hraised hb (le_max_right _ _), Nat.add_mul]
  simp only [addAbs, hmantissa]
  exact fit_counts false hscale hsum

end Decimal

end TagSearch
