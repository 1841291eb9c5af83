import TagSearch.Matching.Document
import TagSearch.Proofs.Rounding
import TagSearch.Proofs.TimeText

/-!
# Numbers in documents

An integer of a document is compared with a numeral as numbers are, as far as a decimal holds the
numeral.  A numeral with more digits is rounded first, which changes its order to no integer but the
one that it is rounded to.  A numeral that is beyond all decimals is compared as a text.

Main results:

- Definition `Comparison.Relates`: how a comparison relates two numbers.
- Theorem `Comparison.holds_compare`: decimals are compared by their values.
- Theorem `compareText_numeral`: the order of an integer and a numeral, compared as texts.
- Theorem `Leaf.accepts_numeral`: which comparisons an integer satisfies.
- Theorem `Leaf.accepts_numeral_beyond`: numerals whose order to an integer is not the one of the
  numbers.
-/

namespace TagSearch

namespace Comparison

/-- How a comparison relates two numbers. -/
def Relates : Comparison → ℚ → ℚ → Prop
  | equal, x, y => x = y
  | greater, x, y => y < x
  | atLeast, x, y => y ≤ x
  | less, x, y => x < y
  | atMost, x, y => x ≤ y

instance instDecidableRelates (x y : ℚ) : (c : Comparison) → Decidable (c.Relates x y)
  | equal => inferInstanceAs (Decidable (x = y))
  | greater => inferInstanceAs (Decidable (y < x))
  | atLeast => inferInstanceAs (Decidable (y ≤ x))
  | less => inferInstanceAs (Decidable (x < y))
  | atMost => inferInstanceAs (Decidable (x ≤ y))

/-- A comparison of two decimals is one of their values. -/
theorem holds_compare (c : Comparison) (a b : Decimal) :
    c.holds (a.compare b) = decide (c.Relates a.value b.value) := by
  have hpos : (0 : ℚ) < tenTo Decimal.maxScale := by exact_mod_cast tenTo_pos _
  have hlt : ∀ a b : Decimal, a.scaled < b.scaled ↔ a.value < b.value := by
    intro a b
    rw [← Int.cast_lt (R := ℚ), Decimal.scaled_eq, Decimal.scaled_eq, mul_lt_mul_iff_left₀ hpos]
  have hless : a.compare b = .lt ↔ a.value < b.value :=
    Int.compare_eq_lt.trans (hlt a b)
  have hgreater : a.compare b = .gt ↔ b.value < a.value :=
    Int.compare_eq_gt.trans (hlt b a)
  have hequal : a.compare b = .eq ↔ a.value = b.value := by
    refine Int.compare_eq_eq.trans ?_
    rw [← Int.cast_inj (α := ℚ), Decimal.scaled_eq, Decimal.scaled_eq, mul_left_inj' hpos.ne']
  rw [Bool.eq_iff_iff, decide_eq_true_iff]
  cases c with
  | equal => simp [holds, Relates, hequal]
  | greater => simp [holds, Relates, hgreater]
  | atLeast => simp [holds, Relates, hless]
  | less => simp [holds, Relates, hless]
  | atMost => simp [holds, Relates, hgreater]

theorem decide_relates_self (c : Comparison) (x : ℚ) : decide (c.Relates x x) = c.holds .eq := by
  cases c <;> simp [Relates, holds]

/-- An integer that is not what is left of a numeral compares with it as with its exact value. -/
theorem relates_kept_iff {v : Numeral} {n : Int} (h : (n : ℚ) ≠ v.kept) (c : Comparison) :
    c.Relates n v.kept ↔ c.Relates n v.value := by
  have hless := v.lt_kept_iff h
  have hgreater := v.kept_lt_iff h
  cases c with
  | equal =>
    refine ⟨fun heq => absurd heq h, fun heq => ?_⟩
    exact le_antisymm (v.le_kept_of_le_value (le_of_eq heq)) (v.kept_le_of_value_le (ge_of_eq heq))
  | greater => exact hgreater
  | atLeast => exact not_lt.symm.trans ((not_congr hless).trans not_lt)
  | less => exact hless
  | atMost => exact not_lt.symm.trans ((not_congr hgreater).trans not_lt)

end Comparison

namespace Numeral

variable (v : Numeral)

/-- A numeral holds no stand-in for a quoted character. -/
theorem restore_text : restore v.text = v.text := by
  refine restore_of_unmarked fun c hc => ?_
  rw [text, String.toList_ofList] at hc
  rcases v.mem_chars hc with hdigit | rfl | rfl
  · have hrange : 48 ≤ c.toNat ∧ c.toNat ≤ 57 := Char.isDigit_iff_toNat.mp hdigit
    simp only [isMarked, Bool.or_eq_false_iff, beq_eq_false_iff_ne]
    refine ⟨⟨?_, ?_⟩, ?_⟩ <;> (rintro rfl; exact absurd hdigit (by decide))
  · decide
  · decide

/-- A numeral does not stand for the absence of a value. -/
theorem isNullText_text : isNullText v.text = false := by
  rw [← Bool.not_eq_true, isNullText_iff, not_or]
  constructor
  · intro hempty
    have hchars : v.chars = [] := by simpa [text] using hempty
    simp only [chars, List.append_eq_nil_iff] at hchars
    exact v.isDigits_whole.ne_nil hchars.2.1
  · intro hnull
    have hchars : v.chars = ['n', 'u', 'l', 'l'] := by
      rw [← String.toList_ofList (l := v.chars)]
      exact congrArg String.toList hnull
    rcases v.mem_chars (hchars ▸ List.mem_cons_self) with h | h | h <;> exact absurd h (by decide)

end Numeral

/-- The order of an integer and a numeral, as their texts are compared. -/
theorem compareText_numeral {n : Int} (hn : n.natAbs < Decimal.bound) (v : Numeral)
    (c : Comparison) :
    c.holds (compareText (toString n) v.text) =
      if Decimal.limit ≤ |v.value| then c.holds (compare (toString n) v.text)
      else decide (c.Relates n v.kept) := by
  obtain ⟨d, hd, hvalue⟩ := Numeral.exists_parse_ofInt hn
  split
  · next hlarge =>
    rw [compareText, hd, v.parse_eq_none_iff.mpr hlarge, Timestamp.parse_toString]
  · next hsmall =>
    obtain ⟨e, he, hkept⟩ := v.exists_parse (not_le.mp hsmall)
    rw [compareText, hd, he, ← hvalue, ← hkept]
    exact c.holds_compare d e

namespace Leaf

variable {l : Leaf} {name : String} {path : Path} {document : Json} {n : Int} {v : Numeral}

/-- A comparison of an integer member with a numeral. -/
theorem accepts_of_number (hcategory : l.category = .literal name)
    (hpath : Path.parse? name = some path)
    (hfound : path.resolve? document = some (.number (.int n)))
    (hcomparison : l.comparison ≠ .equal) (hvalue : l.value = some (.literal v.text)) :
    l.accepts document = .ok (l.comparison.holds (compareText (toString n) v.text)) := by
  have htest : ValueTest.ofLeaf l = .ok (.ordered l.comparison v.text) := by
    simp only [ValueTest.ofLeaf, hvalue, v.isNullText_text, v.restore_text]
    simp [hcomparison]
  have hcheck : ValueTest.check (.ordered l.comparison v.text) (some (.number (.int n))) =
      l.comparison.holds (compareText (toString n) v.text) := by
    have htext : ValueTest.comparedText (.number (.int n)) = toString n := by
      simp [ValueTest.comparedText, Json.compact, Json.compactChars, JsonNumber.text]
    rw [← htext]
    rfl
  rw [accepts, htest, hcategory]
  simp only [bind, Except.bind, hpath, hfound, hcheck]

/-- A comparison of an integer member with a numeral is one of the numbers if a decimal holds the
numeral, or if rounding the numeral does not make it the integer.  Otherwise the two count as equal,
and a numeral that is beyond all decimals is compared as a text. -/
theorem accepts_numeral (hcategory : l.category = .literal name)
    (hpath : Path.parse? name = some path)
    (hfound : path.resolve? document = some (.number (.int n)))
    (hn : -(twoTo 63 : Int) ≤ n ∧ n < twoTo 64) (hcomparison : l.comparison ≠ .equal)
    (hvalue : l.value = some (.literal v.text)) :
    (v.scale ≤ Decimal.maxScale → v.digits < Decimal.bound →
      l.accepts document = .ok (decide (l.comparison.Relates n v.value))) ∧
    (|v.value| < Decimal.limit → (n : ℚ) ≠ v.kept →
      l.accepts document = .ok (decide (l.comparison.Relates n v.value))) ∧
    (|v.value| < Decimal.limit → (n : ℚ) = v.kept →
      l.accepts document = .ok (l.comparison.holds .eq)) ∧
    (Decimal.limit ≤ |v.value| →
      l.accepts document = .ok (l.comparison.holds (compare (toString n) v.text))) := by
  have hbound : n.natAbs < Decimal.bound := by
    have h63 : twoTo 63 = 9223372036854775808 := rfl
    have h64 : twoTo 64 = 18446744073709551616 := rfl
    have h96 : Decimal.bound = 79228162514264337593543950336 := rfl
    omega
  rw [accepts_of_number hcategory hpath hfound hcomparison hvalue,
    compareText_numeral hbound v l.comparison]
  refine ⟨fun hscale hdigits => ?_, fun hsmall hne => ?_, fun hsmall heq => ?_, fun hlarge => ?_⟩
  · have hsmall := v.abs_value_lt_limit hdigits
    rw [if_neg (not_le.mpr hsmall), v.kept_eq_value hscale hdigits]
  · rw [if_neg (not_le.mpr hsmall), decide_eq_decide.mpr (Comparison.relates_kept_iff hne _)]
  · rw [if_neg (not_le.mpr hsmall), heq, Comparison.decide_relates_self]
  · rw [if_pos hlarge]

/-- The greatest integer of a document, and a numeral half a unit above it with digits beyond those
of a decimal. -/
theorem accepts_numeral_longest :
    let v : Numeral := ⟨false, "18446744073709551615".toList,
      "50000000000000000000000000001".toList, ⟨by decide, List.all_eq_true.mp (by decide)⟩,
      List.all_eq_true.mp (by decide)⟩
    (Leaf.mk .less (.literal "n") (some (.literal v.text))).accepts
      (.object [("n", .number (.int 18446744073709551615))]) = .ok true := by
  intro v
  have hpath : Path.parse? "n" = some ⟨"n", []⟩ := by cbv
  have hfound : (Path.mk "n" []).resolve?
      (.object [("n", .number (.int 18446744073709551615))]) =
        some (.number (.int 18446744073709551615)) := rfl
  have hsmall : |v.value| < Decimal.limit := by decide +kernel
  have hne : ((18446744073709551615 : Int) : ℚ) ≠ v.kept := by decide +kernel
  have hrelates : Comparison.less.Relates (18446744073709551615 : Int) v.value := by
    decide +kernel
  obtain ⟨-, hrounded, -⟩ := accepts_numeral (l := ⟨.less, .literal "n", some (.literal v.text)⟩)
    rfl hpath hfound (by decide) (by decide) rfl
  rw [hrounded hsmall hne, decide_eq_true hrelates]

/-- A numeral beyond all decimals that five is found to exceed, and one beyond their places that one
is not found to be less than. -/
theorem accepts_numeral_beyond :
    ∃ v w : Numeral, v.text = "100000000000000000000000000000" ∧
      w.text = "1.00000000000000000000000000001" ∧
      (Leaf.mk .greater (.literal "n") (some (.literal v.text))).accepts
        (.object [("n", .number (.int 5))]) = .ok true ∧
      ¬ Comparison.greater.Relates (5 : Int) v.value ∧
      (Leaf.mk .less (.literal "n") (some (.literal w.text))).accepts
        (.object [("n", .number (.int 1))]) = .ok false ∧
      Comparison.less.Relates (1 : Int) w.value := by
  have hpath : Path.parse? "n" = some ⟨"n", []⟩ := by cbv
  refine ⟨⟨false, "100000000000000000000000000000".toList, [],
      ⟨by decide, List.all_eq_true.mp (by decide)⟩, by simp⟩,
    ⟨false, ['1'], "00000000000000000000000000001".toList,
      ⟨by decide, List.all_eq_true.mp (by decide)⟩, List.all_eq_true.mp (by decide)⟩,
    by decide +kernel, by decide +kernel, ?_, by decide +kernel, ?_, by decide +kernel⟩
  · rw [accepts_of_number rfl hpath rfl (by decide) rfl]
    exact congrArg Except.ok (by decide +kernel)
  · rw [accepts_of_number rfl hpath rfl (by decide) rfl]
    exact congrArg Except.ok (by decide +kernel)

end Leaf

end TagSearch
