import Mathlib.Data.List.DropRight
import TagSearch.Proofs.DurationParts
import TagSearch.Proofs.IntegerText
import TagSearch.Proofs.Numeral

/-!
# Durations that read back

The text of a duration is a sequence of whole and decimal counts of its units, and the reader adds
them up without a loss.  What it reads has to fit 64 bits of nanoseconds, which is less than a
duration can hold: the text of a longer duration is refused.

Main results:

- Definition `Duration.Spells`: the texts whose parts come to a number of nanoseconds.
- Theorem `Duration.Spells.readParts`: such a text is read as that number.
- Theorem `Duration.spells_text`: the text of a duration spells its whole milliseconds.
- Theorem `Duration.parse_text`: what becomes of the text of a duration.
- Theorem `Duration.parse_text_refused`: a duration that does not read back.
-/

namespace TagSearch

namespace Duration

/-! ## Texts that spell a number of nanoseconds -/

/-- A text is a sequence of parts that come to a whole number of nanoseconds, each by itself. -/
inductive Spells : List Char → Nat → Prop where
  | nil : Spells [] 0
  | part {number unit rest : List Char} {n : Decimal} {perUnit count more : Nat}
      (hnumber : ∀ c ∈ number, isNumberChar c = true)
      (hread : Decimal.readPlain number = some n)
      (hknown : unitNanos? unit = some perUnit)
      (hcount : n.mantissa * perUnit = count * tenTo n.scale)
      (hrest : Spells rest more) : Spells (number ++ (unit ++ rest)) (count + more)

variable {cs rest unit : List Char} {n perUnit total more : Nat} {sum : Decimal}

/-- Wherever a part begins, a number does. -/
theorem Spells.head_number (h : Spells cs total) : ∀ c ∈ cs.head?, isNumberChar c = true := by
  cases h with
  | nil => simp
  | part hnumber hread hknown hcount hrest =>
    rename_i number unit rest n perUnit count more
    cases number with
    | nil => cases hread
    | cons c number =>
      intro c' hc'
      cases hc'
      exact hnumber c List.mem_cons_self

theorem not_blank_of_isNumberChar {c : Char} (h : isNumberChar c = true) :
    Text.isBlank c = false := by
  simp only [isNumberChar, Bool.or_eq_true, beq_iff_eq] at h
  rcases h with hdigit | rfl
  · exact Text.not_isBlank_of_isDigit hdigit
  · decide

theorem Spells.not_blank (h : Spells cs total) : ∀ c ∈ cs, Text.isBlank c = false := by
  induction h with
  | nil => simp
  | part hnumber hread hknown hcount hrest ih =>
    intro c hc
    simp only [List.mem_append] at hc
    rcases hc with hc | hc | hc
    · exact not_blank_of_isNumberChar (hnumber c hc)
    · exact (unit_chars hknown c hc).2.2
    · exact ih c hc

theorem Spells.readUnsigned_eq_none (h : Spells cs total) (hcs : cs ≠ []) (bits : Nat) :
    Text.readUnsigned bits cs = none := by
  cases h with
  | nil => exact absurd rfl hcs
  | part hnumber hread hknown hcount hrest => exact readUnsigned_of_unit hknown bits _ _

theorem Spells.eq_zero (h : Spells [] total) : total = 0 := by
  generalize hempty : [] = cs at h
  cases h with
  | nil => rfl
  | part hnumber hread hknown hcount hrest =>
    have hunit := unit_ne_nil hknown
    simp [hunit] at hempty

/-- The reader adds up a text without a loss. -/
theorem Spells.readParts (h : Spells cs total) {before : Nat} (hsum : sum.Counts before)
    (hfits : before + total < twoTo 96) :
    ∃ d, readParts sum cs = .ok d ∧ d.Counts (before + total) := by
  induction h generalizing sum before with
  | nil =>
    rw [Duration.readParts]
    exact ⟨sum, rfl, hsum⟩
  | part hnumber hread hknown hcount hrest ih =>
    rename_i number unit rest n perUnit count more
    obtain ⟨part, hpart, hcounts⟩ := Decimal.mulNat_of_counts hcount (by omega)
    have hbegins := BeginsWith.intro hnumber hrest.head_number hread hknown hpart
    obtain ⟨next, hnext, hnextCounts⟩ := Decimal.addAbs_of_counts hsum hcounts (by omega)
    obtain ⟨d, hd, hdCounts⟩ := ih hnextCounts (by omega)
    rw [readParts_of_beginsWith hbegins, hnext]
    rw [Nat.add_assoc] at hdCounts
    exact ⟨d, hd, hdCounts⟩

/-- What a text spells is read, if it fits 64 bits, and refused otherwise. -/
theorem Spells.parse {s : String} (h : Spells s.toList total) (hcs : s.toList ≠ [])
    (htotal : total < twoTo 96) :
    parse s = if total < twoTo 64 then .ok ⟨total⟩ else .error .malformed := by
  have htrim : Text.trim s.toList = s.toList := Text.trim_eq_self h.not_blank
  obtain ⟨d, hd, hcounts⟩ := h.readParts Decimal.counts_zero (by rwa [Nat.zero_add])
  rw [Nat.zero_add] at hcounts
  simp only [Duration.parse, htrim, if_neg hcs, h.readUnsigned_eq_none hcs, hd, hcounts.wholeAbs]

/-! ## Digits -/

section Padded

open Timestamp (padded)

variable {width k : Nat}

theorem length_padded (hwidth : 0 < width) (hk : k < 10 ^ width) :
    (padded width k).length = width := by
  have hlength := (Nat.length_toDigits_le_iff (by decide) hwidth).mpr hk
  simp only [padded, List.length_append, List.length_replicate]
  omega

theorem isDigit_of_mem_padded : ∀ c ∈ padded width k, c.isDigit = true := by
  intro c hc
  simp only [padded, List.mem_append, List.mem_replicate] at hc
  rcases hc with ⟨_, rfl⟩ | hc
  · decide
  · exact Nat.isDigit_of_mem_toDigits (by decide) (by decide) hc

/-- Behind other digits, a number filled up to a width is added to them. -/
theorem ofDigitChars_padded (hwidth : 0 < width) (hk : k < 10 ^ width) (m : Nat) :
    Nat.ofDigitChars 10 (padded width k) m = 10 ^ width * m + k := by
  have hlength := (Nat.length_toDigits_le_iff (by decide) hwidth).mpr hk
  rw [padded, Nat.ofDigitChars_append, Nat.ofDigitChars_replicate_zero,
    Nat.ofDigitChars_eq_ofDigitChars_zero, Nat.ofDigitChars_ten_toDigits, ← Nat.mul_assoc,
    ← Nat.pow_add, Nat.add_sub_cancel' hlength]

/-- The zeros that are dropped at the end of a text. -/
theorem dropZeros_append_replicate (cs : List Char) :
    ∃ zeros, dropZeros cs ++ List.replicate zeros '0' = cs := by
  have hzeros := List.eq_replicate_of_mem (a := '0') (l := cs.rtakeWhile (· == '0')) fun c hc => by
    simpa using List.mem_rtakeWhile_imp hc
  refine ⟨(cs.rtakeWhile (· == '0')).length, ?_⟩
  rw [← hzeros]
  exact List.rdropWhile_append_rtakeWhile

/-- The digits of a fraction, without zeros at their end. -/
theorem fraction_padded (hwidth : 0 < width) (hk : k < 10 ^ width) (m : Nat) :
    let fraction := dropZeros (padded width k)
    (∀ c ∈ fraction, c.isDigit = true) ∧ fraction.length ≤ width ∧
      Nat.ofDigitChars 10 fraction m * 10 ^ width =
        (10 ^ width * m + k) * 10 ^ fraction.length := by
  intro fraction
  obtain ⟨zeros, hzeros⟩ := dropZeros_append_replicate (padded width k)
  have hlength : fraction.length + zeros = width := by
    rw [← length_padded hwidth hk, ← hzeros, List.length_append, List.length_replicate]
  have hvalue : 10 ^ zeros * Nat.ofDigitChars 10 fraction m = 10 ^ width * m + k := by
    rw [← ofDigitChars_padded hwidth hk, ← hzeros, Nat.ofDigitChars_append,
      Nat.ofDigitChars_replicate_zero]
  refine ⟨fun c hc => ?_, Nat.le.intro hlength, ?_⟩
  · have hmem : c ∈ fraction ++ List.replicate zeros '0' := List.mem_append_left _ hc
    rw [hzeros] at hmem
    exact isDigit_of_mem_padded c hmem
  · rw [← hvalue, ← hlength, Nat.pow_add]
    rw [Nat.mul_comm (10 ^ fraction.length), ← Nat.mul_assoc, Nat.mul_comm (10 ^ zeros)]

end Padded

/-! ## The text of a duration -/

theorem isNumberChar_of_toDigits : ∀ c ∈ Nat.toDigits 10 n, isNumberChar c = true := by
  intro c hc
  have hdigit : c.isDigit = true := Nat.isDigit_of_mem_toDigits (by decide) (by decide) hc
  simp [isNumberChar, hdigit]

theorem unit_millisecond : unitNanos? ['m', 's'] = some 1000000 := rfl

theorem unit_second : unitNanos? ['s'] = some 1000000000 := rfl

theorem unit_minute : unitNanos? ['m'] = some 60000000000 := rfl

theorem unit_hour : unitNanos? ['h'] = some 3600000000000 := rfl

/-- A whole count of a unit. -/
theorem Spells.count (hrest : Spells rest more) (hn : n < twoTo 96)
    (hknown : unitNanos? unit = some perUnit) :
    Spells (Nat.toDigits 10 n ++ (unit ++ rest)) (n * perUnit + more) := by
  obtain ⟨d, hread, hmantissa, hscale⟩ := Decimal.readPlain_toDigits hn
  refine .part isNumberChar_of_toDigits hread hknown ?_ hrest
  rw [hmantissa, hscale, tenTo_zero, Nat.mul_one]

/-- A whole count of a unit that is left out when it is zero. -/
theorem Spells.count_if (hrest : Spells rest more) (hn : n < twoTo 96)
    (hknown : unitNanos? unit = some perUnit) :
    Spells ((if n > 0 then toString n ++ String.ofList unit else "").toList ++ rest)
      (n * perUnit + more) := by
  by_cases hpositive : n > 0
  · rw [if_pos hpositive, String.toList_append, Nat.toString_eq_ofList_toDigits,
      String.toList_ofList, String.toList_ofList, List.append_assoc]
    exact hrest.count hn hknown
  · have hzero : n = 0 := by omega
    simpa [hzero] using hrest

/-- A count of a unit with digits behind its point.  The unit is a multiple of what the last of
them stands for. -/
theorem Spells.count_point {width k step : Nat} (hrest : Spells rest more) (hwidth : 0 < width)
    (hroom : width ≤ Decimal.maxScale) (hk : k < 10 ^ width) (hfits : 10 ^ width * n + k < twoTo 96)
    (hknown : unitNanos? unit = some (10 ^ width * step)) :
    Spells (Nat.toDigits 10 n ++ '.' :: dropZeros (Timestamp.padded width k) ++ (unit ++ rest))
      ((10 ^ width * n + k) * step + more) := by
  have hfraction := fraction_padded hwidth hk n
  generalize dropZeros (Timestamp.padded width k) = fraction at hfraction ⊢
  obtain ⟨hdigits, hlength, hvalue⟩ := hfraction
  have hpower : 10 ^ fraction.length ≤ 10 ^ width := Nat.pow_le_pow_right (by decide) hlength
  have hless : Nat.ofDigitChars 10 fraction n ≤ 10 ^ width * n + k := by
    apply Nat.le_of_mul_le_mul_right _ (Nat.pow_pos (show 0 < 10 by decide) : 0 < 10 ^ width)
    rw [hvalue]
    exact Nat.mul_le_mul_left _ hpower
  obtain ⟨d, hread, hmantissa, hscale⟩ :=
    Decimal.readPlain_point hdigits (hlength.trans hroom) (hless.trans_lt hfits)
  have hnumber : ∀ c ∈ Nat.toDigits 10 n ++ '.' :: fraction, isNumberChar c = true := by
    intro c hc
    simp only [List.mem_append, List.mem_cons] at hc
    rcases hc with hc | rfl | hc
    · exact isNumberChar_of_toDigits c hc
    · rfl
    · simp [isNumberChar, hdigits c hc]
  refine .part hnumber hread hknown ?_ hrest
  calc d.mantissa * (10 ^ width * step)
      = Nat.ofDigitChars 10 fraction n * 10 ^ width * step := by rw [hmantissa, Nat.mul_assoc]
    _ = (10 ^ width * n + k) * 10 ^ fraction.length * step := by rw [hvalue]
    _ = (10 ^ width * n + k) * step * tenTo fraction.length := Nat.mul_right_comm _ _ _
    _ = (10 ^ width * n + k) * step * tenTo d.scale := by rw [hscale]

/-- The seconds of a duration, with their fraction or without. -/
theorem spells_seconds {seconds millis : Nat} (hseconds : seconds < 60) (hmillis : millis < 1000) :
    Spells
      (if millis > 0 then
        toString seconds ++ "." ++ String.ofList (dropZeros (Timestamp.padded 3 millis)) ++ "s"
      else if seconds > 0 then toString seconds ++ "s" else "").toList
      (seconds * 1000000000 + millis * 1000000) := by
  have hlarge : 60000 < twoTo 96 := by decide
  by_cases hfraction : millis > 0
  · have hunit : unitNanos? ['s'] = some (10 ^ 3 * 1000000) := rfl
    have hcount := Spells.nil.count_point (by decide) (by decide) hmillis
      (show 10 ^ 3 * seconds + millis < twoTo 96 by omega) hunit
    have htotal : (10 ^ 3 * seconds + millis) * 1000000 + 0 =
        seconds * 1000000000 + millis * 1000000 := by omega
    rw [htotal] at hcount
    simpa [hfraction, Nat.toString_eq_ofList_toDigits] using hcount
  · have hzero : millis = 0 := by omega
    have hcount := Spells.nil.count_if (show seconds < twoTo 96 by omega) unit_second
    simpa [hzero] using hcount

/-- The text of a duration spells its whole milliseconds. -/
theorem spells_text (d : Duration) (hd : d.seconds < twoTo 64) :
    Spells d.text.toList d.truncate.nanos := by
  have hwide : d.seconds < twoTo 96 := hd.trans (by decide)
  unfold text
  by_cases hzero : d.nanos = 0
  · have hcount := Spells.nil.count (n := 0) (by decide) unit_second
    simpa [hzero, truncate, ofMillis, millis] using hcount
  · by_cases hshort : d.nanos < 1000000000
    · have hmillis : d.millis < twoTo 96 := by
        have : 1000000000 < twoTo 96 := by decide
        unfold millis
        omega
      have hcount := Spells.nil.count hmillis unit_millisecond
      simpa [hzero, hshort, truncate, ofMillis, Nat.toString_eq_ofList_toDigits] using hcount
    · have hseconds : d.seconds % 60 < 60 := Nat.mod_lt _ (by decide)
      have hmillis : d.millis % 1000 < 1000 := Nat.mod_lt _ (by decide)
      have hhours : d.seconds / 3600 < twoTo 96 := (Nat.div_le_self _ _).trans_lt hwide
      have hminutes : d.seconds % 3600 / 60 < twoTo 96 := by omega
      have hparts := ((spells_seconds hseconds hmillis).count_if hminutes unit_minute).count_if
        hhours unit_hour
      have htotal : d.seconds / 3600 * 3600000000000 + (d.seconds % 3600 / 60 * 60000000000 +
          (d.seconds % 60 * 1000000000 + d.millis % 1000 * 1000000)) = d.truncate.nanos := by
        simp only [truncate, ofMillis, millis, seconds]
        omega
      rw [htotal] at hparts
      rw [if_neg hzero, if_neg hshort]
      simpa only [String.toList_append, List.append_assoc] using hparts

theorem text_ne_nil {d : Duration} (hd : d.seconds < twoTo 64) : d.text.toList ≠ [] := by
  intro hempty
  have hspells := spells_text d hd
  rw [hempty] at hspells
  have hnanos : d.truncate.nanos = 0 := hspells.eq_zero
  have hshort : d.nanos < 1000000000 := by
    simp only [truncate, ofMillis, millis] at hnanos
    omega
  unfold text at hempty
  rw [if_pos hshort] at hempty
  split at hempty
  · cases hempty
  · simp at hempty

/-- The text of a duration is read as its whole milliseconds, if they fit 64 bits of nanoseconds,
and refused otherwise. -/
theorem parse_text {d : Duration} (hd : d.seconds < twoTo 64) :
    parse d.text = if d.truncate.nanos < twoTo 64 then .ok d.truncate else .error .malformed := by
  have hwide : d.truncate.nanos < twoTo 96 := by
    have hlarge : twoTo 64 * 1000000000 < twoTo 96 := by decide
    have hless := d.truncate_le
    unfold seconds at hd
    omega
  exact (spells_text d hd).parse (text_ne_nil hd) hwide

/-- The longest duration of 64 bits of nanoseconds. -/
theorem parse_text_longest :
    seconds ⟨18446744073709551615⟩ < twoTo 64 ∧
      text ⟨18446744073709551615⟩ = "5124095h34m33.709s" ∧
      parse "5124095h34m33.709s" = .ok ⟨18446744073709000000⟩ := by
  have hseconds : seconds ⟨18446744073709551615⟩ < twoTo 64 := by decide
  have htext : text ⟨18446744073709551615⟩ = "5124095h34m33.709s" := by decide
  refine ⟨hseconds, htext, ?_⟩
  rw [← htext, parse_text hseconds]
  rfl

/-- A bare number gives a duration whose text is refused. -/
theorem parse_text_refused :
    parse "20000000000" = .ok (ofSeconds 20000000000) ∧
      (ofSeconds 20000000000).truncate = ofSeconds 20000000000 ∧
      (ofSeconds 20000000000).text = "5555555h33m20s" ∧
      parse "5555555h33m20s" = .error .malformed := by
  have hseconds : (ofSeconds 20000000000).seconds < twoTo 64 := by decide
  have htext : (ofSeconds 20000000000).text = "5555555h33m20s" := by decide
  have hbare : Text.readUnsigned 64 (Text.trim "20000000000".toList) = some 20000000000 := by
    decide +kernel
  have hempty : Text.trim "20000000000".toList ≠ [] := by decide +kernel
  refine ⟨?_, by decide, htext, ?_⟩
  · simp only [parse, if_neg hempty, hbare]
  · rw [← htext, (spells_text _ hseconds).parse (text_ne_nil hseconds) (by decide),
      if_neg (by decide)]

end Duration

end TagSearch
