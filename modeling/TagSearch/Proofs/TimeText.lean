import TagSearch.Proofs.DurationText

/-!
# Points in time that read back

What the readers of times give is a point in time that a clock can show.  Its text begins with the
year, and the reader of full timestamps takes four digits for a year and no sign, so the text reads
back exactly if the year has four digits.  The reader of dates does not take such a text over: it
holds a mark between the date and the time of day.

Main results:

- Definition `Timestamp.IsRegular`: the points in time that a clock can show.
- Theorem `Timestamp.isRegular_of_parse`: no other is read.
- Theorem `Timestamp.readFull_padded`: what a clock that shows given numbers is read as.
- Theorem `Timestamp.parse_clock`: what becomes of the text of a point in time.
- Theorem `Timestamp.parse_toString`: the text of an integer is none.
-/

namespace TagSearch

namespace Timestamp

variable {t : Timestamp} {cs rest : List Char} {n : Nat}

/-! ## What is read -/

/-- A point in time that a clock can show: its date and its second exist, and only the last second
of a minute is longer than others. -/
structure IsRegular (t : Timestamp) : Prop where
  date : t.date.isValid = true
  second : t.second < secondsPerDay
  nano : t.nano < nanosPerSecond ∨ (t.nano < 2 * nanosPerSecond ∧ t.second % 60 = 59)

/-- An offset of whole minutes leaves the seconds of a minute where they are. -/
theorem IsRegular.shift (h : t.IsRegular) {offset : Int} (hminutes : 60 ∣ offset)
    (hlow : -(secondsPerDay : Int) < offset) (hhigh : offset < secondsPerDay) :
    (t.shift offset).IsRegular := by
  have hday : secondsPerDay = 86400 := rfl
  have hsecond := h.second
  have hnano := h.nano
  unfold Timestamp.shift
  simp only
  split
  · refine ⟨Date.isValid_previous h.date, ?_, ?_⟩
    · simp only
      omega
    · simp only
      omega
  · split
    · refine ⟨Date.isValid_next h.date, ?_, ?_⟩
      · simp only
        omega
      · simp only
        omega
    · refine ⟨h.date, ?_, ?_⟩
      · simp only
        omega
      · simp only
        omega

/-- A fraction is less than a second. -/
theorem nano_of_readFraction (h : readFraction cs = some (n, rest)) : n < nanosPerSecond := by
  unfold readFraction at h
  split at h
  · next tail =>
    simp only [Option.ite_none_left_eq_some, Option.some.injEq, Prod.mk.injEq] at h
    obtain ⟨hne, hn, -⟩ := h
    rw [← hn]
    have hkept : ((tail.takeWhile Char.isDigit).take 9).length ≤ 9 := List.length_take_le 9 _
    have hdigits : ∀ c ∈ (tail.takeWhile Char.isDigit).take 9, c.isDigit = true := fun c hc =>
      List.mem_takeWhile_imp (List.mem_of_mem_take hc)
    generalize (tail.takeWhile Char.isDigit).take 9 = kept at hkept hdigits
    have hvalue : Text.digitsValue kept < tenTo kept.length := by
      rw [Text.digitsValue_eq]
      exact Text.ofDigitChars_lt hdigits
    calc Text.digitsValue kept * tenTo (9 - kept.length)
        < tenTo kept.length * tenTo (9 - kept.length) :=
          Nat.mul_lt_mul_of_pos_right hvalue (tenTo_pos _)
      _ = nanosPerSecond := by rw [← tenTo_add, Nat.add_sub_cancel' hkept]; rfl
  · simp only [Option.some.injEq, Prod.mk.injEq] at h
    rw [← h.1]
    decide

/-- An offset has whole minutes, and is less than a day. -/
theorem minutes_of_readOffset {offset : Int} (h : readOffset cs = some (offset, rest)) :
    60 ∣ offset ∧ -(secondsPerDay : Int) < offset ∧ offset < secondsPerDay := by
  have hday : secondsPerDay = 86400 := rfl
  unfold readOffset at h
  split at h
  · cases h
  · split at h
    · cases h
      decide
    · split at h
      · simp only [Option.bind_eq_bind, Option.bind_eq_some_iff] at h
        obtain ⟨⟨hours, rest₁⟩, -, rest₂, -, ⟨minutes, rest₃⟩, -, h⟩ := h
        simp only [Option.ite_none_right_eq_some, Option.some.injEq, Prod.mk.injEq] at h
        obtain ⟨hbounds, hoffset, -⟩ := h
        rw [← hoffset]
        split <;> omega
      · cases h

theorem isRegular_of_readFull (h : readFull cs = some t) : t.IsRegular := by
  obtain ⟨⟨year, cs₁⟩, -, h⟩ := Option.bind_eq_some_iff.mp h
  obtain ⟨cs₂, -, h⟩ := Option.bind_eq_some_iff.mp h
  obtain ⟨⟨month, cs₃⟩, -, h⟩ := Option.bind_eq_some_iff.mp h
  obtain ⟨cs₄, -, h⟩ := Option.bind_eq_some_iff.mp h
  obtain ⟨⟨day, cs₅⟩, -, h⟩ := Option.bind_eq_some_iff.mp h
  cases cs₅ with
  | nil => cases h
  | cons c cs₆ =>
    by_cases hmark : c = 'T' ∨ c = 't' ∨ c = ' '
    · obtain ⟨cs₇, -, h⟩ := Option.bind_eq_some_iff.mp ((if_pos hmark).symm.trans h)
      obtain ⟨⟨hour, cs₇⟩, -, h⟩ := Option.bind_eq_some_iff.mp h
      obtain ⟨cs₈, -, h⟩ := Option.bind_eq_some_iff.mp h
      obtain ⟨⟨minute, cs₉⟩, -, h⟩ := Option.bind_eq_some_iff.mp h
      obtain ⟨cs₁₀, -, h⟩ := Option.bind_eq_some_iff.mp h
      obtain ⟨⟨second, cs₁₁⟩, -, h⟩ := Option.bind_eq_some_iff.mp h
      obtain ⟨⟨nano, cs₁₂⟩, hnano, h⟩ := Option.bind_eq_some_iff.mp h
      obtain ⟨⟨offset, cs₁₃⟩, hoffset, h⟩ := Option.bind_eq_some_iff.mp h
      obtain ⟨date, hdate, h⟩ := Option.bind_eq_some_iff.mp h
      by_cases hclock : hour ≤ 23 ∧ minute ≤ 59 ∧ second ≤ 60 ∧ cs₁₃ = []
      · obtain ⟨hhour, hminute, hsecond, -⟩ := id hclock
        rw [← Option.some.inj ((if_pos hclock).symm.trans h)]
        obtain ⟨hminutes, hlow, hhigh⟩ := minutes_of_readOffset hoffset
        have hfraction := nano_of_readFraction hnano
        refine IsRegular.shift ⟨Date.isValid_of_ofParts? hdate, ?_, ?_⟩ hminutes hlow hhigh
        · simp only [secondsPerDay]
          split <;> omega
        · simp only
          split <;> omega
      · cases (if_neg hclock).symm.trans h
    · cases (if_neg hmark).symm.trans h

theorem isRegular_of_readDate (h : readDate cs = some t) : t.IsRegular := by
  obtain ⟨⟨year, cs₁⟩, -, h⟩ := Option.bind_eq_some_iff.mp h
  obtain ⟨cs₂, -, h⟩ := Option.bind_eq_some_iff.mp h
  obtain ⟨⟨month, cs₃⟩, -, h⟩ := Option.bind_eq_some_iff.mp h
  obtain ⟨cs₄, -, h⟩ := Option.bind_eq_some_iff.mp h
  obtain ⟨⟨day, cs₅⟩, -, h⟩ := Option.bind_eq_some_iff.mp h
  obtain ⟨date, hdate, h⟩ := Option.bind_eq_some_iff.mp h
  simp only [Option.ite_none_right_eq_some, Option.some.injEq] at h
  rw [← h.2]
  exact ⟨Date.isValid_of_ofParts? hdate, Nat.zero_lt_succ _, .inl (Nat.zero_lt_succ _)⟩

/-- Whatever is read is a point in time that a clock can show. -/
theorem isRegular_of_parse {s : String} (h : parse s = some t) : t.IsRegular := by
  simp only [parse] at h
  split at h
  · next hfull =>
    rw [← Option.some.inj h]
    exact isRegular_of_readFull hfull
  · exact isRegular_of_readDate h

/-! ## Years of four digits -/

open Duration (length_padded isDigit_of_mem_padded ofDigitChars_padded)

theorem exists_padded_two (hn : n < 100) :
    ∃ a b, padded 2 n = [a, b] ∧ a.isDigit = true ∧ b.isDigit = true ∧
      Text.digitsValue [a, b] = n := by
  have hlength : (padded 2 n).length = 2 := length_padded (by decide) hn
  obtain ⟨a, b, hdigits⟩ := List.length_eq_two.mp hlength
  have hdigit : ∀ c ∈ padded 2 n, c.isDigit = true := isDigit_of_mem_padded
  have hvalue : Nat.ofDigitChars 10 (padded 2 n) 0 = 10 ^ 2 * 0 + n :=
    ofDigitChars_padded (by decide) hn 0
  rw [hdigits] at hdigit hvalue
  refine ⟨a, b, hdigits, hdigit a (by simp), hdigit b (by simp), ?_⟩
  rw [Text.digitsValue_eq, hvalue]
  omega

/-- Two digits are read as their number. -/
theorem readTwo_padded (hn : n < 100) (rest : List Char) :
    readTwo (padded 2 n ++ rest) = some (n, rest) := by
  obtain ⟨a, b, hdigits, ha, hb, hvalue⟩ := exists_padded_two hn
  rw [hdigits, List.cons_append, List.cons_append, List.nil_append, readTwo, if_pos ⟨ha, hb⟩,
    hvalue]

/-- Four digits are read as their number. -/
theorem readFour_padded (hn : n < 10000) (rest : List Char) :
    readFour (padded 4 n ++ rest) = some (n, rest) := by
  have hlength : (padded 4 n).length = 4 := length_padded (by decide) hn
  obtain ⟨a, b, c, d, hdigits⟩ : ∃ a b c d, padded 4 n = [a, b, c, d] := by
    match padded 4 n, hlength with
    | [a, b, c, d], _ => exact ⟨a, b, c, d, rfl⟩
  have hdigit : ∀ c ∈ padded 4 n, c.isDigit = true := isDigit_of_mem_padded
  have hvalue : Text.digitsValue [a, b] * 100 + Text.digitsValue [c, d] = n := by
    have hpadded : Nat.ofDigitChars 10 (padded 4 n) 0 = 10 ^ 4 * 0 + n :=
      ofDigitChars_padded (by decide) hn 0
    rw [hdigits, ← Text.digitsValue_eq] at hpadded
    simp only [Text.digitsValue, List.foldl_cons, List.foldl_nil] at hpadded ⊢
    omega
  rw [hdigits] at hdigit ⊢
  simp only [List.forall_mem_cons] at hdigit
  obtain ⟨ha, hb, hc, hd, -⟩ := hdigit
  simp [readFour, readTwo, ha, hb, hc, hd, hvalue]

/-- Digits behind a point, up to nine of them, are read as the nanoseconds that they stand for. -/
theorem readFraction_padded {width k : Nat} (hwidth : 0 < width) (hnine : width ≤ 9)
    (hk : k < 10 ^ width) {c : Char} (hc : c.isDigit = false) (rest : List Char) :
    readFraction ('.' :: padded width k ++ c :: rest) =
      some (k * tenTo (9 - width), c :: rest) := by
  have hlength : (padded width k).length = width := length_padded hwidth hk
  have hdigits : ∀ d ∈ padded width k, d.isDigit = true := isDigit_of_mem_padded
  have hne : padded width k ≠ [] := by
    intro hempty
    rw [hempty, List.length_nil] at hlength
    omega
  have hstop : (padded width k ++ c :: rest).takeWhile Char.isDigit = padded width k := by
    rw [List.takeWhile_append_of_pos hdigits, List.takeWhile_cons_of_neg (by simp [hc]),
      List.append_nil]
  have hrest : (padded width k ++ c :: rest).dropWhile Char.isDigit = c :: rest := by
    rw [List.dropWhile_append_of_pos hdigits, List.dropWhile_cons_of_neg (by simp [hc])]
  have hkept : (padded width k).take 9 = padded width k :=
    List.take_of_length_le (by rw [hlength]; exact hnine)
  have hvalue : Text.digitsValue (padded width k) = k := by
    rw [Text.digitsValue_eq, ofDigitChars_padded hwidth hk, Nat.mul_zero, Nat.zero_add]
  simp only [readFraction, List.cons_append, hstop, hrest, if_neg hne, hkept, hvalue, hlength]

/-- The fraction of a second is read as it was written. -/
theorem readFraction_fractionText {nano : Nat} (hnano : nano < nanosPerSecond) {c : Char}
    (hc : c.isDigit = false) (hpoint : c ≠ '.') (rest : List Char) :
    readFraction (fractionText nano ++ c :: rest) = some (nano, c :: rest) := by
  have hsecond : nanosPerSecond = 1000000000 := rfl
  unfold fractionText
  split
  · next hzero =>
    rw [List.nil_append, hzero]
    unfold readFraction
    split
    · next heq => exact absurd (List.cons.inj heq).1 hpoint
    · rfl
  · split
    · next hmillis =>
      have hvalue : nano / 1000000 * tenTo (9 - 3) = nano := by
        rw [show tenTo (9 - 3) = 1000000 from rfl]
        omega
      rw [readFraction_padded (by decide) (by decide) (by omega) hc, hvalue]
    · split
      · have hvalue : nano / 1000 * tenTo (9 - 6) = nano := by
          rw [show tenTo (9 - 6) = 1000 from rfl]
          omega
        rw [readFraction_padded (by decide) (by decide) (by omega) hc, hvalue]
      · rw [readFraction_padded (by decide) (by decide) (by omega) hc, Nat.sub_self, tenTo_zero,
          Nat.mul_one]

theorem expect_self (c : Char) (rest : List Char) : expect c (c :: rest) = some rest := by
  rw [expect, if_pos rfl]

/-- A clock with the sixtieth second shows a leap second. -/
theorem readFull_padded {year month day hour minute second nano : Nat} {date : Date}
    (hyear : year < 10000) (hdate : Date.ofParts? year month day = some date) (hmonth : month < 100)
    (hday : day < 100) (hhour : hour ≤ 23) (hminute : minute ≤ 59) (hsecond : second ≤ 60)
    (hnano : nano < nanosPerSecond) :
    readFull (padded 4 year ++ '-' :: padded 2 month ++ '-' :: padded 2 day ++
      'T' :: padded 2 hour ++ ':' :: padded 2 minute ++ ':' :: padded 2 second ++
      fractionText nano ++ ['+', '0', '0', ':', '0', '0']) =
      some (shift ⟨date, hour * 3600 + minute * 60 + (if second = 60 then 59 else second),
        if second = 60 then nano + nanosPerSecond else nano⟩ 0) := by
  have hoffset : readOffset ['+', '0', '0', ':', '0', '0'] = some (0, []) := by decide
  have hfraction : readFraction (fractionText nano ++ ['+', '0', '0', ':', '0', '0']) =
      some (nano, ['+', '0', '0', ':', '0', '0']) :=
    readFraction_fractionText hnano (by decide) (by decide) _
  have hbounds : hour ≤ 23 ∧ minute ≤ 59 ∧ second ≤ 60 ∧ ([] : List Char) = [] :=
    ⟨hhour, hminute, hsecond, rfl⟩
  simp only [List.append_assoc, List.cons_append]
  refine Option.bind_eq_some_iff.mpr ⟨_, readFour_padded hyear _, ?_⟩
  refine Option.bind_eq_some_iff.mpr ⟨_, expect_self _ _, ?_⟩
  refine Option.bind_eq_some_iff.mpr ⟨_, readTwo_padded hmonth _, ?_⟩
  refine Option.bind_eq_some_iff.mpr ⟨_, expect_self _ _, ?_⟩
  refine Option.bind_eq_some_iff.mpr ⟨_, readTwo_padded hday _, ?_⟩
  refine (if_pos (.inl rfl)).trans ?_
  refine Option.bind_eq_some_iff.mpr ⟨_, rfl, ?_⟩
  refine Option.bind_eq_some_iff.mpr ⟨_, readTwo_padded (by omega) _, ?_⟩
  refine Option.bind_eq_some_iff.mpr ⟨_, expect_self _ _, ?_⟩
  refine Option.bind_eq_some_iff.mpr ⟨_, readTwo_padded (by omega) _, ?_⟩
  refine Option.bind_eq_some_iff.mpr ⟨_, expect_self _ _, ?_⟩
  refine Option.bind_eq_some_iff.mpr ⟨_, readTwo_padded (by omega) _, ?_⟩
  refine Option.bind_eq_some_iff.mpr ⟨_, hfraction, ?_⟩
  refine Option.bind_eq_some_iff.mpr ⟨_, hoffset, ?_⟩
  refine Option.bind_eq_some_iff.mpr ⟨_, hdate, ?_⟩
  exact if_pos hbounds

/-- A point in time whose year has four digits is read from its text. -/
theorem readFull_clockText (h : t.IsRegular) (hyear : 0 ≤ t.date.year ∧ t.date.year ≤ 9999) :
    readFull (t.clockText ++ ['+', '0', '0', ':', '0', '0']) = some t := by
  obtain ⟨⟨year, month, day⟩, second, nano⟩ := t
  obtain ⟨hdate, hsecond, hnano⟩ := h
  simp only at hyear hdate hsecond hnano
  obtain ⟨year, rfl⟩ := Int.eq_ofNat_of_zero_le hyear.1
  have hmonth := (Date.isValid_iff _).mp hdate
  have hdays := daysInMonth_le year month
  have hparts := Date.ofParts?_self hdate (by simp only [Date.minYear, Date.maxYear]; omega)
  have hday : secondsPerDay = 86400 := rfl
  have hlong : nanosPerSecond = 1000000000 := rfl
  simp only at hmonth hparts
  unfold clockText
  simp only [yearText, if_pos hyear, Int.toNat_natCast]
  have hclock : second / 3600 * 3600 + second / 60 % 60 * 60 + second % 60 = second := by omega
  by_cases hleap : nano ≥ nanosPerSecond
  · -- the leap second is written as the sixtieth
    have hlast : second % 60 = 59 := by omega
    have hwhole : nano - nanosPerSecond + nanosPerSecond = nano := by omega
    rw [hlast] at hclock
    simp only [if_pos hleap, hlast]
    rw [readFull_padded (by omega) hparts (by omega) (by omega) (by omega) (by omega) (by omega)
      (by omega), if_pos rfl, if_pos rfl, hclock, hwhole, shift_zero hsecond]
  · have hne : second % 60 + 0 ≠ 60 := by omega
    simp only [if_neg hleap]
    rw [readFull_padded (by omega) hparts (by omega) (by omega) (by omega) (by omega) (by omega)
      (by omega), if_neg hne, if_neg hne, Nat.add_zero, hclock, shift_zero hsecond]

/-! ## Years of more digits -/

/-- A character that does not stand in the front of a text stands behind it. -/
theorem mem_drop_of_prefix {d : Char} {front : List Char} (hfront : front <+: cs)
    (hnot : d ∉ front) (hd : d ∈ cs) : d ∈ cs.drop front.length := by
  rw [← List.prefix_iff_eq_append.mp hfront, List.mem_append] at hd
  exact hd.resolve_left hnot

/-- The mark between a date and a time of day is no digit. -/
theorem mark_notMem_of_isDigit {digits : List Char} (h : ∀ c ∈ digits, c.isDigit = true) :
    'T' ∉ digits := by
  intro hmem
  exact absurd (h 'T' hmem) (by decide)

theorem mark_mem_trimStart (h : 'T' ∈ cs) : 'T' ∈ Text.trimStart cs := by
  rw [← Text.takeBlank_append_trimStart cs, List.mem_append] at h
  refine h.resolve_left fun hblank => ?_
  exact absurd (Text.isBlank_of_mem_takeBlank hblank) (by decide)

theorem mark_mem_of_expect {c : Char} (hc : c ≠ 'T') (h : expect c cs = some rest)
    (hmark : 'T' ∈ cs) : 'T' ∈ rest := by
  cases cs with
  | nil => cases h
  | cons d cs =>
    simp only [expect, Option.ite_none_right_eq_some, Option.some.injEq] at h
    obtain ⟨rfl, rfl⟩ := h
    exact (List.mem_cons.mp hmark).resolve_left hc.symm

theorem mark_mem_of_readNumber {width : Nat} (h : readNumber width cs = some (n, rest))
    (hmark : 'T' ∈ cs) : 'T' ∈ rest := by
  simp only [readNumber, Option.ite_none_left_eq_some, Option.some.injEq, Prod.mk.injEq] at h
  obtain ⟨-, -, rfl⟩ := h
  refine mem_drop_of_prefix ?_ (mark_notMem_of_isDigit ?_) (mark_mem_trimStart hmark)
  · exact (List.takeWhile_prefix _).trans (List.take_prefix _ _)
  · exact fun c hc => List.mem_takeWhile_imp hc

theorem mark_mem_of_signed {sign year : Int} (h : readYear.signed sign cs = some (year, rest))
    (hmark : 'T' ∈ cs) : 'T' ∈ rest := by
  simp only [readYear.signed, Option.ite_none_left_eq_some, Option.some.injEq, Prod.mk.injEq] at h
  obtain ⟨-, -, rfl⟩ := h
  refine mem_drop_of_prefix (List.takeWhile_prefix _) (mark_notMem_of_isDigit ?_) hmark
  exact fun c hc => List.mem_takeWhile_imp hc

theorem mark_mem_of_readYear {year : Int} (h : readYear cs = some (year, rest))
    (hmark : 'T' ∈ cs) : 'T' ∈ rest := by
  have htrim := mark_mem_trimStart hmark
  unfold readYear at h
  split at h
  · next heq =>
    rw [heq] at htrim
    exact mark_mem_of_signed h ((List.mem_cons.mp htrim).resolve_left (by decide))
  · next heq =>
    rw [heq] at htrim
    exact mark_mem_of_signed h ((List.mem_cons.mp htrim).resolve_left (by decide))
  · simp only [Option.map_eq_some_iff, Prod.exists, Prod.mk.injEq] at h
    obtain ⟨n, rest', hread, -, rfl⟩ := h
    exact mark_mem_of_readNumber hread htrim

/-- A text with the mark between a date and a time of day is no date. -/
theorem readDate_of_mark (hmark : 'T' ∈ cs) : readDate cs = none := by
  rw [Option.eq_none_iff_forall_ne_some]
  intro t h
  obtain ⟨⟨year, cs₁⟩, hyear, h⟩ := Option.bind_eq_some_iff.mp h
  obtain ⟨cs₂, hfirst, h⟩ := Option.bind_eq_some_iff.mp h
  obtain ⟨⟨month, cs₃⟩, hmonth, h⟩ := Option.bind_eq_some_iff.mp h
  obtain ⟨cs₄, hsecond, h⟩ := Option.bind_eq_some_iff.mp h
  obtain ⟨⟨day, cs₅⟩, hday, h⟩ := Option.bind_eq_some_iff.mp h
  obtain ⟨date, -, h⟩ := Option.bind_eq_some_iff.mp h
  have h₁ := mark_mem_of_readYear hyear hmark
  have h₂ := mark_mem_of_expect (by decide) hfirst h₁
  have h₃ := mark_mem_of_readNumber hmonth h₂
  have h₄ := mark_mem_of_expect (by decide) hsecond h₃
  have h₅ := mark_mem_of_readNumber hday h₄
  rw [if_neg (List.ne_nil_of_mem h₅)] at h
  cases h

/-- A full timestamp begins with a digit. -/
theorem readFull_of_sign {sign : Char} (hsign : sign.isDigit = false) (cs : List Char) :
    readFull (sign :: cs) = none := by
  have htwo : readTwo (sign :: cs) = none := by
    cases cs with
    | nil => rfl
    | cons c cs => rw [readTwo, if_neg (by simp [hsign])]
  have hfour : readFour (sign :: cs) = none := by
    rw [readFour, htwo]
    rfl
  rw [readFull, hfour]
  rfl

/-! ## Texts of points in time -/

theorem not_isBlank_padded (width k : Nat) : ∀ c ∈ padded width k, Text.isBlank c = false :=
  fun c hc => Text.not_isBlank_of_isDigit (isDigit_of_mem_padded c hc)

theorem not_isBlank_marked {mark : Char} (hmark : Text.isBlank mark = false) (width k : Nat) :
    ∀ c ∈ mark :: padded width k, Text.isBlank c = false :=
  List.forall_mem_cons.mpr ⟨hmark, not_isBlank_padded width k⟩

theorem not_isBlank_yearText (year : Int) : ∀ c ∈ yearText year, Text.isBlank c = false := by
  unfold yearText
  split
  · exact not_isBlank_padded _ _
  · exact not_isBlank_marked (by split <;> decide) _ _

theorem not_isBlank_fractionText (nano : Nat) :
    ∀ c ∈ fractionText nano, Text.isBlank c = false := by
  unfold fractionText
  split
  · simp
  · split
    · exact not_isBlank_marked (by decide) _ _
    · split
      · exact not_isBlank_marked (by decide) _ _
      · exact not_isBlank_marked (by decide) _ _

/-- The text of a point in time holds no blanks. -/
theorem not_isBlank_text (t : Timestamp) : ∀ c ∈ t.text.toList, Text.isBlank c = false := by
  have hdash := not_isBlank_marked (show Text.isBlank '-' = false by decide) 2
  have hcolon := not_isBlank_marked (show Text.isBlank ':' = false by decide) 2
  have hmark := not_isBlank_marked (show Text.isBlank 'T' = false by decide) 2
  have hoffset : ∀ c ∈ ['+', '0', '0', ':', '0', '0'], Text.isBlank c = false := by
    simp [Text.isBlank]
  simp only [text, String.toList_ofList, clockText, List.forall_mem_append]
  exact ⟨⟨⟨⟨⟨⟨⟨not_isBlank_yearText _, hdash _⟩, hdash _⟩, hmark _⟩, hcolon _⟩, hcolon _⟩,
    not_isBlank_fractionText _⟩, hoffset⟩

/-- A point in time is read from its text exactly if its year has four digits. -/
theorem parse_clock (h : t.IsRegular) :
    parse t.text = if 0 ≤ t.date.year ∧ t.date.year ≤ 9999 then some t else none := by
  have htrim : Text.trim t.text.toList = t.text.toList := Text.trim_eq_self t.not_isBlank_text
  have htext : t.text.toList = t.clockText ++ ['+', '0', '0', ':', '0', '0'] := by
    rw [text, String.toList_ofList]
  rw [parse, htrim, htext]
  by_cases hyear : 0 ≤ t.date.year ∧ t.date.year ≤ 9999
  · rw [if_pos hyear, readFull_clockText h hyear]
  · have hmark : 'T' ∈ t.clockText ++ ['+', '0', '0', ':', '0', '0'] := by
      simp [clockText]
    have hsign : readFull (t.clockText ++ ['+', '0', '0', ':', '0', '0']) = none := by
      simp only [clockText, yearText, if_neg hyear, List.cons_append]
      exact readFull_of_sign (by split <;> decide) _
    rw [if_neg hyear, hsign]
    exact readDate_of_mark hmark

/-! ## Texts of integers -/

theorem rest_of_readTwo {n : Nat} (h : readTwo cs = some (n, rest)) : rest = cs.drop 2 := by
  unfold readTwo at h
  split at h
  · simp only [Option.ite_none_right_eq_some, Option.some.injEq, Prod.mk.injEq] at h
    exact h.2.2.symm
  · cases h

theorem rest_of_readFour {n : Nat} (h : readFour cs = some (n, rest)) : rest = cs.drop 4 := by
  simp only [readFour, Option.bind_eq_bind, Option.bind_eq_some_iff, Option.some.injEq] at h
  obtain ⟨⟨a, cs₁⟩, hfirst, ⟨b, cs₂⟩, hsecond, hrest⟩ := h
  rw [← (Prod.mk.inj hrest).2, rest_of_readTwo hsecond, rest_of_readTwo hfirst, List.drop_drop]

theorem expect_of_notMem {c : Char} (h : c ∉ cs) : expect c cs = none := by
  cases cs with
  | nil => rfl
  | cons d cs =>
    rw [expect, if_neg]
    rintro rfl
    exact h List.mem_cons_self

/-- A year takes at least one character. -/
theorem rest_of_readYear {year : Int} (hblank : ∀ c ∈ cs, Text.isBlank c = false)
    (h : readYear cs = some (year, rest)) : ∃ k, rest = cs.tail.drop k := by
  have htrim : Text.trimStart cs = cs := by
    cases cs with
    | nil => rfl
    | cons c cs => exact List.dropWhile_cons_of_neg (by simp [hblank c List.mem_cons_self])
  have hsigned : ∀ {sign : Int} {cs : List Char}, readYear.signed sign cs = some (year, rest) →
      ∃ k, rest = cs.drop k := by
    intro sign cs h
    simp only [readYear.signed, Option.ite_none_left_eq_some, Option.some.injEq,
      Prod.mk.injEq] at h
    exact ⟨_, h.2.2.symm⟩
  unfold readYear at h
  rw [htrim] at h
  split at h
  · exact hsigned h
  · exact hsigned h
  · simp only [readNumber, htrim, Option.map_eq_some_iff, Option.ite_none_left_eq_some,
      Option.some.injEq] at h
    obtain ⟨⟨n, cs'⟩, ⟨hdigits, hread⟩, hrest⟩ := h
    obtain ⟨k, hk⟩ := Nat.exists_eq_succ_of_ne_zero (List.length_pos_iff.mpr hdigits).ne'
    rw [hk] at hread
    refine ⟨k, ?_⟩
    rw [← (Prod.mk.inj hrest).2, ← (Prod.mk.inj hread).2, ← List.drop_one, List.drop_drop,
      Nat.add_comm]

/-- A text that has no hyphen behind its first character writes no date. -/
theorem parse_eq_none {s : String} (hblank : ∀ c ∈ s.toList, Text.isBlank c = false)
    (hhyphen : '-' ∉ s.toList.tail) : parse s = none := by
  have hdrop : ∀ k, '-' ∉ s.toList.tail.drop k := fun k hmem =>
    hhyphen (List.mem_of_mem_drop hmem)
  have hfull : readFull s.toList = none := by
    refine Option.eq_none_iff_forall_ne_some.mpr fun t h => ?_
    obtain ⟨⟨year, rest⟩, hyear, h⟩ := Option.bind_eq_some_iff.mp h
    obtain ⟨rest', hmark, -⟩ := Option.bind_eq_some_iff.mp h
    have hrest : rest = s.toList.tail.drop 3 := by
      rw [rest_of_readFour hyear, ← List.drop_one, List.drop_drop]
    rw [hrest, expect_of_notMem (hdrop 3)] at hmark
    cases hmark
  have hdate : readDate s.toList = none := by
    refine Option.eq_none_iff_forall_ne_some.mpr fun t h => ?_
    obtain ⟨⟨year, rest⟩, hyear, h⟩ := Option.bind_eq_some_iff.mp h
    obtain ⟨rest', hmark, -⟩ := Option.bind_eq_some_iff.mp h
    obtain ⟨k, hrest⟩ := rest_of_readYear hblank hyear
    rw [hrest, expect_of_notMem (hdrop k)] at hmark
    cases hmark
  simp only [parse, Text.trim_eq_self hblank, hfull, hdate]

/-- The text of an integer writes no date. -/
theorem parse_toString (n : Int) : parse (toString n) = none := by
  have hnumeral := Text.isNumeral_toString n
  have htail : ∀ c ∈ (toString n).toList.tail, c.isDigit = true := by
    generalize (toString n).toList = cs at hnumeral
    cases hnumeral with
    | plain hdigits => exact fun c hc => hdigits.isDigit c (List.mem_of_mem_tail hc)
    | plus hdigits => exact hdigits.isDigit
    | minus hdigits => exact hdigits.isDigit
  exact parse_eq_none hnumeral.not_isBlank fun hmem => absurd (htail _ hmem) (by decide)

end Timestamp

end TagSearch
