/-!
# Calendar dates

Dates of the proleptic Gregorian calendar, with the year before year 1 counted as 0.

Main results:

- Theorems `Date.isValid_next` and `Date.isValid_previous`: the days after and before a date are
  dates.
-/

namespace TagSearch

/-- A year has a leap day when four divides it, unless a hundred does and four hundred does
not. -/
def isLeapYear (year : Int) : Bool :=
  year % 4 == 0 && (year % 100 != 0 || year % 400 == 0)

/-- The number of days in a month. -/
def daysInMonth (year : Int) (month : Nat) : Nat :=
  match month with
  | 1 => 31
  | 2 => if isLeapYear year then 29 else 28
  | 3 => 31
  | 4 => 30
  | 5 => 31
  | 6 => 30
  | 7 => 31
  | 8 => 31
  | 9 => 30
  | 10 => 31
  | 11 => 30
  | 12 => 31
  | _ => 0

/-- Every month has at least four weeks. -/
theorem daysInMonth_ge {month : Nat} (year : Int) (h₁ : 1 ≤ month) (h₂ : month ≤ 12) :
    28 ≤ daysInMonth year month := by
  have hfeb : 28 ≤ if isLeapYear year then 29 else 28 := by split <;> decide
  match month, h₁, h₂ with
  | 1, _, _ | 3, _, _ | 4, _, _ | 5, _, _ | 6, _, _ | 7, _, _ | 8, _, _ | 9, _, _ | 10, _, _
  | 11, _, _ | 12, _, _ => simp [daysInMonth]
  | 2, _, _ => simpa [daysInMonth] using hfeb

/-- No month has more than 31 days. -/
theorem daysInMonth_le (year : Int) (month : Nat) : daysInMonth year month ≤ 31 := by
  unfold daysInMonth
  split
  case h_2 => split <;> decide
  all_goals decide

/-- A calendar date. -/
structure Date where
  year : Int
  month : Nat
  day : Nat
deriving DecidableEq, Repr

namespace Date

/-- The least year that dates are kept for. -/
def minYear : Int := -262143

/-- The greatest year that dates are kept for. -/
def maxYear : Int := 262142

/-- Whether the month and the day exist. -/
def isValid (d : Date) : Bool :=
  1 ≤ d.month && d.month ≤ 12 && 1 ≤ d.day && d.day ≤ daysInMonth d.year d.month

/-- The date of an existing day within the years that dates are kept for. -/
def ofParts? (year : Int) (month day : Nat) : Option Date :=
  let d : Date := ⟨year, month, day⟩
  if d.isValid ∧ minYear ≤ year ∧ year ≤ maxYear then some d else none

/-- The day after a date. -/
def next (d : Date) : Date :=
  if d.day < daysInMonth d.year d.month then { d with day := d.day + 1 }
  else if d.month < 12 then ⟨d.year, d.month + 1, 1⟩
  else ⟨d.year + 1, 1, 1⟩

/-- The day before a date. -/
def previous (d : Date) : Date :=
  if 1 < d.day then { d with day := d.day - 1 }
  else if 1 < d.month then ⟨d.year, d.month - 1, daysInMonth d.year (d.month - 1)⟩
  else ⟨d.year - 1, 12, 31⟩

/-- The order of dates in time. -/
def compare (a b : Date) : Ordering :=
  (Ord.compare a.year b.year).then
    ((Ord.compare a.month b.month).then (Ord.compare a.day b.day))

theorem isValid_iff (d : Date) :
    d.isValid ↔ 1 ≤ d.month ∧ d.month ≤ 12 ∧ 1 ≤ d.day ∧ d.day ≤ daysInMonth d.year d.month := by
  simp [isValid, and_assoc]

theorem isValid_next {d : Date} (h : d.isValid) : d.next.isValid := by
  rw [isValid_iff] at h ⊢
  obtain ⟨h₁, h₂, h₃, h₄⟩ := h
  unfold next
  split
  · next hday =>
    simp only
    omega
  · split
    · have hlen : 28 ≤ daysInMonth d.year (d.month + 1) :=
        daysInMonth_ge d.year (by omega) (by omega)
      simp only
      omega
    · simp [daysInMonth]

theorem isValid_previous {d : Date} (h : d.isValid) : d.previous.isValid := by
  rw [isValid_iff] at h ⊢
  obtain ⟨h₁, h₂, h₃, h₄⟩ := h
  unfold previous
  split
  · simp only
    omega
  · split
    · have hlen : 28 ≤ daysInMonth d.year (d.month - 1) :=
        daysInMonth_ge d.year (by omega) (by omega)
      simp only
      omega
    · simp [daysInMonth]

theorem isValid_of_ofParts? {year : Int} {month day : Nat} {d : Date}
    (h : ofParts? year month day = some d) : d.isValid := by
  simp only [ofParts?, Option.ite_none_right_eq_some] at h
  obtain ⟨⟨hvalid, -⟩, hd⟩ := h
  rw [← Option.some.inj hd]
  exact hvalid

theorem ofParts?_self {d : Date} (h : d.isValid) (hyear : minYear ≤ d.year ∧ d.year ≤ maxYear) :
    ofParts? d.year d.month d.day = some d :=
  if_pos ⟨h, hyear⟩

end Date

end TagSearch
