import TagSearch.Text.Blank
import TagSearch.Text.Integer
import TagSearch.Time.Calendar

/-!
# Points in time

A point in time is a date and a time of day in universal time, to the nanosecond.  A leap
second is held as the second before it with a thousand million nanoseconds added.

Main results:

- Theorem `Timestamp.shift_zero`: an offset of zero leaves a point in time alone.
-/

namespace TagSearch

/-- A point in time. -/
structure Timestamp where
  date : Date
  /-- Seconds since midnight. -/
  second : Nat
  /-- Nanoseconds within the second; at least a thousand million in a leap second. -/
  nano : Nat
deriving DecidableEq, Repr

namespace Timestamp

/-- The seconds of a day. -/
def secondsPerDay : Nat := 86400

/-- The nanoseconds of a second. -/
def nanosPerSecond : Nat := 1000000000

/-- The order of points in time. -/
def compare (a b : Timestamp) : Ordering :=
  (a.date.compare b.date).then ((Ord.compare a.second b.second).then (Ord.compare a.nano b.nano))

/-- The point in time whose clock shows `t` where clocks are `offset` seconds ahead of
universal time, by less than a day. -/
def shift (t : Timestamp) (offset : Int) : Timestamp :=
  let s : Int := t.second - offset
  if s < 0 then ⟨t.date.previous, (s + secondsPerDay).toNat, t.nano⟩
  else if s ≥ secondsPerDay then ⟨t.date.next, (s - secondsPerDay).toNat, t.nano⟩
  else { t with second := s.toNat }

theorem shift_zero {t : Timestamp} (h : t.second < secondsPerDay) : t.shift 0 = t := by
  have h₁ : ¬ (t.second : Int) < 0 := by omega
  have h₂ : ¬ (t.second : Int) ≥ (secondsPerDay : Int) := by omega
  simp only [shift, Int.sub_zero, if_neg h₁, if_neg h₂, Int.toNat_natCast]

/-! ## Text -/

/-- A number in decimal digits, filled up with zeros to a width. -/
def padded (width n : Nat) : List Char :=
  let digits := Nat.toDigits 10 n
  List.replicate (width - digits.length) '0' ++ digits

/-- A year as it is written: four digits, and outside the range of four digits a sign
before at least four. -/
def yearText (year : Int) : List Char :=
  if 0 ≤ year ∧ year ≤ 9999 then padded 4 year.toNat
  else (if year < 0 then '-' else '+') :: padded 4 year.natAbs

/-- The fraction of a second in groups of three digits, as few as make it exact. -/
def fractionText (nano : Nat) : List Char :=
  if nano = 0 then []
  else if nano % 1000000 = 0 then '.' :: padded 3 (nano / 1000000)
  else if nano % 1000 = 0 then '.' :: padded 6 (nano / 1000)
  else '.' :: padded 9 nano

/-- The date and the time of day with `T` between them. -/
def clockText (t : Timestamp) : List Char :=
  let leap := t.nano ≥ nanosPerSecond
  let nano := if leap then t.nano - nanosPerSecond else t.nano
  let second := t.second % 60 + if leap then 1 else 0
  yearText t.date.year ++ '-' :: padded 2 t.date.month ++ '-' :: padded 2 t.date.day ++
    'T' :: padded 2 (t.second / 3600) ++ ':' :: padded 2 (t.second / 60 % 60) ++
    ':' :: padded 2 second ++ fractionText nano

/-- The text of a point in time with its offset from universal time. -/
def text (t : Timestamp) : String :=
  String.ofList (t.clockText ++ ['+', '0', '0', ':', '0', '0'])

/-- The text of a point in time with the letter for universal time. -/
def zuluText (t : Timestamp) : String :=
  String.ofList (t.clockText ++ ['Z'])

/-! ## Reading -/

/-- Reads two digits. -/
def readTwo : List Char → Option (Nat × List Char)
  | a :: b :: rest =>
    if a.isDigit ∧ b.isDigit then some (Text.digitsValue [a, b], rest) else none
  | _ => none

/-- Reads four digits. -/
def readFour (cs : List Char) : Option (Nat × List Char) := do
  let (a, rest) ← readTwo cs
  let (b, rest) ← readTwo rest
  some (a * 100 + b, rest)

/-- Takes a given character from the front. -/
def expect (c : Char) : List Char → Option (List Char)
  | [] => none
  | d :: rest => if d = c then some rest else none

/-- Reads the fraction of a second, if there is one.  Digits after the ninth count
nothing. -/
def readFraction : List Char → Option (Nat × List Char)
  | '.' :: rest =>
    let digits := rest.takeWhile Char.isDigit
    if digits = [] then none
    else
      let kept := digits.take 9
      some (Text.digitsValue kept * tenTo (9 - kept.length), rest.dropWhile Char.isDigit)
  | rest => some (0, rest)

/-- Reads an offset from universal time in seconds: the letter for zero, or a sign with
hours and minutes. -/
def readOffset : List Char → Option (Int × List Char)
  | [] => none
  | c :: rest =>
    if c = 'Z' ∨ c = 'z' then some (0, rest)
    else if c = '+' ∨ c = '-' ∨ c = '\u2212' then do
      let (hours, rest) ← readTwo rest
      let rest ← expect ':' rest
      let (minutes, rest) ← readTwo rest
      if hours ≤ 23 ∧ minutes ≤ 59 then
        let seconds : Int := hours * 3600 + minutes * 60
        some (if c = '+' then seconds else -seconds, rest)
      else none
    else none

/-- Reads a date, a time of day and an offset.  A sixtieth second is a leap second. -/
def readFull (cs : List Char) : Option Timestamp := do
  let (year, rest) ← readFour cs
  let rest ← expect '-' rest
  let (month, rest) ← readTwo rest
  let rest ← expect '-' rest
  let (day, rest) ← readTwo rest
  let rest ←
    match rest with
    | [] => none
    | c :: rest => if c = 'T' ∨ c = 't' ∨ c = ' ' then some rest else none
  let (hour, rest) ← readTwo rest
  let rest ← expect ':' rest
  let (minute, rest) ← readTwo rest
  let rest ← expect ':' rest
  let (second, rest) ← readTwo rest
  let (nano, rest) ← readFraction rest
  let (offset, rest) ← readOffset rest
  let date ← Date.ofParts? year month day
  if hour ≤ 23 ∧ minute ≤ 59 ∧ second ≤ 60 ∧ rest = [] then
    let leap := second = 60
    let t : Timestamp :=
      ⟨date, hour * 3600 + minute * 60 + (if leap then 59 else second),
        if leap then nano + nanosPerSecond else nano⟩
    some (t.shift offset)
  else none

/-- Reads a number of at least one digit and at most `width`, after blanks. -/
def readNumber (width : Nat) (cs : List Char) : Option (Nat × List Char) :=
  let cs := Text.trimStart cs
  let digits := (cs.take width).takeWhile Char.isDigit
  if digits = [] then none else some (Text.digitsValue digits, cs.drop digits.length)

/-- Reads a year: up to four digits, or after a sign any number of them. -/
def readYear (cs : List Char) : Option (Int × List Char) :=
  match Text.trimStart cs with
  | '-' :: rest => signed (-1) rest
  | '+' :: rest => signed 1 rest
  | rest => (readNumber 4 rest).map fun (n, rest) => (n, rest)
where
  /-- The digits directly after a sign. -/
  signed (sign : Int) (rest : List Char) : Option (Int × List Char) :=
    let digits := rest.takeWhile Char.isDigit
    if digits = [] then none
    else some (sign * Text.digitsValue digits, rest.drop digits.length)

/-- Reads a date, which stands for its midnight in universal time. -/
def readDate (cs : List Char) : Option Timestamp := do
  let (year, rest) ← readYear cs
  let rest ← expect '-' rest
  let (month, rest) ← readNumber 2 rest
  let rest ← expect '-' rest
  let (day, rest) ← readNumber 2 rest
  let date ← Date.ofParts? year month day
  if rest = [] then some ⟨date, 0, 0⟩ else none

/-- Reads a point in time, with blanks around it or not: a full timestamp, or a date. -/
def parse (s : String) : Option Timestamp :=
  let cs := Text.trim s.toList
  match readFull cs with
  | some t => some t
  | none => readDate cs

end Timestamp

end TagSearch
