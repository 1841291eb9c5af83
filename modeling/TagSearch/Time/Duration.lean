import TagSearch.Number.DecimalText
import TagSearch.Time.Timestamp

/-!
# Durations

Spans of time to the nanosecond.  A duration is written as a sequence of numbers with
units; a bare number counts seconds.

Main results:

- Theorem `Duration.truncate_le`: the whole milliseconds of a duration are no longer than
  the duration.
-/

namespace TagSearch

/-- A span of time. -/
structure Duration where
  nanos : Nat
deriving DecidableEq, Repr

namespace Duration

/-- The duration of a number of seconds. -/
def ofSeconds (n : Nat) : Duration := ⟨n * 1000000000⟩

/-- The duration of a number of milliseconds. -/
def ofMillis (n : Nat) : Duration := ⟨n * 1000000⟩

/-- The whole milliseconds of a duration. -/
def millis (d : Duration) : Nat := d.nanos / 1000000

/-- The whole seconds of a duration. -/
def seconds (d : Duration) : Nat := d.nanos / 1000000000

/-- The duration without its fraction of a millisecond. -/
def truncate (d : Duration) : Duration := ofMillis d.millis

theorem truncate_le (d : Duration) : d.truncate.nanos ≤ d.nanos := by
  simp only [truncate, ofMillis, millis]
  omega

/-! ## Text -/

/-- The text of a number without zeros at its end. -/
def dropZeros (cs : List Char) : List Char :=
  (cs.reverse.dropWhile (· == '0')).reverse

/-- The text of a duration: milliseconds below a second, and above it hours, minutes, and
seconds with up to three fraction digits, each part only where it is not zero. -/
def text (d : Duration) : String :=
  if d.nanos = 0 then "0s"
  else if d.nanos < 1000000000 then toString d.millis ++ "ms"
  else
    let total := d.seconds
    let hours := total / 3600
    let minutes := total % 3600 / 60
    let seconds := total % 60
    let millis := d.millis % 1000
    (if hours > 0 then toString hours ++ "h" else "") ++
      (if minutes > 0 then toString minutes ++ "m" else "") ++
      if millis > 0 then
        toString seconds ++ "." ++ String.ofList (dropZeros (Timestamp.padded 3 millis)) ++ "s"
      else if seconds > 0 then toString seconds ++ "s"
      else ""

/-! ## Reading -/

/-- Why a text is no duration. -/
inductive Fault where
  /-- The text does not follow the form, or a number in it is out of range. -/
  | malformed
  /-- The parts of the duration add up to more than a decimal can hold. -/
  | overflow
deriving DecidableEq, Repr

/-- The nanoseconds of each unit.  The micro sign may stand for the letter u. -/
def units : List (List Char × Nat) :=
  [(['n', 's'], 1), (['u', 's'], 1000), (['\u00b5', 's'], 1000), (['m', 's'], 1000000),
    (['s'], 1000000000), (['m'], 60000000000), (['h'], 3600000000000)]

/-- The nanoseconds of a unit. -/
def unitNanos? (unit : List Char) : Option Nat :=
  (units.find? fun (name, _) => name == unit).map (·.2)

/-- Whether a character belongs to a number. -/
def isNumberChar (c : Char) : Bool :=
  c.isDigit || c == '.'

/-- Reads the parts of a duration, each a number and a unit, and adds their nanoseconds to
`sum`. -/
def readParts (sum : Decimal) (cs : List Char) : Except Fault Decimal :=
  if _h : cs = [] then .ok sum
  else
    let number := cs.takeWhile isNumberChar
    let afterNumber := cs.dropWhile isNumberChar
    let unit := afterNumber.takeWhile fun c => !isNumberChar c
    let rest := afterNumber.dropWhile fun c => !isNumberChar c
    match Decimal.readPlain number, unitNanos? unit with
    | some n, some perUnit =>
      match n.mulNat perUnit with
      | none => .error .malformed
      | some part =>
        match sum.addAbs part with
        | none => .error .overflow
        | some total => if rest.length < cs.length then readParts total rest else .error .malformed
    | _, _ => .error .malformed
termination_by cs.length

/-- Reads a duration, with blanks around it or not.  The sum of its parts is cut to whole
nanoseconds, which have to fit 64 bits. -/
def parse (s : String) : Except Fault Duration :=
  let cs := Text.trim s.toList
  if cs = [] then .error .malformed
  else
    match Text.readUnsigned 64 cs with
    | some n => .ok (ofSeconds n)
    | none =>
      match readParts .zero cs with
      | .error e => .error e
      | .ok sum =>
        if sum.wholeAbs < twoTo 64 then .ok ⟨sum.wholeAbs⟩ else .error .malformed

end Duration

end TagSearch
