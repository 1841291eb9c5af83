import TagSearch.Number.Decimal
import TagSearch.Text.Blank
import TagSearch.Text.Integer

/-!
# Reading decimals

A decimal is written as digits with at most one point among them, a sign before and low
lines between as the writer likes.  Fraction digits that have no room round the number,
and nothing after the first of them is looked at.  A power of ten may follow after the
letter e.
-/

namespace TagSearch.Decimal

/-- What has been read of a decimal. -/
structure Reading where
  negative : Bool
  mantissa : Nat := 0
  scale : Nat := 0
  /-- The point has been read. -/
  point : Bool := false
  /-- A digit has been read. -/
  digits : Bool := false
deriving DecidableEq, Repr

namespace Reading

/-- The number read so far, provided that it has a digit.  Zero has no sign. -/
def finish (r : Reading) : Option Decimal :=
  if r.digits then ofParts? (r.negative && r.mantissa != 0) r.mantissa r.scale else none

/-- The number read so far, rounded by the digit that has no room: half goes up, and a
mantissa that grows too large gives up its last digit. -/
def round (r : Reading) (digit : Nat) : Option Decimal :=
  if digit < 5 then r.finish
  else if r.mantissa + 1 < bound then { r with mantissa := r.mantissa + 1 }.finish
  else if r.scale = 0 then none
  else { r with mantissa := (r.mantissa + 5) / 10, scale := r.scale - 1 }.finish

/-- Reads digits, point and low lines up to the end of the text. -/
def read (r : Reading) : List Char → Option Decimal
  | [] => r.finish
  | c :: cs =>
    if c.isDigit then
      let digit := c.toNat - '0'.toNat
      let next := r.mantissa * 10 + digit
      if r.point && r.scale == maxScale then r.round digit
      else if next < bound then
        read { r with
          mantissa := next, scale := if r.point then r.scale + 1 else 0, digits := true } cs
      else if r.point then r.round digit
      else none
    else if c = '.' ∧ r.point = false then read { r with point := true } cs
    else if c = '_' ∧ r.digits then
      if r.point && r.scale == maxScale then r.finish else read r cs
    else none

end Reading

/-- Reads a decimal in plain digits. -/
def readPlain : List Char → Option Decimal
  | '-' :: cs => Reading.read { negative := true } cs
  | '+' :: cs => Reading.read { negative := false } cs
  | cs => Reading.read { negative := false } cs

/-- Divides a decimal by a power of ten.  Digits beyond the greatest scale are rounded
away, half away from zero. -/
def lower (d : Decimal) (power : Nat) : Option Decimal :=
  if power > maxScale then none
  else
    let kept := min d.scale (maxScale - power)
    ofParts? d.negative (roundHalfUp d.mantissa (tenTo (d.scale - kept))) (kept + power)

/-- Multiplies a decimal by a power of ten.  The scale shrinks first; a power beyond it
multiplies the mantissa. -/
def raise (d : Decimal) (power : Nat) : Option Decimal :=
  if power ≤ d.scale then ofParts? d.negative d.mantissa (d.scale - power)
  else if power > maxScale then none
  else
    (ofParts? d.negative (d.mantissa * tenTo (power - d.scale)) 0).map normalize

/-- Reads a decimal with a power of ten after the letter e. -/
def readScientific (cs : List Char) : Option Decimal :=
  let isMark := fun c : Char => c == 'e' || c == 'E'
  match cs.dropWhile fun c => !isMark c with
  | [] => none
  | _ :: power => do
    let base ← readPlain (cs.takeWhile fun c => !isMark c)
    match power with
    | '-' :: digits => base.lower (← Text.readUnsigned 32 digits)
    | digits => base.raise (← Text.readUnsigned 32 digits)

/-- Reads a decimal, with blanks around it or not. -/
def parse (s : String) : Option Decimal :=
  let cs := Text.trim s.toList
  match readPlain cs with
  | some d => some d
  | none => readScientific cs

end TagSearch.Decimal
