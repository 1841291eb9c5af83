import TagSearch.Json.Basic
import TagSearch.Number.Power

/-!
# Reading JSON numbers

An integer literal within 64 bits is kept as it is.  Every other literal becomes a binary
fraction in two steps: the leading digits that fit 64 bits, rounded to the format, are
multiplied or divided by a power of ten that is itself rounded.  The result may differ
from the nearest number by its last place, and this library keeps to it.
-/

namespace TagSearch.JsonNumber

/-- The digits of an unsigned integer of 64 bits end below this bound. -/
def significandBound : Nat := twoTo 64

/-- The value of a decimal digit. -/
def digitOf (c : Char) : Nat := c.toNat - '0'.toNat

/-- The leading digits of a number that fit 64 bits, and the characters after them. -/
def takeSignificand (significand : Nat) : List Char → Nat × List Char
  | [] => (significand, [])
  | c :: cs =>
    if c.isDigit ∧ significand * 10 + digitOf c < significandBound then
      takeSignificand (significand * 10 + digitOf c) cs
    else (significand, c :: cs)

/-- The number nearest to a power of ten. -/
def powerOfTen (n : Nat) : Option Binary64 :=
  Binary64.ofNat (tenTo n)

/-- Scales a number down by steps of the greatest power of ten until the rest of the
exponent is within reach. -/
def scale (x : Binary64) (exponent : Int) : Nat → Option Binary64
  | 0 => some x
  | fuel + 1 =>
    if exponent.natAbs ≤ 308 then do
      let power ← powerOfTen exponent.natAbs
      if exponent ≥ 0 then x.mul power else x.div power
    else if x.isZero then some x
    else if exponent ≥ 0 then none
    else do
      let power ← powerOfTen 308
      scale (← x.div power) (exponent + 308) fuel

/-- The number with the given leading digits and power of ten; there is none when it is
too large for the format. -/
def ofParts (negative : Bool) (significand : Nat) (exponent : Int) : Option JsonNumber := do
  let x ← Binary64.ofNat significand
  let y ← scale x exponent 8
  some (.float { y with negative })

/-- Reads the exponent after its letter. -/
def readExponent (negative : Bool) (significand : Nat) (start : Int) (cs : List Char) :
    Option (JsonNumber × List Char) := do
  let (positive, cs) :=
    match cs with
    | '+' :: rest => (true, rest)
    | '-' :: rest => (false, rest)
    | rest => (true, rest)
  let digits := cs.takeWhile Char.isDigit
  let rest := cs.dropWhile Char.isDigit
  if digits = [] then none
  else
    let e : Int := digits.foldl (fun n c => n * 10 + digitOf c) 0
    if e > 2147483647 then
      if positive ∧ significand ≠ 0 then none
      else some (.float (.zero negative), rest)
    else
      let bound : Int := 2147483647
      let total := if positive then start + e else start - e
      let n ← ofParts negative significand (max (-bound - 1) (min bound total))
      some (n, rest)

/-- Reads what may follow the digits of a number: an exponent. -/
def readScaled (negative : Bool) (significand : Nat) (exponent : Int) (cs : List Char) :
    Option (JsonNumber × List Char) :=
  match cs with
  | 'e' :: rest => readExponent negative significand exponent rest
  | 'E' :: rest => readExponent negative significand exponent rest
  | rest => (ofParts negative significand exponent).map fun n => (n, rest)

/-- Reads the fraction after its point.  Digits beyond those that fit 64 bits are passed
over. -/
def readFraction (negative : Bool) (significand : Nat) (exponent : Int) (cs : List Char) :
    Option (JsonNumber × List Char) :=
  let digits := cs.takeWhile Char.isDigit
  if digits = [] then none
  else
    let (s, left) := takeSignificand significand digits
    readScaled negative s (exponent - (digits.length - left.length : Nat))
      (cs.dropWhile Char.isDigit)

/-- Reads a number after its sign. -/
def readUnsigned (negative : Bool) (cs : List Char) : Option (JsonNumber × List Char) :=
  let digits := cs.takeWhile Char.isDigit
  let rest := cs.dropWhile Char.isDigit
  match digits with
  | [] => none
  | '0' :: _ :: _ => none
  | _ =>
    let (s, left) := takeSignificand 0 digits
    let exponent : Int := left.length
    match rest with
    | '.' :: fraction => readFraction negative s exponent fraction
    | 'e' :: tail => readExponent negative s exponent tail
    | 'E' :: tail => readExponent negative s exponent tail
    | _ =>
      if left ≠ [] then (ofParts negative s exponent).map fun n => (n, rest)
      else if negative = false then some (.int s, rest)
      else if s = 0 ∨ (s : Int) > -minInt64 then
        (ofParts true s 0).map fun n => (n, rest)
      else some (.int (-s), rest)

/-- Reads a number from the front of a text. -/
def read (cs : List Char) : Option (JsonNumber × List Char) :=
  match cs with
  | '-' :: rest => readUnsigned true rest
  | _ => readUnsigned false cs

end TagSearch.JsonNumber
