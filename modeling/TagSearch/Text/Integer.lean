import TagSearch.Number.Power

/-!
# Integer numerals

Integers in decimal digits, with bounds on what a given number of bits can hold.
-/

namespace TagSearch.Text

/-- The value of a sequence of decimal digits. -/
def digitsValue (cs : List Char) : Nat :=
  cs.foldl (fun n c => n * 10 + (c.toNat - '0'.toNat)) 0

/-- The value of a text of decimal digits, at least one. -/
def readDigits (cs : List Char) : Option Nat :=
  if cs ≠ [] ∧ cs.all Char.isDigit then some (digitsValue cs) else none

/-- Reads an unsigned integer of the given number of bits; a plus sign may stand before
it. -/
def readUnsigned (bits : Nat) (cs : List Char) : Option Nat :=
  let digits :=
    match cs with
    | '+' :: rest => rest
    | _ => cs
  (readDigits digits).filter (· < twoTo bits)

/-- Reads a signed integer of 64 bits; a sign may stand before it. -/
def readInt64 (cs : List Char) : Option Int :=
  match cs with
  | '-' :: rest => ((readDigits rest).filter (· ≤ twoTo 63)).map fun n => -(n : Int)
  | '+' :: rest => ((readDigits rest).filter (· < twoTo 63)).map fun n => (n : Int)
  | _ => ((readDigits cs).filter (· < twoTo 63)).map fun n => (n : Int)

end TagSearch.Text
