import TagSearch.Number.Binary64

/-!
# Shortest decimal text

A binary fraction is written with the fewest decimal digits that read back as the same
number; among those, with the digits nearest to it.  The search goes over decimal grids
from coarse to fine and takes the first grid that has a point among the reals that round
to the number.
-/

namespace TagSearch.Binary64

/-- The reals that round to a number, in units of a quarter of its last place: the number
itself, the two ends, and whether the ends belong to it. -/
structure Interval where
  centre : Nat
  low : Nat
  high : Nat
  closed : Bool

/-- The interval of a number that is not zero.  Below a power of two the format is twice
as fine. -/
def interval (x : Binary64) : Interval :=
  let finer := x.mantissa = twoTo 52 ∧ x.exponent > minExponent
  { centre := 4 * x.mantissa
    low := 4 * x.mantissa - if finer then 1 else 2
    high := 4 * x.mantissa + 2
    closed := x.mantissa % 2 = 0 }

/-- Whether the ratio `n / d` lies in the interval. -/
def Interval.contains (i : Interval) (n d : Nat) : Bool :=
  if i.closed then i.low * d ≤ n && n ≤ i.high * d else i.low * d < n && n < i.high * d

/-- The number of points `10 ^ p` apart: `p`, and the ratio that one step of the grid
makes in units of the interval. -/
def gridStep (x : Binary64) (p : Int) : Nat × Nat :=
  let e := x.exponent - 2
  (tenTo p.toNat * twoTo (-e).toNat, tenTo (-p).toNat * twoTo e.toNat)

/-- The point of a grid that is nearest to the number and rounds to it. -/
def gridPoint? (x : Binary64) (p : Int) : Option Nat :=
  let i := x.interval
  let (num, den) := x.gridStep p
  let below := i.centre * den / num
  let inside := fun k => i.contains (k * num) den
  let belowNearer := 2 * i.centre * den ≤ (2 * below + 1) * num
  match inside below, inside (below + 1) with
  | true, true => some (if belowNearer then below else below + 1)
  | true, false => some below
  | false, true => some (below + 1)
  | false, false => none

/-- The first grid point met on grids from `10 ^ p` downwards, with its grid. -/
def searchGrids (x : Binary64) : Nat → Int → Nat × Int
  | 0, p => (0, p)
  | fuel + 1, p =>
    match x.gridPoint? p with
    | some k => (k, p)
    | none => searchGrids x fuel (p - 1)

/-- The shortest digits of the absolute value, as an integer and a power of ten. -/
def shortest (x : Binary64) : Nat × Int :=
  if x.isZero then (0, 0)
  else
    let top := (((x.mantissa.log2 : Int) + x.exponent + 1) * 30103) / 100000 + 1
    searchGrids x 25 top

/-- The text of a number.  The digits are written in place while the first of them stands
for a power of ten from -5 to 15, with at least one digit on each side of the point;
otherwise one digit stands before the point, and the power follows with its sign. -/
def text (x : Binary64) : String :=
  let sign := if x.negative then "-" else ""
  let (k, p) := x.shortest
  let digits := (Nat.toDigits 10 k)
  let power := p + digits.length - 1
  let body :=
    if x.isZero then ['0', '.', '0']
    else if 0 ≤ p ∧ power ≤ 15 then digits ++ List.replicate p.toNat '0' ++ ['.', '0']
    else if 0 ≤ power ∧ power ≤ 15 then
      digits.take (power.toNat + 1) ++ '.' :: digits.drop (power.toNat + 1)
    else if -5 ≤ power ∧ power < 0 then
      ['0', '.'] ++ List.replicate (-power - 1).toNat '0' ++ digits
    else
      let tail := digits.drop 1
      let mark := if power < 0 then '-' else '+'
      digits.take 1 ++ (if tail = [] then [] else '.' :: tail) ++ ['e', mark] ++
        Nat.toDigits 10 power.natAbs
  sign ++ String.ofList body

end TagSearch.Binary64
