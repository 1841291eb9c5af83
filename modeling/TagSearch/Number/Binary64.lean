import TagSearch.Number.Power

/-!
# Binary fractions of double precision

The finite numbers of the 64-bit binary format of IEEE 754, held exactly as a signed
integer times a power of two.  Arithmetic computes the exact result as a ratio of natural
numbers and rounds it once, to the nearest number of the format, ties to the even one.

Main results:

- Theorem `roundHalfEven_mul`: a quotient without remainder is not rounded.
-/

namespace TagSearch

/-- The quotient of two numbers rounded to the nearest integer, ties to the even one. -/
def roundHalfEven (num den : Nat) : Nat :=
  let q := num / den
  let r := num % den
  if 2 * r > den ∨ (2 * r = den ∧ q % 2 = 1) then q + 1 else q

/-- The quotient of two numbers rounded to the nearest integer, ties upwards. -/
def roundHalfUp (num den : Nat) : Nat :=
  (2 * num + den) / (2 * den)

theorem roundHalfEven_mul (n : Nat) {d : Nat} (h : 0 < d) : roundHalfEven (n * d) d = n := by
  unfold roundHalfEven
  simp only [Nat.mul_mod_left, Nat.mul_div_cancel n h]
  rw [if_neg]
  omega

/-- The number `±mantissa · 2 ^ exponent`.  A normal number has a mantissa of 53 bits; a
mantissa of fewer bits goes with the least exponent, -1074. -/
structure Binary64 where
  negative : Bool
  mantissa : Nat
  exponent : Int
deriving DecidableEq, Repr

namespace Binary64

/-- The least exponent. -/
def minExponent : Int := -1074

/-- The greatest exponent of a finite number. -/
def maxExponent : Int := 971

/-- Zero with the given sign. -/
def zero (negative : Bool) : Binary64 :=
  ⟨negative, 0, minExponent⟩

/-- Whether a number is zero, of either sign. -/
def isZero (x : Binary64) : Bool :=
  x.mantissa == 0

/-- The number with its sign turned. -/
def neg (x : Binary64) : Binary64 :=
  { x with negative := !x.negative }

/-- Numerator and denominator of `num / den / 2 ^ e`. -/
def scaleDown (num den : Nat) (e : Int) : Nat × Nat :=
  (num * twoTo (-e).toNat, den * twoTo e.toNat)

/-- The number of the format that is nearest to `±num / den`; there is none when the ratio
is too large. -/
def ofRatio (negative : Bool) (num den : Nat) : Option Binary64 :=
  if num = 0 ∨ den = 0 then some (zero negative)
  else
    let guess : Int := (num.log2 : Int) - den.log2 - 52
    let (n, d) := scaleDown num den guess
    let e := max minExponent (if n / d < twoTo 52 then guess - 1 else guess)
    let (n, d) := scaleDown num den e
    let m := roundHalfEven n d
    let (m, e) := if m = twoTo 53 then (twoTo 52, e + 1) else (m, e)
    if e > maxExponent then none else some ⟨negative, m, e⟩

/-- The absolute value as a ratio. -/
def ratio (x : Binary64) : Nat × Nat :=
  (x.mantissa * twoTo x.exponent.toNat, twoTo (-x.exponent).toNat)

/-- The number nearest to a natural number. -/
def ofNat (n : Nat) : Option Binary64 :=
  ofRatio false n 1

/-- The rounded product. -/
def mul (x y : Binary64) : Option Binary64 :=
  let (a, b) := x.ratio
  let (c, d) := y.ratio
  ofRatio (x.negative != y.negative) (a * c) (b * d)

/-- The rounded quotient; the divisor must not be zero. -/
def div (x y : Binary64) : Option Binary64 :=
  let (a, b) := x.ratio
  let (c, d) := y.ratio
  ofRatio (x.negative != y.negative) (a * d) (b * c)

/-- The rounded sum of the absolute values. -/
def addAbs (x y : Binary64) : Option Binary64 :=
  let (a, b) := x.ratio
  let (c, d) := y.ratio
  ofRatio false (a * d + c * b) (b * d)

/-- The power of a number by repeated squaring, where `acc` is the product so far and every
product is rounded. -/
def powerFrom (acc base : Binary64) (n : Nat) : Option Binary64 :=
  if h : n = 0 then some acc
  else do
    let acc ← if n % 2 = 1 then acc.mul base else some acc
    if n / 2 = 0 then some acc else powerFrom acc (← base.mul base) (n / 2)
termination_by n

/-- The power of a number by repeated squaring. -/
def power (x : Binary64) (n : Nat) : Option Binary64 := do
  powerFrom (← ofNat 1) x n

/-- The absolute value rounded to an integer, ties upwards. -/
def roundAbs (x : Binary64) : Nat :=
  let (a, b) := x.ratio
  roundHalfUp a b

end Binary64

end TagSearch
