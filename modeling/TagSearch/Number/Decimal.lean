import TagSearch.Number.Binary64

/-!
# Decimals

Decimal numbers with a mantissa of 96 bits and up to 28 fraction digits.  A decimal keeps
its scale, so `1.50` and `1.5` are equal in value and different as text.

Main results:

- Theorem `Decimal.ofParts?_eq_some_iff`: the parts that make a decimal.
- Theorem `Decimal.stripZeros_bounds`: a decimal without zeros at its end is within the bounds of
  the one with them.
-/

namespace TagSearch

/-- The number `±mantissa / 10 ^ scale`. -/
structure Decimal where
  negative : Bool
  mantissa : Nat
  scale : Nat
  mantissa_lt : mantissa < twoTo 96 := by decide
  scale_le : scale ≤ 28 := by decide
deriving DecidableEq, Repr

namespace Decimal

/-- Mantissas lie below this bound. -/
def bound : Nat := twoTo 96

/-- The greatest scale. -/
def maxScale : Nat := 28

/-- The decimal with the given parts, as far as they are in range. -/
def ofParts? (negative : Bool) (mantissa scale : Nat) : Option Decimal :=
  if h : mantissa < twoTo 96 ∧ scale ≤ 28 then some ⟨negative, mantissa, scale, h.1, h.2⟩
  else none

theorem ofParts?_eq_some_iff {negative : Bool} {m s : Nat} {d : Decimal} :
    ofParts? negative m s = some d ↔ d.negative = negative ∧ d.mantissa = m ∧ d.scale = s := by
  unfold ofParts?
  split
  · next h =>
    cases d
    simp only [Option.some.injEq, Decimal.mk.injEq]
    constructor <;> (rintro ⟨rfl, rfl, rfl⟩; exact ⟨rfl, rfl, rfl⟩)
  · next h =>
    simp only [reduceCtorEq, false_iff]
    rintro ⟨-, rfl, rfl⟩
    exact h ⟨d.mantissa_lt, d.scale_le⟩

/-- Zero. -/
def zero : Decimal := ⟨false, 0, 0, by decide, by decide⟩

/-- The decimal of an integer. -/
def ofInt? (n : Int) : Option Decimal :=
  ofParts? (n < 0) n.natAbs 0

/-! ## Order -/

/-- The signed mantissa at the greatest scale, which orders decimals by value. -/
def scaled (d : Decimal) : Int :=
  let m : Int := d.mantissa * tenTo (maxScale - d.scale)
  if d.negative then -m else m

/-- Compares two decimals by value. -/
def compare (a b : Decimal) : Ordering :=
  Ord.compare a.scaled b.scaled

/-- Whether two decimals are equal in value. -/
def equal (a b : Decimal) : Bool :=
  a.scaled == b.scaled

/-! ## Text -/

/-- The text of a decimal with all digits of its scale. -/
def text (d : Decimal) : String :=
  let digits := Nat.toDigits 10 d.mantissa
  let padded := List.replicate (d.scale + 1 - digits.length) '0' ++ digits
  let whole := padded.take (padded.length - d.scale)
  let fraction := padded.drop (padded.length - d.scale)
  (if d.negative then "-" else "") ++
    String.ofList (if d.scale = 0 then whole else whole ++ '.' :: fraction)

/-- Removes zeros from the end of a fraction, given as mantissa and scale. -/
def stripZeros (m : Nat) : Nat → Nat × Nat
  | 0 => (m, 0)
  | s + 1 => if m % 10 = 0 then stripZeros (m / 10) s else (m, s + 1)

theorem stripZeros_bounds (m s : Nat) :
    (stripZeros m s).1 ≤ m ∧ (stripZeros m s).2 ≤ s := by
  induction s generalizing m with
  | zero => simp [stripZeros]
  | succ s ih =>
    unfold stripZeros
    split
    · have := ih (m / 10)
      omega
    · simp

/-- The same value without zeros at the end of its fraction, and without a sign when it is
zero. -/
def normalize (d : Decimal) : Decimal :=
  if d.mantissa = 0 then zero
  else
    ⟨d.negative, (stripZeros d.mantissa d.scale).1, (stripZeros d.mantissa d.scale).2,
      Nat.lt_of_le_of_lt (stripZeros_bounds _ _).1 d.mantissa_lt,
      Nat.le_trans (stripZeros_bounds _ _).2 d.scale_le⟩

/-! ## Arithmetic -/

/-- Brings a mantissa into range by dropping fraction digits, the last one kept rounded
half to even.  There is no result when the whole part alone is too large. -/
def fit (negative : Bool) (mantissa scale : Nat) : Option Decimal :=
  let drop := (List.range (scale + 1)).find? fun k =>
    roundHalfEven mantissa (tenTo k) < bound && scale ≤ maxScale + k
  match drop with
  | some k => ofParts? negative (roundHalfEven mantissa (tenTo k)) (scale - k)
  | none => none

/-- The product of a decimal and a natural number, rounded as far as it has to be. -/
def mulNat (d : Decimal) (n : Nat) : Option Decimal :=
  fit d.negative (d.mantissa * n) d.scale

/-- The sum of two absolute values, rounded as far as it has to be. -/
def addAbs (a b : Decimal) : Option Decimal :=
  let s := max a.scale b.scale
  fit false (a.mantissa * tenTo (s - a.scale) + b.mantissa * tenTo (s - b.scale)) s

/-- The whole part of the absolute value. -/
def wholeAbs (d : Decimal) : Nat :=
  d.mantissa / tenTo d.scale

/-! ## Binary fractions -/

/-- A binary fraction close to a decimal.  An integer becomes the nearest one, and loses
the sign of zero.  Otherwise the whole part and the fraction are converted apart, and their
sum is rounded to as many digits as the decimal has. -/
def toBinary64? (d : Decimal) : Option Binary64 := do
  if d.scale = 0 then Binary64.ofRatio (d.negative && d.mantissa != 0) d.mantissa 1
  else
    let unit := tenTo d.scale
    let whole ← Binary64.ofNat (d.mantissa / unit)
    let fraction ← (← Binary64.ofNat (d.mantissa % unit)).div (← Binary64.ofNat unit)
    if fraction.isZero then some { whole with negative := d.negative }
    else
      let power ← (← Binary64.ofNat 10).power d.scale
      let scaled ← (← whole.addAbs fraction).mul power
      let rounded ← (← Binary64.ofNat scaled.roundAbs).div power
      some { rounded with negative := d.negative }

/-- Divides by two as often as `count` asks, each time by halving an even mantissa, by
multiplying it by five, or, when that would leave the range, by dropping its last bit.
The result is a mantissa and the power of ten that goes with it. -/
def takeHalves : Nat → Nat → Int → Nat × Int
  | 0, m, p => (m, p)
  | count + 1, m, p =>
    if m % 2 = 0 then takeHalves count (m / 2) (p + 1)
    else if m * 5 < bound then takeHalves count (m * 5) p
    else takeHalves count (m / 2) (p + 1)

/-- Multiplies by two as often as `count` asks; when that would leave the range, the
mantissa is divided by five and the power of ten stays. -/
def takeDoubles : Nat → Nat → Int → Nat × Int
  | 0, m, p => (m, p)
  | count + 1, m, p =>
    if m < bound / 2 then takeDoubles count (m * 2) (p - 1) else takeDoubles count (m / 5) p

/-- Drops digits from the end of a mantissa until the power of ten is at least `-28`, each
time rounding half up. -/
def raisePower : Nat → Nat → Int → Nat × Int
  | 0, m, p => (m, p)
  | fuel + 1, m, p =>
    if p ≥ -28 then (m, p)
    else if m / 10 = 0 then (0, 0)
    else raisePower fuel (if m % 10 ≥ 5 then m / 10 + 1 else m / 10) (p + 1)

/-- Drops fraction digits while the mantissa has more than 52 bits, each time rounding half
up. -/
def shorten : Nat → Nat → Int → Nat × Int
  | 0, m, p => (m, p)
  | fuel + 1, m, p =>
    if p < 0 ∧ m ≥ twoTo 52 then
      shorten fuel (if m % 10 ≥ 5 then m / 10 + 1 else m / 10) (p + 1)
    else (m, p)

/-- A decimal close to a binary fraction, with about as many digits as the fraction
determines; there is none for numbers beyond the range. -/
def ofBinary64? (x : Binary64) : Option Decimal :=
  if x.isZero then ofParts? x.negative 0 0
  else
    let (m, p) :=
      if x.exponent < 0 then takeHalves x.exponent.natAbs x.mantissa x.exponent
      else takeDoubles x.exponent.natAbs x.mantissa x.exponent
    if p > 0 then ofParts? x.negative (m * tenTo p.toNat) 0
    else
      let (m, p) := raisePower p.natAbs m p
      let (m, p) := shorten 28 m p
      let (m, s) := stripZeros m p.natAbs
      ofParts? x.negative m s

end Decimal

end TagSearch
