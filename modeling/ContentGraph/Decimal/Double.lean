/-!
Contract: finite binary64 values as exact dyadic numbers.

Owns:
- the canonical form of a finite double (sign, mantissa, exponent);
- rounding of an exact quotient to the nearest double, ties to even;
- the order of doubles, decided on exact integers;
- products and quotients, rounded once.

Does not own: decimal text (`Decimal.Shortest`, `Decimal.Reader`).
-/

namespace ContentGraph.Decimal

/-- The mantissa and exponent of a finite double in the one form each value has:
53 significant bits, or fewer at the least exponent. -/
def IsCanonical (mantissa : Nat) (exponent : Int) : Prop :=
  mantissa < Nat.pow 2 53 ∧ -1074 ≤ exponent ∧ exponent ≤ 971 ∧
    (mantissa < Nat.pow 2 52 -> exponent = -1074)

instance (mantissa : Nat) (exponent : Int) : Decidable (IsCanonical mantissa exponent) :=
  inferInstanceAs (Decidable (_ ∧ _ ∧ _ ∧ (_ -> _)))

/-- A finite double: `mantissa * 2 ^ exponent`, negated when `negative`.
The two zeros are distinct values. -/
structure Double where
  negative : Bool
  mantissa : Nat
  exponent : Int
  canonical : IsCanonical mantissa exponent
deriving DecidableEq

namespace Double

/-- Zero of either sign. -/
def zero (negative : Bool) : Double :=
  ⟨negative, 0, -1074, by decide⟩

instance : Inhabited Double := ⟨zero false⟩

/-- The double with the given parts, when they are canonical. -/
def ofParts? (negative : Bool) (mantissa : Nat) (exponent : Int) : Option Double :=
  if canonical : IsCanonical mantissa exponent then
    some ⟨negative, mantissa, exponent, canonical⟩
  else
    none

/-- The value of a double in units of `2 ^ -1074`, which is an integer. -/
def units (x : Double) : Int :=
  let magnitude : Int := (x.mantissa * Nat.pow 2 (x.exponent + 1074).toNat : Nat)
  if x.negative then -magnitude else magnitude

/-- Doubles are ordered by value, so that the two zeros compare equal. -/
def order (x y : Double) : Ordering :=
  compare x.units y.units

/-- The same value; the two zeros are the same. -/
def sameValue (x y : Double) : Bool :=
  x.units == y.units

/-- The magnitude as an exact quotient of naturals. -/
def magnitude (x : Double) : Nat × Nat :=
  if 0 ≤ x.exponent then
    (x.mantissa * Nat.pow 2 x.exponent.toNat, 1)
  else
    (x.mantissa, Nat.pow 2 (-x.exponent).toNat)

/-- `numerator / denominator` rounded to an integer, a half going to the even neighbour. -/
def divideToEven (numerator denominator : Nat) : Nat :=
  let quotient := numerator / denominator
  let twice := 2 * (numerator % denominator)
  if twice < denominator then quotient
  else if denominator < twice then quotient + 1
  else if quotient % 2 = 0 then quotient
  else quotient + 1

/-- The double nearest to `numerator / denominator`, a tie going to the even mantissa;
`none` when it is beyond the largest double. -/
def ofRatio? (negative : Bool) (numerator denominator : Nat) : Option Double :=
  if numerator = 0 ∨ denominator = 0 then
    some (zero negative)
  else
    let scaled (exponent : Int) : Nat × Nat :=
      if 0 ≤ exponent then (numerator, denominator * Nat.pow 2 exponent.toNat)
      else (numerator * Nat.pow 2 (-exponent).toNat, denominator)
    let guess : Int := max (-1074) ((numerator.log2 : Int) - denominator.log2 - 53)
    let exponent :=
      let (top, bottom) := scaled guess
      if top / bottom < Nat.pow 2 53 then guess else guess + 1
    let (top, bottom) := scaled exponent
    let mantissa := divideToEven top bottom
    if mantissa = Nat.pow 2 53 then ofParts? negative (Nat.pow 2 52) (exponent + 1)
    else ofParts? negative mantissa exponent

/-- The double nearest to an integer. -/
def ofInt? (value : Int) : Option Double :=
  ofRatio? (decide (value < 0)) value.natAbs 1

/-- The product rounded once. -/
def times? (x y : Double) : Option Double :=
  let (a, b) := x.magnitude
  let (c, d) := y.magnitude
  ofRatio? (x.negative != y.negative) (a * c) (b * d)

/-- The quotient by a nonzero double, rounded once. -/
def dividedBy? (x y : Double) : Option Double :=
  let (a, b) := x.magnitude
  let (c, d) := y.magnitude
  ofRatio? (x.negative != y.negative) (a * d) (b * c)

/-- The same magnitude with the opposite sign. -/
def negate (x : Double) : Double :=
  { x with negative := !x.negative }

end Double

end ContentGraph.Decimal
