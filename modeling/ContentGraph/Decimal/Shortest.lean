import ContentGraph.Decimal.Double

/-!
Contract: the shortest decimal text that reads back as a given double.

Owns:
- `shortestDigits`: the fewest digits that determine the double among all doubles, the
  nearest such decimal, an exact tie going to the even last digit;
- `Double.text`: positional notation from `1e-5` up to, not including, `1e16`, with at
  least one digit after the point; scientific notation elsewhere, with the sign that a
  format gives to positive exponents.

Does not own: reading decimals.
-/

namespace ContentGraph.Decimal

/-- Digits of a natural number, most significant first. -/
def digitsOf (value : Nat) : List Char :=
  Nat.toDigits 10 value

/-- The power of ten of the leading digit of `numerator / denominator`, for a positive
quotient: the greatest `p` with `10 ^ p ≤ numerator / denominator`. -/
def leadingPower (numerator denominator : Nat) : Int :=
  if denominator ≤ numerator then
    (digitsOf (numerator / denominator)).length - 1
  else
    let inverse := denominator / numerator
    let guess := (digitsOf inverse).length
    if numerator * Nat.pow 10 (guess - 1) ≥ denominator then -(guess - 1 : Nat)
    else -(guess : Int)

/-- The interval of numbers that round to a double, in a common denominator:
`(below, value, above, denominator)`. -/
def roundingInterval (x : Double) : Nat × Nat × Nat × Nat :=
  let narrowBelow := x.mantissa = Nat.pow 2 52 ∧ x.exponent ≠ -1074
  let below := if narrowBelow then 4 * x.mantissa - 1 else 4 * x.mantissa - 2
  let parts := (below, 4 * x.mantissa, 4 * x.mantissa + 2)
  let exponent := x.exponent - 2
  if 0 ≤ exponent then
    let scale := Nat.pow 2 exponent.toNat
    (parts.1 * scale, parts.2.1 * scale, parts.2.2 * scale, 1)
  else
    (parts.1, parts.2.1, parts.2.2, Nat.pow 2 (-exponent).toNat)

/-- The decimal `digits * 10 ^ power` nearest to a positive double among the multiples of
`10 ^ power` that read back as it, if there is one. -/
def nearestOnGrid (x : Double) (power : Int) : Option Nat :=
  let (below, value, above, denominator) := roundingInterval x
  let scale : Nat × Nat :=
    if 0 ≤ power then (1, Nat.pow 10 power.toNat) else (Nat.pow 10 (-power).toNat, 1)
  let low := below * scale.1
  let middle := value * scale.1
  let high := above * scale.1
  let unit := denominator * scale.2
  let inside (candidate : Nat) : Bool :=
    let point := candidate * unit
    if x.mantissa % 2 = 0 then decide (low ≤ point ∧ point ≤ high)
    else decide (low < point ∧ point < high)
  let lower := middle / unit
  let upper := lower + 1
  let nearest := Double.divideToEven middle unit
  match inside lower, inside upper with
  | true, true => some nearest
  | true, false => some lower
  | false, true => some upper
  | false, false => none

/-- The first grid with a decimal that reads back, from coarse to fine. -/
def firstGrid (x : Double) (power : Int) : Nat -> Nat × Int
  | 0 => ((nearestOnGrid x power).getD 0, power)
  | attempts + 1 =>
      match nearestOnGrid x power with
      | some digits => (digits, power)
      | none => firstGrid x (power - 1) attempts

/-- Drops the trailing zeros of a digit count, at most `fuel` of them. -/
def stripZeros (digits : Nat) (power : Int) : Nat -> Nat × Int
  | 0 => (digits, power)
  | fuel + 1 =>
      if digits ≠ 0 ∧ digits % 10 = 0 then stripZeros (digits / 10) (power + 1) fuel
      else (digits, power)

/-- The shortest decimal `(digits, power)`, meaning `digits * 10 ^ power`, of a positive
double. -/
def shortestDigits (x : Double) : Nat × Int :=
  let (numerator, denominator) := x.magnitude
  let (digits, power) := firstGrid x (leadingPower numerator denominator + 1) 18
  stripZeros digits power 20

/-- The text of a double, `plus` standing before a positive exponent: see the module's
contract. -/
def Double.text (plus : String) (x : Double) : String :=
  let sign := if x.negative then "-" else ""
  if x.mantissa = 0 then
    sign ++ "0.0"
  else
    let (digits, power) := shortestDigits x
    let figures := digitsOf digits
    let point : Int := figures.length + power
    let zeros (count : Int) : List Char := List.replicate count.toNat '0'
    let body : List Char :=
      if 0 ≤ power ∧ point ≤ 16 then
        figures ++ zeros power ++ ['.', '0']
      else if 0 < point ∧ point ≤ 16 then
        figures.take point.toNat ++ '.' :: figures.drop point.toNat
      else if -5 < point ∧ point ≤ 0 then
        ['0', '.'] ++ zeros (-point) ++ figures
      else
        let exponent := ((if 0 < point then plus else "") ++ toString (point - 1)).toList
        match figures with
        | [single] => single :: 'e' :: exponent
        | first :: rest => first :: '.' :: rest ++ 'e' :: exponent
        | [] => []
    sign ++ String.ofList body

end ContentGraph.Decimal
