import ContentGraph.Decimal.Double

/-!
Contract: doubles read from decimal text.

Owns:
- `ofScientific?`: the double nearest to `digits * 10 ^ power`;
- `Extended`: doubles with the infinities and not-a-number, as loose text may name them;
- `Extended.ofText?`: an optional sign, then `inf`, `infinity` or `nan` in any case, or
  digits with an optional point and exponent, at least one digit before the exponent.

Does not own: the number grammars of particular formats.
-/

namespace ContentGraph.Decimal

/-- The double nearest to `digits * 10 ^ power`; `none` when it is beyond the largest. -/
def ofScientific? (negative : Bool) (digits : Nat) (power : Int) : Option Double :=
  if digits = 0 then
    some (Double.zero negative)
  else
    let leading : Int := (Nat.toDigits 10 digits).length + power
    if leading < -400 then
      some (Double.zero negative)
    else if 400 < leading then
      none
    else if 0 ≤ power then
      Double.ofRatio? negative (digits * Nat.pow 10 power.toNat) 1
    else
      Double.ofRatio? negative digits (Nat.pow 10 (-power).toNat)

/-- A double, an infinity, or not-a-number. -/
inductive Extended where
  | finite (value : Double)
  | infinite (negative : Bool)
  | notANumber
deriving DecidableEq

namespace Extended

/-- The order of extended doubles; not-a-number is comparable with nothing. -/
def order? : Extended -> Extended -> Option Ordering
  | .notANumber, _ => none
  | _, .notANumber => none
  | .finite x, .finite y => some (x.order y)
  | .finite _, .infinite negative => some (if negative then .gt else .lt)
  | .infinite negative, .finite _ => some (if negative then .lt else .gt)
  | .infinite true, .infinite false => some .lt
  | .infinite false, .infinite true => some .gt
  | .infinite _, .infinite _ => some .eq

/-- A decimal, or the infinity of its sign when it is beyond the largest double. -/
def ofScientific (negative : Bool) (digits : Nat) (power : Int) : Extended :=
  match ofScientific? negative digits power with
  | some value => .finite value
  | none => .infinite negative

end Extended

/-- The value of a run of decimal digits. -/
def valueOfDigits (figures : List Char) : Nat :=
  figures.foldl (fun total figure => total * 10 + (figure.toNat - '0'.toNat)) 0

/-- The exponent after the mark `e`: an optional sign and at least one digit, to the end. -/
def exponentOfText? (text : List Char) : Option Int :=
  let (negative, figures) :=
    match text with
    | '-' :: rest => (true, rest)
    | '+' :: rest => (false, rest)
    | rest => (false, rest)
  if figures.isEmpty || !figures.all Char.isDigit then
    none
  else
    let value : Int := valueOfDigits figures
    some (if negative then -value else value)

/-- An unsigned decimal with an optional point and exponent. -/
def unsignedOfText? (negative : Bool) (text : List Char) : Option Extended :=
  let whole := text.takeWhile Char.isDigit
  let afterWhole := text.dropWhile Char.isDigit
  let (fraction, afterFraction) :=
    match afterWhole with
    | '.' :: rest => (rest.takeWhile Char.isDigit, rest.dropWhile Char.isDigit)
    | rest => ([], rest)
  let figures := whole ++ fraction
  if figures.isEmpty then
    none
  else
    let exponent : Option Int :=
      match afterFraction with
      | [] => some 0
      | mark :: rest =>
          if mark = 'e' ∨ mark = 'E' then exponentOfText? rest else none
    exponent.map fun power =>
      Extended.ofScientific negative (valueOfDigits figures) (power - fraction.length)

/-- The number that a whole text names, by the grammar of the module's contract. -/
def Extended.ofText? (text : String) : Option Extended :=
  let (negative, unsigned) :=
    match text.toList with
    | '-' :: rest => (true, rest)
    | '+' :: rest => (false, rest)
    | rest => (false, rest)
  let word := String.ofList (unsigned.map Char.toLower)
  if word = "inf" ∨ word = "infinity" then some (.infinite negative)
  else if word = "nan" then some .notANumber
  else unsignedOfText? negative unsigned

end ContentGraph.Decimal
