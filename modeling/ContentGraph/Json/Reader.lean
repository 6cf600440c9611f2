import ContentGraph.Decimal.Reader
import ContentGraph.Json.Object

/-!
Contract: JSON text read into values.

Owns:
- the grammar of JSON, with a limit on how deep arrays and objects may nest;
- number reading: an integer in the signed or unsigned 64-bit range stays an integer; other
  numbers become doubles from at most the leading digits that fit 64 bits, scaled by powers of
  ten with one rounding a step, so that a last bit may differ from the nearest double;
- a key that comes twice keeps its first place and its last value.

Does not own: what is wrong with a text that is no JSON; reading answers `none`.
-/

namespace ContentGraph.Json.Reader

open ContentGraph.Decimal

/-- Skips blanks. -/
def skipBlank : List Char -> List Char
  | c :: rest =>
      if c = ' ' ∨ c = '\n' ∨ c = '\t' ∨ c = '\r' then skipBlank rest else c :: rest
  | [] => []

/-- The rest after a given word. -/
def expect? : List Char -> List Char -> Option (List Char)
  | [], input => some input
  | wanted :: word, c :: rest => if wanted = c then expect? word rest else none
  | _ :: _, [] => none

/-- The value of a hexadecimal digit. -/
def hexValue? (c : Char) : Option Nat :=
  if '0' ≤ c ∧ c ≤ '9' then some (c.toNat - 48)
  else if 'a' ≤ c ∧ c ≤ 'f' then some (c.toNat - 87)
  else if 'A' ≤ c ∧ c ≤ 'F' then some (c.toNat - 55)
  else none

/-- Four hexadecimal digits. -/
def hexQuad? : List Char -> Option (Nat × List Char)
  | a :: b :: c :: d :: rest => do
      let a ← hexValue? a
      let b ← hexValue? b
      let c ← hexValue? c
      let d ← hexValue? d
      some (((a * 16 + b) * 16 + c) * 16 + d, rest)
  | _ => none

/-- The character after a backslash `u`: one unit, or two that make a pair. -/
def unicodeEscape? (input : List Char) : Option (Char × List Char) := do
  let (unit, rest) ← hexQuad? input
  if 0xD800 ≤ unit ∧ unit < 0xDC00 then
    match rest with
    | '\\' :: 'u' :: rest =>
        let (low, rest) ← hexQuad? rest
        if 0xDC00 ≤ low ∧ low < 0xE000 then
          some (Char.ofNat (0x10000 + (unit - 0xD800) * 1024 + (low - 0xDC00)), rest)
        else none
    | _ => none
  else if 0xDC00 ≤ unit ∧ unit < 0xE000 then none
  else some (Char.ofNat unit, rest)

/-- The rest of a string after its opening quote, by at most `fuel` steps. -/
def stringBody? : Nat -> List Char -> List Char -> Option (String × List Char)
  | 0, _, _ => none
  | _ + 1, _, [] => none
  | fuel + 1, read, c :: rest =>
      if c = '"' then some (String.ofList read.reverse, rest)
      else if c = '\\' then
        match rest with
        | '"' :: rest => stringBody? fuel ('"' :: read) rest
        | '\\' :: rest => stringBody? fuel ('\\' :: read) rest
        | '/' :: rest => stringBody? fuel ('/' :: read) rest
        | 'b' :: rest => stringBody? fuel ('\x08' :: read) rest
        | 'f' :: rest => stringBody? fuel ('\x0c' :: read) rest
        | 'n' :: rest => stringBody? fuel ('\n' :: read) rest
        | 'r' :: rest => stringBody? fuel ('\r' :: read) rest
        | 't' :: rest => stringBody? fuel ('\t' :: read) rest
        | 'u' :: rest =>
            match unicodeEscape? rest with
            | some (c, rest) => stringBody? fuel (c :: read) rest
            | none => none
        | _ => none
      else if c.toNat < 32 then none
      else stringBody? fuel (c :: read) rest

/-- Leading digits collected while they fit 64 bits: the number so far, how many digits were
taken, how many were passed over, and the rest. -/
def takeDigits (value taken : Nat) : List Char -> Nat × Nat × List Char
  | [] => (value, taken, [])
  | c :: rest =>
      if c.isDigit ∧ value * 10 + (c.toNat - 48) < Nat.pow 2 64 then
        takeDigits (value * 10 + (c.toNat - 48)) (taken + 1) rest
      else (value, taken, c :: rest)

/-- `significand * 10 ^ exponent`, scaled by powers of ten up to `10 ^ 308` a step, each step
rounded once; `none` when it overflows. -/
def scale? (value : Double) (exponent : Int) : Nat -> Option Double
  | 0 => some value
  | fuel + 1 =>
      if exponent.natAbs ≤ 308 then do
        let power ← ofScientific? false 1 exponent.natAbs
        if 0 ≤ exponent then value.times? power else value.dividedBy? power
      else if value.mantissa = 0 then some value
      else if 0 ≤ exponent then none
      else do
        let power ← ofScientific? false 1 308
        let smaller ← value.dividedBy? power
        scale? smaller (exponent + 308) fuel

/-- The double of a significand and a power of ten. -/
def doubleOfParts? (negative : Bool) (significand : Nat) (exponent : Int) : Option Number := do
  let start ← Double.ofInt? significand
  let value ← scale? start exponent 8
  some (.double { value with negative := negative })

/-- The exponent part of a number, after its mark. -/
def exponentPart? (negative : Bool) (significand : Nat) (power : Int) (input : List Char) :
    Option (Number × List Char) :=
  let (below, figures) :=
    match input with
    | '+' :: rest => (false, rest)
    | '-' :: rest => (true, rest)
    | rest => (false, rest)
  let digits := figures.takeWhile Char.isDigit
  let rest := figures.dropWhile Char.isDigit
  if digits.isEmpty then none
  else
    let exponent : Int := valueOfDigits digits
    if Nat.pow 2 31 ≤ exponent then
      if significand ≠ 0 ∧ !below then none
      else some (.double (Double.zero negative), rest)
    else do
      let number ← doubleOfParts? negative significand
        (if below then power - exponent else power + exponent)
      some (number, rest)

/-- What follows the digits of a number: an exponent or its end. -/
def numberEnd? (negative : Bool) (significand : Nat) (power : Int) (input : List Char) :
    Option (Number × List Char) :=
  match input with
  | c :: rest =>
      if c = 'e' ∨ c = 'E' then exponentPart? negative significand power rest
      else (doubleOfParts? negative significand power).map (·, c :: rest)
  | [] => (doubleOfParts? negative significand power).map (·, [])

/-- The digits after the point, those that no longer fit 64 bits passed over. -/
def fractionPart? (negative : Bool) (significand : Nat) (power : Int) (input : List Char) :
    Option (Number × List Char) :=
  let (significand', taken, rest) := takeDigits significand 0 input
  let overflowed := (rest.head?.map Char.isDigit).getD false
  if taken = 0 ∧ !overflowed then none
  else numberEnd? negative significand' (power - taken) (rest.dropWhile Char.isDigit)

/-- A number after its sign. -/
def unsignedNumber? (negative : Bool) (input : List Char) : Option (Number × List Char) :=
  match input with
  | [] => none
  | first :: rest =>
      if !first.isDigit then none
      else if first = '0' ∧ (rest.head?.map Char.isDigit).getD false then none
      else
        let (value, _, rest) := takeDigits 0 0 input
        let passed := rest.takeWhile Char.isDigit
        let rest := rest.dropWhile Char.isDigit
        match rest with
        | '.' :: fraction => fractionPart? negative value passed.length fraction
        | _ =>
            let marked := rest.head? = some 'e' ∨ rest.head? = some 'E'
            if marked ∨ !passed.isEmpty then
              numberEnd? negative value passed.length rest
            else if !negative then some (.int value, rest)
            else if value = 0 then some (.double (Double.zero true), rest)
            else if value ≤ Nat.pow 2 63 then some (.int (-(value : Int)), rest)
            else (Double.ofInt? (-(value : Int))).map (.double ·, rest)

/-- Items up to the closing bracket, read by `item`, by at most `fuel` steps. -/
def items? (item : List Char -> Option (Value × List Char)) :
    Nat -> List Value -> List Char -> Option (List Value × List Char)
  | 0, _, _ => none
  | fuel + 1, read, input => do
      let (value, rest) ← item input
      match skipBlank rest with
      | ',' :: rest => items? item fuel (value :: read) rest
      | ']' :: rest => some ((value :: read).reverse, rest)
      | _ => none

/-- Fields up to the closing brace, their values read by `item`, by at most `fuel` steps. -/
def fields? (item : List Char -> Option (Value × List Char)) :
    Nat -> Object -> List Char -> Option (Object × List Char)
  | 0, _, _ => none
  | fuel + 1, read, input =>
      match skipBlank input with
      | '"' :: rest => do
          let (key, rest) ← stringBody? (rest.length + 1) [] rest
          match skipBlank rest with
          | ':' :: rest =>
              let (value, rest) ← item rest
              let read := read.insert key value
              match skipBlank rest with
              | ',' :: rest => fields? item fuel read rest
              | '\x7d' :: rest => some (read, rest)
              | _ => none
          | _ => none
      | _ => none

/-- A value that nests arrays and objects at most `depth` deep. -/
def value? : Nat -> List Char -> Option (Value × List Char)
  | depth, input =>
      match skipBlank input with
      | 'n' :: rest => (expect? ['u', 'l', 'l'] rest).map (.null, ·)
      | 't' :: rest => (expect? ['r', 'u', 'e'] rest).map (.bool true, ·)
      | 'f' :: rest => (expect? ['a', 'l', 's', 'e'] rest).map (.bool false, ·)
      | '"' :: rest => (stringBody? (rest.length + 1) [] rest).map fun (s, r) => (.string s, r)
      | '-' :: rest => (unsignedNumber? true rest).map fun (n, r) => (.number n, r)
      | '[' :: rest =>
          match depth with
          | 0 => none
          | depth + 1 =>
              match skipBlank rest with
              | ']' :: rest => some (.array [], rest)
              | rest => (items? (value? depth) (rest.length + 1) [] rest).map
                  fun (items, r) => (.array items, r)
      | '\x7b' :: rest =>
          match depth with
          | 0 => none
          | depth + 1 =>
              match skipBlank rest with
              | '\x7d' :: rest => some (.object [], rest)
              | rest => (fields? (value? depth) (rest.length + 1) [] rest).map
                  fun (fields, r) => (.object fields, r)
      | rest => (unsignedNumber? false rest).map fun (n, r) => (.number n, r)

end ContentGraph.Json.Reader

namespace ContentGraph.Json

/-- The nesting that text from outside may have. -/
def nestingLimit : Nat := 127

/-- The value that a whole text denotes, nesting at most `depth` deep. -/
def parseWithin? (depth : Nat) (text : String) : Option Value := do
  let (value, rest) ← Reader.value? depth text.toList
  if (Reader.skipBlank rest).isEmpty then some value else none

/-- The value that a whole text denotes. -/
def parse? (text : String) : Option Value :=
  parseWithin? nestingLimit text

end ContentGraph.Json
