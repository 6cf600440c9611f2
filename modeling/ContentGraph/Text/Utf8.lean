/-!
Contract: text as bytes.

Owns:
- the bytes of a text in UTF-8;
- strict decoding, and decoding that puts `U+FFFD` for every maximal part that is no text.
-/

namespace ContentGraph.Text.Utf8

/-- The bytes of a character. -/
def encodeChar (c : Char) : List UInt8 :=
  let point := c.toNat
  let tail (shift : Nat) : UInt8 := UInt8.ofNat (0x80 + (point >>> shift) % 64)
  if point < 0x80 then [UInt8.ofNat point]
  else if point < 0x800 then [UInt8.ofNat (0xC0 + (point >>> 6)), tail 0]
  else if point < 0x10000 then [UInt8.ofNat (0xE0 + (point >>> 12)), tail 6, tail 0]
  else [UInt8.ofNat (0xF0 + (point >>> 18)), tail 12, tail 6, tail 0]

/-- The bytes of a text. -/
def encode (text : List Char) : List UInt8 :=
  text.flatMap encodeChar

/-- Whether a byte lies between two bounds. -/
def within (low high : Nat) (byte : UInt8) : Bool :=
  low ≤ byte.toNat && byte.toNat ≤ high

/-- For a first byte: the tests of the bytes that have to follow it; `none` when no character
starts with it. -/
def tailTests? (first : UInt8) : Option (List (UInt8 -> Bool)) :=
  let tail := within 0x80 0xBF
  let point := first.toNat
  if point < 0x80 then some []
  else if within 0xC2 0xDF first then some [tail]
  else if point = 0xE0 then some [within 0xA0 0xBF, tail]
  else if point = 0xED then some [within 0x80 0x9F, tail]
  else if within 0xE1 0xEF first then some [tail, tail]
  else if point = 0xF0 then some [within 0x90 0xBF, tail, tail]
  else if point = 0xF4 then some [within 0x80 0x8F, tail, tail]
  else if within 0xF1 0xF3 first then some [tail, tail, tail]
  else none

/-- The leading bytes that satisfy the tests in turn. -/
def matching : List (UInt8 -> Bool) -> List UInt8 -> List UInt8
  | test :: tests, byte :: bytes => if test byte then byte :: matching tests bytes else []
  | _, _ => []

/-- The code point of a complete sequence. -/
def pointOf (first : UInt8) (tail : List UInt8) : Nat :=
  let lead :=
    match tail.length with
    | 0 => first.toNat
    | 1 => first.toNat % 32
    | 2 => first.toNat % 16
    | _ => first.toNat % 8
  tail.foldl (fun point byte => point * 64 + byte.toNat % 64) lead

/-- The pieces of a byte sequence, by at most `fuel` steps: characters, or `none` for a maximal
part that is no text. -/
def pieces : Nat -> List UInt8 -> List (Option Char)
  | 0, _ => []
  | _ + 1, [] => []
  | fuel + 1, first :: rest =>
      match tailTests? first with
      | none => none :: pieces fuel rest
      | some tests =>
          let tail := matching tests rest
          let piece :=
            if tail.length = tests.length then some (Char.ofNat (pointOf first tail)) else none
          piece :: pieces fuel (rest.drop tail.length)

/-- The text that bytes encode. -/
def decode? (bytes : List UInt8) : Option String :=
  ((pieces bytes.length bytes).mapM id).map String.ofList

/-- The text of bytes, with `U+FFFD` in the place of what is no text. -/
def decodeLossy (bytes : List UInt8) : String :=
  String.ofList ((pieces bytes.length bytes).map (·.getD (Char.ofNat 0xFFFD)))

end ContentGraph.Text.Utf8
