import ContentGraph.Decimal.Shortest
import ContentGraph.Json.Value

/-!
Contract: the text of a JSON value.

Owns:
- the compact form, with no spaces, and the indented form, two spaces a level;
- string escapes: the quote, the backslash, and control characters below `U+0020`, by their
  short names where JSON has one and by `\u00xx` otherwise;
- number text: integers in full, doubles by `Decimal.Double.text` with a plus sign before
  positive exponents.
-/

namespace ContentGraph.Json

/-- The text of a number. -/
def Number.text : Number -> String
  | .int value => toString value
  | .double value => value.text "+"

/-- One hexadecimal digit in lower case. -/
def hexDigit (value : Nat) : Char :=
  if value < 10 then Char.ofNat (48 + value) else Char.ofNat (87 + value)

/-- A character as it stands inside a quoted string. -/
def escapeChar (c : Char) : List Char :=
  if c = '"' then ['\\', '"']
  else if c = '\\' then ['\\', '\\']
  else if c.toNat = 8 then ['\\', 'b']
  else if c.toNat = 9 then ['\\', 't']
  else if c.toNat = 10 then ['\\', 'n']
  else if c.toNat = 12 then ['\\', 'f']
  else if c.toNat = 13 then ['\\', 'r']
  else if c.toNat < 32 then
    ['\\', 'u', '0', '0', hexDigit (c.toNat / 16), hexDigit (c.toNat % 16)]
  else [c]

/-- A quoted string. -/
def quote (text : String) : String :=
  String.ofList ('"' :: text.toList.flatMap escapeChar ++ ['"'])

namespace Value

mutual

/-- The text of a value without spaces. -/
def compact : Value -> String
  | .null => "null"
  | .bool true => "true"
  | .bool false => "false"
  | .number value => value.text
  | .string value => quote value
  | .array [] => "[]"
  | .array (first :: rest) => "[" ++ compact first ++ compactItems rest ++ "]"
  | .object [] => "\x7b\x7d"
  | .object ((key, value) :: rest) =>
      "\x7b" ++ quote key ++ ":" ++ compact value ++ compactFields rest ++ "\x7d"

/-- Further items, each after a comma. -/
def compactItems : List Value -> String
  | [] => ""
  | item :: rest => "," ++ compact item ++ compactItems rest

/-- Further fields, each after a comma. -/
def compactFields : List (String × Value) -> String
  | [] => ""
  | (key, value) :: rest =>
      "," ++ quote key ++ ":" ++ compact value ++ compactFields rest

end

/-- A line break and the indentation of a nesting level. -/
def newline (level : Nat) : String :=
  "\n" ++ String.ofList (List.replicate (2 * level) ' ')

mutual

/-- The text of a value at a nesting level, one item or field a line. -/
def indented (level : Nat) : Value -> String
  | .array (first :: rest) =>
      "[" ++ newline (level + 1) ++ indented (level + 1) first
        ++ indentedItems (level + 1) rest ++ newline level ++ "]"
  | .object ((key, value) :: rest) =>
      "\x7b" ++ newline (level + 1) ++ quote key ++ ": " ++ indented (level + 1) value
        ++ indentedFields (level + 1) rest ++ newline level ++ "\x7d"
  | .null => "null"
  | .bool true => "true"
  | .bool false => "false"
  | .number value => value.text
  | .string value => quote value
  | .array [] => "[]"
  | .object [] => "\x7b\x7d"

/-- Further items, each after a comma and on its own line. -/
def indentedItems (level : Nat) : List Value -> String
  | [] => ""
  | item :: rest => "," ++ newline level ++ indented level item ++ indentedItems level rest

/-- Further fields, each after a comma and on its own line. -/
def indentedFields (level : Nat) : List (String × Value) -> String
  | [] => ""
  | (key, value) :: rest =>
      "," ++ newline level ++ quote key ++ ": " ++ indented level value
        ++ indentedFields level rest

end

/-- The indented text of a value. -/
def pretty (value : Value) : String :=
  value.indented 0

end Value

end ContentGraph.Json
