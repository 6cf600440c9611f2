import ContentGraph.Json.Printer
import ContentGraph.Yaml.Content

/-!
Contract: YAML text of JSON values.

Owns:
- the choice of the scalar form: plain where a reader takes the text back as a string, literal
  for texts with line feeds, quoted otherwise;
- block collections indented by two, sequences in a mapping at the mapping's own indentation,
  and the short forms of empty collections;
- numbers as in JSON, but with no sign before positive exponents;
- keys too long or of several lines after a question mark.
-/

namespace ContentGraph.Yaml.Writer

open ContentGraph.Json

/-- The forms of a scalar. -/
inductive Form where
  | plain
  | single
  | double
  | literal
deriving DecidableEq

/-- Whether a character is written as it is in all but the double-quoted form. -/
def isPrintable (c : Char) : Bool :=
  let point := c.toNat
  point == 10 || (0x20 ≤ point && point ≤ 0x7E)
    || (0xA0 ≤ point && point ≤ 0xFFFD && point != 0xFEFF)
    || 0x10000 ≤ point

/-- What matters of a text for the choice of its form. -/
structure Traits where
  /-- Holds a line break of any kind. -/
  multiline : Bool
  plainAllowed : Bool
  singleAllowed : Bool
  literalAllowed : Bool

/-- Whether the characters at some place make a mark that a plain scalar cannot hold there:
`before` is whether a blank stands before, or nothing. -/
def isMark (first before : Bool) (c : Char) (rest : List Char) : Bool :=
  let followed := atSpace rest
  if first then
    "#,[]\x7b\x7d&*!|>\x27\"%@\x60".toList.contains c
      || ((c = '?' || c = ':' || c = '-') && followed)
  else (c = ':' && followed) || (c = '#' && before)

/-- Whether a mark stands at some place of a text. -/
def holdsMark (first before : Bool) : List Char -> Bool
  | [] => false
  | c :: rest =>
      isMark first before c rest || holdsMark false (isBlank c || isBreak c) rest

/-- Whether some place of a text has a character that satisfies the first test right before one
that satisfies the second. -/
def holdsPair (left right : Char -> Bool) : List Char -> Bool
  | a :: b :: rest => (left a && right b) || holdsPair left right (b :: rest)
  | _ => false

/-- The traits of a text. -/
def traits (text : List Char) : Traits :=
  let isSpace := fun c : Char => c = ' '
  let edge (test : Char -> Bool) : Option Char -> Bool := fun c => (c.map test).getD false
  let leads := edge (fun c => isSpace c || isBreak c) text.head?
  let trails := edge (fun c => isSpace c || isBreak c) text.getLast?
  let trailingSpace := edge isSpace text.getLast?
  let breaks := text.any isBreak
  let breakSpace := holdsPair isBreak isSpace text
  let special := holdsPair isSpace isBreak text || text.any (!isPrintable ·)
  let marks := "---".toList.isPrefixOf text || "...".toList.isPrefixOf text
    || holdsMark true true text
  { multiline := breaks
    plainAllowed := !(leads || trails || breakSpace || special || breaks || marks)
    singleAllowed := !(breakSpace || special)
    literalAllowed := !text.isEmpty && !(trailingSpace || special) }

/-- The form of a string in a place that is a simple key or not. -/
def formOf (isKey : Bool) (text : String) : Form :=
  let chars := text.toList
  let traits := traits chars
  let wanted :=
    if chars.contains '\n' then .literal
    else
      match PlainValue.ofText text with
      | .string => if PlainValue.hasLeadingZero chars then .single else .plain
      | _ => .single
  let wanted := if isKey && traits.multiline then .double else wanted
  let wanted := if wanted = .plain && !traits.plainAllowed then .single else wanted
  let wanted := if wanted = .single && !traits.singleAllowed then .double else wanted
  if wanted = .literal && (!traits.literalAllowed || isKey) then .double else wanted

/-- A hexadecimal number in upper case with a fixed count of digits. -/
def hex (count value : Nat) : List Char :=
  let digit (value : Nat) : Char :=
    if value < 10 then Char.ofNat (48 + value) else Char.ofNat (55 + value)
  (List.range count).reverse.map fun place => digit (value / Nat.pow 16 place % 16)

/-- A character inside double quotes. -/
def escape (c : Char) : List Char :=
  let point := c.toNat
  if isPrintable c && !isBreak c && c ≠ '"' && c ≠ '\\' then [c]
  else
    '\\' ::
      match point with
      | 0 => ['0']
      | 7 => ['a']
      | 8 => ['b']
      | 9 => ['t']
      | 10 => ['n']
      | 11 => ['v']
      | 12 => ['f']
      | 13 => ['r']
      | 27 => ['e']
      | 34 => ['"']
      | 92 => ['\\']
      | 0x85 => ['N']
      | 0x2028 => ['L']
      | 0x2029 => ['P']
      | _ =>
          if point ≤ 0xFF then 'x' :: hex 2 point
          else if point ≤ 0xFFFF then 'u' :: hex 4 point
          else 'U' :: hex 8 point

/-- A number of spaces. -/
def spaces (count : Nat) : List Char :=
  List.replicate count ' '

/-- The characters of a text with the indentation put in after line breaks; `fresh` after one. -/
def indentLines (indent : Nat) (fresh : Bool) : List Char -> List Char
  | [] => []
  | c :: rest =>
      if isBreak c then c :: indentLines indent true rest
      else (if fresh then spaces indent else []) ++ c :: indentLines indent false rest

/-- The body of a single-quoted scalar: quotes are doubled, a first line feed is doubled. -/
def singleBody (indent : Nat) (fresh : Bool) : List Char -> List Char
  | [] => []
  | c :: rest =>
      if isBreak c then
        (if c = '\n' && !fresh then ['\n'] else []) ++ c :: singleBody indent true rest
      else
        (if fresh then spaces indent else [])
          ++ (if c = '\x27' then ['\x27', '\x27'] else [c]) ++ singleBody indent false rest

/-- The header of a literal scalar: an indentation before a leading blank or break, and the
chomping of its end. -/
def literalHeader (text : List Char) : List Char :=
  let indentation :=
    match text with
    | c :: _ => if c = ' ' || isBreak c then ['2'] else []
    | [] => []
  let chomping :=
    match text.reverse with
    | [] => ['-']
    | [last] => if isBreak last then ['+'] else ['-']
    | last :: before :: _ =>
        if !isBreak last then ['-'] else if isBreak before then ['+'] else []
  '|' :: indentation ++ chomping

/-- A string in its form, at an indentation. -/
def scalar (indent : Nat) (isKey : Bool) (text : String) : List Char :=
  let chars := text.toList
  match formOf isKey text with
  | .plain => chars
  | .single =>
      let body := singleBody indent false chars
      let close := if (chars.getLast?.map isBreak).getD false then spaces indent else []
      '\x27' :: body ++ close ++ ['\x27']
  | .double => '"' :: chars.flatMap escape ++ ['"']
  | .literal => literalHeader chars ++ '\n' :: indentLines indent true chars

/-- A new line, unless the text ends with a break. -/
def freshLine (text : List Char) : List Char :=
  match text.getLast? with
  | none => text
  | some c => if isBreak c then text else text ++ ['\n']

/-- Whether a key can stand before its colon without a question mark. -/
def isSimpleKey (key : String) : Bool :=
  !(traits key.toList).multiline && key.utf8ByteSize ≤ 128

mutual

/-- A value after the mark that introduces it, whose column is `column`.  A collection continues
the line when `continues`, at an indentation of two more; otherwise it starts on the next line,
sequences at the same indentation. -/
def value (column : Nat) (continues : Bool) (out : List Char) : Value -> List Char
  | .array (first :: rest) =>
      if continues then items (column + 2) true (out ++ [' ']) (first :: rest)
      else items column false out (first :: rest)
  | .object (first :: rest) =>
      if continues then fields (column + 2) true (out ++ [' ']) (first :: rest)
      else fields (column + 2) false out (first :: rest)
  | .null => out ++ " null".toList
  | .bool true => out ++ " true".toList
  | .bool false => out ++ " false".toList
  | .number (.int whole) => out ++ ' ' :: (toString whole).toList
  | .number (.double amount) => out ++ ' ' :: (amount.text "").toList
  | .string text => out ++ ' ' :: scalar (column + 2) false text
  | .array [] => out ++ " []".toList
  | .object [] => out ++ " \x7b\x7d".toList

/-- The items of a sequence whose hyphens stand at a column; `inline` when the cursor is there
already. -/
def items (column : Nat) (inline : Bool) (out : List Char) : List Value -> List Char
  | [] => out
  | item :: rest =>
      let start := if inline then out else freshLine out ++ spaces column
      items column false (value column true (start ++ ['-']) item) rest

/-- The fields of a mapping whose keys stand at a column; `inline` when the cursor is there
already. -/
def fields (column : Nat) (inline : Bool) (out : List Char) :
    List (String × Value) -> List Char
  | [] => out
  | (key, item) :: rest =>
      let start := if inline then out else freshLine out ++ spaces column
      let out :=
        if isSimpleKey key then
          value column false (start ++ scalar (column + 2) true key ++ [':']) item
        else
          let keyed := start ++ '?' :: ' ' :: scalar (column + 2) false key
          value column true (freshLine keyed ++ spaces column ++ [':']) item
      fields column false out rest

end

end ContentGraph.Yaml.Writer

namespace ContentGraph.Yaml

/-- The text of an object as a document. -/
def render (fields : Json.Object) : String :=
  match fields with
  | [] => "\x7b\x7d\n"
  | fields => String.ofList (Writer.freshLine (Writer.fields 0 true [] fields))

end ContentGraph.Yaml
