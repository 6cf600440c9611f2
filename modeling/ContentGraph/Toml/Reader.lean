import ContentGraph.Decimal.Reader

/-!
Contract: TOML documents, as configuration files use them.

Owns:
- keys, dotted keys, tables and arrays of tables;
- strings of all four forms, integers in the signed 64-bit range, floats, booleans, dates,
  arrays and inline tables;
- the refusal of a table that is defined twice.

A key that comes twice in one table is kept twice.  Reading answers `none` for a text that is
no document.
-/

namespace ContentGraph.Toml

/-- A value.  `closed` marks a table that no further header may define. -/
inductive Value where
  | string (text : String)
  | integer (value : Int)
  | float
  | boolean (value : Bool)
  | datetime
  | array (items : List Value)
  | table (closed : Bool) (fields : List (String × Value))
  /-- An array of tables made by headers in double brackets. -/
  | tables (items : List (List (String × Value)))

/-- The fields of a table, in order. -/
abbrev Table := List (String × Value)

namespace Reader

/-- The rest of the input. -/
abbrev Input := List Char

/-- Drops the carriage return of every line end. -/
def foldLineEnds : List Char -> List Char
  | '\r' :: '\n' :: rest => '\n' :: foldLineEnds rest
  | c :: rest => c :: foldLineEnds rest
  | [] => []

/-- Skips spaces and tabs. -/
def skipBlank : Input -> Input
  | c :: rest => if c = ' ' ∨ c = '\t' then skipBlank rest else c :: rest
  | [] => []

/-- Whether a character may stand in a comment. -/
def isCommentChar (c : Char) : Bool :=
  c = '\t' || 0x20 ≤ c.toNat

/-- Skips a comment. -/
def skipComment (input : Input) : Input :=
  match input with
  | '#' :: rest => rest.dropWhile isCommentChar
  | rest => rest

/-- Skips blanks, comments and line ends, by at most `fuel` steps. -/
def skipLines : Nat -> Input -> Input
  | 0, input => input
  | fuel + 1, input =>
      match skipComment (skipBlank input) with
      | '\n' :: rest => skipLines fuel rest
      | rest => rest

/-- What has to follow a header or a value: the end of the line, after a comment. -/
def endOfLine? (input : Input) : Option Input :=
  match skipComment (skipBlank input) with
  | [] => some []
  | '\n' :: rest => some rest
  | _ => none

/-- Whether a character may stand in a string as it is. -/
def isStringChar (c : Char) : Bool :=
  c = '\t' || (0x20 ≤ c.toNat && c.toNat ≠ 0x7F)

/-- The value of a hexadecimal digit. -/
def hexValue? (c : Char) : Option Nat :=
  if c.isDigit then some (c.toNat - 48)
  else if 'a' ≤ c ∧ c ≤ 'f' then some (c.toNat - 87)
  else if 'A' ≤ c ∧ c ≤ 'F' then some (c.toNat - 55)
  else none

/-- A character given by a number of hexadecimal digits. -/
def hexChar? (count : Nat) (input : Input) : Option (Char × Input) := do
  if (input.take count).length < count then none
  let digits ← (input.take count).mapM hexValue?
  let point := digits.foldl (fun total digit => total * 16 + digit) 0
  if point < 0xD800 ∨ (0xE000 ≤ point ∧ point ≤ 0x10FFFF) then
    some (Char.ofNat point, input.drop count)
  else none

/-- The character after a backslash. -/
def escape? (input : Input) : Option (Char × Input) :=
  match input with
  | '"' :: rest => some ('"', rest)
  | '\\' :: rest => some ('\\', rest)
  | 'b' :: rest => some ('\x08', rest)
  | 'f' :: rest => some ('\x0c', rest)
  | 'n' :: rest => some ('\n', rest)
  | 'r' :: rest => some ('\r', rest)
  | 't' :: rest => some ('\t', rest)
  | 'u' :: rest => hexChar? 4 rest
  | 'U' :: rest => hexChar? 8 rest
  | _ => none

/-- Skips white space and line ends, for a backslash at the end of a line. -/
def skipLayout : Input -> Input
  | c :: rest => if c = ' ' ∨ c = '\t' ∨ c = '\n' then skipLayout rest else c :: rest
  | [] => []

/-- The rest of a string up to its closing quotes, by at most `fuel` steps. -/
def stringBody? (quote : Char) (multiline : Bool) :
    Nat -> List Char -> Input -> Option (String × Input)
  | 0, _, _ => none
  | fuel + 1, read, input =>
      match input with
      | [] => none
      | c :: rest =>
          if c = quote then
            if !multiline then some (String.ofList read.reverse, rest)
            else
              match rest with
              | q :: r :: rest' =>
                  if q = quote ∧ r = quote then
                    some (String.ofList read.reverse, rest')
                  else stringBody? quote multiline fuel (c :: read) rest
              | _ => stringBody? quote multiline fuel (c :: read) rest
          else if c = '\n' then
            if multiline then stringBody? quote multiline fuel (c :: read) rest else none
          else if c = '\\' ∧ quote = '"' then
            let continued := multiline && (skipBlank rest).head? = some '\n'
            if continued then stringBody? quote multiline fuel read (skipLayout rest)
            else
              match escape? rest with
              | some (c, rest) => stringBody? quote multiline fuel (c :: read) rest
              | none => none
          else if isStringChar c then stringBody? quote multiline fuel (c :: read) rest
          else none

/-- A string after its first quote. -/
def string? (quote : Char) (input : Input) : Option (String × Input) :=
  match input with
  | q :: r :: rest =>
      if q = quote ∧ r = quote then
        let rest :=
          match rest with
          | '\n' :: rest => rest
          | rest => rest
        stringBody? quote true (rest.length + 1) [] rest
      else if q = quote then some ("", r :: rest)
      else stringBody? quote false (input.length + 1) [] input
  | [q] => if q = quote then some ("", []) else none
  | [] => none

/-- Whether a character may stand in a bare key. -/
def isKeyChar (c : Char) : Bool :=
  c.isAlphanum || c = '-' || c = '_'

/-- One part of a key. -/
def keyPart? (input : Input) : Option (String × Input) :=
  match input with
  | '"' :: '"' :: '"' :: _ => none
  | '\x27' :: '\x27' :: '\x27' :: _ => none
  | '"' :: rest => string? '"' rest
  | '\x27' :: rest => string? '\x27' rest
  | input =>
      let key := input.takeWhile isKeyChar
      if key.isEmpty then none
      else some (String.ofList key, input.dropWhile isKeyChar)

/-- A key with its dotted parts, by at most `fuel` parts. -/
def key? : Nat -> Input -> Option (List String × Input)
  | 0, _ => none
  | fuel + 1, input => do
      let (part, rest) ← keyPart? (skipBlank input)
      match skipBlank rest with
      | '.' :: rest =>
          let (parts, rest) ← key? fuel rest
          some (part :: parts, rest)
      | rest => some ([part], rest)

/-- Digits that may be grouped by single underscores: the digits alone. -/
def groupedDigits? (isDigit : Char -> Bool) (text : List Char) : Option (List Char) :=
  let rec scan (afterDigit : Bool) : List Char -> Option (List Char)
    | [] => if afterDigit then some [] else none
    | '_' :: rest => if afterDigit then scan false rest else none
    | c :: rest => if isDigit c then (scan true rest).map (c :: ·) else none
  scan false text

/-- Whether digits stand for a decimal number without a superfluous zero. -/
def isPlainDecimal (text : List Char) : Bool :=
  match groupedDigits? Char.isDigit text with
  | some ('0' :: _ :: _) => false
  | some _ => true
  | none => false

/-- An integer in the signed 64-bit range. -/
def integer? (text : List Char) : Option Int := do
  let inRange (value : Int) : Option Int :=
    if -(Nat.pow 2 63) ≤ value ∧ value < Nat.pow 2 63 then some value else none
  let based (base : Nat) (digits : List Char) : Option Int := do
    let digits ← groupedDigits? (fun c => (hexValue? c).any (· < base)) digits
    let values ← digits.mapM hexValue?
    inRange (values.foldl (fun total digit => total * base + digit) 0 : Nat)
  match text with
  | '0' :: 'x' :: digits => based 16 digits
  | '0' :: 'o' :: digits => based 8 digits
  | '0' :: 'b' :: digits => based 2 digits
  | _ =>
      let (negative, digits) :=
        match text with
        | '-' :: rest => (true, rest)
        | '+' :: rest => (false, rest)
        | rest => (false, rest)
      if !isPlainDecimal digits then none
      let plain := digits.filter Char.isDigit
      let value : Int := Decimal.valueOfDigits plain
      inRange (if negative then -value else value)

/-- Whether a text is a float. -/
def isFloat (text : List Char) : Bool :=
  let unsigned :=
    match text with
    | '-' :: rest => rest
    | '+' :: rest => rest
    | rest => rest
  if unsigned = ['i', 'n', 'f'] ∨ unsigned = ['n', 'a', 'n'] then true
  else
    let marked := fun c : Char => c = 'e' || c = 'E'
    let mantissa := unsigned.takeWhile (!marked ·)
    let exponent := (unsigned.dropWhile (!marked ·)).drop 1
    let hasExponent := unsigned.any marked
    let exponentDigits :=
      match exponent with
      | '-' :: rest => rest
      | '+' :: rest => rest
      | rest => rest
    let whole := mantissa.takeWhile (· ≠ '.')
    let fraction := (mantissa.dropWhile (· ≠ '.')).drop 1
    let hasFraction := mantissa.contains '.'
    isPlainDecimal whole
      && (!hasFraction || (groupedDigits? Char.isDigit fraction).isSome)
      && (!hasExponent || (groupedDigits? Char.isDigit exponentDigits).isSome)
      && (hasFraction || hasExponent)

/-- Whether a text has the form of a pattern, in which `0` stands for any digit. -/
def hasForm : List Char -> List Char -> Bool
  | [], [] => true
  | '0' :: form, c :: rest => c.isDigit && hasForm form rest
  | mark :: form, c :: rest => mark = c && hasForm form rest
  | _, _ => false

/-- Whether a text is a time of day. -/
def isTime (text : List Char) : Bool :=
  hasForm "00:00:00".toList (text.take 8)
    && (match text.drop 8 with
        | [] => true
        | '.' :: fraction => !fraction.isEmpty && fraction.all Char.isDigit
        | _ => false)

/-- Whether a text is a date, a time, or both with an optional offset. -/
def isDatetime (text : List Char) : Bool :=
  let isDate := hasForm "0000-00-00".toList (text.take 10)
  if !isDate then isTime text
  else
    match text.drop 10 with
    | [] => true
    | mark :: rest =>
        if mark = 'T' ∨ mark = 't' ∨ mark = ' ' then
          match rest.reverse with
          | 'Z' :: time => isTime time.reverse
          | 'z' :: time => isTime time.reverse
          | reversed =>
              isTime rest
                || (let offset := (reversed.take 6).reverse
                    (hasForm "+00:00".toList offset || hasForm "-00:00".toList offset)
                      && isTime (reversed.drop 6).reverse)
        else false

/-- A number, a date or a time. -/
def bare? (text : List Char) : Option Value :=
  match integer? text with
  | some value => some (.integer value)
  | none =>
      if isFloat text then some .float
      else if isDatetime text then some .datetime
      else none

/-- Whether a character may stand in a number, a date or a time. -/
def isBareChar (c : Char) : Bool :=
  isKeyChar c || c = '.' || c = '+' || c = ':'

/-- The text of a number, a date or a time; a date and a time may be parted by one space. -/
def bareText (input : Input) : List Char × Input :=
  let text := input.takeWhile isBareChar
  let rest := input.dropWhile isBareChar
  match rest with
  | ' ' :: more =>
      let time := more.takeWhile isBareChar
      if hasForm "0000-00-00".toList text && hasForm "00:00:00".toList (time.take 8) then
        (text ++ ' ' :: time, more.dropWhile isBareChar)
      else (text, rest)
  | _ => (text, rest)

/-- The table after setting a dotted key; `none` when a part of it names no open table. -/
def setDotted? (fields : Table) (value : Value) : List String -> Option Table
  | [] => none
  | [key] => some (fields ++ [(key, value)])
  | key :: rest =>
      match fields.lookup key with
      | none => (setDotted? [] value rest).map fun inner => fields ++ [(key, .table false inner)]
      | some (.table false inner) =>
          (setDotted? inner value rest).map fun inner =>
            fields.map fun field => if field.1 = key then (key, .table false inner) else field
      | some _ => none

/-- A value, by at most `fuel` levels of nesting. -/
def value? (fuel : Nat) (input : Input) : Option (Value × Input) :=
  match fuel with
  | 0 => none
  | fuel + 1 =>
      match input with
      | '"' :: rest => (string? '"' rest).map fun (text, rest) => (.string text, rest)
      | '\x27' :: rest => (string? '\x27' rest).map fun (text, rest) => (.string text, rest)
      | '[' :: rest =>
          let rec items : Nat -> List Value -> Input -> Option (Value × Input)
            | 0, _, _ => none
            | steps + 1, read, input =>
                match skipLines input.length input with
                | ']' :: rest => some (.array read.reverse, rest)
                | input =>
                    match value? fuel input with
                    | none => none
                    | some (item, rest) =>
                        match skipLines rest.length rest with
                        | ',' :: rest => items steps (item :: read) rest
                        | ']' :: rest => some (.array (item :: read).reverse, rest)
                        | _ => none
          items (rest.length + 1) [] rest
      | '\x7b' :: rest =>
          let rec fields : Nat -> Table -> Input -> Option (Value × Input)
            | 0, _, _ => none
            | steps + 1, read, input => do
                let (key, rest) ← key? (input.length + 1) input
                match rest with
                | '=' :: rest =>
                    let (value, rest) ← value? fuel (skipBlank rest)
                    let read ← setDotted? read value key
                    match skipBlank rest with
                    | ',' :: rest => fields steps read rest
                    | '\x7d' :: rest => some (.table true read, rest)
                    | _ => none
                | _ => none
          match skipBlank rest with
          | '\x7d' :: rest => some (.table true [], rest)
          | rest => fields (rest.length + 1) [] rest
      | input =>
          let (text, rest) := bareText input
          match text with
          | ['t', 'r', 'u', 'e'] => some (.boolean true, rest)
          | ['f', 'a', 'l', 's', 'e'] => some (.boolean false, rest)
          | text => (bare? text).map (·, rest)

/-- Changes the table at a path of headers; arrays of tables are entered at their last table. -/
def changeAt? (change : Table -> Option Table) (fields : Table) : List String -> Option Table
  | [] => change fields
  | key :: rest =>
      let setTo (value : Value) : Table :=
        fields.map fun field => if field.1 = key then (key, value) else field
      match fields.lookup key with
      | none =>
          (changeAt? change [] rest).map fun inner => fields ++ [(key, .table false inner)]
      | some (.table closed inner) =>
          (changeAt? change inner rest).map fun inner => setTo (.table closed inner)
      | some (.tables items) =>
          match items.getLast? with
          | none => none
          | some last =>
              (changeAt? change last rest).map fun last =>
                setTo (.tables (items.dropLast ++ [last]))
      | some _ => none

/-- Defines the table of a header. -/
def openTable? (root : Table) (path : List String) : Option Table :=
  match path.getLast? with
  | none => none
  | some key =>
      changeAt?
        (fun fields =>
          match fields.lookup key with
          | none => some (fields ++ [(key, .table true [])])
          | some (.table false inner) =>
              some (fields.map fun field =>
                if field.1 = key then (key, .table true inner) else field)
          | some _ => none)
        root path.dropLast

/-- Adds a table to the array of a header in double brackets. -/
def openElement? (root : Table) (path : List String) : Option Table :=
  match path.getLast? with
  | none => none
  | some key =>
      changeAt?
        (fun fields =>
          match fields.lookup key with
          | none => some (fields ++ [(key, .tables [[]])])
          | some (.tables items) =>
              some (fields.map fun field =>
                if field.1 = key then (key, .tables (items ++ [[]])) else field)
          | some _ => none)
        root path.dropLast

/-- The lines of a document, by at most `fuel` of them, under the header read last. -/
def document? : Nat -> Table -> List String -> Input -> Option Table
  | 0, _, _, _ => none
  | fuel + 1, root, header, input =>
      match skipLines input.length input with
      | [] => some root
      | '[' :: '[' :: rest => do
          let (path, rest) ← key? (rest.length + 1) rest
          match rest with
          | ']' :: ']' :: rest =>
              let rest ← endOfLine? rest
              let root ← openElement? root path
              document? fuel root path rest
          | _ => none
      | '[' :: rest => do
          let (path, rest) ← key? (rest.length + 1) rest
          match rest with
          | ']' :: rest =>
              let rest ← endOfLine? rest
              let root ← openTable? root path
              document? fuel root path rest
          | _ => none
      | input => do
          let (key, rest) ← key? (input.length + 1) input
          match rest with
          | '=' :: rest =>
              let (value, rest) ← value? (rest.length + 1) (skipBlank rest)
              let rest ← endOfLine? rest
              let root ← changeAt? (fun fields => setDotted? fields value key) root header
              document? fuel root header rest
          | _ => none

end Reader

/-- The top table of a document; a byte order mark at its start is passed over. -/
def parse? (text : String) : Option Table :=
  let chars := Reader.foldLineEnds text.toList
  let chars :=
    match chars with
    | c :: rest => if c.toNat = 0xFEFF then rest else c :: rest
    | [] => []
  Reader.document? (chars.length + 1) [] [] chars

end ContentGraph.Toml
