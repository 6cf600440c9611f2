import ContentGraph.Json.Reader
import ContentGraph.Query.Document

/-!
Contract: the text of query documents.

Owns:
- the grammar of documents: blanks, commas and comments may stand between all tokens, a choice
  takes its first alternative that fits, and keywords need no blank after them;
- quoted texts and block texts, whose common indentation goes;
- the rules on the operations of a document: either one without a name, or some with
  different names;
- places in the text.

Does not own: which documents are valid for a schema (`Query.Validation`).
-/

namespace ContentGraph.Query

namespace Reader

/-- A reader of one thing at the start of a text: the thing, and the text after it. -/
abbrev Step (α : Type) := List Char -> Option (α × List Char)

/-- Whether a character may stand between tokens. -/
def isGap (c : Char) : Bool :=
  c = ' ' || c = ',' || c = '\t' || c = '\n' || c = '\r' || c = Char.ofNat 0xFEFF

/-- Skips what may stand between tokens; `inComment` inside of a comment. -/
def skipGap (inComment : Bool) : List Char -> List Char
  | [] => []
  | c :: rest =>
      if inComment then skipGap (c ≠ '\n' ∧ c ≠ '\r') rest
      else if c = '#' then skipGap true rest
      else if isGap c then skipGap false rest
      else c :: rest

/-- The text after a given word at its start. -/
def word? (word : String) (input : List Char) : Option (List Char) :=
  Json.Reader.expect? word.toList (skipGap false input)

/-- A name right at the start of a text. -/
def bareName? (input : List Char) : Option (String × List Char) :=
  match input with
  | first :: _ =>
      if first.isAlpha || first = '_' then
        some (String.ofList (input.takeWhile Text.isNameChar), input.dropWhile Text.isNameChar)
      else none
  | [] => none

/-- A name after a gap. -/
def name? : Step String :=
  fun input => bareName? (skipGap false input)

/-- What a step reads, if it fits. -/
def optional {α : Type} (step : Step α) (input : List Char) : Option α × List Char :=
  match step input with
  | some (value, rest) => (some value, rest)
  | none => (none, input)

/-- What a step reads again and again while it fits, at most `fuel` times. -/
def many {α : Type} (step : Step α) : Nat -> List Char -> List α × List Char
  | 0, input => ([], input)
  | fuel + 1, input =>
      match step input with
      | some (value, rest) =>
          let (values, rest) := many step fuel rest
          (value :: values, rest)
      | none => ([], input)

/-- What a step reads again and again between two words. -/
def between {α : Type} (opening closing : String) (step : Step α) : Step (List α) :=
  fun input => do
    let rest ← word? opening input
    let (values, rest) := many step rest.length rest
    let rest ← word? closing rest
    some (values, rest)

/-! ### Values -/

/-- The digits at the start of a text, at least one. -/
def digits? : Step (List Char) :=
  fun input =>
    let digits := input.takeWhile Char.isDigit
    if digits.isEmpty then none else some (digits, input.dropWhile Char.isDigit)

/-- The digits of a whole number: a zero alone, or digits that do not start with one. -/
def wholeDigits? : Step (List Char)
  | '0' :: rest => some (['0'], rest)
  | input => digits? input

/-- The fraction of a number. -/
def fraction? : Step (List Char)
  | '.' :: rest => (digits? rest).map fun (digits, rest) => ('.' :: digits, rest)
  | _ => none

/-- The exponent of a number. -/
def exponent? : Step (List Char)
  | mark :: rest =>
      if mark = 'e' ∨ mark = 'E' then
        let (sign, rest) :=
          match rest with
          | '+' :: rest => (['+'], rest)
          | '-' :: rest => (['-'], rest)
          | rest => ([], rest)
        (digits? rest).map fun (digits, rest) => (mark :: sign ++ digits, rest)
      else none
  | [] => none

/-- A number. -/
def number? : Step Json.Number :=
  fun input => do
    let (sign, rest) :=
      match input with
      | '-' :: rest => (['-'], rest)
      | rest => ([], rest)
    let (whole, rest) ← wholeDigits? rest
    let (fraction, rest) := optional fraction? rest
    let (exponent, rest) := optional exponent? rest
    match Json.parse? (String.ofList (sign ++ whole ++ fraction.getD [] ++ exponent.getD [])) with
    | some (.number number) => some (number, rest)
    | _ => none

/-- The rest of a quoted text after its opening quote, by at most `fuel` steps. -/
def quoted? : Nat -> List Char -> Step String
  | 0, _, _ => none
  | _ + 1, _, [] => none
  | fuel + 1, read, c :: rest =>
      if c = '"' then some (String.ofList read.reverse, rest)
      else if c = '\\' then
        match rest with
        | '"' :: rest => quoted? fuel ('"' :: read) rest
        | '\\' :: rest => quoted? fuel ('\\' :: read) rest
        | '/' :: rest => quoted? fuel ('/' :: read) rest
        | 'b' :: rest => quoted? fuel ('\x08' :: read) rest
        | 'f' :: rest => quoted? fuel ('\x0c' :: read) rest
        | 'n' :: rest => quoted? fuel ('\n' :: read) rest
        | 'r' :: rest => quoted? fuel ('\r' :: read) rest
        | 't' :: rest => quoted? fuel ('\t' :: read) rest
        | 'u' :: rest =>
            match Json.Reader.hexQuad? rest with
            | some (unit, rest) =>
                if 0xD800 ≤ unit ∧ unit < 0xE000 then none
                else quoted? fuel (Char.ofNat unit :: read) rest
            | none => none
        | _ => none
      else if c = '\n' ∨ c = '\r' then none
      else quoted? fuel (c :: read) rest

/-- The lines of a block text, ended by line feeds, carriage returns or both. -/
def blockLines (line : List Char) : List Char -> List (List Char)
  | [] => [line.reverse]
  | '\r' :: '\n' :: rest => line.reverse :: blockLines [] rest
  | c :: rest =>
      if c = '\n' ∨ c = '\r' then line.reverse :: blockLines [] rest
      else blockLines (c :: line) rest

/-- Whether a character indents a line. -/
def isIndent (c : Char) : Bool :=
  c = ' ' || c = '\t'

/-- The text of the lines of a block: the indentation common to all but the first line goes,
and so do blank lines at both ends. -/
def dedent (lines : List (List Char)) : List Char :=
  let inked := lines.tail.filter fun line => !line.all isIndent
  let common := ((inked.map fun line => (line.takeWhile isIndent).length).min?).getD 0
  let cut := lines.head?.toList ++ lines.tail.map (·.drop common)
  let trimmed := (cut.dropWhile (·.all isIndent)).reverse.dropWhile (·.all isIndent)
  List.intercalate ['\n'] trimmed.reverse

/-- The rest of a block text after its opening quotes. -/
def blockText? (read : List Char) : Step String
  | [] => none
  | '\\' :: '"' :: '"' :: '"' :: rest => blockText? ('"' :: '"' :: '"' :: read) rest
  | '"' :: '"' :: '"' :: rest => some (String.ofList (dedent (blockLines [] read.reverse)), rest)
  | c :: rest => blockText? (c :: read) rest

/-- A text in quotes. -/
def text? : Step String
  | '"' :: '"' :: '"' :: rest =>
      match blockText? [] rest with
      | some read => some read
      | none => some ("", '"' :: rest)
  | '"' :: rest => quoted? (rest.length + 1) [] rest
  | _ => none

/-- A variable. -/
def reference? : Step String :=
  fun input => do
    let rest ← word? "$" input
    name? rest

/-- The field of an object, its value read by `value`. -/
def objectField? (value : Step Literal) : Step (String × Literal) :=
  fun input => do
    let (name, rest) ← name? input
    let rest ← word? ":" rest
    let (value, rest) ← value rest
    some ((name, value), rest)

/-- Sets a field, which keeps its place if it is there. -/
def setField (fields : List (String × Literal)) (field : String × Literal) :
    List (String × Literal) :=
  match fields with
  | [] => [field]
  | old :: rest => if old.1 = field.1 then field :: rest else old :: setField rest field

/-- A value that nests at most `depth` deep; without variables where `constant`. -/
def value? (constant : Bool) : Nat -> Step Literal
  | 0 => fun _ => none
  | depth + 1 => fun input =>
      let start := skipGap false input
      match if constant then none else reference? start with
      | some (name, rest) => some (.var name, rest)
      | none =>
      match number? start with
      | some (number, rest) => some (.number number, rest)
      | none =>
      match text? start with
      | some (text, rest) => some (.string text, rest)
      | none =>
      match word? "true" start with
      | some rest => some (.bool true, rest)
      | none =>
      match word? "false" start with
      | some rest => some (.bool false, rest)
      | none =>
      match word? "null" start with
      | some rest => some (.null, rest)
      | none =>
      match name? start with
      | some (name, rest) => some (.enum name, rest)
      | none =>
      match between "[" "]" (value? constant depth) start with
      | some (items, rest) => some (.list items, rest)
      | none =>
          (between "\x7b" "\x7d" (objectField? (value? constant depth)) start).map
            fun (fields, rest) => (.object (fields.foldl setField []), rest)

/-- A value with variables. -/
def anyValue? : Step Literal :=
  fun input => value? false (input.length + 1) input

/-! ### Selections -/

/-- One argument. -/
def argument? : Step (String × Literal) :=
  objectField? anyValue?

/-- The arguments in parentheses. -/
def arguments? : Step Arguments :=
  between "(" ")" argument?

/-- A directive. -/
def directive? : Step Directive :=
  fun input => do
    let rest ← word? "@" input
    let (name, rest) ← name? rest
    let (arguments, rest) := optional arguments? rest
    some (⟨name, arguments.getD []⟩, rest)

/-- The directives at the start of a text. -/
def directives (input : List Char) : List Directive × List Char :=
  many directive? input.length input

/-- The type that a fragment holds for. -/
def condition? : Step String :=
  fun input => do
    let rest ← word? "on" input
    name? rest

/-- The place after as many characters as the text before it has bytes: a line feed, or a
carriage return with one, ends a line, and the two of them count as one character. -/
def placeAfter : Nat -> Position -> List Char -> Position
  | 0, place, _ => place
  | _ + 1, place, [] => place
  | count + 1, place, '\r' :: '\n' :: rest => placeAfter count ⟨place.line + 1, 1⟩ rest
  | count + 1, place, c :: rest =>
      placeAfter count
        (if c = '\n' then ⟨place.line + 1, 1⟩ else { place with column := place.column + 1 }) rest

/-- The place in a text where what is left of it starts. -/
def placeOf (text rest : List Char) : Position :=
  let before := text.take (text.length - rest.length)
  placeAfter (before.foldr (fun c size => c.utf8Size + size) 0) ⟨1, 1⟩ text

/-- The label before a field's name. -/
def label? : Step String :=
  fun input => do
    let (name, rest) ← name? input
    let rest ← word? ":" rest
    some (name, rest)

/-- A field, the selection below it read by `below`. -/
def field? (text : List Char) (below : Step (List Selection)) : Step Selection :=
  fun input => do
    let start := skipGap false input
    let (label, rest) := optional label? start
    let (name, rest) ← name? rest
    let (arguments, rest) := optional arguments? rest
    let (directives, rest) := directives rest
    let (selections, rest) := optional below rest
    let head : FieldHead :=
      { position := placeOf text start, label, name, arguments := arguments.getD [], directives }
    some (.field head (selections.getD []), rest)

/-- A fragment in its place. -/
def inline? (below : Step (List Selection)) : Step Selection :=
  fun input => do
    let rest ← word? "..." input
    let (condition, rest) := optional condition? rest
    let (directives, rest) := directives rest
    let (selections, rest) ← below rest
    some (.inline condition directives selections, rest)

/-- A spread of a named fragment. -/
def spread? : Step Selection :=
  fun input => do
    let rest ← word? "..." input
    if (condition? rest).isSome then none
    else
      let (name, rest) ← name? rest
      let (directives, rest) := directives rest
      some (.spread name directives, rest)

/-- The first alternative that fits. -/
def either {α : Type} (first second : Step α) : Step α :=
  fun input => (first input).or (second input)

/-- Selections in braces, at least one, nesting at most `depth` deep. -/
def selections? (text : List Char) : Nat -> Step (List Selection)
  | 0 => fun _ => none
  | depth + 1 => fun input => do
      let below := selections? text depth
      let one := either (field? text below) (either (inline? below) spread?)
      let (selections, rest) ← between "\x7b" "\x7d" one input
      if selections.isEmpty then none else some (selections, rest)

/-! ### Definitions -/

/-- A type right at the start of a text, nesting at most `depth` deep. -/
def type? : Nat -> Step TypeRef
  | 0 => fun _ => none
  | depth + 1 => fun input => do
      let (type, rest) ←
        match input with
        | '[' :: rest =>
            match type? depth rest with
            | some (element, ']' :: rest) => some (TypeRef.list element, rest)
            | _ => none
        | _ => (bareName? input).map fun (name, rest) => (TypeRef.named name, rest)
      match rest with
      | '!' :: rest => some (.nonNull type, rest)
      | _ => some (type, rest)

/-- The default of a variable. -/
def default? : Step Literal :=
  fun input => do
    let rest ← word? "=" input
    value? true (rest.length + 1) rest

/-- The declaration of a variable. -/
def variableDef? : Step VariableDef :=
  fun input => do
    let (name, rest) ← reference? input
    let rest ← word? ":" rest
    let start := skipGap false rest
    let (type, rest) ← type? (start.length + 1) start
    let (_, rest) := directives rest
    let (default, rest) := optional default? rest
    some (⟨name, type, default⟩, rest)

/-- The word that starts an operation. -/
def operationKind? : Step OperationKind :=
  fun input =>
    match word? "query" input, word? "mutation" input, word? "subscription" input with
    | some rest, _, _ => some (.query, rest)
    | _, some rest, _ => some (.mutation, rest)
    | _, _, some rest => some (.subscription, rest)
    | none, none, none => none

/-- The selections of a definition. -/
def body? (text : List Char) : Step (List Selection) :=
  selections? text (text.length + 1)

/-- An operation that starts with its kind. -/
def namedOperation? (text : List Char) : Step Operation :=
  fun input => do
    let (kind, rest) ← operationKind? input
    let (name, rest) := optional name? rest
    let (variableDefs, rest) := optional (between "(" ")" variableDef?) rest
    let (directives, rest) := directives rest
    let (selections, rest) ← body? text rest
    some (⟨kind, name, variableDefs.getD [], directives, selections⟩, rest)

/-- An operation; selections alone are a query. -/
def operation? (text : List Char) : Step Operation :=
  either (namedOperation? text) fun input =>
    (body? text input).map fun (selections, rest) =>
      (⟨.query, none, [], [], selections⟩, rest)

/-- A named fragment. -/
def fragment? (text : List Char) : Step Fragment :=
  fun input => do
    let rest ← word? "fragment" input
    let (name, rest) ← name? rest
    let (condition, rest) ← condition? rest
    let (directives, rest) := directives rest
    let (selections, rest) ← body? text rest
    some (⟨name, condition, directives, selections⟩, rest)

/-- An operation or a fragment. -/
def definition? (text : List Char) : Step (Operation ⊕ Fragment) :=
  either
    (fun input => (operation? text input).map fun (operation, rest) => (.inl operation, rest))
    (fun input => (fragment? text input).map fun (fragment, rest) => (.inr fragment, rest))

/-- Whether the operations of a document can stand together. -/
def operationsStand (operations : List Operation) : Bool :=
  match operations with
  | [] => false
  | [_] => true
  | several =>
      let names := several.filterMap Operation.name
      names.length = several.length && decide names.Nodup

end Reader

/-- Reads a document. -/
def Document.parse? (text : String) : Option Document := do
  let chars := text.toList
  let (definitions, rest) := Reader.many (Reader.definition? chars) chars.length chars
  let operations := definitions.filterMap Sum.getLeft?
  let fragments := definitions.filterMap Sum.getRight?
  if (Reader.skipGap false rest).isEmpty && Reader.operationsStand operations
      && decide (fragments.map Fragment.name).Nodup then
    some { operations, fragments }
  else none

end ContentGraph.Query
