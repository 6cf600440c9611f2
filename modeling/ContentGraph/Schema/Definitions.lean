import ContentGraph.Json.Printer
import ContentGraph.Schema.TypeTable

/-!
Contract: a schema in the schema definition language.

Owns:
- the text of literals, fields and types; types come in the order of their names, the scalars
  of every schema are left out, and a tab indents what is inside a type;
- the directives and the roots that end the text.
-/

namespace ContentGraph.Schema

/-- Four decimal digits. -/
def fourDigits (value : Nat) : List Char :=
  let digits := (toString value).toList
  List.replicate (4 - digits.length) '0' ++ digits

/-- A character as it stands inside a quoted text. -/
def escapeChar (c : Char) : List Char :=
  if c = '\r' then ['\\', 'r']
  else if c = '\n' then ['\\', 'n']
  else if c = '\t' then ['\\', 't']
  else if c = '"' then ['\\', '"']
  else if c = '\\' then ['\\', '\\']
  else if c.toNat < 32 ∨ (127 ≤ c.toNat ∧ c.toNat < 160) then '\\' :: 'u' :: fourDigits c.toNat
  else [c]

/-- A quoted text. -/
def quoted (text : String) : String :=
  String.ofList ('"' :: text.toList.flatMap escapeChar ++ ['"'])

mutual

/-- The text of a literal. -/
def literalText : Query.Literal -> String
  | .null => "null"
  | .bool true => "true"
  | .bool false => "false"
  | .number amount => amount.text
  | .string text => quoted text
  | .enum name => name
  | .list items => "[" ++ ", ".intercalate (itemTexts items) ++ "]"
  | .object fields => "\x7b" ++ ", ".intercalate (fieldTexts fields) ++ "\x7d"
  | .var name => "$" ++ name

/-- The texts of items. -/
def itemTexts : List Query.Literal -> List String
  | [] => []
  | item :: rest => literalText item :: itemTexts rest

/-- The texts of fields. -/
def fieldTexts : List (String × Query.Literal) -> List String
  | [] => []
  | (key, value) :: rest => (key ++ ": " ++ literalText value) :: fieldTexts rest

end

/-- The text of an argument. -/
def argumentText (argument : Argument) : String :=
  argument.name ++ ": " ++ argument.type.text ++
    match argument.default with
    | some value => " = " ++ literalText value
    | none => ""

/-- The line of a field. -/
def fieldLine (field : FieldDef) : String :=
  let arguments :=
    if field.arguments.isEmpty then ""
    else "(" ++ ", ".intercalate (field.arguments.map argumentText) ++ ")"
  "\t" ++ field.name ++ arguments ++ ": " ++ field.type.text ++ "\n"

/-- A named block with its lines. -/
def block (word name : String) (lines : List String) : String :=
  word ++ " " ++ name ++ " \x7b\n" ++ String.join lines ++ "\x7d\n\n"

/-- The text of a definition. -/
def definitionText (name : String) : TypeDef -> String
  | .object fields => block "type" name (fields.map fieldLine)
  | .input fields =>
      block "input" name (fields.map fun (field, type) =>
        "\t" ++ field ++ ": " ++ type.text ++ "\n")
  | .enumeration names => block "enum" name (names.map fun item => "\t" ++ item ++ "\n")
  | .scalar => "scalar " ++ name ++ "\n\n"

/-- The text of a directive that admits a condition. -/
def directiveText (description name : String) : String :=
  "\"\"\"\n" ++ description ++ "\n\"\"\"\ndirective @" ++ name
    ++ "(if: Boolean!) on FIELD | FRAGMENT_SPREAD | INLINE_FRAGMENT\n"

/-- The text of a table of types. -/
def TypeTable.render (table : TypeTable) : String :=
  let sorted := table.mergeSort fun a b => a.1 ≤ b.1
  String.join (sorted.map fun (name, definition) => definitionText name definition)
    ++ directiveText
      "Directs the executor to include this field or fragment only when the `if` argument is true."
      "include"
    ++ directiveText
      "Directs the executor to skip this field or fragment when the `if` argument is true."
      "skip"
    ++ "schema \x7b\n\tquery: " ++ queryRoot ++ "\n\tmutation: " ++ mutationRoot ++ "\n\x7d\n"

end ContentGraph.Schema
