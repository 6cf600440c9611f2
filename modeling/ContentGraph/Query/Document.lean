import ContentGraph.Query.Literal
import ContentGraph.Schema.TypeRef

/-!
Contract: query documents.

Owns:
- operations, fragments and selections as they are written, fields with their places in the
  text;
- the variables that a selection uses and the fragments that it spreads;
- `Selections.expand`, which replaces spreads by what they stand for and bounds the depth.

Does not own: the text of documents (`Query.Reader`), and which documents are valid
(`Query.Validation`).
-/

namespace ContentGraph.Query

/-- A place in a text, counted from one. -/
structure Position where
  line : Nat
  column : Nat
deriving DecidableEq

/-- Arguments as they are written. -/
abbrev Arguments := List (String × Literal)

/-- A directive. -/
structure Directive where
  name : String
  arguments : Arguments

/-- What is written of a field before the selection below it. -/
structure FieldHead where
  position : Position
  label : Option String
  name : String
  arguments : Arguments
  directives : List Directive

/-- The key of a field in the answer. -/
def FieldHead.key (head : FieldHead) : String :=
  head.label.getD head.name

/-- A selection. -/
inductive Selection where
  | field (head : FieldHead) (below : List Selection)
  /-- A fragment in its place; without a condition it holds for every type. -/
  | inline (condition : Option String) (directives : List Directive) (below : List Selection)
  | spread (fragment : String) (directives : List Directive)

/-- The kinds of operations. -/
inductive OperationKind where
  | query
  | mutation
  | subscription
deriving DecidableEq

/-- A declared variable. -/
structure VariableDef where
  name : String
  type : TypeRef
  default : Option Literal

/-- An operation. -/
structure Operation where
  kind : OperationKind
  name : Option String
  variableDefs : List VariableDef
  directives : List Directive
  selections : List Selection

/-- A fragment that is declared by name. -/
structure Fragment where
  name : String
  condition : String
  directives : List Directive
  selections : List Selection

/-- A document. -/
structure Document where
  operations : List Operation
  fragments : List Fragment

/-- The fragment with a name. -/
def Document.fragment? (document : Document) (name : String) : Option Fragment :=
  document.fragments.find? fun fragment => fragment.name = name

namespace Literal

mutual

/-- The variables in a literal. -/
def variableNames : Literal -> List String
  | .var name => [name]
  | .list items => itemVariables items
  | .object fields => fieldVariables fields
  | _ => []

/-- The variables in items. -/
def itemVariables : List Literal -> List String
  | [] => []
  | item :: rest => variableNames item ++ itemVariables rest

/-- The variables in fields. -/
def fieldVariables : List (String × Literal) -> List String
  | [] => []
  | (_, value) :: rest => variableNames value ++ fieldVariables rest

end

mutual

/-- Whether two literals are written alike, up to the order of fields. -/
def alike : Literal -> Literal -> Bool
  | .null, .null => true
  | .bool a, .bool b => a == b
  | .number a, .number b => decide (a = b)
  | .string a, .string b => a == b
  | .enum a, .enum b => a == b
  | .var a, .var b => a == b
  | .list a, .list b => alikeItems a b
  | .object a, .object b => a.length == b.length && alikeFields a b
  | _, _ => false

/-- Whether items are alike in turn. -/
def alikeItems : List Literal -> List Literal -> Bool
  | [], [] => true
  | x :: xs, y :: ys => alike x y && alikeItems xs ys
  | _, _ => false

/-- Whether each field has one alike of its name. -/
def alikeFields : List (String × Literal) -> List (String × Literal) -> Bool
  | [], _ => true
  | (key, value) :: rest, other =>
      (match other.lookup key with
        | some found => alike value found
        | none => false) && alikeFields rest other

end

end Literal

namespace Selections

/-- The selections of a document with every spread replaced by its fragment, which keeps its
type condition; `none` when selections nest deeper than `depth` or a fragment is missing. -/
def expand (document : Document) : Nat -> List Selection -> Option (List Selection)
  | 0, _ => none
  | depth + 1, selections =>
      selections.mapM fun selection =>
        match selection with
        | .field head below =>
            if below.isEmpty then some (.field head [])
            else (expand document depth below).map (.field head)
        | .inline condition directives below =>
            (expand document depth below).map (.inline condition directives)
        | .spread name directives => do
            let fragment ← document.fragment? name
            let below ← expand document depth fragment.selections
            some (.inline (some fragment.condition) directives below)

end Selections

end ContentGraph.Query
