import ContentGraph.Failure
import ContentGraph.Text.Naming

/-!
Contract: how content keys become graph field names.

Owns: `FieldTransform`, its names and labels, its application, and `fieldName`, which refuses
names that still hold a list marker after the transform and makes all others legal.
-/

namespace ContentGraph

open ContentGraph.Text

/-- How content keys become field names. -/
inductive FieldTransform where
  /-- Keys stay as they are. -/
  | identity
  | camelCase
  | snakeCase
  /-- A transform given as a function. -/
  | custom (apply : String -> String)

namespace FieldTransform

/-- The transform with a configured name. -/
def ofName (name : String) : Except Failure FieldTransform :=
  match name with
  | "none" | "identity" => .ok .identity
  | "camel_case" | "camelCase" => .ok .camelCase
  | "snake_case" => .ok .snakeCase
  | other => .error (.config (.unknownTransform other))

/-- The label of a transform, which enters the identity of a configuration. -/
def label : FieldTransform -> String
  | .identity => "none"
  | .camelCase => "camel_case"
  | .snakeCase => "snake_case"
  | .custom _ => "custom"

/-- The transformed key. -/
def apply : FieldTransform -> String -> String
  | .identity, key => key
  | .camelCase, key => Text.camelCase key
  | .snakeCase, key => Text.snakeCase key
  | .custom transform, key => transform key

/-- Whether a text holds the list marker `[]`. -/
def holdsListMarker (text : String) : Bool :=
  let rec scan : List Char -> Bool
    | '[' :: ']' :: _ => true
    | _ :: rest => scan rest
    | [] => false
  scan text.toList

/-- The graph field name of a content key. -/
def fieldName (transform : FieldTransform) (key : String) : Except Failure String :=
  let transformed := transform.apply key
  if holdsListMarker transformed then .error (.illegalFieldName transformed)
  else .ok (legalize transformed)

end FieldTransform

end ContentGraph
