import ContentGraph.Json.Object

/-!
Contract: values as they are written in queries and in type definitions.

Owns:
- `Literal`, a value that may hold names of enumerations and variables;
- its JSON form and the literal of a JSON value.
-/

namespace ContentGraph.Query

open ContentGraph.Json

/-- A value as it is written. -/
inductive Literal where
  | null
  | bool (value : Bool)
  | number (value : Number)
  | string (value : String)
  /-- A name of an enumeration. -/
  | enum (name : String)
  | list (items : List Literal)
  | object (fields : List (String × Literal))
  | var (name : String)
deriving Inhabited

namespace Literal

mutual

/-- The JSON form of a literal; variables have the values that `value` gives them. -/
def toJson (value : String -> Value) : Literal -> Value
  | .null => .null
  | .bool truth => .bool truth
  | .number amount => .number amount
  | .string text => .string text
  | .enum name => .string name
  | .list items => .array (itemsToJson value items)
  | .object fields => .object (fieldsToJson value [] fields)
  | .var name => value name

/-- The JSON forms of items. -/
def itemsToJson (value : String -> Value) : List Literal -> List Value
  | [] => []
  | item :: rest => toJson value item :: itemsToJson value rest

/-- The JSON forms of fields, set one after another. -/
def fieldsToJson (value : String -> Value) (done : Object) :
    List (String × Literal) -> Object
  | [] => done
  | (key, item) :: rest => fieldsToJson value (done.insert key (toJson value item)) rest

end

mutual

/-- The literal of a JSON value. -/
def ofJson : Value -> Literal
  | .null => .null
  | .bool truth => .bool truth
  | .number amount => .number amount
  | .string text => .string text
  | .array items => .list (ofItems items)
  | .object fields => .object (ofFields fields)

/-- The literals of items. -/
def ofItems : List Value -> List Literal
  | [] => []
  | item :: rest => ofJson item :: ofItems rest

/-- The literals of fields. -/
def ofFields : List (String × Value) -> List (String × Literal)
  | [] => []
  | (key, value) :: rest => (key, ofJson value) :: ofFields rest

end

end Literal

end ContentGraph.Query
