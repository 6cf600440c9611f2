import ContentGraph.Json.Value

/-!
Contract: operations on the ordered fields of an object.

Owns:
- lookup, insertion (an existing key keeps its place), removal that keeps order, and removal
  that moves the last field into the gap;
- equality of values up to the order of fields;
- `WellKeyed`: no object inside a value holds a key twice.
-/

namespace ContentGraph.Json

namespace Object

/-- The value under a key. -/
def find? (fields : Object) (key : String) : Option Value :=
  match fields with
  | [] => none
  | (name, value) :: rest => if name = key then some value else find? rest key

/-- The keys in order. -/
def keys (fields : Object) : List String :=
  fields.map Prod.fst

/-- Whether a key is present. -/
def hasKey (fields : Object) (key : String) : Bool :=
  (fields.find? key).isSome

/-- Sets a key: an existing key keeps its place, a new one goes to the end. -/
def insert (fields : Object) (key : String) (value : Value) : Object :=
  match fields with
  | [] => [(key, value)]
  | (name, old) :: rest =>
      if name = key then (name, value) :: rest
      else (name, old) :: insert rest key value

/-- Sets the keys of `additions` in order. -/
def insertAll (fields additions : Object) : Object :=
  additions.foldl (fun merged field => merged.insert field.1 field.2) fields

/-- Removes a key and keeps the order of the others. -/
def erase (fields : Object) (key : String) : Object :=
  fields.filter fun field => field.1 ≠ key

/-- Removes a key; the last field moves into the gap. -/
def swapErase (fields : Object) (key : String) : Object :=
  match fields with
  | [] => []
  | (name, value) :: rest =>
      if name = key then
        match rest.getLast? with
        | none => []
        | some last => last :: rest.dropLast
      else
        (name, value) :: swapErase rest key

end Object

namespace Value

/-- The value under a key of an object. -/
def field? (value : Value) (key : String) : Option Value :=
  value.fields?.bind (·.find? key)

mutual

/-- Equality up to the order of fields and the sign of zero, with integers and doubles apart. -/
def equivalent : Value -> Value -> Bool
  | .null, .null => true
  | .bool a, .bool b => a == b
  | .number (.int a), .number (.int b) => a == b
  | .number (.double a), .number (.double b) => a.sameValue b
  | .string a, .string b => a == b
  | .array a, .array b => equivalentItems a b
  | .object a, .object b => a.length == b.length && equivalentFields a b
  | _, _ => false

/-- Item lists of one length whose items are equivalent in turn. -/
def equivalentItems : List Value -> List Value -> Bool
  | [], [] => true
  | x :: xs, y :: ys => equivalent x y && equivalentItems xs ys
  | _, _ => false

/-- Every field of the first object has an equivalent one of its name in the second. -/
def equivalentFields : List (String × Value) -> Object -> Bool
  | [], _ => true
  | (key, value) :: rest, other =>
      (match other.find? key with
        | some found => equivalent value found
        | none => false) && equivalentFields rest other

end

mutual

/-- No object inside the value holds a key twice. -/
def WellKeyed : Value -> Prop
  | .array items => WellKeyedItems items
  | .object fields => (fields.map Prod.fst).Nodup ∧ WellKeyedFields fields
  | _ => True

/-- Every item is well keyed. -/
def WellKeyedItems : List Value -> Prop
  | [] => True
  | item :: rest => WellKeyed item ∧ WellKeyedItems rest

/-- Every field's value is well keyed. -/
def WellKeyedFields : List (String × Value) -> Prop
  | [] => True
  | (_, value) :: rest => WellKeyed value ∧ WellKeyedFields rest

end

end Value

end ContentGraph.Json
