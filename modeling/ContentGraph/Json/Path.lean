import ContentGraph.Json.Object
import ContentGraph.Json.Printer
import ContentGraph.Text.Blank

/-!
Contract: paths into JSON values, and merges of objects.

Owns:
- `flatten`, the leaves of an object with their paths, in document order;
- `follow?`, the value at a path, where a numeric step indexes an array;
- `deepMerge` and `fillMissing`, the two ways to lay one object over another;
- `referenceKey?`, the comparable form of a reference value.
-/

namespace ContentGraph.Json.Value

/-- Steps from the outside in. -/
abbrev Path := List String

mutual

/-- The leaves of a value with their paths below it.  Only objects are entered; an object
without fields has no leaf. -/
def leaves : Value -> List (Path × Value)
  | .object fields => leavesOfFields fields
  | leaf => [([], leaf)]

/-- The leaves of the fields of an object. -/
def leavesOfFields : List (String × Value) -> List (Path × Value)
  | [] => []
  | (key, value) :: rest =>
      (leaves value).map (fun (path, leaf) => (key :: path, leaf)) ++ leavesOfFields rest

end

/-- The leaves of an object with their paths; nothing for other values. -/
def flatten : Value -> List (Path × Value)
  | .object fields => leavesOfFields fields
  | _ => []

/-- An array index: digits, which may follow a plus sign. -/
def index? (step : String) : Option Nat :=
  let digits :=
    match step.toList with
    | '+' :: rest => rest
    | rest => rest
  if digits.isEmpty || !digits.all Char.isDigit then none
  else some (digits.foldl (fun total digit => total * 10 + (digit.toNat - 48)) 0)

/-- The value one step below. -/
def step? (value : Value) (step : String) : Option Value :=
  match value with
  | .object fields => Object.find? fields step
  | .array items => (index? step).bind (items[·]?)
  | _ => none

/-- The value at a path; `none` when a step leads nowhere, which differs from null. -/
def follow? (value : Value) : Path -> Option Value
  | [] => some value
  | step :: rest => (value.step? step).bind (·.follow? rest)

mutual

/-- A value laid over another: objects merge key by key, anything else replaces. -/
def deepMerge (base : Value) : Value -> Value
  | .object additions =>
      match base with
      | .object fields => .object (deepMergeFields fields additions)
      | _ => .object additions
  | replacement => replacement

/-- Fields laid over an object one after another. -/
def deepMergeFields (base : Object) : List (String × Value) -> Object
  | [] => base
  | (key, value) :: rest =>
      let merged :=
        match base.find? key with
        | some existing => deepMerge existing value
        | none => value
      deepMergeFields (base.insert key merged) rest

end

mutual

/-- The value of a field of the target, filled in from the default of the same key. -/
def fillIn (target : Value) : Value -> Value
  | .object defaults =>
      match target with
      | .object fields => .object (fillMissing fields defaults)
      | _ => target
  | _ => target

/-- Adds the defaults that the target does not have, inside nested objects too. -/
def fillMissing (target : Object) : List (String × Value) -> Object
  | [] => target
  | (key, value) :: rest =>
      let filled :=
        match target.find? key with
        | some existing => fillIn existing value
        | none => value
      fillMissing (target.insert key filled) rest

end

/-- The comparable form of a reference value: a string itself, a number its text. -/
def referenceKey? : Value -> Option String
  | .string text => some text
  | .number value => some value.text
  | _ => none

end ContentGraph.Json.Value
