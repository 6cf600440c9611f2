import ContentGraph.Filter.Comparator
import ContentGraph.Json.Path

/-!
Contract: filter expressions.

Owns:
- `Entry` and `manifest`: a nested filter object flattened into one entry for each comparator
  leaf, whose last key is the operation and whose other keys are the field's path;
- `Sift`, a compiled manifest, which a node passes when it passes every comparator;
- reading a manifest that is itself given as JSON.
-/

namespace ContentGraph.Filter

open ContentGraph.Json

/-- One comparator leaf of a filter expression. -/
structure Entry where
  path : Value.Path
  operation : String
  value : Value
deriving DecidableEq

/-- A flattened filter expression. -/
abbrev Manifest := List Entry

/-- The entry of a leaf, whose path is not empty. -/
def Entry.ofLeaf? (leaf : Value.Path × Value) : Option Entry :=
  leaf.1.getLast?.map fun operation => ⟨leaf.1.dropLast, operation, leaf.2⟩

/-- The entries of a filter expression, in document order. -/
def manifest (filter : Value) : Manifest :=
  filter.flatten.filterMap Entry.ofLeaf?

/-- A comparator applied to the field at a path. -/
structure Predicate where
  path : Value.Path
  comparator : Comparator
deriving DecidableEq

/-- Tests the field of a node. -/
def Predicate.test (predicate : Predicate) (node : Value) : Except Failure Bool :=
  predicate.comparator.test (node.follow? predicate.path)

/-- A compiled filter: all its predicates have to hold. -/
abbrev Sift := List Predicate

namespace Sift

/-- Compiles the entries in order; the first that fails decides the failure. -/
def ofManifest (entries : Manifest) : Except Failure Sift :=
  entries.mapM fun entry => do
    let comparator ← Comparator.ofOperation entry.operation entry.value
    pure ⟨entry.path, comparator⟩

/-- Compiles a filter expression. -/
def compile (filter : Value) : Except Failure Sift :=
  ofManifest (manifest filter)

/-- Tests the predicates in order up to the first that does not hold. -/
def test : Sift -> Value -> Except Failure Bool
  | [], _ => .ok true
  | predicate :: rest, node =>
      match predicate.test node with
      | .error failure => .error failure
      | .ok false => .ok false
      | .ok true => test rest node

/-- The nodes that pass, in order; the first failing test decides the failure. -/
def keep (sift : Sift) : List Value -> Except Failure (List Value)
  | [] => .ok []
  | node :: rest =>
      match sift.test node with
      | .error failure => .error failure
      | .ok passes =>
          match keep sift rest with
          | .error failure => .error failure
          | .ok kept => .ok (if passes then node :: kept else kept)

end Sift

/-- Reads the parts of a record by name from an object, or by position from an array. -/
def parts? (names : List String) : Value -> Option (List Value)
  | .object fields => names.mapM (Object.find? fields)
  | .array items => if items.length = names.length then some items else none
  | _ => none

/-- An entry given as JSON. -/
def Entry.ofJson? (value : Value) : Option Entry := do
  let [path, comparator] ← parts? ["path", "comparator"] value | none
  let steps ← path.items?
  let steps ← steps.mapM Value.text?
  let [operation, value] ← parts? ["operation", "value"] comparator | none
  let operation ← operation.text?
  some ⟨steps, operation, value⟩

/-- A manifest given as JSON. -/
def manifestOfJson (value : Value) : Except Failure Manifest :=
  match value.items?.bind (·.mapM Entry.ofJson?) with
  | some entries => .ok entries
  | none => .error .json

end ContentGraph.Filter
