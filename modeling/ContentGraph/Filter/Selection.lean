import ContentGraph.Filter.Manifest

/-!
Contract: which fields a filter looks at.

Owns:
- `Selection`, a tree of field names, where a field without fields below it is a leaf;
- the selection that covers the paths of a manifest and the reference field;
- its text.
-/

namespace ContentGraph.Filter

/-- A tree of selected fields, in order. -/
inductive Selection where
  | mk (fields : List (String × Selection))

namespace Selection

/-- The selected fields. -/
def fields : Selection -> List (String × Selection)
  | .mk fields => fields

/-- The selection of no field. -/
def empty : Selection := .mk []

/-- Whether nothing is selected below. -/
def isLeaf (selection : Selection) : Bool :=
  selection.fields.isEmpty

/-- The selection below a field. -/
def child (selection : Selection) (name : String) : Selection :=
  ((selection.fields.lookup name)).getD empty

/-- Sets the selection below a field, which keeps its place if it is there. -/
def set (name : String) (below : Selection) : List (String × Selection) -> List (String × Selection)
  | [] => [(name, below)]
  | (field, old) :: rest =>
      if field = name then (field, below) :: rest else (field, old) :: set name below rest

/-- Adds the fields along a path. -/
def insert (selection : Selection) : List String -> Selection
  | [] => selection
  | name :: rest => .mk (set name ((selection.child name).insert rest) selection.fields)

/-- The reference field, and the fields along every path of a manifest. -/
def ofManifest (manifest : Manifest) (referenceField : String) : Selection :=
  manifest.foldl (fun selection entry => selection.insert entry.path)
    (empty.insert [referenceField])

mutual

/-- The text of a selection: names with spaces between, fields below in braces. -/
def render : Selection -> String
  | .mk fields => " ".intercalate (renderFields fields)

/-- The texts of selected fields. -/
def renderFields : List (String × Selection) -> List String
  | [] => []
  | (name, below) :: rest =>
      (if below.isLeaf then name else name ++ " \x7b " ++ render below ++ " \x7d")
        :: renderFields rest

end

end Selection

end ContentGraph.Filter
