import ContentGraph.Shape.Kind
import ContentGraph.Shape.Transform

/-!
Contract: the representative shape of a collection.

Owns:
- `rename`, which names the fields of a shape at every level and merges content keys that get
  one name;
- `reduce`, the union of all observed fields, with overrides first, every node laid over the
  declared fragments, and the reference and metadata fields always present.
-/

namespace ContentGraph

open ContentGraph.Json

/-- The metadata fields that every collection type has. -/
def metadataFields : List String := ["_filename", "_path", "_slug"]

namespace Shape

/-- Adds a named field; a field of that name already there takes its kind in. -/
def addNamed (shape : Shape) (field : Field) : Shape :=
  match shape.field? field.name with
  | some existing => shape.setField (.mk existing.name existing.sourceKey (existing.kind.merge field.kind))
  | none => shape ++ [field]

end Shape

namespace Kind

mutual

/-- Names the fields inside a kind. -/
def rename (transform : FieldTransform) : Kind -> Except Failure Kind
  | .object fields => do
      let named ← renameFields transform [] fields
      pure (.object named)
  | .list element => do
      let named ← rename transform element
      pure (.list named)
  | other => pure other

/-- Names fields one after another and adds them to those already named. -/
def renameFields (transform : FieldTransform) (named : Shape) :
    List Field -> Except Failure Shape
  | [] => pure named
  | .mk key sourceKey kind :: rest => do
      let name ← transform.fieldName key
      let kind ← rename transform kind
      renameFields transform (named.addNamed (.mk name sourceKey kind)) rest

end

end Kind

namespace Shape

/-- Names the fields of a shape at every level. -/
def rename (transform : FieldTransform) (shape : Shape) : Except Failure Shape :=
  Kind.renameFields transform [] shape

/-- The shape with the fields of one more node, laid over the declared fragments.  Nodes that
are no objects are passed over. -/
def observe (fragments : Shape) (shape : Shape) (node : Value) : Shape :=
  match Kind.infer node with
  | .object fields => shape.merge (Kind.overlayFields fragments fields)
  | _ => shape

/-- Adds a text field when no field has its name. -/
def addMissing (shape : Shape) (key : String) : Shape :=
  match shape.field? key with
  | some _ => shape
  | none => shape ++ [.unnamed key (.scalar .string)]

/-- The fields observed in a collection, under their content keys. -/
def observed (overrides fragments : ResolverTree) (referenceField : String)
    (nodes : List Value) : Shape :=
  let seen := nodes.foldl (observe (Kind.ofTree fragments)) (Kind.ofTree overrides)
  let complete := (referenceField :: metadataFields).foldl addMissing seen
  complete.filter fun field => field.name ≠ "_collection"

/-- The representative shape of a collection. -/
def reduce (overrides fragments : ResolverTree) (referenceField : String)
    (transform : FieldTransform) (nodes : List Value) : Except Failure Shape :=
  rename transform (observed overrides fragments referenceField nodes)

end Shape

end ContentGraph
