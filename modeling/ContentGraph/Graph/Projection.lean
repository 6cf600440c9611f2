import ContentGraph.Filter.Selection
import ContentGraph.Graph.Collection

/-!
Contract: filters over the content graph.

Owns:
- the projection of a node onto a selection, which follows relations and runs computed fields
  with their default arguments;
- `Graph.passing`, the reference values of the nodes whose projection passes a filter;
- the text of the listing that a filter stands for.
-/

namespace ContentGraph

open ContentGraph.Json ContentGraph.Filter

namespace Projection

/-- The name under which a nested field's fields are reported. -/
def nestedTypeName (typeName field : String) : String :=
  typeName ++ Text.pascalCase field

/-- The projection of a field's value by its kind.  `enter` projects an object onto the
selection below, and `firstBelow` is the first name selected there. -/
def ofKind (enter : Shape -> Value -> Except Failure Value) (typeName : String)
    (firstBelow : Option String) : Kind -> Value -> Value -> Except Failure Value
  | .resolved resolver, value, parent =>
      resolver.resolve value parent (resolver.withDefaults [])
  | .object shape, value, _ =>
      match value with
      | .object fields =>
          if firstBelow.isSome then enter shape (.object fields) else .ok (.object fields)
      | _ => .ok .null
  | .list element, value, _ =>
      match value with
      | .array items =>
          (items.mapM fun item => ofKind enter typeName firstBelow element item item).map .array
      | .null => .ok .null
      | single => (ofKind enter typeName firstBelow element single single).map fun projected =>
          .array [projected]
  | .scalar .json, value, _ => .ok value
  | .scalar _, value, _ | .unknown, value, _ =>
      match firstBelow with
      | some field => .error (.unknownField typeName field)
      | none => .ok value

/-- The nodes that a relation's value refers to. -/
inductive Referred where
  | one (node : Option Value)
  | many (nodes : List Value)

/-- The nodes that a relation's value refers to, found by their reference values. -/
def referred (graph : Graph) (relation : Relation) (value : Value) : Except Failure Referred :=
  match relation.cardinality with
  | .one =>
      match value.referenceKey? with
      | some key => (graph.findByReference relation.target key).map .one
      | none => .ok (.one none)
  | .many => (graph.findMany relation.target (referenceKeys value)).map .many

/-- Projects an object onto selected fields.  Relations are looked at first, then the name of
the collection, then the fields of the shape. -/
def fields (graph : Graph) (typeName : String) (shape : Shape) (relations : List Relation)
    (raw : Value) : List (String × Selection) -> Except Failure Object
  | [] => .ok []
  | (name, .mk below) :: rest => do
      let projected ←
        match Collection.relation? relations name with
        | some relation =>
            let value := (raw.field? relation.sourceKey).getD .null
            if below.isEmpty then .ok value
            else do
              let target ← graph.collection relation.target
              let project (node : Value) : Except Failure Value :=
                (fields graph target.typeName target.shape target.relations node below).map .object
              match ← referred graph relation value with
              | .one none => .ok .null
              | .one (some node) => project node
              | .many nodes => (nodes.mapM project).map .array
        | none =>
            if name = "_collection" then .ok (.string typeName)
            else
              match shape.field? name with
              | none => .error (.unknownField typeName name)
              | some field =>
                  let nested := nestedTypeName typeName name
                  ofKind
                    (fun shape value => (fields graph nested shape [] value below).map .object)
                    nested (below.head?.map Prod.fst) field.kind
                    ((raw.field? field.sourceKey).getD .null) raw
      let others ← fields graph typeName shape relations raw rest
      .ok ((name, projected) :: others)

/-- Projects a node of a collection onto a selection. -/
def node (graph : Graph) (collection : Collection) (raw : Value) (selection : Selection) :
    Except Failure Value :=
  (fields graph collection.typeName collection.shape collection.relations raw
    selection.fields).map .object

end Projection

/-- The selection of a filter's manifest over a collection. -/
def Collection.selection (collection : Collection) (manifest : Manifest) : Selection :=
  .ofManifest manifest collection.referenceFieldName

/-- The text of the listing that selects what a filter looks at. -/
def Collection.selectionText (collection : Collection) (filter : Value) : String :=
  "\x7b all" ++ collection.plural ++ " \x7b "
    ++ (collection.selection (manifest filter)).render ++ " \x7d \x7d"

namespace Graph

/-- The reference values of the nodes that pass, in order; nodes without one are left out. -/
def passingKeys (graph : Graph) (collection : Collection) (sift : Sift)
    (selection : Selection) : List Value -> Except Failure (List String)
  | [] => .ok []
  | node :: rest => do
      let projected ← Projection.node graph collection node selection
      let passes ← sift.test projected
      let others ← passingKeys graph collection sift selection rest
      .ok (if passes then (collection.keyOf? node).toList ++ others else others)

/-- The reference values of the nodes of a collection that pass a filter. -/
def passing (graph : Graph) (filter : Value) (name : String) : Except Failure (List String) := do
  let collection ← graph.collection name
  let entries := manifest filter
  let sift ← Sift.ofManifest entries
  passingKeys graph collection sift (collection.selection entries) (graph.nodes name)

end Graph

end ContentGraph
