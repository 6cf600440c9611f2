import ContentGraph.Config
import ContentGraph.Filter.Manifest
import ContentGraph.Json.Path
import ContentGraph.Shape.Kind
import ContentGraph.Text.Naming

/-!
Contract: collections with their shapes and relations, and the content that they hold.

Owns:
- `Relation`, a reference field wired to another collection;
- `Collection`: a configured collection with its graph names, its shape and its relations;
- `Store`, the nodes of every collection, and `Graph`, collections with their nodes;
- finding nodes by their reference values.
-/

namespace ContentGraph

open ContentGraph.Json

/-- How many records a reference field refers to. -/
inductive Cardinality where
  | one
  | many
deriving DecidableEq

/-- A reference field wired to another collection. -/
structure Relation where
  /-- The graph name of the field. -/
  field : String
  /-- The name of the collection that is referred to. -/
  target : String
  cardinality : Cardinality
  /-- The content key of the reference value. -/
  sourceKey : String
deriving DecidableEq

/-- The comparable reference values in a reference field: of the items of an array, or of the
single value. -/
def referenceKeys (value : Value) : List String :=
  match value with
  | .array items => items.filterMap Value.referenceKey?
  | single => single.referenceKey?.toList

/-- A collection with what was inferred from its content. -/
structure Collection where
  entry : CollectionEntry
  shape : Shape
  relations : List Relation := []

namespace Collection

/-- The configured name. -/
def name (collection : Collection) : String :=
  collection.entry.name

/-- The name of the graph type. -/
def typeName (collection : Collection) : String :=
  Text.legalize collection.entry.name

/-- The plural as a graph name. -/
def plural (collection : Collection) : String :=
  Text.legalize collection.entry.pluralName

/-- The content key that identifies a record. -/
def referenceField (collection : Collection) : String :=
  collection.entry.referenceField

/-- The graph name of the reference field. -/
def referenceFieldName (collection : Collection) : String :=
  match collection.shape.fieldBySource? collection.referenceField with
  | some field => field.name
  | none => collection.referenceField

/-- The comparable reference value of a node. -/
def keyOf? (collection : Collection) (node : Value) : Option String :=
  (node.field? collection.referenceField).bind Value.referenceKey?

/-- Whether a node has a reference value. -/
def hasKey (collection : Collection) (key : String) (node : Value) : Bool :=
  collection.keyOf? node = some key

/-- The relation of a field. -/
def relation? (relations : List Relation) (field : String) : Option Relation :=
  relations.find? fun relation => relation.field = field

/-- The relation of a configured reference, if its field is in the shape and its target is a
collection. -/
def relationOfRef? (names : List String) (shape : Shape) (ref : String × String) :
    Option Relation :=
  match shape.fieldBySource? ref.1 with
  | none => none
  | some field =>
      if names.contains ref.2 then
        some {
          field := field.name
          target := ref.2
          cardinality := if field.kind.isList then .many else .one
          sourceKey := ref.1 }
      else none

/-- The collection with its configured references wired to the collections of the given
names. -/
def wire (names : List String) (collection : Collection) : Collection :=
  { collection with
    relations := collection.entry.refs.filterMap (relationOfRef? names collection.shape) }

end Collection

/-- The nodes of every collection, by collection name. -/
abbrev Store := List (String × List Value)

namespace Store

/-- The nodes of a collection. -/
def nodes (store : Store) (name : String) : List Value :=
  match store with
  | [] => []
  | (other, group) :: rest => if other = name then group else nodes rest name

/-- Replaces the nodes of a collection. -/
def setNodes (store : Store) (name : String) (nodes : List Value) : Store :=
  match store with
  | [] => [(name, nodes)]
  | (other, old) :: rest =>
      if other = name then (other, nodes) :: rest else (other, old) :: setNodes rest name nodes

end Store

/-- Collections with their nodes. -/
structure Graph where
  collections : List Collection
  store : Store

namespace Graph

/-- The collection with a name. -/
def collection? (graph : Graph) (name : String) : Option Collection :=
  graph.collections.find? fun collection => collection.name = name

/-- The collection with a name, which has to exist. -/
def collection (graph : Graph) (name : String) : Except Failure Collection :=
  match graph.collection? name with
  | some collection => .ok collection
  | none => .error (.unknownCollection name)

/-- The nodes of a collection. -/
def nodes (graph : Graph) (name : String) : List Value :=
  graph.store.nodes name

/-- The first node of a collection with a reference value. -/
def findByReference (graph : Graph) (name key : String) : Except Failure (Option Value) :=
  match graph.collection name with
  | .ok collection => .ok ((graph.nodes name).find? (collection.hasKey key))
  | .error failure => .error failure

/-- The nodes of a collection whose reference value is among the keys, in the collection's
order. -/
def findMany (graph : Graph) (name : String) (keys : List String) : Except Failure (List Value) :=
  match graph.collection name with
  | .ok collection =>
      .ok ((graph.nodes name).filter fun node => (collection.keyOf? node).any keys.contains)
  | .error failure => .error failure

end Graph

end ContentGraph
