import ContentGraph.Graph.Collection
import ContentGraph.Query.Literal
import ContentGraph.Schema.TypeRef

/-!
Contract: the types of a graph schema.

Owns:
- the definitions of types, and for every field of an object where its value comes from;
- `TypeTable`, definitions by name, in which a later one takes the place of an earlier;
- what makes a table usable: every named type exists and fits its place, every object has a
  field, and no name is reserved.
-/

namespace ContentGraph

open ContentGraph.Json

/-- The mutations of a collection. -/
inductive MutationKind where
  | create
  | update
  | upsert
deriving DecidableEq

/-- The word for a mutation at the start of its field's name. -/
def MutationKind.word : MutationKind -> String
  | .create => "create"
  | .update => "update"
  | .upsert => "upsert"

/-- Where the value of a field comes from. -/
inductive FieldOrigin where
  /-- The name of the collection. -/
  | collectionName (name : String)
  /-- The content key of the parent node, by the kind of the field. -/
  | data (sourceKey : String) (kind : Kind)
  | relation (relation : Relation)
  /-- The record of a collection whose reference value is given by an argument. -/
  | find (collection argument : String)
  /-- A listing of a collection. -/
  | listing (collection : String)
  /-- A mutation of a collection by the payload given by an argument. -/
  | mutation (kind : MutationKind) (collection argument : String)

namespace Schema

/-- An argument of a field. -/
structure Argument where
  name : String
  type : TypeRef
  default : Option Query.Literal := none

/-- Sets an argument under its name, which keeps its place if it is there. -/
def setArgument (arguments : List Argument) (argument : Argument) : List Argument :=
  match arguments with
  | [] => [argument]
  | old :: rest =>
      if old.name = argument.name then argument :: rest else old :: setArgument rest argument

/-- A field of an object type. -/
structure FieldDef where
  name : String
  arguments : List Argument := []
  type : TypeRef
  origin : FieldOrigin

/-- The definition of a type. -/
inductive TypeDef where
  | object (fields : List FieldDef)
  | input (fields : List (String × TypeRef))
  | enumeration (names : List String)
  | scalar

/-- Definitions of types by name. -/
abbrev TypeTable := List (String × TypeDef)

/-- The scalars that every schema has. -/
def systemScalars : List String := ["Int", "Float", "String", "Boolean", "ID"]

/-- The scalar of free-form values. -/
def jsonScalar : String := "JSON"

/-- The enumeration of directions. -/
def orderEnum : String := "Order"

/-- The type of queries. -/
def queryRoot : String := "Query"

/-- The type of mutations. -/
def mutationRoot : String := "Mutation"

namespace TypeTable

/-- Registers a definition; one of that name already there is replaced. -/
def register (table : TypeTable) (name : String) (definition : TypeDef) : TypeTable :=
  match table with
  | [] => [(name, definition)]
  | (other, old) :: rest =>
      if other = name then (name, definition) :: rest
      else (other, old) :: register rest name definition

/-- The definition of a name. -/
def find? (table : TypeTable) (name : String) : Option TypeDef :=
  if systemScalars.contains name then some .scalar else table.lookup name

/-- The fields of an object type. -/
def objectFields? (table : TypeTable) (name : String) : Option (List FieldDef) :=
  match table.find? name with
  | some (.object fields) => some fields
  | _ => none

/-- Whether a type can be that of a field. -/
def isOutput (table : TypeTable) (type : TypeRef) : Bool :=
  match table.find? type.core with
  | some (.input _) | none => false
  | some _ => true

/-- Whether a type can be that of an argument. -/
def isInput (table : TypeTable) (type : TypeRef) : Bool :=
  match table.find? type.core with
  | some (.object _) | none => false
  | some _ => true

/-- Whether a name is reserved for the engine. -/
def isReservedName (name : String) : Bool :=
  ['_', '_'].isPrefixOf name.toList

/-- Whether a definition fits the table. -/
def isSoundDef (table : TypeTable) : TypeDef -> Bool
  | .object fields =>
      !fields.isEmpty && fields.all fun field =>
        !isReservedName field.name && table.isOutput field.type
          && field.arguments.all fun argument =>
            !isReservedName argument.name && table.isInput argument.type
  | .input fields =>
      fields.all fun (name, type) => !isReservedName name && table.isInput type
  | .enumeration _ | .scalar => true

/-- Whether a table is usable. -/
def isSound (table : TypeTable) : Bool :=
  (table.objectFields? queryRoot).isSome && (table.objectFields? mutationRoot).isSome
    && table.all fun (name, definition) =>
      !systemScalars.contains name && table.isSoundDef definition

end TypeTable

end Schema

end ContentGraph
