import ContentGraph.Graph.Listing
import ContentGraph.Schema.TypeTable

/-!
Contract: what the fields of a graph give, before anything is selected below them.

Owns:
- `Output`: a plain value, a node to select from, or a list of outputs;
- the output of a value by the kind of its field, and by the declared type of a computed field;
- the outputs of data fields, relations, single records and listings.

Does not own: mutations (`Graph.Mutation`), and the selection below a field
(`Query.Execution`).
-/

namespace ContentGraph

open ContentGraph.Json

/-- What a field gives; no output stands for null. -/
inductive Output where
  | leaf (value : Value)
  | node (value : Value)
  | list (items : List Output)

namespace Output

/-- The output that stands for null inside of a list. -/
def nothing : Output := .leaf .null

/-- The value of a text field: anything but a text and null is shown as compact JSON. -/
def textOf : Value -> Value
  | .string text => .string text
  | .null => .null
  | other => .string other.compact

/-- The value of a scalar field. -/
def scalarOf (scalar : Scalar) (value : Value) : Value :=
  match scalar with
  | .string => textOf value
  | _ => value

/-- The items of an array, or a single value as the only item. -/
def itemsOf : Value -> List Value
  | .array items => items
  | single => [single]

/-- The marks of a declared type that admits no null are passed over. -/
def declaredCore (typeRef : List Char) : List Char :=
  Text.dropEndWhile (· = '!') (Text.trimChars typeRef)

/-- The output of a computed value by its declared type: lists where the type has brackets,
nodes where it names no scalar and the value is an object. -/
def ofDeclared (typeRef : List Char) (value : Value) : Option Output :=
  if value.isNull then none
  else
    match _bracket : TypeRef.bracketed? (declaredCore typeRef) with
    | some inner =>
        some (.list ((itemsOf value).map fun item => (ofDeclared inner item).getD nothing))
    | none =>
        if value.isObject
            && ! ["String", "Int", "Float", "Boolean", "ID", "JSON"].contains
              (String.ofList (declaredCore typeRef)) then some (.node value)
        else some (.leaf value)
termination_by typeRef.length
decreasing_by
  have shorter := TypeRef.length_bracketed _bracket
  have := TypeRef.length_dropEndWhile (· = '!') (Text.trimChars typeRef)
  have := TypeRef.length_trimChars typeRef
  unfold declaredCore at shorter
  omega

/-- The output of a value by the kind of its field. -/
def ofKind : Kind -> Value -> Option Output
  | .list element, value =>
      if value.isNull then none
      else some (.list ((itemsOf value).map fun item => (ofKind element item).getD nothing))
  | .unknown, value => if value.isNull then none else some (.leaf (textOf value))
  | .scalar scalar, value => if value.isNull then none else some (.leaf (scalarOf scalar value))
  | .object [], value => if value.isNull then none else some (.leaf value)
  | .object (_ :: _), value => if value.isObject then some (.node value) else none
  | .resolved resolver, value => ofDeclared resolver.typeRef.toList value

/-- The output of a data field of a parent. -/
def ofData (sourceKey : String) (kind : Kind) (parent : Value) (args : Object) :
    Except Failure (Option Output) :=
  let value := (parent.field? sourceKey).getD .null
  match kind with
  | .resolved resolver =>
      (resolver.resolve value parent (resolver.withDefaults args)).map
        (ofDeclared resolver.typeRef.toList)
  | other => .ok (ofKind other value)

/-- The output of a list of nodes. -/
def ofNodes (nodes : List Value) : Option Output :=
  some (.list (nodes.map .node))

/-- The reference values of a relation to many: those given as an argument, else those that
the parent holds. -/
def relationKeys (relation : Relation) (parent : Value) (args : Object) : List String :=
  match args.find? "references" with
  | none | some .null => referenceKeys ((parent.field? relation.sourceKey).getD .null)
  | some given => referenceKeys given

/-- The output of a relation of a parent. -/
def ofRelation (graph : Graph) (relation : Relation) (parent : Value) (args : Object) :
    Except Failure (Option Output) :=
  match relation.cardinality with
  | .one =>
      match (parent.field? relation.sourceKey).bind Value.referenceKey? with
      | none => .ok none
      | some key => (graph.findByReference relation.target key).map (·.map .node)
  | .many => do
      let listing ← Listing.ofArguments args
      let related ← graph.findMany relation.target (relationKeys relation parent args)
      let found ← graph.list relation.target listing related
      .ok (ofNodes found)

/-- The output of the record whose reference value is given by an argument. -/
def ofFind (graph : Graph) (collection argument : String) (args : Object) :
    Except Failure (Option Output) :=
  match (args.find? argument).bind Value.referenceKey? with
  | none => .ok none
  | some key => (graph.findByReference collection key).map (·.map .node)

/-- The output of a listing. -/
def ofListing (graph : Graph) (collection : String) (args : Object) :
    Except Failure (Option Output) := do
  let listing ← Listing.ofArguments args
  let found ← graph.list collection listing (graph.nodes collection)
  .ok (ofNodes found)

end Output

end ContentGraph
