import ContentGraph.Schema.TypeTable
import ContentGraph.Shape.Reduce

/-!
Contract: object and input types derived from the shapes of collections.

Owns:
- `TypeDraft`: the types derived so far and the names that are taken;
- unique names of nested types: a taken name gets the first free number from 2 on;
- the output and input types of kinds; computed fields have no input, and neither have the
  metadata fields of a collection.
-/

namespace ContentGraph.Schema

open ContentGraph.Json

/-- Why no schema is built. -/
inductive BuildProblem where
  | failed (failure : Failure)
  /-- One type would get two fields of one name. -/
  | fieldClash (typeName field : String)

/-- Types derived so far. -/
structure TypeDraft where
  objects : List (String × List FieldDef) := []
  inputs : List (String × List (String × TypeRef)) := []
  /-- The names that are taken. -/
  names : List String := []

/-- The scalars that a declared type may name without being an object. -/
def scalarNames : List String := ["String", "Int", "Float", "Boolean", "ID", jsonScalar]

/-- The name of the input type of a type. -/
def inputName (typeName : String) : String :=
  typeName ++ "Input"

/-- The draft before the first collection: the scalars, the roots and the types of all
collections are taken. -/
def TypeDraft.start (collections : List Collection) : TypeDraft where
  names := scalarNames ++ [queryRoot, mutationRoot, orderEnum]
    ++ collections.flatMap fun collection =>
      [collection.typeName, inputName collection.typeName]

/-- The name with the first free number. -/
def freeName (names : List String) (base : String) : String :=
  if names.contains base then
    let candidates := (List.range (names.length + 1)).map fun number =>
      base ++ toString (number + 2)
    (candidates.find? fun candidate => !names.contains candidate).getD base
  else base

namespace TypeDraft

/-- Takes a free name for a type. -/
def claim (draft : TypeDraft) (base : String) : String × TypeDraft :=
  let name := freeName draft.names base
  (name, { draft with names := name :: draft.names })

end TypeDraft

/-- The arguments of a computed field. -/
def resolverArguments (specs : List ArgumentSpec) : Except Failure (List Argument) :=
  specs.foldlM
    (fun arguments spec => do
      let type ← TypeRef.parse spec.typeRef
      .ok (setArgument arguments ⟨spec.name, type, spec.default.map Query.Literal.ofJson⟩))
    []

/-- The arguments of a field of a kind. -/
def kindArguments : Kind -> Except Failure (List Argument)
  | .resolved resolver => resolverArguments resolver.arguments
  | _ => .ok []

/-- The name of a nested type before it is made unique. -/
def nestedName (parent field : String) : String :=
  parent ++ Text.pascalCase field

/-- The kind that a field is resolved by: an object without fields is a free-form value. -/
def fieldKind : Kind -> Kind
  | .object [] => .scalar .json
  | kind => kind

mutual

/-- The output type of a kind, and the draft with its nested types.  `base` names the nested
object. -/
def outputType (base : String) (draft : TypeDraft) : Kind -> Except Failure (TypeRef × TypeDraft)
  | .unknown => .ok (.named "String", draft)
  | .scalar scalar => .ok (.named scalar.typeName, draft)
  | .list element => do
      let (type, draft) ← outputType base draft element
      .ok (.list type, draft)
  | .object [] => .ok (.named jsonScalar, draft)
  | .object (first :: rest) => do
      let (name, draft) := draft.claim base
      let (fields, draft) ← outputFields name draft (first :: rest)
      .ok (.named name, { draft with objects := draft.objects ++ [(name, fields)] })
  | .resolved resolver => do
      let type ← TypeRef.parse resolver.typeRef
      .ok (type, draft)

/-- The fields of an object type, and the draft with their nested types. -/
def outputFields (parent : String) (draft : TypeDraft) :
    List Field -> Except Failure (List FieldDef × TypeDraft)
  | [] => .ok ([], draft)
  | .mk name sourceKey kind :: rest => do
      let (type, draft) ← outputType (nestedName parent name) draft kind
      let arguments ← kindArguments kind
      let (others, draft) ← outputFields parent draft rest
      .ok (⟨name, arguments, type, .data sourceKey (fieldKind kind)⟩ :: others, draft)

end

mutual

/-- The input type of a kind, if it has one, and the draft with its nested types. -/
def inputType (base : String) (draft : TypeDraft) : Kind -> Option TypeRef × TypeDraft
  | .unknown => (some (.named "String"), draft)
  | .scalar scalar => (some (.named scalar.typeName), draft)
  | .list element =>
      let (type, draft) := inputType base draft element
      (type.map .list, draft)
  | .object fields =>
      let (name, draft) := draft.claim (inputName base)
      match inputFields base draft fields with
      | ([], draft) => (some (.named jsonScalar), draft)
      | (inputs, draft) =>
          (some (.named name), { draft with inputs := draft.inputs ++ [(name, inputs)] })
  | .resolved _ => (none, draft)

/-- The fields of an input type, and the draft with their nested types. -/
def inputFields (parent : String) (draft : TypeDraft) :
    List Field -> List (String × TypeRef) × TypeDraft
  | [] => ([], draft)
  | .mk name _ kind :: rest =>
      let (type, draft) := inputType (nestedName parent name) draft kind
      let (others, draft) := inputFields parent draft rest
      match type with
      | some type => ((name, type) :: others, draft)
      | none => (others, draft)

end

/-- The arguments of every listing. -/
def listingArguments : List Argument := [
  ⟨"skip", .named "Int", none⟩,
  ⟨"limit", .named "Int", none⟩,
  ⟨"order", .named orderEnum, some (.enum "ASC")⟩,
  ⟨"sortBy", .named "String", none⟩,
  ⟨"filter", .named jsonScalar, none⟩]

/-- The field of a relation. -/
def relationField (relation : Relation) : FieldDef :=
  let target := TypeRef.named (Text.legalize relation.target)
  match relation.cardinality with
  | .one => ⟨relation.field, [], target, .relation relation⟩
  | .many =>
      ⟨relation.field,
        listingArguments ++ [⟨"references", .list (.named "String"), none⟩],
        .list (.nonNull target), .relation relation⟩

/-- The field of every collection type that tells the collection's name. -/
def collectionNameField (collection : Collection) : FieldDef :=
  ⟨"_collection", [], .nonNull (.named "String"), .collectionName collection.name⟩

/-- Adds a field to those of a type; no name may come twice. -/
def addField (typeName : String) (fields : List FieldDef) (field : FieldDef) :
    Except BuildProblem (List FieldDef) :=
  if fields.any fun other => other.name = field.name then .error (.fieldClash typeName field.name)
  else .ok (fields ++ [field])

/-- The field of a collection's type: its relation, or its kind's field. -/
def collectionField (collection : Collection) (draft : TypeDraft) (field : Field) :
    Except Failure (List FieldDef × TypeDraft) :=
  match Collection.relation? collection.relations field.name with
  | some relation => .ok ([relationField relation], draft)
  | none => outputFields collection.typeName draft [field]

/-- Adds the fields of a collection's type, and their nested types to the draft. -/
def collectionFields (collection : Collection) (fields : List FieldDef) (draft : TypeDraft) :
    List Field -> Except BuildProblem (List FieldDef × TypeDraft)
  | [] => .ok (fields, draft)
  | field :: rest =>
      match collectionField collection draft field with
      | .error failure => .error (.failed failure)
      | .ok (own, draft) => do
          let fields ← own.foldlM (addField collection.typeName) fields
          collectionFields collection fields draft rest

/-- Derives the types of a collection: its object type, their nested types and its input
type, which is left out when it would have no field. -/
def TypeDraft.addCollection (draft : TypeDraft) (collection : Collection) :
    Except BuildProblem TypeDraft := do
  let (fields, draft) ←
    collectionFields collection [collectionNameField collection] draft collection.shape
  let draft := { draft with objects := draft.objects ++ [(collection.typeName, fields)] }
  let own := collection.shape.filter fun field => !metadataFields.contains field.sourceKey
  match inputFields collection.typeName draft own with
  | ([], draft) => .ok draft
  | (inputs, draft) =>
      .ok { draft with
        inputs := draft.inputs ++ [(inputName collection.typeName, inputs)] }

end ContentGraph.Schema
