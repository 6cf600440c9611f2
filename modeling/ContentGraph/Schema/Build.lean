import ContentGraph.Schema.TypeDraft

/-!
Contract: the schema of a list of collections.

Owns:
- the root fields of a collection: one record by its reference value, the listing, and the
  three mutations;
- `build`, the table of all types, refused when it is not usable.
-/

namespace ContentGraph.Schema

/-- The name of a mutation's argument: the type's name with its first letter lowered. -/
def payloadName (typeName : String) : String :=
  match typeName.toList with
  | [] => ""
  | first :: rest => String.ofList (Text.lowerChars first ++ rest)

/-- The query field that finds a record. -/
def findField (collection : Collection) : FieldDef :=
  let argument := collection.referenceFieldName
  ⟨collection.typeName, [⟨argument, .nonNull (.named "ID"), none⟩],
    .named collection.typeName, .find collection.name argument⟩

/-- The query field that lists a collection. -/
def listingField (collection : Collection) : FieldDef :=
  ⟨"all" ++ collection.plural, listingArguments,
    .nonNull (.list (.nonNull (.named collection.typeName))), .listing collection.name⟩

/-- The mutation field of a kind. -/
def mutationField (collection : Collection) (kind : MutationKind) : FieldDef :=
  let argument := payloadName collection.typeName
  let input := TypeRef.named (inputName collection.typeName)
  let type :=
    match kind with
    | .upsert => input
    | .create | .update => .nonNull input
  ⟨kind.word ++ collection.typeName, [⟨argument, type, none⟩],
    .named collection.typeName, .mutation kind collection.name argument⟩

/-- The root fields of a collection. -/
def queryFields (collection : Collection) : List FieldDef :=
  [findField collection, listingField collection]

/-- The mutation fields of a collection. -/
def mutationFields (collection : Collection) : List FieldDef :=
  [.create, .update, .upsert].map (mutationField collection)

/-- What is built while collections are added. -/
structure Parts where
  draft : TypeDraft
  query : List FieldDef := []
  mutation : List FieldDef := []

/-- Adds a collection: its types first, then its root fields. -/
def Parts.add (parts : Parts) (collection : Collection) : Except BuildProblem Parts := do
  let draft ← parts.draft.addCollection collection
  let query ← (queryFields collection).foldlM (addField queryRoot) parts.query
  let mutation ← (mutationFields collection).foldlM (addField mutationRoot) parts.mutation
  .ok { draft, query, mutation }

/-- The table of the built parts: scalars and roots, then objects, then inputs. -/
def Parts.table (parts : Parts) : TypeTable :=
  let roots : List (String × TypeDef) := [
    (jsonScalar, .scalar),
    (orderEnum, .enumeration ["ASC", "DESC"]),
    (queryRoot, .object parts.query),
    (mutationRoot, .object parts.mutation)]
  let objects := parts.draft.objects.map fun (name, fields) => (name, TypeDef.object fields)
  let inputs := parts.draft.inputs.map fun (name, fields) => (name, TypeDef.input fields)
  (roots ++ objects ++ inputs).foldl
    (fun table (name, definition) => TypeTable.register table name definition) []

/-- Builds the types of collections. -/
def build (collections : List Collection) : Except BuildProblem TypeTable := do
  let parts ← collections.foldlM Parts.add { draft := .start collections }
  let table := parts.table
  if table.isSound then .ok table else .error (.failed (.graph .engine))

end ContentGraph.Schema
