import ContentGraph.Proofs.Graph.ReferenceName
import ContentGraph.Proofs.Mutation.Turn
import ContentGraph.Proofs.Schema.InputTypes
import ContentGraph.Proofs.Schema.ReadableTypes
import ContentGraph.Proofs.Shape.SettableFields
import ContentGraph.Proofs.Site.Identity
import ContentGraph.Proofs.Site.SchemaNames

/-!
Contract: which records of a site can be mutated through its schema.

Owns:
- `Schema.Addresses`, that the input type of a collection takes the reference field, and that an
  update, with which an upsert begins too, reaches every record by a payload that this type admits;
- `mutable_through_inputs`: the collections of a site have their input types, and those whose
  reference field is one that payloads set are addressed by it;
- `mutable_through_inputs_fails_slugs`: a valid configuration need not have such a reference field.

Does not own: what comes of the record that an update hands over (`Proofs.Mutation.Turn`).
-/

namespace ContentGraph

open ContentGraph.Json ContentGraph.Query

/-! ### Addressed records -/

/-- A payload with nothing but a reference value. -/
def Collection.address (collection : Collection) (value : Value) : Value :=
  .object [(collection.referenceFieldName, value)]

/-- Mutations address the records of a collection.  Its input type has a field for the reference
field, and for every record with a reference value there is a payload that all mutations of the
collection admit and that makes an update reach a record with this value. -/
structure Schema.Addresses (table : Schema.TypeTable) (graph : Graph) (collection : Collection) :
    Prop where
  input : ∃ inputs type, Schema.TakesInput table collection inputs ∧
    inputs.lookup collection.referenceFieldName = some type
  records : ∀ node ∈ graph.nodes collection.name, ∀ key, collection.keyOf? node = some key ->
    ∃ payload,
      (∀ kind, ∀ argument ∈ (Schema.mutationField collection kind).arguments,
        Literal.fits table argument.type (.ofJson payload) = true) ∧
      ∀ {State : Type} (runtime : Runtime State), runtime.graph = graph ->
        ∃ record, Turn.Hands runtime collection.name payload .update collection key record

namespace Collection

variable {collection : Collection} {overrides fragments : ResolverTree}
  {transform : FieldTransform} {nodes : List Value}

/-- The address of a reference value makes an update find a record that has it. -/
theorem exists_updatedRecord_address (wellKeyed : ∀ node ∈ nodes, node.WellKeyed)
    (reduced : Shape.reduce overrides fragments collection.referenceField transform nodes =
      .ok collection.shape)
    (keeps : collection.KeepsReference) {node value : Value} {key : String} (member : node ∈ nodes)
    (isHeld : node.field? collection.referenceField = some value)
    (isKey : value.referenceKey? = some key) :
    ∃ record, collection.updatedRecord nodes (collection.address value) = .ok (key, record) := by
  have isReference : value.referenceKey?.isSome = true := by rw [isKey]; rfl
  have noRawKey : Object.find? [(collection.referenceFieldName, value)] collection.referenceField =
      none ∨ (collection.shape.field? collection.referenceField).isSome = true := by
    by_cases same : collection.referenceFieldName = collection.referenceField
    · obtain ⟨field, found, _⟩ := keeps
      rw [same] at found
      exact .inr (Option.isSome_iff_exists.mpr ⟨field, found⟩)
    · exact .inl (by simp [Object.find?, same])
  have distinct : (Object.keys [(collection.referenceFieldName, value)]).Nodup :=
    List.nodup_singleton _
  obtain ⟨record, described, held⟩ := find?_payloadRecord_of_keepsReference wellKeyed reduced keeps
    distinct (by simp [Object.find?]) isReference noRawKey
  have named : collection.recordKey? record = some key := by
    rw [recordKey?, held, Option.bind_some, isKey]
  have hasKey : collection.hasKey key node = true := by
    simp [Collection.hasKey, keyOf?, isHeld, isKey]
  obtain ⟨found, isFirst⟩ := Option.isSome_iff_exists.mp
    (List.find?_isSome.mpr ⟨node, member, hasKey⟩)
  refine ⟨found.deepMerge (.object (collection.changes record)), ?_⟩
  simp [updatedRecord, address, described, named, isFirst, bind, Except.bind]

end Collection

namespace Site

variable {State : Type} {config : Config} {source : Content.Source State} {state : State}
  {registry : Content.Registry} {graph : Graph} {collection : Collection}

/-! ### Mutations through input types -/

/-- A collection whose reference field is one that payloads set is addressed by it. -/
private theorem addresses_of_settable (built : graphOf config source state registry = .ok graph)
    (wellKeyed : ∀ node ∈ graph.nodes collection.name, node.WellKeyed)
    (member : collection ∈ graph.collections) {overrides : ResolverTree}
    (reduced : Shape.reduce overrides registry.fragments collection.referenceField config.transform
      (graph.nodes collection.name) = .ok collection.shape)
    (settable : collection.SettableReference overrides registry.fragments config.transform
      (graph.nodes collection.name)) {parts : Schema.Parts}
    (isParts : Schema.assemble graph.collections = .ok parts) (distinct : parts.Distinct) :
    Schema.Addresses parts.table graph collection := by
  obtain ⟨field, found, isSource, given⟩ := settable.exists_field wellKeyed reduced
  obtain ⟨inShape, isName⟩ := Shape.mem_of_field? found
  have isContent : field ∈ Schema.contentFields collection := by
    refine List.mem_filter.mpr ⟨inShape, ?_⟩
    simpa [isSource] using settable.noMetadata
  obtain ⟨inputs, own, takes, derives⟩ := Schema.takesInput_of_assemble isParts distinct member
    (List.any_eq_true.mpr ⟨field, isContent, given⟩)
  obtain ⟨type, types, isInput, derivesKind⟩ := derives.exists_input isContent given
  rw [isName] at isInput
  have distinctInputs : (inputs.map Prod.fst).Nodup := by
    rw [derives.names]
    exact (distinctNames_of_graphOf built member).1.sublist
      ((List.filter_sublist.trans List.filter_sublist).map Field.name)
  constructor
  case input => exact ⟨inputs, type, takes, Schema.lookup_of_mem distinctInputs isInput⟩
  case records =>
    intro node isNode key hasKey
    obtain ⟨value, isHeld, isKey⟩ := Option.bind_eq_some_iff.mp hasKey
    refine ⟨collection.address value, ?_, ?_⟩
    · have json : parts.table.find? Schema.jsonScalar = some .scalar :=
        Schema.find?_of_registration distinct (by simp [Schema.Parts.registrations])
      have covers := Shape.covers_field_of_reduce wellKeyed reduced isNode inShape
        (isSource ▸ isHeld)
      have fits := derivesKind.fits json (by rw [isKey]; rfl) field.kind covers
      exact fun kind argument isArgument =>
        takes.fits distinctInputs derives.isNonNull_eq isInput fits kind isArgument
    · rintro _ runtime rfl
      obtain ⟨record, made⟩ := Collection.exists_updatedRecord_address wellKeyed reduced
        (settable.keepsReference wellKeyed reduced) isNode isHeld isKey
      exact ⟨record, .update (collection_of_graphOf built member) made⟩

/-- Where overrides declare scalars, the types of fragments can be read, and no name is handed over
twice, the types of all collections are assembled.  A collection that has an input at all has its
input type, with a field for every field of its content that is not computed, and its mutations take
it.  Where the reference field is among those fields, the mutations address all records by it. -/
theorem mutable_through_inputs (built : graphOf config source state registry = .ok graph)
    (scalars : ∀ entry ∈ config.collections, ∀ override ∈ entry.overrides,
      override.typeName ∈ Schema.scalarNames)
    (readable : Kind.Every Kind.Readable (.object (Kind.ofTree registry.fragments)))
    (wellKeyed : ∀ collection ∈ graph.collections, ∀ node ∈ graph.nodes collection.name,
      node.WellKeyed)
    (hands : Schema.HandsDistinct graph.collections) :
    ∃ parts, Schema.assemble graph.collections = .ok parts ∧
      ∀ collection ∈ graph.collections,
        (((Schema.contentFields collection).any fun field => Schema.hasInput field.kind) = true ->
          ∃ inputs, Schema.TakesInput parts.table collection inputs ∧
            inputs.map Prod.fst = Shape.names
              ((Schema.contentFields collection).filter fun field => Schema.hasInput field.kind)) ∧
        ∀ overrides, Override.compile collection.entry.overrides = .ok overrides ->
          collection.SettableReference overrides registry.fragments config.transform
            (graph.nodes collection.name) ->
          Schema.Addresses parts.table graph collection := by
  have readableShapes : ∀ collection ∈ graph.collections,
      Kind.Every Kind.Readable (.object collection.shape) := by
    intro collection member
    obtain ⟨isEntry, overrides, compiled, reduced⟩ := reduced_of_graphOf built member
    exact Shape.readable_reduce (Kind.readable_compile (scalars collection.entry isEntry) compiled)
      readable (wellKeyed collection member) reduced
  obtain ⟨parts, isParts, distinct⟩ := Schema.exists_assembled readableShapes hands
  refine ⟨parts, isParts, fun collection member => ⟨fun given => ?_, fun overrides compiled => ?_⟩⟩
  · obtain ⟨inputs, own, takes, derives⟩ :=
      Schema.takesInput_of_assemble isParts distinct member given
    exact ⟨inputs, takes, derives.names⟩
  · obtain ⟨_, others, isCompiled, reduced⟩ := reduced_of_graphOf built member
    cases compiled.symm.trans isCompiled
    exact fun settable => addresses_of_settable built (wellKeyed collection member) member reduced
      settable isParts distinct

/-- The types that markdown and YAML files declare can be read. -/
theorem readable_withDefaults : Kind.Every Kind.Readable
    (.object (Kind.ofTree (Content.Registry.fragments .withDefaults))) := by
  have isString : TypeRef.parse "String" = .ok (.named "String") :=
    (TypeRef.parse_of_scalar (by decide)).1
  have isInt : TypeRef.parse "Int" = .ok (.named "Int") :=
    (TypeRef.parse_of_scalar (by decide)).1
  have oneInt (name : String) (default : Option Value) :
      ∃ arguments, Schema.resolverArguments [⟨name, "Int", default⟩] = .ok arguments := by
    simp only [Schema.resolverArguments, List.foldlM_cons, List.foldlM_nil, isInt]
    exact ⟨_, rfl⟩
  have html : Kind.Readable (.resolved (Content.htmlResolver ⟨true, true, true⟩)) :=
    ⟨⟨_, isString⟩, [], rfl⟩
  have excerpt : Kind.Readable (.resolved Content.excerptResolver) :=
    ⟨⟨_, isString⟩, oneInt _ _⟩
  have timeToRead : Kind.Readable (.resolved Content.timeToReadResolver) :=
    ⟨⟨_, isInt⟩, oneInt _ _⟩
  exact ⟨trivial, ⟨trivial, html, excerpt, timeToRead, trivial⟩, trivial⟩

/-- A site of articles that are identified by a given field. -/
def sampleArticles (referenceField : String) (overrides : List Override) : Config where
  collections := [{ name := "Article", path := "articles", referenceField, overrides }]

/-- An article with a title. -/
def sampleArticle (referenceField : String) : Value :=
  .object [(referenceField, .string "a"), ("title", .string "T")]

/-- The content of the site. -/
def sampleDesk (referenceField : String) : Content.MemoryStore where
  collections := [("Article", [sampleArticle referenceField])]

/-- The collection of articles, with a given shape. -/
def sampleArticleCollection (referenceField : String) (overrides : List Override) (shape : Shape) :
    Collection where
  entry := { name := "Article", path := "articles", referenceField, overrides }
  shape

/-- The graph of the site. -/
def sampleArticleGraph (referenceField : String) (overrides : List Override) (shape : Shape) :
    Graph where
  collections := [sampleArticleCollection referenceField overrides shape]
  store := [("Article", [sampleArticle referenceField])]

/-- A title as it stands. -/
def sampleTitleOverride : Override where
  field := "title"
  typeName := "String"
  resolve value _ _ := .ok value

/-- The shape of articles that are identified by `article_id` and whose title is computed, with what
the markdown transformer declares. -/
def sampleComputedTitle : Shape := [
  .mk "title" "title" (.resolved { typeRef := "String", resolve := sampleTitleOverride.resolve }),
  .mk "_content" "_content" (.object (Kind.ofTree [
    ("html", .resolver (Content.htmlResolver ⟨true, true, true⟩)),
    ("excerpt", .resolver Content.excerptResolver),
    ("timeToRead", .resolver Content.timeToReadResolver)])),
  .mk "articleId" "article_id" (.scalar .string), .mk "_filename" "_filename" (.scalar .string),
  .mk "_path" "_path" (.scalar .string), .mk "_slug" "_slug" (.scalar .string)]

/-- The shape of articles that are identified by `_slug`. -/
def sampleSluggedTitle : Shape := [
  .mk "_slug" "_slug" (.scalar .string), .mk "title" "title" (.scalar .string),
  .mk "_filename" "_filename" (.scalar .string), .mk "_path" "_path" (.scalar .string)]

theorem mutable_through_inputs_sampleArticles :
    graphOf (sampleArticles "article_id" [sampleTitleOverride]) Content.MemoryStore.source
        (sampleDesk "article_id") .withDefaults =
      .ok (sampleArticleGraph "article_id" [sampleTitleOverride] sampleComputedTitle) ∧
    (sampleArticleCollection "article_id" [sampleTitleOverride] sampleComputedTitle).keyOf?
        (sampleArticle "article_id") = some "a" ∧
    ∃ parts, Schema.assemble
        (sampleArticleGraph "article_id" [sampleTitleOverride] sampleComputedTitle).collections =
          .ok parts ∧
      Schema.Addresses parts.table
        (sampleArticleGraph "article_id" [sampleTitleOverride] sampleComputedTitle)
        (sampleArticleCollection "article_id" [sampleTitleOverride] sampleComputedTitle) := by
  have isGraph : graphOf (sampleArticles "article_id" [sampleTitleOverride])
      Content.MemoryStore.source (sampleDesk "article_id") .withDefaults =
        .ok (sampleArticleGraph "article_id" [sampleTitleOverride] sampleComputedTitle) := by
    with_unfolding_all rfl
  have compiled : Override.compile [sampleTitleOverride] =
      .ok [("title", .resolver { typeRef := "String", resolve := sampleTitleOverride.resolve })] := by
    with_unfolding_all rfl
  obtain ⟨parts, isParts, each⟩ := mutable_through_inputs isGraph
    (by simp [sampleArticles, sampleTitleOverride, Schema.scalarNames])
    readable_withDefaults
    (by
      rintro collection member node isNode
      cases List.mem_singleton.mp member
      cases List.mem_singleton.mp isNode
      simp [sampleArticle, Value.WellKeyed, Value.WellKeyedFields])
    ((handsDistinct_iff_apart isGraph).mpr
      (.inr ⟨by decide +kernel, by decide +kernel, by decide +kernel⟩))
  refine ⟨isGraph, by decide, parts, isParts, (each _ List.mem_cons_self).2 _ compiled ?_⟩
  constructor
  case notAdded => decide
  case noMetadata => decide
  case noOverride =>
    intro field member isReference
    cases List.mem_singleton.mp member
    exact absurd isReference (by decide)
  case noFragment =>
    intro field member isReference
    cases List.mem_singleton.mp member
    exact absurd isReference (by decide)
  case apart => decide +kernel

/-- Articles whose metadata identifies them have no input for it. -/
theorem mutable_through_inputs_fails_slugs :
    (sampleArticles "_slug" []).validate = .ok () ∧
      graphOf (sampleArticles "_slug" []) Content.MemoryStore.source (sampleDesk "_slug") [] =
        .ok (sampleArticleGraph "_slug" [] sampleSluggedTitle) ∧
      Schema.HandsDistinct (sampleArticleGraph "_slug" [] sampleSluggedTitle).collections ∧
      (sampleArticleCollection "_slug" [] sampleSluggedTitle).keyOf? (sampleArticle "_slug") =
        some "a" ∧
      (sampleArticleCollection "_slug" [] sampleSluggedTitle).referenceFieldName = "_slug" ∧
      ∃ parts, Schema.assemble (sampleArticleGraph "_slug" [] sampleSluggedTitle).collections =
          .ok parts ∧
        parts.table.find? "ArticleInput" = some (.input [("title", .named "String")]) := by
  have isGraph : graphOf (sampleArticles "_slug" []) Content.MemoryStore.source
      (sampleDesk "_slug") [] = .ok (sampleArticleGraph "_slug" [] sampleSluggedTitle) := by
    with_unfolding_all rfl
  have isInput : (Schema.assemble (sampleArticleGraph "_slug" [] sampleSluggedTitle).collections
      ).toOption.map (fun parts => parts.table.find? "ArticleInput") =
        some (some (.input [("title", .named "String")])) := by
    with_unfolding_all rfl
  refine ⟨by with_unfolding_all rfl, isGraph, ?_, by decide, by decide, ?_⟩
  · exact (handsDistinct_iff_apart isGraph).mpr
      (.inr ⟨by decide +kernel, by decide +kernel, by decide +kernel⟩)
  · cases isParts : Schema.assemble
        (sampleArticleGraph "_slug" [] sampleSluggedTitle).collections with
    | error problem =>
        rw [isParts] at isInput
        cases isInput
    | ok parts =>
        rw [isParts] at isInput
        exact ⟨parts, rfl, Option.some.inj isInput⟩

end Site

end ContentGraph
