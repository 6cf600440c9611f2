import ContentGraph.Proofs.Graph.NodeLookup
import ContentGraph.Proofs.Shape.Soundness
import ContentGraph.Proofs.Site.Build

/-!
Contract: what the relations of a built site find.

Owns:
- the collections of a built site: where their shapes and their relations come from;
- `isList_of_covers_array`: a field that held a list is a list, free JSON or computed;
- `relation_complete`: a relation gives every referenced node of its target, unless the node holds
  a list in a field of free JSON or in a computed field;
- `relation_loses_list`: there it gives none.
-/

namespace ContentGraph

open ContentGraph.Json

/-! ### The collections of a built site -/

namespace Collection

variable {collection : Collection} {names : List String} {relation : Relation}

/-- A wired relation belongs to a field of the shape, to many where the field is a list. -/
theorem field_of_wired (wired : relation ∈ (collection.wire names).relations) :
    relation.target ∈ names ∧ ∃ field ∈ collection.shape, field.sourceKey = relation.sourceKey ∧
      relation.field = field.name ∧
      relation.cardinality = if field.kind.isList then .many else .one := by
  obtain ⟨ref, _, isRelation⟩ := List.mem_filterMap.mp wired
  unfold relationOfRef? at isRelation
  split at isRelation
  · cases isRelation
  · next field found =>
      split at isRelation
      · next known =>
          cases isRelation
          have sameKey := List.find?_some found
          exact ⟨by simpa using known, field, List.mem_of_find?_eq_some found,
            by simpa using sameKey, rfl, rfl⟩
      · cases isRelation

/-- A collection is inferred from its nodes, with its overrides compiled. -/
theorem infer_eq_ok {fragments : ResolverTree} {transform : FieldTransform} {store : Store}
    {entry : CollectionEntry} :
    infer fragments transform store entry = .ok collection ↔
      ∃ overrides, Override.compile entry.overrides = .ok overrides ∧
        ∃ shape, Shape.reduce overrides fragments entry.referenceField transform
          (store.nodes entry.name) = .ok shape ∧ { entry, shape } = collection := by
  simp only [infer, bind_eq_ok, Except.ok.injEq]

end Collection

namespace Site

variable {State : Type} {config : Config} {source : Content.Source State} {state : State}
  {registry : Content.Registry} {graph : Graph}

/-- Every collection of a built graph was inferred from the nodes that the graph holds, and wired
to the collections of the graph. -/
theorem inferred_of_graphOf (built : graphOf config source state registry = .ok graph)
    {collection : Collection} (member : collection ∈ graph.collections) :
    ∃ entry ∈ config.collections, ∃ inferred : Collection,
      Collection.infer registry.fragments config.transform graph.store entry = .ok inferred ∧
        collection = inferred.wire (graph.collections.map Collection.name) := by
  obtain ⟨store, _, collections, areInferred, isGraph⟩ := by
    simpa only [graphOf, bind_eq_ok] using built
  cases isGraph
  obtain ⟨inferred, eachInferred, isWired⟩ := by
    simpa only [Collection.inferAll, bind_eq_ok] using areInferred
  cases isWired
  obtain ⟨own, isOwn, rfl⟩ := List.mem_map.mp member
  obtain ⟨entry, isEntry, isInferred⟩ := exists_source_of_mem (mapM_eq_ok.mp eachInferred) isOwn
  have sameNames : (inferred.map (Collection.wire (inferred.map Collection.name))).map
      Collection.name = inferred.map Collection.name := by
    rw [List.map_map]
    rfl
  exact ⟨entry, isEntry, own, isInferred, by rw [sameNames]⟩

/-- The shape of a collection is reduced from its nodes, with its overrides compiled. -/
theorem reduced_of_graphOf (built : graphOf config source state registry = .ok graph)
    {collection : Collection} (member : collection ∈ graph.collections) :
    collection.entry ∈ config.collections ∧
      ∃ overrides, Override.compile collection.entry.overrides = .ok overrides ∧
        Shape.reduce overrides registry.fragments collection.referenceField config.transform
          (graph.nodes collection.name) = .ok collection.shape := by
  obtain ⟨entry, isEntry, inferred, isInferred, rfl⟩ := inferred_of_graphOf built member
  obtain ⟨overrides, compiled, shape, reduced, rfl⟩ := Collection.infer_eq_ok.mp isInferred
  exact ⟨isEntry, overrides, compiled, reduced⟩

theorem shape_of_infer {fragments : ResolverTree} {transform : FieldTransform} {store : Store}
    {entry : CollectionEntry} {inferred : Collection} (noOverrides : entry.overrides = [])
    (isInferred : Collection.infer fragments transform store entry = .ok inferred) :
    inferred.entry = entry ∧
      Shape.reduce [] fragments entry.referenceField transform (store.nodes entry.name) =
        .ok inferred.shape := by
  obtain ⟨overrides, compiled, shape, reduced, rfl⟩ := Collection.infer_eq_ok.mp isInferred
  rw [noOverrides] at compiled
  cases compiled
  exact ⟨rfl, reduced⟩

end Site

/-! ### What a relation refers to -/

/-- The value of the reference field of a relation. -/
def Relation.value (relation : Relation) (node : Value) : Value :=
  (node.field? relation.sourceKey).getD .null

/-- The nodes of a collection whose reference value is among those of a value, in the collection's
order. -/
def Graph.referred (graph : Graph) (target : Collection) (value : Value) : List Value :=
  (graph.nodes target.name).filter fun node =>
    (target.keyOf? node).any (referenceKeys value).contains

/-- The output of a relation that finds some nodes: the only one, or all of them in a list. -/
def Output.ofReferred : Cardinality -> List Value -> Option Output
  | .one, nodes => nodes.head?.map .node
  | .many, nodes => some (.list (nodes.map .node))

/-- A node does not hold a list in the reference field, or the field's kind is neither free JSON
nor computed. -/
def Relation.Settled (relation : Relation) (collection : Collection) (node : Value) : Prop :=
  (relation.value node).items? = none ∨
    ∀ field ∈ collection.shape, field.sourceKey = relation.sourceKey ->
      field.kind ≠ .scalar .json ∧ ∀ resolver, field.kind ≠ .resolved resolver

/-- A kind that covers a list is that of a list, free JSON or computed. -/
theorem Kind.isList_of_covers_array {nameOf : String -> Except Failure String}
    {items : List Value} {kind : Kind} (covers : Covers nameOf (.array items) kind)
    (noJson : kind ≠ .scalar .json) (notComputed : ∀ resolver, kind ≠ .resolved resolver) :
    kind.isList = true := by
  cases kind with
  | list element => rfl
  | scalar form => cases form <;> simp [Covers, FitsScalar, Value.ofInt] at covers noJson
  | resolved resolver => exact absurd rfl (notComputed resolver)
  | unknown => cases covers
  | object fields => simp [Covers] at covers

namespace Site

variable {State : Type} {config : Config} {source : Content.Source State} {state : State}
  {registry : Content.Registry} {graph : Graph} {collection : Collection} {relation : Relation}
  {node : Value}

/-- A relation to one is never wired where a node of the collection holds a list, free JSON and
computed fields apart. -/
theorem items?_of_one (built : graphOf config source state registry = .ok graph)
    (noOverrides : ∀ entry ∈ config.collections, entry.overrides = [])
    (wellKeyed : ∀ node ∈ graph.nodes collection.name, node.WellKeyed)
    (isCollection : collection ∈ graph.collections)
    (isRelation : relation ∈ collection.relations) (isNode : node ∈ graph.nodes collection.name)
    (settled : relation.Settled collection node) (toOne : relation.cardinality = .one) :
    (relation.value node).items? = none := by
  obtain ⟨entry, isEntry, inferred, isInferred, isWired⟩ := inferred_of_graphOf built isCollection
  obtain ⟨sameEntry, reduced⟩ := shape_of_infer (noOverrides entry isEntry) isInferred
  have sameName : collection.name = entry.name := by rw [isWired, ← sameEntry]; rfl
  have sameShape : collection.shape = inferred.shape := by rw [isWired]; rfl
  obtain ⟨_, field, isField, sameKey, _, cardinality⟩ :=
    Collection.field_of_wired (isWired ▸ isRelation)
  rcases settled with single | settled
  · exact single
  -- A list in the node would have made the field's kind a list, and the relation one to many.
  have notList : field.kind.isList = false := by
    by_contra isList
    rw [Bool.not_eq_false] at isList
    rw [cardinality, if_pos isList] at toOne
    cases toOne
  obtain ⟨noJson, notComputed⟩ := settled field (sameShape ▸ isField) sameKey
  cases holds : relation.value node with
  | array items =>
      have isHeld : node.field? field.sourceKey = some (.array items) := by
        rw [sameKey]
        unfold Relation.value at holds
        cases found : node.field? relation.sourceKey with
        | none => simp [found] at holds
        | some value => simpa [found] using holds
      have covered := Shape.covers_field_of_reduce (sameName ▸ wellKeyed) reduced
        (sameName ▸ isNode) isField isHeld
      cases notList.symm.trans (Kind.isList_of_covers_array covered noJson notComputed)
  | _ => rfl

end Site

/-! ### What a relation gives -/

namespace Graph

variable {graph : Graph} {name : String} {target : Collection}

theorem collection_of_mem_names (member : name ∈ graph.collections.map Collection.name) :
    ∃ target ∈ graph.collections, graph.collection name = .ok target := by
  obtain ⟨collection, isCollection, isName⟩ := List.mem_map.mp member
  unfold Graph.collection Graph.collection?
  cases found : graph.collections.find? fun collection => collection.name = name with
  | some target => exact ⟨target, List.mem_of_find?_eq_some found, rfl⟩
  | none => simpa [isName] using List.find?_eq_none.mp found collection isCollection

/-- A listing that asks for nothing keeps the nodes as they are. -/
theorem list_of_nothing (known : graph.collection name = .ok target) (nodes : List Value) :
    graph.list name {} nodes = .ok nodes := by
  simp [list, known, filterNodes, sortNodes, page, bind, Except.bind]

/-- A single value refers to the nodes of its reference value. -/
theorem referred_of_single (known : graph.collection name = .ok target) {value : Value}
    (single : value.items? = none) :
    graph.referred target value =
      match value.referenceKey? with
      | some key => (graph.nodes name).filter (target.hasKey key)
      | none => [] := by
  have keys : referenceKeys value = value.referenceKey?.toList := by
    cases value <;> first | rfl | cases single
  rw [referred, keys, name_of_collection known]
  cases value.referenceKey? with
  | none =>
      refine List.filter_eq_nil_iff.mpr fun node _ => ?_
      cases target.keyOf? node <;> simp
  | some key =>
      refine List.filter_congr fun node _ => ?_
      cases held : target.keyOf? node <;> simp [Collection.hasKey, held, eq_comm]

/-- Where reference values are distinct, a single value refers to one node at most. -/
theorem length_referred_le_one (known : graph.collection name = .ok target)
    (distinct : ((graph.nodes name).filterMap target.keyOf?).Nodup) {value : Value}
    (single : value.items? = none) :
    (graph.referred target value).length ≤ 1 := by
  rw [referred_of_single known single]
  split
  · next key isKey =>
      generalize isFound : (graph.nodes name).filter (target.hasKey key) = found
      have same : ∀ node ∈ found, target.keyOf? node = some key := by
        intro node member
        rw [← isFound] at member
        simpa [Collection.hasKey] using (List.mem_filter.mp member).2
      have inside : (found.filterMap target.keyOf?).Sublist
          ((graph.nodes name).filterMap target.keyOf?) :=
        (isFound ▸ List.filter_sublist).filterMap _
      have keys : found.filterMap target.keyOf? = List.replicate found.length key := by
        rw [List.filterMap_congr same, List.filterMap_eq_map', List.map_const']
      exact List.nodup_replicate.mp (keys ▸ distinct.sublist inside)
  · exact Nat.zero_le 1

end Graph

namespace Output

variable {graph : Graph} {relation : Relation} {target : Collection} {node : Value}

theorem ofRelation_many (known : graph.collection relation.target = .ok target)
    (toMany : relation.cardinality = .many) :
    ofRelation graph relation node [("order", .string "ASC")] =
      .ok (ofReferred .many (graph.referred target (relation.value node))) := by
  have listing : Listing.ofArguments [("order", .string "ASC")] = .ok {} := rfl
  have keys : relationKeys relation node [("order", .string "ASC")] =
      referenceKeys (relation.value node) := rfl
  have related : graph.findMany relation.target (referenceKeys (relation.value node)) =
      .ok (graph.referred target (relation.value node)) := by
    rw [Graph.findMany, known, Graph.referred, Graph.name_of_collection known]
  simp [ofRelation, toMany, listing, keys, related, Graph.list_of_nothing known, ofNodes,
    ofReferred, bind, Except.bind]

theorem ofRelation_one (known : graph.collection relation.target = .ok target)
    (toOne : relation.cardinality = .one) (single : (relation.value node).items? = none) :
    ofRelation graph relation node [] =
      .ok (ofReferred .one (graph.referred target (relation.value node))) := by
  have key : (node.field? relation.sourceKey).bind Value.referenceKey? =
      (relation.value node).referenceKey? := by
    unfold Relation.value
    cases node.field? relation.sourceKey <;> rfl
  rw [ofRelation, toOne, key, Graph.referred_of_single known single]
  cases (relation.value node).referenceKey? with
  | none => rfl
  | some key =>
      simp [Graph.findByReference_of_known known, ofReferred, Except.map, List.head?_filter]

end Output

/-! ### Relations without arguments -/

namespace Schema

variable {relation : Relation}

/-- The arguments of a relation's field where none are given. -/
theorem fieldArguments?_relationField (value? : String -> Option Value) :
    Query.fieldArguments? value? (relationField relation).arguments [] =
      some (match relation.cardinality with
        | .one => []
        | .many => [("order", .string "ASC")]) := by
  unfold relationField
  cases relation.cardinality <;> rfl

end Schema

namespace Site

variable {State : Type}

/-- Relations are complete.  In a site that was just built from a configuration without overrides,
with distinct reference values in every collection, a relation without arguments gives for every
node exactly the nodes of the target that the reference field refers to, in the target's order;
where it is a relation to one, there is at most one such node.  Excepted are nodes that hold a list
in a field of free JSON or in a computed field. -/
theorem relation_complete (config : Config) (source : Content.Source State) (state : State)
    (registry : Content.Registry) (firstId : Nat) (site : Site State)
    (built : build config source state registry firstId = .ok site)
    (noOverrides : ∀ entry ∈ config.collections, entry.overrides = [])
    (wellKeyed : ∀ collection ∈ site.graph.collections,
      ∀ node ∈ site.graph.nodes collection.name, node.WellKeyed)
    (distinct : ∀ collection ∈ site.graph.collections,
      ((site.graph.nodes collection.name).filterMap collection.keyOf?).Nodup)
    (collection : Collection) (isCollection : collection ∈ site.graph.collections)
    (relation : Relation) (isRelation : relation ∈ collection.relations)
    (node : Value) (isNode : node ∈ site.graph.nodes collection.name)
    (settled : relation.Settled collection node) (value? : String -> Option Value) :
    ∃ target args, site.graph.collection relation.target = .ok target ∧
      Query.fieldArguments? value? (Schema.relationField relation).arguments [] = some args ∧
      Query.resolve site.source site.runtime (Schema.relationField relation).origin (.node node)
          args =
        (.ok (Output.ofReferred relation.cardinality
          (site.graph.referred target (relation.value node))), site.runtime) ∧
      (relation.cardinality = .one ->
        (site.graph.referred target (relation.value node)).length ≤ 1) := by
  have isGraph := graphOf_of_build built
  have single := items?_of_one isGraph noOverrides (wellKeyed collection isCollection)
    isCollection isRelation isNode settled
  obtain ⟨entry, _, inferred, _, isWired⟩ := inferred_of_graphOf isGraph isCollection
  have isTarget := (Collection.field_of_wired (isWired ▸ isRelation)).1
  obtain ⟨target, isMember, known⟩ := Graph.collection_of_mem_names isTarget
  have origin : (Schema.relationField relation).origin = .relation relation := by
    unfold Schema.relationField
    split <;> rfl
  refine ⟨target, _, known, Schema.fieldArguments?_relationField value?, ?_, ?_⟩
  · rw [origin]
    cases cardinality : relation.cardinality with
    | one =>
        simp only [Query.resolve, Query.withNode]
        rw [← graph, Output.ofRelation_one known cardinality (single cardinality)]
        rfl
    | many =>
        simp only [Query.resolve, Query.withNode]
        rw [← graph, Output.ofRelation_many known cardinality]
        rfl
  · intro toOne
    have sameName := Graph.name_of_collection known
    exact Graph.length_referred_le_one known (sameName ▸ distinct target isMember) (single toOne)

/-- Posts with an author and with tags, each of them one reference or a list. -/
def sampleLibrary : Config where
  collections := [
    { name := "Post", path := "posts", refs := [("author", "Author"), ("tags", "Tag")] },
    { name := "Author", path := "authors" },
    { name := "Tag", path := "tags" }]

/-- A post whose author is a number, with a list of tags. -/
def sampleTaggedPost : Value :=
  .object [("id", .string "p2"), ("author", .ofInt 1), ("tags", .array [.string "z", .string "x"])]

/-- A post whose author is in a list. -/
def sampleListedPost : Value :=
  .object [("id", .string "p3"), ("author", .array [.string "a"])]

/-- The content of `sampleLibrary`. -/
def sampleShelves : Content.MemoryStore where
  collections := [
    ("Post", [
      .object [("id", .string "p1"), ("author", .string "a"), ("tags", .string "x")],
      sampleTaggedPost, sampleListedPost]),
    ("Author", [.object [("id", .string "a")], .object [("id", .string "1")]]),
    ("Tag", [.object [("id", .string "x")], .object [("id", .string "y")],
      .object [("id", .string "z")]])]

/-- The relation of posts to their authors. -/
def sampleAuthorRelation : Relation :=
  ⟨"author", "Author", .one, "author"⟩

/-- The relation of posts to their tags. -/
def sampleTagsRelation : Relation :=
  ⟨"tags", "Tag", .many, "tags"⟩

/-- A collection of `sampleLibrary` with some fields before its metadata. -/
def sampleCollection (entry : CollectionEntry) (fields : Shape) (relations : List Relation) :
    Collection where
  entry
  shape := fields ++ metadataFields.map fun key => .unnamed key (.scalar .string)
  relations

/-- The posts of `sampleLibrary`. -/
def samplePosts : Collection :=
  sampleCollection
    { name := "Post", path := "posts", refs := [("author", "Author"), ("tags", "Tag")] }
    [.unnamed "id" (.scalar .string), .unnamed "author" (.scalar .json),
      .unnamed "tags" (.list (.scalar .string))]
    [sampleAuthorRelation, sampleTagsRelation]

/-- The authors of `sampleLibrary`. -/
def sampleAuthors : Collection :=
  sampleCollection { name := "Author", path := "authors" } [.unnamed "id" (.scalar .string)] []

/-- The tags of `sampleLibrary`. -/
def sampleTags : Collection :=
  sampleCollection { name := "Tag", path := "tags" } [.unnamed "id" (.scalar .string)] []

/-- The graph of `sampleLibrary`. -/
def sampleLibraryGraph : Graph where
  collections := [samplePosts, sampleAuthors, sampleTags]
  store := sampleShelves.collections

private theorem build_sampleLibrary :
    ∃ site, build sampleLibrary Content.MemoryStore.source sampleShelves [] 0 = .ok site ∧
      site.graph = sampleLibraryGraph := by
  have isGraph : graphOf sampleLibrary Content.MemoryStore.source sampleShelves [] =
      .ok sampleLibraryGraph := by
    with_unfolding_all rfl
  have isBuilt : (Schema.build sampleLibraryGraph.collections).isOk = true := by
    with_unfolding_all rfl
  cases hasTable : Schema.build sampleLibraryGraph.collections with
  | error problem => simp [hasTable, Except.isOk, Except.toBool] at isBuilt
  | ok table =>
      rw [build, isGraph]
      simp only [hasTable, bind, Except.bind]
      exact ⟨_, rfl, rfl⟩

private theorem wellKeyed_sampleLibrary :
    ∀ collection ∈ sampleLibraryGraph.collections,
      ∀ node ∈ sampleLibraryGraph.nodes collection.name, node.WellKeyed := by
  simp [sampleLibraryGraph, samplePosts, sampleAuthors, sampleTags, sampleCollection,
    sampleShelves, sampleTaggedPost, sampleListedPost, Graph.nodes, Store.nodes, Collection.name,
    Value.WellKeyed, Value.WellKeyedFields, Value.WellKeyedItems, Value.ofInt]

private theorem distinct_sampleLibrary :
    ∀ collection ∈ sampleLibraryGraph.collections,
      ((sampleLibraryGraph.nodes collection.name).filterMap collection.keyOf?).Nodup := by
  decide

theorem relation_complete_sampleLibrary :
    ∃ site args, build sampleLibrary Content.MemoryStore.source sampleShelves [] 0 = .ok site ∧
      Query.fieldArguments? (fun _ => none) (Schema.relationField sampleTagsRelation).arguments
        [] = some args ∧
      Query.resolve site.source site.runtime (Schema.relationField sampleTagsRelation).origin
          (.node sampleTaggedPost) args =
        (.ok (some (.list [.node (.object [("id", .string "x")]),
          .node (.object [("id", .string "z")])])), site.runtime) := by
  obtain ⟨site, built, isGraph⟩ := build_sampleLibrary
  have settled : sampleTagsRelation.Settled samplePosts sampleTaggedPost := by
    right
    simp [samplePosts, sampleCollection, sampleTagsRelation, metadataFields, Field.unnamed,
      Field.sourceKey, Field.kind]
  obtain ⟨target, args, known, isArgs, resolved, _⟩ := relation_complete sampleLibrary
    Content.MemoryStore.source sampleShelves [] 0 site built (by decide)
    (isGraph ▸ wellKeyed_sampleLibrary) (isGraph ▸ distinct_sampleLibrary)
    samplePosts (isGraph ▸ List.mem_cons_self)
    sampleTagsRelation (List.mem_cons_of_mem _ List.mem_cons_self)
    sampleTaggedPost (isGraph ▸ List.mem_cons_of_mem _ List.mem_cons_self) settled fun _ => none
  refine ⟨site, args, built, isArgs, resolved.trans ?_⟩
  rw [isGraph] at known ⊢
  cases known
  rfl

/-- A list in a field of free JSON is lost: the relation is to one and gives nothing, although the
list refers to a node of the target. -/
theorem relation_loses_list :
    ∃ site, build sampleLibrary Content.MemoryStore.source sampleShelves [] 0 = .ok site ∧
      samplePosts ∈ site.graph.collections ∧ sampleAuthorRelation ∈ samplePosts.relations ∧
      sampleListedPost ∈ site.graph.nodes samplePosts.name ∧
      (∀ collection ∈ site.graph.collections,
        ((site.graph.nodes collection.name).filterMap collection.keyOf?).Nodup) ∧
      site.graph.collection sampleAuthorRelation.target = .ok sampleAuthors ∧
      site.graph.referred sampleAuthors (sampleAuthorRelation.value sampleListedPost) =
        [.object [("id", .string "a")]] ∧
      Query.fieldArguments? (fun _ => none) (Schema.relationField sampleAuthorRelation).arguments
        [] = some [] ∧
      Query.resolve site.source site.runtime (Schema.relationField sampleAuthorRelation).origin
          (.node sampleListedPost) [] = (.ok none, site.runtime) := by
  obtain ⟨site, built, isGraph⟩ := build_sampleLibrary
  have resolves : Query.resolve site.source site.runtime
      (Schema.relationField sampleAuthorRelation).origin (.node sampleListedPost) [] =
        ((Output.ofRelation site.graph sampleAuthorRelation sampleListedPost []).mapError .failed,
          site.runtime) := rfl
  have isNothing : Output.ofRelation sampleLibraryGraph sampleAuthorRelation sampleListedPost [] =
      .ok none := rfl
  refine ⟨site, built, ?_⟩
  rw [isGraph]
  refine ⟨List.mem_cons_self, List.mem_cons_self, ?_, distinct_sampleLibrary, rfl, rfl, rfl, ?_⟩
  · exact List.mem_cons_of_mem _ (List.mem_cons_of_mem _ List.mem_cons_self)
  · rw [resolves, isGraph, isNothing]
    rfl

end Site

end ContentGraph
