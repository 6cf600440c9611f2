import ContentGraph.Proofs.Graph.ProjectedPaths
import ContentGraph.Proofs.Query.ShownField
import ContentGraph.Proofs.Site.SchemaNames
import Mathlib

/-!
Contract: the name of a collection, as a query shows it and as a filter sees it.

Owns:
- `Graph.LeadsTo`, the nodes that a chain of relations to one leads to;
- `node_collectionName` and `follow?_collectionName`: at the end of a chain a filter sees the name
  of the graph type;
- `follows_collectionName`: a query shows the configured name there;
- `collectionName_shown_iff`: they agree exactly where the configured name is a legal one;
- `collectionName_differs`: a valid configuration may have other names.
-/

namespace ContentGraph

open ContentGraph.Json ContentGraph.Schema

/-- A chain of relations to one, by the names of their fields, leads from a node of a collection to
a node of another one. -/
inductive Graph.LeadsTo (graph : Graph) :
    Collection -> Value -> Value.Path -> Collection -> Value -> Prop where
  | here (collection : Collection) (node : Value) : LeadsTo graph collection node [] collection node
  | relation {collection target reached : Collection} {raw next node : Value} {relation : Relation}
      {name key : String} {rest : Value.Path}
      (isRelation : Collection.relation? collection.relations name = some relation)
      (toOne : relation.cardinality = .one)
      (isTarget : graph.collection relation.target = .ok target)
      (isKey : (relation.value raw).referenceKey? = some key)
      (isFound : graph.findByReference relation.target key = .ok (some next))
      (leads : LeadsTo graph target next rest reached node) :
      LeadsTo graph collection raw (name :: rest) reached node

/-- The fields of relations are in the shapes of their collections. -/
def Graph.Wired (graph : Graph) : Prop :=
  ∀ collection ∈ graph.collections, ∀ relation ∈ collection.relations,
    relation.field ∈ collection.shape.names

theorem Site.wired_of_graphOf {State : Type} {config : Config} {source : Content.Source State}
    {state : State} {registry : Content.Registry} {graph : Graph}
    (built : graphOf config source state registry = .ok graph) : graph.Wired := by
  intro collection member relation isRelation
  obtain ⟨_, _, inferred, _, rfl⟩ := inferred_of_graphOf built member
  obtain ⟨_, field, isField, _, isName, _⟩ := Collection.field_of_wired isRelation
  exact List.mem_map.mpr ⟨field, isField, isName.symm⟩

/-- An object around a value, with one field for every step of a path. -/
def Json.Value.nest (value : Value) : Value.Path -> Value
  | [] => value
  | step :: rest => .object [(step, nest value rest)]

@[simp] theorem Json.Value.follow?_nest (value : Value) (path : Value.Path) :
    (value.nest path).follow? path = some value := by
  induction path with
  | nil => rfl
  | cons step rest inductionHypothesis =>
      simp [nest, follow?, step?, Object.find?, inductionHypothesis]

/-! ### Relations of a built schema -/

section

variable {graph : Graph} {table : TypeTable} {collection reached : Collection} {raw node : Value}
  {relation : Relation} {name : String} {path : Value.Path} {definitions : List FieldDef}

theorem Graph.Wired.mem_names (wired : graph.Wired) (member : collection ∈ graph.collections)
    (isRelation : Collection.relation? collection.relations name = some relation) :
    name ∈ collection.shape.names := by
  have isName : relation.field = name := by simpa using List.find?_some isRelation
  exact isName ▸ wired collection member relation (List.mem_of_find?_eq_some isRelation)

/-- In a built schema no relation has the name of the field that tells the collection. -/
theorem relation?_collectionName (built : Schema.build graph.collections = .ok table)
    (wired : graph.Wired) (member : collection ∈ graph.collections) :
    Collection.relation? collection.relations "_collection" = none := by
  cases isRelation : Collection.relation? collection.relations "_collection" with
  | none => rfl
  | some relation =>
      exact absurd (wired.mem_names member isRelation) (collectionName_not_mem_names built member)

/-- What a type of a built schema has under the names of its collection and of a relation. -/
theorem definitions_of_collection (built : Schema.build graph.collections = .ok table)
    (wired : graph.Wired) (member : collection ∈ graph.collections)
    (isObject : table.objectFields? collection.typeName = some definitions) :
    definitions.find? (fun field => field.name = "_collection") =
        some (collectionNameField collection) ∧
      ∀ name relation, Collection.relation? collection.relations name = some relation ->
        definitions.find? (fun field => field.name = name) = some (relationField relation) := by
  obtain ⟨types, defined, faithful⟩ := exists_types_of_build built
  obtain ⟨own, isType, defines⟩ := defined collection member
  cases faithful _ _ isType definitions isObject
  refine ⟨rfl, fun name relation isRelation => ?_⟩
  have isNamed := wired.mem_names member isRelation
  have other : (collectionNameField collection).name ≠ name := by
    rintro rfl
    exact collectionName_not_mem_names built member isNamed
  rw [List.find?_cons_of_neg (by simpa using other)]
  cases found : own.find? fun field => field.name = name with
  | none =>
      rw [← names_of_defines defines] at isNamed
      obtain ⟨definition, isOwn, isName⟩ := List.mem_map.mp isNamed
      simpa [isName] using List.find?_eq_none.mp found definition isOwn
  | some definition =>
      obtain ⟨field, _, isName, definesField⟩ := exists_field_of_find? defines found
      rw [← isName] at isRelation
      cases definesField with
      | relation isOther =>
          cases isRelation.symm.trans isOther
          rfl
      | data noRelation => cases noRelation.symm.trans isRelation

end

/-! ### What a filter sees -/

namespace Projection

variable {graph : Graph} {collection reached : Collection} {raw node : Value} {path : Value.Path}
  {selection : Filter.Selection} {out : Object}

private theorem referred_found {relation : Relation} {key : String} {next : Value}
    (toOne : relation.cardinality = .one) (isKey : (relation.value raw).referenceKey? = some key)
    (isFound : graph.findByReference relation.target key = .ok (some next)) :
    referred graph relation (relation.value raw) = .ok (.one (some next)) := by
  rw [referred, toOne, isKey]
  simp only [isFound]
  rfl

/-- At the end of a chain a filter sees the name of the graph type. -/
theorem follow?_collectionName
    (free : ∀ collection ∈ graph.collections,
      Collection.relation? collection.relations "_collection" = none)
    (leads : graph.LeadsTo collection raw path reached node) :
    ∀ {selection : Filter.Selection} {out : Object}, collection ∈ graph.collections ->
      (selection.at? (path ++ ["_collection"])).isSome = true ->
      fields graph collection.typeName collection.shape collection.relations raw selection.fields =
        .ok out ->
      (Value.object out).follow? (path ++ ["_collection"]) = some (.string reached.typeName) := by
  induction leads with
  | here collection node =>
      intro selection out member selected isProjected
      obtain ⟨below, isSelected⟩ := Option.isSome_iff_exists.mp selected
      obtain ⟨inside, isBelow, _⟩ := Filter.Selection.at?_cons_eq_some.mp isSelected
      obtain ⟨projected, found, isOne⟩ := exists_projected isProjected isBelow
      rw [one, free collection member] at isOne
      cases isOne
      simp [Value.follow?, Value.step?, found]
  | @relation collection target reached raw next node relation name key rest isRelation toOne
      isTarget isKey isFound leads inductionHypothesis =>
      intro selection out member selected isProjected
      obtain ⟨below, isSelected⟩ := Option.isSome_iff_exists.mp selected
      obtain ⟨inside, isBelow, isInside⟩ := Filter.Selection.at?_cons_eq_some.mp isSelected
      obtain ⟨projected, found, isOne⟩ := exists_projected isProjected isBelow
      have notLeaf : inside.isLeaf = false := by
        cases rest <;> exact Filter.Selection.isLeaf_of_lookup
          (Filter.Selection.at?_cons_eq_some.mp isInside).choose_spec.1
      have isReferred := referred_found toOne isKey isFound
      rw [one, isRelation] at isOne
      obtain ⟨_, known, _, isOther, made⟩ := relationBelow_ok notLeaf isOne
      cases isTarget.symm.trans known
      cases isReferred.symm.trans isOther
      obtain ⟨inner, isInner, rfl⟩ := map_eq_ok.mp made
      have seen := inductionHypothesis (Graph.mem_of_collection isTarget)
        (Option.isSome_iff_exists.mpr ⟨below, isInside⟩) isInner
      rw [List.cons_append, Value.follow?, Value.step?, found, Option.bind_some, seen]

/-- A field that is selected alone. -/
private theorem node_single {name : String} {below : Filter.Selection} {value : Value}
    (isOne : one graph collection.typeName collection.shape collection.relations raw name below =
      .ok value) :
    Projection.node graph collection raw (.mk [(name, below)]) =
      .ok (.object [(name, value)]) := by
  rw [Projection.node, Filter.Selection.fields, fields_cons, isOne, fields]
  rfl

/-- The selection of a chain alone is always projected. -/
theorem node_collectionName
    (free : ∀ collection ∈ graph.collections,
      Collection.relation? collection.relations "_collection" = none)
    (leads : graph.LeadsTo collection raw path reached node) :
    collection ∈ graph.collections ->
      Projection.node graph collection raw (.insert .empty (path ++ ["_collection"])) =
        .ok ((Value.string reached.typeName).nest (path ++ ["_collection"])) := by
  induction leads with
  | here collection node =>
      intro member
      refine node_single ?_
      rw [one, free collection member]
      rfl
  | @relation collection target reached raw next node relation name key rest isRelation toOne
      isTarget isKey isFound leads inductionHypothesis =>
      intro member
      refine node_single ?_
      have isReferred := referred_found toOne isKey isFound
      have notLeaf : (Filter.Selection.insert .empty (rest ++ ["_collection"])).isLeaf = false := by
        cases rest <;> rfl
      rw [one, isRelation]
      show relationBelow graph relation (relation.value raw)
        (.insert .empty (rest ++ ["_collection"])) = _
      rw [relationBelow, notLeaf, if_neg Bool.false_ne_true, isTarget, isReferred]
      exact inductionHypothesis (Graph.mem_of_collection isTarget)

end Projection

/-! ### What a query shows -/

namespace Query

open Progress

variable {State : Type} {runtime : Runtime State} {setting : Setting State}
  {collection reached : Collection} {raw node : Value} {path : Value.Path}

/-- The selection of a path alone, as it is asked for in a query. -/
def askedAlong (path : Value.Path) : List Selection :=
  asked (Filter.Selection.empty.insert path).fields

theorem askedAlong_cons (name : String) (rest : Value.Path) :
    askedAlong (name :: rest) = [.field (plainHead name) (askedAlong rest)] := by
  have inserted : (Filter.Selection.empty.insert (name :: rest)).fields =
      [(name, Filter.Selection.empty.insert rest)] := rfl
  rw [askedAlong, inserted, askedAlong]
  cases Filter.Selection.empty.insert rest with
  | mk below => rw [asked, asked, Filter.Selection.fields]

/-- A field that is asked for alone is shown alone. -/
private theorem follows_single {typeName name : String} {output : Output} {below : List Selection}
    {value : Value}
    (follows : Follows runtime
      (runField setting typeName output (plainHead name) fun inner output =>
        runSelections setting inner output below >>= fun fields => pure (objectOf fields))
      (.ok value) fun shown result => result = some (name, shown)) :
    Follows runtime (runSelections setting typeName output [.field (plainHead name) below])
      (.ok [(name, value)]) Eq := by
  have others : Follows runtime (pure []) (.ok ()) fun _ (others : Object) => others = [] :=
    .pure rfl
  rw [runSelections, runSelections]
  show Follows runtime _ (Except.ok value >>= fun shown => Except.ok () >>= fun _ =>
    .ok [(name, shown)]) Eq
  refine follows.both others ?_
  rintro shown _ _ _ rfl rfl
  rfl

/-- A relation to one whose key is found refers to the node under it. -/
private theorem referredNode_found {graph : Graph} {relation : Relation} {target : Collection}
    {value : Value} {key : String} {next : Value}
    (isTarget : graph.collection relation.target = .ok target)
    (isKey : value.referenceKey? = some key)
    (isFound : graph.findByReference relation.target key = .ok (some next)) :
    referredNode graph relation target value = some next := by
  rw [Graph.findByReference_of_known isTarget] at isFound
  rw [referredNode, isKey]
  exact Except.ok.inj isFound

/-- In a built schema a query can ask for a relation to one, and below it for what its target has. -/
private theorem asks_relation {definitions : List FieldDef} {relation : Relation}
    {target : Collection} {name : String}
    (built : Schema.build runtime.graph.collections = .ok setting.table)
    (wired : runtime.graph.Wired) (member : collection ∈ runtime.graph.collections)
    (isObject : setting.table.objectFields? collection.typeName = some definitions)
    (isRelation : Collection.relation? collection.relations name = some relation)
    (isTarget : runtime.graph.collection relation.target = .ok target)
    (toOne : relation.cardinality = .one) :
    Asks setting collection.typeName (plainHead name) (relationField relation) ∧
      ∃ inner, setting.table.objectFields? target.typeName = some inner := by
  have isDefinition := (definitions_of_collection built wired member isObject).2 name relation
    isRelation
  obtain ⟨notReserved, isOutput⟩ :=
    soundField_of_build built isObject (List.mem_of_find?_eq_some isDefinition)
  have isName : (relationField relation).name = name := by
    simpa using List.find?_some isDefinition
  refine ⟨⟨?_, by rw [isObject]; exact isDefinition⟩, ?_⟩
  · rintro rfl
    rw [isName] at notReserved
    cases notReserved
  · rw [type_relationField_one isTarget toOne] at isOutput
    exact exists_objectFields?_of_isOutput built (Graph.mem_of_collection isTarget) isOutput

/-- At the end of a chain a query shows the configured name of the collection. -/
theorem follows_collectionName
    (built : Schema.build runtime.graph.collections = .ok setting.table)
    (wired : runtime.graph.Wired)
    (leads : runtime.graph.LeadsTo collection raw path reached node) :
    ∀ {definitions : List FieldDef}, collection ∈ runtime.graph.collections ->
      setting.table.objectFields? collection.typeName = some definitions ->
      ∃ step shown,
        (Value.string reached.name).nest (path ++ ["_collection"]) = .object [(step, shown)] ∧
          Follows runtime
            (runSelections setting collection.typeName (.node raw)
              (askedAlong (path ++ ["_collection"])))
            (.ok [(step, shown)]) Eq := by
  induction leads with
  | here collection node =>
      intro definitions member isObject
      obtain ⟨isDefinition, _⟩ := definitions_of_collection built wired member isObject
      have asks : Asks setting collection.typeName (plainHead "_collection")
          (collectionNameField collection) :=
        ⟨by decide, by rw [isObject]; exact isDefinition⟩
      have isScalar : setting.table.find? "String" = some .scalar := by
        rw [TypeTable.find?, if_pos (by decide)]
      refine ⟨_, _, rfl, ?_⟩
      rw [List.nil_append, askedAlong_cons]
      refine follows_single (follows_of_output asks rfl rfl ?_)
      have shown := @complete_scalar State setting.table
        (fun inner output => runSelections setting inner output (askedAlong []) >>= fun fields =>
          pure (objectOf fields)) "String" isScalar (.string collection.name)
      exact shown ▸ .pure rfl
  | @relation collection target reached raw next node relation name key rest isRelation toOne
      isTarget isKey isFound leads inductionHypothesis =>
      intro definitions member isObject
      obtain ⟨asks, inner, isInner⟩ :=
        asks_relation built wired member isObject isRelation isTarget toOne
      obtain ⟨step, shown, isNest, follows⟩ :=
        inductionHypothesis (Graph.mem_of_collection isTarget) isInner
      refine ⟨name, .object [(step, shown)], by rw [List.cons_append, Value.nest, isNest], ?_⟩
      rw [List.cons_append, askedAlong_cons]
      refine follows_single (follows_toOne isTarget toOne asks ?_)
      rw [referredNode_found isTarget isKey isFound]
      refine completes_object (find?_of_objectFields? isInner) ?_
      have wrapped : (Except.ok (.object [(step, shown)]) : Except Failure Value) =
          Except.map objectOf (.ok [(step, shown)]) := rfl
      rw [wrapped]
      exact follows.map fun _ _ same => congrArg objectOf same

end Query

namespace Site

open Query Progress

variable {State : Type}

/-- The name of a collection, at the end of any chain of relations to one from a node of a built
site, whatever the site holds by then.  A query for it records no failure and shows the configured
name.  A filter that looks at it alone can be projected, and every filter that looks at it sees the
configured name made legal.  So both agree exactly where the configured name is legal. -/
theorem collectionName_shown_iff (config : Config) (source : Content.Source State) (state : State)
    (registry : Content.Registry) (firstId : Nat) (site : Site State)
    (built : build config source state registry firstId = .ok site)
    (runtime : Runtime State) (kept : runtime.graph.collections = site.graph.collections)
    (collection : Collection) (member : collection ∈ site.graph.collections)
    (isObject : (site.table.objectFields? collection.typeName).isSome = true)
    (raw : Value) (path : Value.Path) (reached : Collection) (node : Value)
    (leads : runtime.graph.LeadsTo collection raw path reached node)
    (value? : String -> Option Value) (problems : List RecordedProblem) :
    let setting : Setting State := { table := site.table, source := site.source, value? }
    let place : Value.Path := path ++ ["_collection"]
    ∃ shown added,
      (runSelections setting collection.typeName (.node raw) (askedAlong place)).run
          { runtime, problems } = (shown, { runtime, problems := problems ++ added }) ∧
        firstFailure? added = none ∧
        .object shown = (Value.string reached.name).nest place ∧
        Projection.node runtime.graph collection raw (.insert .empty place) =
          .ok ((Value.string (Text.legalize reached.name)).nest place) ∧
        ∀ selection projected, (selection.at? place).isSome = true ->
          Projection.node runtime.graph collection raw selection = .ok projected ->
          projected.follow? place = some (.string (Text.legalize reached.name)) ∧
            (projected.follow? place = (Value.object shown).follow? place ↔
              Text.IsLegal reached.name) := by
  intro setting place
  obtain ⟨graph, table, isGraph, isTable, rfl⟩ := build_ok built
  have isBuilt : Schema.build runtime.graph.collections = .ok setting.table := kept ▸ isTable
  have wired : runtime.graph.Wired := by
    intro other isOther
    exact wired_of_graphOf isGraph other (kept ▸ isOther)
  have isMember : collection ∈ runtime.graph.collections := kept ▸ member
  have free : ∀ other ∈ runtime.graph.collections,
      Collection.relation? other.relations "_collection" = none := fun other isOther =>
    relation?_collectionName isBuilt wired isOther
  obtain ⟨definitions, hasFields⟩ := Option.isSome_iff_exists.mp isObject
  obtain ⟨step, value, isNest, follows⟩ :=
    @follows_collectionName _ _ setting _ _ _ _ _ isBuilt wired leads _ isMember hasFields
  obtain ⟨shown, added, isRun, rfl, noFailure⟩ := follows problems
  refine ⟨_, added, isRun, noFailure, isNest.symm, Projection.node_collectionName free leads
    isMember, fun selection projected selected isProjected => ?_⟩
  obtain ⟨out, isOut, rfl⟩ := map_eq_ok.mp isProjected
  have seen := Projection.follow?_collectionName free leads isMember selected isOut
  refine ⟨seen, ?_⟩
  rw [seen, ← isNest, Value.follow?_nest, Text.IsLegal]
  simp [Collection.typeName, Collection.name]

/-- Stories by authors, whose collection has a name that is no legal one. -/
def sampleStories : Config where
  collections := [
    { name := "Story", path := "stories", refs := [("author", "pen-name")] },
    { name := "pen-name", path := "pen-names" }]

/-- A story with its author. -/
def sampleStory : Value :=
  .object [("id", .string "s"), ("author", .string "a")]

/-- The author of `sampleStory`. -/
def samplePenName : Value :=
  .object [("id", .string "a")]

/-- The content of `sampleStories`. -/
def sampleStoryStore : Content.MemoryStore where
  collections := [("Story", [sampleStory]), ("pen-name", [samplePenName])]

/-- The relation of stories to their authors. -/
def samplePenNameRelation : Relation :=
  ⟨"author", "pen-name", .one, "author"⟩

/-- The stories of `sampleStories`. -/
def sampleStoryCollection : Collection :=
  sampleCollection { name := "Story", path := "stories", refs := [("author", "pen-name")] }
    [.unnamed "id" (.scalar .string), .unnamed "author" (.scalar .string)] [samplePenNameRelation]

/-- The authors of `sampleStories`. -/
def samplePenNames : Collection :=
  sampleCollection { name := "pen-name", path := "pen-names" } [.unnamed "id" (.scalar .string)] []

/-- The graph of `sampleStories`. -/
def sampleStoryGraph : Graph where
  collections := [sampleStoryCollection, samplePenNames]
  store := sampleStoryStore.collections

/-- The site of `sampleStories`. -/
def sampleStorySite : Site Content.MemoryStore where
  hash := sampleStories.hash
  table := (Schema.build sampleStoryGraph.collections).toOption.getD []
  source := Content.MemoryStore.source
  runtime := { graph := sampleStoryGraph, state := sampleStoryStore, nextId := 0 }

/-- Fields of `sampleStorySite`, as a query without variables runs them. -/
def sampleStorySetting : Setting Content.MemoryStore where
  table := sampleStorySite.table
  source := sampleStorySite.source
  value? := fun _ => none

private theorem build_sampleStories :
    build sampleStories Content.MemoryStore.source sampleStoryStore [] 0 = .ok sampleStorySite := by
  have isGraph : graphOf sampleStories Content.MemoryStore.source sampleStoryStore [] =
      .ok sampleStoryGraph := by
    with_unfolding_all rfl
  have isBuilt : (Schema.build sampleStoryGraph.collections).isOk = true := by
    with_unfolding_all rfl
  have isTable : Schema.build sampleStoryGraph.collections = .ok sampleStorySite.table := by
    show _ = Except.ok ((Schema.build sampleStoryGraph.collections).toOption.getD [])
    cases hasTable : Schema.build sampleStoryGraph.collections with
    | error problem => simp [hasTable, Except.isOk, Except.toBool] at isBuilt
    | ok table => rfl
  rw [build, isGraph]
  simp only [isTable, bind, Except.bind]
  rfl

private theorem leadsTo_samplePenName :
    sampleStoryGraph.LeadsTo sampleStoryCollection sampleStory ["author"] samplePenNames
      samplePenName :=
  .relation rfl rfl rfl rfl rfl (.here _ _)

theorem collectionName_shown_iff_sampleStories :
    ∃ shown added,
      (runSelections sampleStorySetting "Story" (.node sampleStory)
          (askedAlong ["author", "_collection"])).run { runtime := sampleStorySite.runtime } =
        (shown, { runtime := sampleStorySite.runtime, problems := added }) ∧
      .object shown = (Value.string "pen-name").nest ["author", "_collection"] ∧
      Projection.node sampleStoryGraph sampleStoryCollection sampleStory
          (.insert .empty ["author", "_collection"]) =
        .ok ((Value.string "pen_name").nest ["author", "_collection"]) := by
  have isObject : (sampleStorySite.table.objectFields? sampleStoryCollection.typeName).isSome =
      true := by
    with_unfolding_all rfl
  obtain ⟨shown, added, isRun, _, isShown, isProjected, _⟩ := collectionName_shown_iff sampleStories
    Content.MemoryStore.source sampleStoryStore [] 0 sampleStorySite build_sampleStories
    sampleStorySite.runtime rfl sampleStoryCollection List.mem_cons_self isObject sampleStory
    ["author"] samplePenNames samplePenName leadsTo_samplePenName (fun _ => none) []
  exact ⟨shown, added, isRun, isShown, isProjected⟩

/-- A query shows the configured name of the author's collection, and a filter that asks for this
name keeps no story, as it sees the name of the graph type. -/
theorem collectionName_differs :
    build sampleStories Content.MemoryStore.source sampleStoryStore [] 0 = .ok sampleStorySite ∧
      sampleStorySite.graph = sampleStoryGraph ∧
      sampleStoryCollection ∈ sampleStoryGraph.collections ∧
      sampleStoryGraph.LeadsTo sampleStoryCollection sampleStory ["author"] samplePenNames
        samplePenName ∧
      (runSelections sampleStorySetting "Story" (.node sampleStory)
          (askedAlong ["author", "_collection"])).run { runtime := sampleStorySite.runtime } =
        ([("author", .object [("_collection", .string "pen-name")])],
          { runtime := sampleStorySite.runtime }) ∧
      Projection.node sampleStoryGraph sampleStoryCollection sampleStory
          (.insert .empty ["author", "_collection"]) =
        .ok (.object [("author", .object [("_collection", .string "pen_name")])]) ∧
      sampleStoryGraph.passing (.object [("author", .object [("_collection", .object
        [("eq", .string "pen-name")])])]) "Story" = .ok [] := by
  refine ⟨build_sampleStories, rfl, List.mem_cons_self, leadsTo_samplePenName, ?run, ?projected,
    by cbv⟩
  case run =>
    simp only [askedAlong_cons, runSelections]
    with_unfolding_all rfl
  case projected =>
    have free : ∀ other ∈ sampleStoryGraph.collections,
        Collection.relation? other.relations "_collection" = none := by decide
    exact Projection.node_collectionName free leadsTo_samplePenName List.mem_cons_self

end Site

end ContentGraph
