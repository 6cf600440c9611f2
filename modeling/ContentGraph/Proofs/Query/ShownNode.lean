import ContentGraph.Proofs.Query.ShownField
import ContentGraph.Proofs.Shape.FieldLookup

/-!
Contract: what a query shows of a node is what a filter sees of it.

Owns:
- `shows_selectable`: every selection that fits a shape is shown as it is projected, by induction on
  the selection;
- `run_shows_projection`: the same for the nodes of a built schema.
-/

namespace ContentGraph.Query

open ContentGraph.Json ContentGraph.Schema Progress

variable {types : List (String × List FieldDef)} {typeName reported name : String} {shape : Shape}
  {relations : List Relation} {State : Type} {runtime : Runtime State} {setting : Setting State}
  {raw : Value} {below rest selected : List (String × Filter.Selection)}

/-- One selected field is shown as it is projected. -/
theorem follows_one (ready : Ready types setting runtime) (shows : Shows types setting runtime below)
    (typed : Typed types setting.table typeName shape relations)
    (selectable : Selectable runtime.graph shape relations ((name, .mk below) :: rest))
    (valid : selectionsFit setting.table [] typeName (asked ((name, .mk below) :: rest)) = true)
    (fits : Kind.FitsFields raw shape) (holds : Kind.HoldsListsIn raw shape) :
    Follows runtime
      (runField setting typeName (.node raw) (plainHead name) (selectBelow setting below))
      (Projection.one runtime.graph reported shape relations raw name (.mk below))
      fun shown result => result = some (name, shown) := by
  have named : name ∉ ["_collection", typenameField] :=
    (names_of_selectable selectable).2 name List.mem_cons_self
  have notCollection : name ≠ "_collection" := fun same => named (same ▸ List.mem_cons_self)
  have notTypename : name ≠ typenameField := fun same =>
    named (same ▸ List.mem_cons_of_mem _ List.mem_cons_self)
  obtain ⟨⟨definition, isDefinition, fitsBelow, validBelow⟩, _⟩ :=
    definition_of_valid notTypename valid
  have asks : Asks setting typeName (plainHead name) definition := ⟨notTypename, isDefinition⟩
  obtain ⟨field, isField, isName, defines⟩ := typed name definition notCollection isDefinition
  cases selectable with
  | relation isRelation isTarget someBelow inside =>
      rw [Projection.one, isRelation]
      rw [← isName] at isRelation
      cases defines with
      | relation isOther =>
          cases isRelation.symm.trans isOther
          exact follows_relation ready shows isTarget someBelow inside asks fitsBelow validBelow
      | data noRelation => cases noRelation.symm.trans isRelation
  | field noRelation isOther inside =>
      cases isField.symm.trans isOther
      have member : field ∈ shape := (Shape.mem_of_field? isField).1
      have fitsValue := Kind.fitsFields_iff.mp fits field member
      have holdsValue := Kind.holdsListsIn_iff.mp holds field member
      rw [Projection.one, noRelation]
      simp only [notCollection, if_false, isField]
      exact follows_data ready shows isName (isName ▸ noRelation) inside defines asks fitsBelow
        validBelow fitsValue holdsValue

/-- Every selection is shown as it is projected. -/
theorem shows_selectable (ready : Ready types setting runtime) :
    ∀ selected, Shows types setting runtime selected
  | [] => by
      intro _ _ _ _ _
      rw [asked, runSelections, Projection.fields]
      exact Follows.pure ⟨rfl, rfl⟩
  | (name, .mk below) :: rest => by
      intro typed selectable valid fits holds
      have showsBelow : Shows types setting runtime below := shows_selectable ready below
      have showsRest : Shows types setting runtime rest := shows_selectable ready rest
      have others := selectable.tail
      have notTypename : name ≠ typenameField := fun same =>
        (names_of_selectable selectable).2 name List.mem_cons_self
          (same ▸ List.mem_cons_of_mem _ List.mem_cons_self)
      have validRest := (definition_of_valid notTypename valid).2
      rw [asked, runSelections, Projection.fields_cons]
      refine (follows_one ready showsBelow typed selectable valid fits holds).both
        (showsRest typed others validRest fits holds) ?_
      rintro shown result others _ rfl ⟨rfl, names⟩
      exact ⟨rfl, congrArg (name :: ·) names⟩

/-! ### Nodes of a built schema -/

/-- Running a selection over a node gives the object that the node is projected to, and records no
failure; where the projection fails, the first recorded failure is its own. -/
theorem run_shows_projection {State : Type} {setting : Setting State} {runtime : Runtime State}
    {collection : Collection} {raw : Value} {selected : List (String × Filter.Selection)}
    (built : Schema.build runtime.graph.collections = .ok setting.table)
    (conforms : ∀ other ∈ runtime.graph.collections, ∀ node ∈ runtime.graph.nodes other.name,
      Kind.FitsFields node other.shape ∧ Kind.HoldsListsIn node other.shape)
    (member : collection ∈ runtime.graph.collections) (fits : Kind.FitsFields raw collection.shape)
    (holds : Kind.HoldsListsIn raw collection.shape)
    (selectable : Selectable runtime.graph collection.shape collection.relations selected)
    (valid : selectionsFit setting.table [] collection.typeName (asked selected) = true)
    (problems : List RecordedProblem) :
    ∃ fields added,
      (runSelections setting collection.typeName (.node raw) (asked selected)).run
          { runtime, problems } = (fields, { runtime, problems := problems ++ added }) ∧
        match Projection.node runtime.graph collection raw (.mk selected) with
        | .ok projected => projected = .object fields ∧ firstFailure? added = none
        | .error failure => firstFailure? added = some failure := by
  obtain ⟨types, defined, faithful⟩ := exists_types_of_build built
  have ready : Ready types setting runtime := ⟨built, faithful, defined, conforms⟩
  have typed := typed_of_collection faithful (defined collection member)
  have shows : Shows types setting runtime selected := shows_selectable ready selected
  obtain ⟨fields, added, isRun, outcome⟩ :=
    @shows _ collection.typeName _ _ _ typed selectable valid fits holds problems
  refine ⟨fields, added, isRun, ?_⟩
  have isNode : Projection.node runtime.graph collection raw (.mk selected) =
      (Projection.fields runtime.graph collection.typeName collection.shape collection.relations raw
        selected).map .object := rfl
  rw [isNode]
  cases isProjected : Projection.fields runtime.graph collection.typeName collection.shape
      collection.relations raw selected with
  | ok projected =>
      rw [isProjected] at outcome
      exact ⟨congrArg Value.object outcome.1.1.symm, outcome.2⟩
  | error failure =>
      rw [isProjected] at outcome
      exact outcome

/-- Pages with rows of words, each under a page. -/
def sampleBook : Config where
  collections := [{ name := "Page", path := "pages", refs := [("parent", "Page")] }]

/-- The collection of `sampleBook`. -/
def samplePages : Collection :=
  { entry := { name := "Page", path := "pages", refs := [("parent", "Page")] }
    shape := [.unnamed "id" (.scalar .string), .unnamed "rows" (.list (.list (.scalar .string))),
      .unnamed "parent" (.scalar .string)]
        ++ metadataFields.map fun key => .unnamed key (.scalar .string)
    relations := [⟨"parent", "Page", .one, "parent"⟩] }

/-- A page under itself. -/
def samplePage (rows : List Value) : Value :=
  .object [("id", .string "a"), ("rows", .array rows), ("parent", .string "a")]

/-- The content of `sampleBook`: a single page. -/
def sampleGraph (rows : List Value) : Graph where
  collections := [samplePages]
  store := [("Page", [samplePage rows])]

/-- The rows of a page and of the page it is under. -/
def sampleRows : List (String × Filter.Selection) :=
  [("rows", .empty), ("parent", .mk [("rows", .empty)])]

/-- Fields of a graph's schema, as a query without variables runs them. -/
def sampleSetting (graph : Graph) : Setting Content.MemoryStore where
  table := ((Schema.build graph.collections).toOption).getD []
  source := Content.MemoryStore.source
  value? := fun _ => none

/-- The runtime of a single page. -/
def sampleRuntime (rows : List Value) : Runtime Content.MemoryStore where
  graph := sampleGraph rows
  state := { collections := [("Page", [samplePage rows])] }
  nextId := 0

private theorem build_samplePages (rows : List Value) :
    Schema.build (sampleGraph rows).collections = .ok (sampleSetting (sampleGraph rows)).table := by
  have isBuilt : (Schema.build [samplePages]).isOk = true := by
    with_unfolding_all rfl
  show Schema.build [samplePages] = .ok ((Schema.build [samplePages]).toOption.getD [])
  cases hasTable : Schema.build [samplePages] with
  | error problem => simp [hasTable, Except.isOk, Except.toBool] at isBuilt
  | ok table => rfl

private theorem selectable_sampleRows (rows : List Value) :
    Selectable (sampleGraph rows) samplePages.shape samplePages.relations sampleRows := by
  have rowsOnly : Selectable (sampleGraph rows) samplePages.shape samplePages.relations
      [("rows", .empty)] :=
    .field rfl rfl (.leaf (.scalar .string)) (by decide) (by decide) .nil
  exact .field rfl rfl (.leaf (.scalar .string)) (by decide) (by decide)
    (.relation rfl rfl (by simp) rowsOnly (by decide) (by decide) .nil)

private theorem valid_sampleRows (rows : List Value) :
    selectionsFit (sampleSetting (sampleGraph rows)).table [] samplePages.typeName
      (asked sampleRows) = true := by
  simp only [sampleRows, Filter.Selection.empty, asked, selectionsFit, outputs]
  with_unfolding_all rfl

private theorem conforms_samplePages :
    ∀ other ∈ (sampleGraph [.array [.string "x"]]).collections,
      ∀ node ∈ (sampleGraph [.array [.string "x"]]).nodes other.name,
        Kind.FitsFields node other.shape ∧ Kind.HoldsListsIn node other.shape := by
  simp [sampleGraph, samplePages, samplePage, Graph.nodes, Store.nodes, Collection.name,
    metadataFields, Field.unnamed, Kind.FitsFields, Kind.Fits, FitsScalar, Kind.HoldsListsIn,
    Kind.HoldsLists, Value.field?, Value.fields?, Object.find?, Output.itemsOf]

theorem run_shows_samplePage :
    ∃ fields added,
      (runSelections (sampleSetting (sampleGraph [.array [.string "x"]])) samplePages.typeName
          (.node (samplePage [.array [.string "x"]])) (asked sampleRows)).run
          { runtime := sampleRuntime [.array [.string "x"]], problems := [] } =
        (fields, { runtime := sampleRuntime [.array [.string "x"]], problems := added }) ∧
      Value.object fields = .object [("rows", .array [.array [.string "x"]]),
        ("parent", .object [("rows", .array [.array [.string "x"]])])] ∧
      firstFailure? added = none := by
  have conforms := conforms_samplePages
  have fitting := conforms samplePages List.mem_cons_self _ List.mem_cons_self
  obtain ⟨fields, added, isRun, outcome⟩ := @run_shows_projection
    _ (sampleSetting (sampleGraph [.array [.string "x"]]))
    (sampleRuntime [.array [.string "x"]]) _ _ _ (build_samplePages _) conforms
    List.mem_cons_self fitting.1 fitting.2 (selectable_sampleRows _) (valid_sampleRows _) []
  have isProjected : Projection.node (sampleGraph [.array [.string "x"]]) samplePages
      (samplePage [.array [.string "x"]]) (.mk sampleRows) =
        .ok (.object [("rows", .array [.array [.string "x"]]),
          ("parent", .object [("rows", .array [.array [.string "x"]])])]) := by
    simp only [sampleRows, Filter.Selection.empty, Projection.node, Filter.Selection.fields,
      Projection.fields]
    with_unfolding_all rfl
  have isGraph : (sampleRuntime [.array [.string "x"]]).graph =
      sampleGraph [.array [.string "x"]] := rfl
  rw [isGraph, isProjected] at outcome
  exact ⟨fields, added, isRun, outcome.1.symm, outcome.2⟩

/-- The content and the shape of `sampleBook` with a page that holds null for a row. -/
private theorem graphOf_sampleBook :
    Site.graphOf sampleBook Content.MemoryStore.source
        { collections := [("Page", [samplePage [.array [.string "x"], .null]])] } [] =
      .ok (sampleGraph [.array [.string "x"], .null]) := by
  with_unfolding_all rfl

/-- Null in the place of a row is projected, while the query leaves all rows out. -/
theorem run_loses_rows :
    Site.graphOf sampleBook Content.MemoryStore.source
        { collections := [("Page", [samplePage [.array [.string "x"], .null]])] } [] =
      .ok (sampleGraph [.array [.string "x"], .null]) ∧
    Schema.build (sampleGraph [.array [.string "x"], .null]).collections =
      .ok (sampleSetting (sampleGraph [.array [.string "x"], .null])).table ∧
    Kind.FitsFields (samplePage [.array [.string "x"], .null]) samplePages.shape ∧
    Selectable (sampleGraph [.array [.string "x"], .null]) samplePages.shape samplePages.relations
      [("id", .empty), ("rows", .empty)] ∧
    selectionsFit (sampleSetting (sampleGraph [.array [.string "x"], .null])).table []
      samplePages.typeName (asked [("id", .empty), ("rows", .empty)]) = true ∧
    Projection.node (sampleGraph [.array [.string "x"], .null]) samplePages
        (samplePage [.array [.string "x"], .null]) (.mk [("id", .empty), ("rows", .empty)]) =
      .ok (.object [("id", .string "a"), ("rows", .array [.array [.string "x"], .null])]) ∧
    (runSelections (sampleSetting (sampleGraph [.array [.string "x"], .null]))
        samplePages.typeName (.node (samplePage [.array [.string "x"], .null]))
        (asked [("id", .empty), ("rows", .empty)])).run
        { runtime := sampleRuntime [.array [.string "x"], .null], problems := [] } =
      ([("id", .string "a")],
        { runtime := sampleRuntime [.array [.string "x"], .null]
          problems := [⟨⟨1, 1⟩, .engine⟩] }) := by
  refine ⟨graphOf_sampleBook, build_samplePages _, ?fits, ?selectable, ?valid, ?projected, ?run⟩
  case fits =>
    simp [samplePages, samplePage, metadataFields, Field.unnamed, Kind.FitsFields, Kind.Fits,
      FitsScalar, Value.field?, Value.fields?, Object.find?]
  case selectable =>
    have rowsOnly : Selectable (sampleGraph [.array [.string "x"], .null]) samplePages.shape
        samplePages.relations [("rows", .empty)] :=
      .field rfl rfl (.leaf (.scalar .string)) (by decide) (by decide) .nil
    exact .field rfl rfl (.leaf (.scalar .string)) (by decide) (by decide) rowsOnly
  case valid =>
    simp only [Filter.Selection.empty, asked, selectionsFit, outputs]
    with_unfolding_all rfl
  case projected =>
    simp only [Filter.Selection.empty, Projection.node, Filter.Selection.fields, Projection.fields]
    with_unfolding_all rfl
  case run =>
    simp only [Filter.Selection.empty, asked, runSelections]
    with_unfolding_all rfl

end ContentGraph.Query
