import ContentGraph.Proofs.Graph.RelationCompleteness
import ContentGraph.Proofs.Schema.DistinctNames
import ContentGraph.Proofs.Site.Identity

/-!
Contract: the names that a site hands to the engine.

Owns:
- `collection_of_graphOf`: the collections of a site are found by their names;
- `distinctNames_of_graphOf`: the shapes of a site have distinct names at every level;
- `handsDistinct_iff_apart`: a site hands no name over twice exactly where the names of its
  collections are apart, whatever its content is;
- `handsDistinct_fails_twins`: a valid configuration need not keep them apart.
-/

namespace ContentGraph.Site

open ContentGraph.Json

variable {State : Type} {config : Config} {source : Content.Source State} {state : State}
  {registry : Content.Registry} {graph : Graph} {collection : Collection}

/-- A collection is found by its name, as no two have one name. -/
theorem collection_of_graphOf (built : graphOf config source state registry = .ok graph)
    (member : collection ∈ graph.collections) : graph.collection collection.name = .ok collection := by
  obtain ⟨store, isLoaded, collections, areInferred, isGraph⟩ := by
    simpa only [graphOf, bind_eq_ok] using built
  obtain ⟨_, valid, _⟩ := bind_eq_ok.mp isLoaded
  cases isGraph
  obtain ⟨inferred, eachInferred, isWired⟩ := by
    simpa only [Collection.inferAll, bind_eq_ok] using areInferred
  cases isWired
  have names : (inferred.map (Collection.wire (inferred.map Collection.name))).map Collection.name =
      config.collections.map CollectionEntry.name := by
    rw [List.map_map]
    have each := mapM_eq_ok.mp eachInferred
    clear member eachInferred areInferred built isLoaded valid
    generalize inferred.map Collection.name = wired
    generalize config.collections = entries at each ⊢
    induction each with
    | nil => rfl
    | cons isInferred _ inductionHypothesis =>
        obtain ⟨_, _, _, _, rfl⟩ := Collection.infer_eq_ok.mp isInferred
        rw [List.map_cons, List.map_cons, inductionHypothesis]
        rfl
  have distinct := names ▸ Config.nodup_names_of_validate valid
  obtain ⟨found, isFound, known⟩ := Graph.collection_of_mem_names (List.mem_map_of_mem member)
  have same := List.inj_on_of_nodup_map distinct isFound member (Graph.name_of_collection known)
  rwa [same] at known

theorem distinctNames_of_graphOf (built : graphOf config source state registry = .ok graph)
    (member : collection ∈ graph.collections) :
    Kind.Every Kind.DistinctNames (.object collection.shape) := by
  obtain ⟨_, _, _, reduced⟩ := reduced_of_graphOf built member
  exact Kind.distinctNames_renameFields reduced

/-- Whatever the configuration and the content are: once all shapes are inferred, building the
schema hands no name to the engine twice exactly where the names of the collections are apart.  It
hands nothing over where a declared type cannot be read. -/
theorem handsDistinct_iff_apart (built : graphOf config source state registry = .ok graph) :
    Schema.HandsDistinct graph.collections ↔
      (∃ failure, Schema.assemble graph.collections = .error (.failed failure)) ∨
        Schema.Apart graph.collections :=
  Schema.handsDistinct_iff fun _ member => distinctNames_of_graphOf built member

/-- Two collections of different names. -/
def sampleTwins : Config where
  collections := [{ name := "my-post", path := "a" }, { name := "my post", path := "b" }]

/-- A collection of `sampleTwins`, with nothing but an identity in its content. -/
def sampleTwin (entry : CollectionEntry) : Collection where
  entry
  shape := ("id" :: metadataFields).map fun key => .unnamed key (.scalar .string)

theorem handsDistinct_iff_apart_sampleLibrary :
    Schema.HandsDistinct sampleLibraryGraph.collections := by
  have isGraph : graphOf sampleLibrary Content.MemoryStore.source sampleShelves [] =
      .ok sampleLibraryGraph := by
    with_unfolding_all rfl
  refine (handsDistinct_iff_apart isGraph).mpr (.inr ⟨?roots, ?fields, ?types⟩)
  case roots => decide +kernel
  case fields => decide +kernel
  case types => decide +kernel

/-- The names of two collections become one in the graph. -/
theorem handsDistinct_fails_twins :
    sampleTwins.validate = .ok () ∧
      graphOf sampleTwins Content.MemoryStore.source
          { collections := [("my-post", [.object [("id", .string "a")]]),
            ("my post", [.object [("id", .string "b")]])] } [] =
        .ok {
          collections := sampleTwins.collections.map sampleTwin
          store := [("my-post", [.object [("id", .string "a")]]),
            ("my post", [.object [("id", .string "b")]])] } ∧
      Schema.build (sampleTwins.collections.map sampleTwin) =
        .error (.fieldClash "Query" "my_post") ∧
      ¬ Schema.HandsDistinct (sampleTwins.collections.map sampleTwin) := by
  have clashes : Schema.build (sampleTwins.collections.map sampleTwin) =
      .error (.fieldClash "Query" "my_post") := by
    with_unfolding_all rfl
  refine ⟨?valid, ?graph, clashes, fun hands => hands.1 ⟨_, _, clashes⟩⟩
  case valid => with_unfolding_all rfl
  case graph => with_unfolding_all rfl

end ContentGraph.Site
