import ContentGraph.Proofs.Graph.FilteredListing
import ContentGraph.Proofs.Graph.ProjectedPaths
import ContentGraph.Proofs.Site.SchemaNames

/-!
Contract: filters on the fields of related nodes.

Owns:
- `Filter.eqBelow`, the filter for a value of a field of related nodes, and `Graph.Reaches`, that
  some related node has this value;
- `passing_eqBelow`: of a relation to many, such a filter keeps no node, whatever it refers to;
- `passing_misses_related`: a filter misses a node although a related node has the value.

Does not own: what projections hold below relations (`Proofs.Graph.ProjectedPaths`).
-/

namespace ContentGraph

open ContentGraph.Json ContentGraph.Filter

/-! ### The filter -/

namespace Filter

/-- The filter for a value of a field below another one. -/
def eqBelow (outer inner : String) (value : Value) : Value :=
  .object [(outer, .object [(inner, .object [("eq", value)])])]

variable {outer inner reference : String} {value : Value}

theorem manifest_eqBelow (single : value.isSingle = true) :
    manifest (eqBelow outer inner value) = [⟨[outer, inner], "eq", value⟩] := by
  have leaf : value.leaves = [([], value)] := by
    cases value with
    | array _ | object _ => cases single
    | _ => rfl
  simp [manifest, eqBelow, Value.flatten, Value.leavesOfFields, Value.leaves, leaf, Entry.ofLeaf?]

theorem sift_eqBelow (single : value.isSingle = true) :
    Sift.ofManifest (manifest (eqBelow outer inner value)) =
      .ok [⟨[outer, inner], .equals true value⟩] := by
  rw [manifest_eqBelow single]
  rfl

theorem fields_ofManifest_eqBelow (single : value.isSingle = true) :
    (Selection.ofManifest (manifest (eqBelow outer inner value)) reference).fields =
      if reference = outer then [(outer, .mk [(inner, .empty)])]
      else [(reference, .empty), (outer, .mk [(inner, .empty)])] := by
  rw [manifest_eqBelow single]
  by_cases same : reference = outer
  · simp [Selection.ofManifest, Selection.insert, Selection.set, Selection.child, Selection.fields,
      Selection.empty, same]
  · have other : (outer == reference) = false := by simpa using Ne.symm same
    simp [Selection.ofManifest, Selection.insert, Selection.set, Selection.child, Selection.fields,
      Selection.empty, List.lookup_cons, same, other]

end Filter

/-! ### Projections -/

namespace Projection

variable {graph : Graph} {relation : Relation} {target : Collection} {field : Field}
  {form : Scalar} {typeName : String} {shape : Shape} {relations : List Relation}

private theorem exists_one_scalar (isField : shape.field? field.name = some field)
    (isScalar : field.kind = .scalar form) (raw : Value) :
    ∃ projected, one graph typeName shape relations raw field.name .empty = .ok projected := by
  unfold one
  split
  · exact ⟨_, if_pos rfl⟩
  · split
    · exact ⟨_, rfl⟩
    · simp only [isField, isScalar]
      cases form <;> exact ⟨_, rfl⟩

private theorem exists_one_many (isRelation :
      Collection.relation? relations relation.field = some relation)
    (toMany : relation.cardinality = .many)
    (known : graph.collection relation.target = .ok target)
    (isField : target.shape.field? field.name = some field) (isScalar : field.kind = .scalar form)
    (raw : Value) :
    ∃ projected, one graph typeName shape relations raw relation.field
      (.mk [(field.name, .empty)]) = .ok projected := by
  have each (found : Value) :
      ∃ out, node graph target found (.mk [(field.name, .empty)]) = .ok out :=
    exists_node_iff.mpr
      (List.forall_mem_singleton.mpr (exists_one_scalar isField isScalar found))
  obtain ⟨nodes, isReferred⟩ : ∃ nodes,
      referred graph relation (relation.value raw) = .ok (.many nodes) := by
    rw [referred, toMany, Graph.findMany, known]
    exact ⟨_, rfl⟩
  obtain ⟨outs, areMade⟩ := exists_targets fun found (_ : found ∈ nodes) => each found
  refine ⟨.array outs, ?_⟩
  rw [one, isRelation]
  simp only [relationBelow, Relation.value] at isReferred ⊢
  rw [known, isReferred]
  exact map_eq_ok.mpr ⟨outs, mapM_eq_ok.mpr areMade, rfl⟩

end Projection

/-! ### Nodes that are kept -/

namespace Graph

variable {graph : Graph} {collection target : Collection} {relation : Relation} {field : Field}
  {form : Scalar} {value : Value}

/-- Some node that a relation refers to has a value in a field, as the field is projected. -/
def Reaches (graph : Graph) (relation : Relation) (target : Collection) (field : Field)
    (value node : Value) : Prop :=
  ∃ found ∈ graph.referred target (relation.value node),
    strictEq (some ((found.field? field.sourceKey).getD .null)) value = true

variable {keys : List String} (legal : graph.LegalNames)
  (own : graph.collection collection.name = .ok collection)
  (isRelation : Collection.relation? collection.relations relation.field = some relation)
  (toMany : relation.cardinality = .many)

include isRelation toMany

private theorem exists_node_eqBelow (known : graph.collection relation.target = .ok target)
    (isField : target.shape.field? field.name = some field) (isScalar : field.kind = .scalar form)
    (single : value.isSingle = true) (node : Value) :
    (∃ projected, Projection.node graph collection node (collection.selection
        (manifest (eqBelow relation.field field.name value))) = .ok projected) ↔
      ∃ projected, Projection.node graph collection node (collection.selection []) =
        .ok projected := by
  have isOuter : ∃ projected, Projection.one graph collection.typeName collection.shape
      collection.relations node relation.field (.mk [(field.name, .empty)]) = .ok projected :=
    Projection.exists_one_many isRelation toMany known isField isScalar node
  have plainFields : (collection.selection []).fields =
      [(collection.referenceFieldName, .empty)] := rfl
  rw [Projection.exists_node_iff, Projection.exists_node_iff, plainFields, Collection.selection,
    fields_ofManifest_eqBelow single, List.forall_mem_singleton]
  split
  · next same =>
      -- a relation is projected without what it refers to where nothing is selected below it
      refine iff_of_true (List.forall_mem_singleton.mpr isOuter) ⟨relation.value node, ?_⟩
      rw [same, Projection.one, isRelation]
      rfl
  · rw [List.forall_mem_cons, List.forall_mem_singleton]
    exact and_iff_left isOuter

include legal in
private theorem test_eqBelow (single : value.isSingle = true) {node projected : Value}
    (isProjected : Projection.node graph collection node (collection.selection
      (manifest (eqBelow relation.field field.name value))) = .ok projected) :
    Sift.test [⟨[relation.field, field.name], .equals true value⟩] projected = .ok false := by
  have isAt : (collection.selection (manifest (eqBelow relation.field field.name value))).at?
      [relation.field, field.name] = some .empty := by
    rw [Selection.at?, Collection.selection, fields_ofManifest_eqBelow single]
    split
    · simp [Selection.at?, Selection.fields]
    · next other =>
        have passed : (relation.field == collection.referenceFieldName) = false := by
          simpa using Ne.symm other
        simp [Selection.at?, Selection.fields, List.lookup_cons, passed]
  obtain ⟨out, isOut, rfl⟩ := map_eq_ok.mp isProjected
  have nowhere := Projection.follow?_of_many legal isRelation toMany isOut isAt
  simp [Sift.test, Predicate.test, nowhere, Comparator.test, strictEq]

include legal own

private theorem exists_passing_eqBelow (known : graph.collection relation.target = .ok target)
    (isField : target.shape.field? field.name = some field) (isScalar : field.kind = .scalar form)
    (single : value.isSingle = true) :
    (∃ keys, graph.passing (eqBelow relation.field field.name value) collection.name = .ok keys) ↔
      ∃ keys, graph.passing (.object []) collection.name = .ok keys := by
  have noComparators : Sift.ofManifest (manifest (.object [])) = .ok [] := rfl
  rw [exists_passing_iff own (sift_eqBelow single), exists_passing_iff own noComparators]
  refine forall₂_congr fun node _ => ?_
  have projects := exists_node_eqBelow isRelation toMany known isField isScalar single node
  constructor
  · rintro ⟨projected, isProjected, _⟩
    obtain ⟨plain, isPlain⟩ := projects.mp ⟨projected, isProjected⟩
    exact ⟨plain, isPlain, true, rfl⟩
  · rintro ⟨plain, isPlain, _⟩
    obtain ⟨projected, isProjected⟩ := projects.mpr ⟨plain, isPlain⟩
    exact ⟨projected, isProjected, false, test_eqBelow legal isRelation toMany single isProjected⟩

private theorem eq_nil_of_passing_eqBelow (single : value.isSingle = true)
    (passing : graph.passing (eqBelow relation.field field.name value) collection.name = .ok keys) :
    keys = [] := by
  have isSift : Sift.ofManifest (manifest (eqBelow relation.field field.name value)) = _ :=
    sift_eqBelow single
  rw [passing_eq own passing, List.filter_eq_nil_iff.mpr, List.filterMap_nil]
  intro node member
  obtain ⟨projected, isProjected, _⟩ :=
    (exists_passing_iff own isSift).mp ⟨keys, passing⟩ node member
  have fails := test_eqBelow legal isRelation toMany single isProjected
  simp [accepts, isSift, isProjected, fails]

end Graph

namespace Site

variable {State : Type}

/-- A filter does not reach through a relation to many: what the relation refers to is projected as
a list, and the name of a field leads nowhere in it.  In a built site, whatever its store holds, the
filter for a single value of a scalar field below a relation to many succeeds where the filter
without comparators does, and keeps no node at all.  That is right as long as no node with a
reference value refers to a node with that value, and else wrong. -/
theorem passing_eqBelow (config : Config) (source : Content.Source State) (state : State)
    (registry : Content.Registry) (site : Graph)
    (built : graphOf config source state registry = .ok site) (store : Store)
    (collection : Collection) (isCollection : collection ∈ site.collections)
    (relation : Relation)
    (isRelation : Collection.relation? collection.relations relation.field = some relation)
    (toMany : relation.cardinality = .many)
    (target : Collection) (known : site.collection relation.target = .ok target)
    (field : Field) (isField : field ∈ target.shape)
    (form : Scalar) (isScalar : field.kind = .scalar form)
    (value : Value) (single : value.isSingle = true) :
    let graph : Graph := { site with store }
    let filter := eqBelow relation.field field.name value
    ((∃ keys, graph.passing filter collection.name = .ok keys) ↔
        ∃ keys, graph.passing (.object []) collection.name = .ok keys) ∧
      ∀ keys, graph.passing filter collection.name = .ok keys -> keys = [] ∧
        ((∀ node ∈ graph.nodes collection.name, ∀ key, collection.keyOf? node = some key ->
            (key ∈ keys ↔ graph.Reaches relation target field value node)) ↔
          ∀ node ∈ graph.nodes collection.name, collection.keyOf? node ≠ none ->
            ¬ graph.Reaches relation target field value node) := by
  intro graph filter
  have legal : graph.LegalNames := fun own member => legalNames_of_graphOf built own member
  have own : graph.collection collection.name = .ok collection :=
    (collection_of_graphOf built isCollection : site.collection collection.name = _)
  have isTarget : graph.collection relation.target = .ok target := known
  have distinct : target.shape.names.Nodup :=
    (distinctNames_of_graphOf built (Graph.mem_of_collection known)).1
  have isHeld := Shape.field?_of_mem distinct isField
  refine ⟨Graph.exists_passing_eqBelow legal own isRelation toMany isTarget isHeld isScalar single,
    fun keys passing => ?_⟩
  obtain rfl := Graph.eq_nil_of_passing_eqBelow legal own isRelation toMany single passing
  refine ⟨rfl, fun exact_of_key node member keyed reaches => ?_, fun noneReaches => ?_⟩
  · obtain ⟨key, isKey⟩ := Option.ne_none_iff_exists'.mp keyed
    cases (exact_of_key node member key isKey).mpr reaches
  · intro node member key isKey
    exact iff_of_false List.not_mem_nil (noneReaches node member (by simp [isKey]))

/-- Posts with an author and with reviewers, who are authors too. -/
def sampleReviews : Config where
  collections := [
    { name := "Post", path := "posts", refs := [("author", "Author"), ("reviewers", "Author")] },
    { name := "Author", path := "authors" }]

/-- A post with an author, one reviewer and a field with two texts. -/
def sampleReviewedPost : Value :=
  .object [("id", .string "p1"), ("author", .string "a"), ("reviewers", .array [.string "b"]),
    ("meta", .object [("a", .string "u"), ("b", .string "v")])]

def sampleReviewStore : Content.MemoryStore where
  collections := [
    ("Post", [sampleReviewedPost,
      .object [("id", .string "p2"), ("author", .string "b"), ("reviewers", .array []),
        ("meta", .object [("a", .string "w")])]]),
    ("Author", [.object [("id", .string "a"), ("name", .string "Eva")],
      .object [("id", .string "b"), ("name", .string "Tony")]])]

def sampleReviewersRelation : Relation :=
  ⟨"reviewers", "Author", .many, "reviewers"⟩

def sampleReviewedPosts : Collection :=
  sampleCollection
    { name := "Post", path := "posts", refs := [("author", "Author"), ("reviewers", "Author")] }
    [.unnamed "id" (.scalar .string), .unnamed "author" (.scalar .string),
      .unnamed "reviewers" (.list (.scalar .string)),
      .unnamed "meta" (.object [.unnamed "a" (.scalar .string), .unnamed "b" (.scalar .string)])]
    [sampleAuthorRelation, sampleReviewersRelation]

def sampleReviewers : Collection :=
  sampleCollection { name := "Author", path := "authors" }
    [.unnamed "id" (.scalar .string), .unnamed "name" (.scalar .string)] []

def sampleReviewGraph : Graph where
  collections := [sampleReviewedPosts, sampleReviewers]
  store := sampleReviewStore.collections

theorem graphOf_sampleReviews :
    graphOf sampleReviews Content.MemoryStore.source sampleReviewStore [] =
      .ok sampleReviewGraph := by
  with_unfolding_all rfl

theorem passing_eqBelow_sampleReviews :
    ∃ keys, sampleReviewGraph.passing (eqBelow "reviewers" "name" (.string "Tony")) "Post" =
      .ok keys ∧ keys = [] := by
  obtain ⟨succeeds, keepsNothing⟩ := passing_eqBelow sampleReviews Content.MemoryStore.source
    sampleReviewStore [] sampleReviewGraph graphOf_sampleReviews sampleReviewStore.collections
    sampleReviewedPosts List.mem_cons_self sampleReviewersRelation rfl rfl sampleReviewers rfl
    (.unnamed "name" (.scalar .string)) (List.mem_cons_of_mem _ List.mem_cons_self) .string rfl
    (.string "Tony") rfl
  obtain ⟨keys, isPassing⟩ := succeeds.mpr ⟨["p1", "p2"], by cbv⟩
  exact ⟨keys, isPassing, (keepsNothing keys isPassing).1⟩

/-- A post is not kept although one of its reviewers has the name that the filter asks for. -/
theorem passing_misses_related :
    graphOf sampleReviews Content.MemoryStore.source sampleReviewStore [] =
        .ok sampleReviewGraph ∧
      sampleReviewedPosts ∈ sampleReviewGraph.collections ∧
      Collection.relation? sampleReviewedPosts.relations "reviewers" =
        some sampleReviewersRelation ∧
      sampleReviewersRelation.cardinality = .many ∧
      sampleReviewGraph.collection "Author" = .ok sampleReviewers ∧
      .unnamed "name" (.scalar .string) ∈ sampleReviewers.shape ∧
      (∀ collection ∈ sampleReviewGraph.collections,
        ((sampleReviewGraph.nodes collection.name).filterMap collection.keyOf?).Nodup) ∧
      sampleReviewedPost ∈ sampleReviewGraph.nodes "Post" ∧
      sampleReviewedPosts.keyOf? sampleReviewedPost = some "p1" ∧
      sampleReviewGraph.Reaches sampleReviewersRelation sampleReviewers
        (.unnamed "name" (.scalar .string)) (.string "Tony") sampleReviewedPost ∧
      sampleReviewGraph.passing (eqBelow "reviewers" "name" (.string "Tony")) "Post" = .ok [] := by
  refine ⟨graphOf_sampleReviews, List.mem_cons_self, rfl, rfl, rfl,
    List.mem_cons_of_mem _ List.mem_cons_self, by decide, List.mem_cons_self, by decide, ?_, by cbv⟩
  exact ⟨.object [("id", .string "b"), ("name", .string "Tony")], by decide, by decide⟩

end Site

end ContentGraph
