import ContentGraph.Proofs.Graph.RelatedListing
import ContentGraph.Proofs.Graph.RelationFilter

/-!
Contract: filters whose comparators are put together.

Owns:
- `Sift.ClearOf`, that no comparator of a filter tests what hangs on the paths of another one;
- `accepts_joined`: a filter of the comparators of two filters that are clear of each other accepts
  the nodes that both accept;
- `passing_joined`: it keeps the reference values that both keep, in the collection's order;
- `passing_joined_fails_above`: it keeps less where one filter tests a relation or an object and the
  other one looks below it.

Does not own: how much hangs on what is selected below a path (`Proofs.Graph.ProjectedPaths`).
-/

namespace ContentGraph

open ContentGraph.Json ContentGraph.Filter

/-! ### Filters that are clear of each other -/

namespace Filter

/-- Where a comparator of a filter stands above a path of another filter, it tests nothing that hangs
on what is selected below its own path. -/
def Sift.ClearOf (dependence : Value.Path -> Dependence) (sift other : Sift) : Prop :=
  ∀ predicate ∈ sift, ∀ longer ∈ other, GoesOn predicate.path longer.path ->
    (dependence predicate.path).allows predicate.comparator = true

instance {dependence : Value.Path -> Dependence} {sift other : Sift} :
    Decidable (sift.ClearOf dependence other) :=
  inferInstanceAs (Decidable (∀ predicate ∈ sift, ∀ longer ∈ other, _))

variable {first second : Manifest} {query : Value.Path} {sift : Sift} {referenceField : String}

theorem Selection.under_ofManifest_append_left
    (ends : ∀ entry ∈ second, query <+: entry.path -> entry.path = query) :
    (ofManifest (first ++ second) referenceField).under query =
      (ofManifest first referenceField).under query := by
  rw [ofManifest_append]
  exact under_insertAll ends

theorem Selection.under_ofManifest_append_right
    (ends : ∀ entry ∈ first, query <+: entry.path -> entry.path = query) :
    (ofManifest (first ++ second) referenceField).under query =
      (ofManifest second referenceField).under query := by
  rw [ofManifest_append]
  exact under_insertAll_congr (under_insertAll ends) second

theorem Sift.ends_of_not_goesOn (isSift : Sift.ofManifest second = .ok sift)
    (ends : ∀ longer ∈ sift, ¬ GoesOn query longer.path) :
    ∀ entry ∈ second, query <+: entry.path -> entry.path = query := by
  intro entry member isPrefix
  obtain ⟨longer, isLonger, samePath⟩ := List.mem_map.mp
    ((map_path_of_ofManifest isSift).symm ▸ List.mem_map_of_mem (f := Entry.path) member)
  by_contra differ
  exact ends longer isLonger (samePath ▸ ⟨isPrefix, differ⟩)

end Filter

/-! ### What a filter sees of a joined projection -/

namespace Graph

variable {graph : Graph} {collection : Collection} {name : String} {first second joined : Value}
  {own other all : Manifest} {sift otherSift firstSift secondSift : Sift}
  {node projected projectedAll : Value} {nodes : List Value} {keys firstKeys secondKeys : List String}

/-- A filter that is clear of another one tests the projection for both as it tests its own. -/
private theorem testAt_of_clearOf (legal : graph.LegalNames) (legalOwn : collection.LegalNames)
    (isSift : Sift.ofManifest own = .ok sift) (isOther : Sift.ofManifest other = .ok otherSift)
    (holds : ∀ entry ∈ own, entry ∈ all)
    (clear : sift.ClearOf (graph.dependence · collection.shape collection.relations) otherSift)
    (sameUnder : ∀ query : Value.Path,
      (∀ entry ∈ other, query <+: entry.path -> entry.path = query) ->
        (collection.selection all).under query = (collection.selection own).under query)
    (isProjected : Projection.node graph collection node (collection.selection own) =
      .ok projected)
    (isProjectedAll : Projection.node graph collection node (collection.selection all) =
      .ok projectedAll) :
    sift.testAt projectedAll.follow? = sift.test projected := by
  obtain ⟨out, isOut, rfl⟩ := map_eq_ok.mp isProjected
  obtain ⟨outAll, isOutAll, rfl⟩ := map_eq_ok.mp isProjectedAll
  rw [Sift.test_eq_testAt]
  refine Sift.testAt_congr fun predicate member => ?_
  obtain ⟨below, isBelow, _⟩ :=
    Sift.exists_at?_of_mem isSift member collection.referenceFieldName
  obtain ⟨belowAll, isBelowAll⟩ :
      ∃ belowAll, (collection.selection all).at? predicate.path = some belowAll := by
    refine Option.isSome_iff_exists.mp (Selection.isSome_at?_ofManifest.mpr (.inr ?_))
    obtain ⟨entry, isEntry, samePath⟩ := List.mem_map.mp
      (Sift.map_path_of_ofManifest isSift ▸ List.mem_map_of_mem (f := Predicate.path) member)
    exact ⟨entry, holds entry isEntry, samePath ▸ List.prefix_rfl⟩
  obtain ⟨same, keeps⟩ := Projection.keepsAt legal predicate.path legalOwn.shape legalOwn.relations
    isOutAll isOut isBelowAll isBelow
  by_cases goesOn : ∃ longer ∈ otherSift, Sift.GoesOn predicate.path longer.path
  · obtain ⟨longer, isLonger, isBelowIt⟩ := goesOn
    exact Dependence.test_of_keeps keeps (clear predicate member longer isLonger isBelowIt)
  · have sameBelow : belowAll = below := by
      rw [← Selection.under_of_at? isBelowAll, ← Selection.under_of_at? isBelow]
      refine sameUnder predicate.path (Sift.ends_of_not_goesOn isOther fun longer isLonger below => ?_)
      exact goesOn ⟨longer, isLonger, below⟩
    rw [same sameBelow]

/-- A joined filter accepts what both of its parts accept, where it and they can be tested. -/
theorem accepts_joined (legal : graph.LegalNames) (legalOwn : collection.LegalNames)
    (isJoined : manifest joined = manifest first ++ manifest second)
    (isFirst : Sift.compile first = .ok firstSift) (isSecond : Sift.compile second = .ok secondSift)
    (clearFirst : firstSift.ClearOf (graph.dependence · collection.shape collection.relations)
      secondSift)
    (clearSecond : secondSift.ClearOf (graph.dependence · collection.shape collection.relations)
      firstSift)
    (testsFirst : graph.Tests collection firstSift (collection.selection (manifest first)) node)
    (testsSecond : graph.Tests collection secondSift (collection.selection (manifest second)) node)
    (testsJoined : graph.Tests collection (firstSift ++ secondSift)
      (collection.selection (manifest joined)) node) :
    graph.accepts collection joined node =
      (graph.accepts collection first node && graph.accepts collection second node) := by
  obtain ⟨projectedFirst, isProjectedFirst, passesFirst, isTestedFirst⟩ := testsFirst
  obtain ⟨projectedSecond, isProjectedSecond, passesSecond, isTestedSecond⟩ := testsSecond
  obtain ⟨projectedJoined, isProjectedJoined, _⟩ := testsJoined
  have isAll : Sift.ofManifest (manifest joined) = .ok (firstSift ++ secondSift) :=
    isJoined ▸ Sift.ofManifest_append isFirst isSecond
  have seesFirst : firstSift.testAt projectedJoined.follow? = .ok passesFirst := by
    rw [isJoined] at isProjectedJoined
    rw [testAt_of_clearOf legal legalOwn isFirst isSecond
      (fun _ member => List.mem_append_left _ member) clearFirst
      (fun _ ends => Selection.under_ofManifest_append_left ends) isProjectedFirst isProjectedJoined,
      isTestedFirst]
  have seesSecond : secondSift.testAt projectedJoined.follow? = .ok passesSecond := by
    rw [isJoined] at isProjectedJoined
    rw [testAt_of_clearOf legal legalOwn isSecond isFirst
      (fun _ member => List.mem_append_right _ member) clearSecond
      (fun _ ends => Selection.under_ofManifest_append_right ends) isProjectedSecond
      isProjectedJoined, isTestedSecond]
  have isTested : (firstSift ++ secondSift).test projectedJoined =
      .ok (passesFirst && passesSecond) := by
    rw [Sift.test_eq_testAt, Sift.testAt_append, seesFirst, seesSecond]
    cases passesFirst <;> rfl
  have isFirstSift : Sift.ofManifest (manifest first) = .ok firstSift := isFirst
  have isSecondSift : Sift.ofManifest (manifest second) = .ok secondSift := isSecond
  simp [accepts, isAll, isFirstSift, isSecondSift, isProjectedJoined, isProjectedFirst,
    isProjectedSecond, isTested, isTestedFirst, isTestedSecond]

/-! ### Reference values -/

private theorem mem_keys_iff (distinct : (nodes.filterMap collection.keyOf?).Nodup)
    {chosen : Value -> Bool} (member : node ∈ nodes) {key : String}
    (keyed : collection.keyOf? node = some key) :
    key ∈ (nodes.filter chosen).filterMap collection.keyOf? ↔ chosen node = true := by
  constructor
  · intro isKey
    obtain ⟨twin, isChosen, twinKeyed⟩ := List.mem_filterMap.mp isKey
    obtain ⟨isTwin, chooses⟩ := List.mem_filter.mp isChosen
    rwa [eq_of_distinct distinct member isTwin keyed twinKeyed]
  · intro isChosen
    exact List.mem_filterMap.mpr ⟨node, List.mem_filter.mpr ⟨member, isChosen⟩, keyed⟩

private theorem keys_of_both (distinct : (nodes.filterMap collection.keyOf?).Nodup)
    (chosen alsoChosen : Value -> Bool) :
    (nodes.filter fun node => chosen node && alsoChosen node).filterMap collection.keyOf? =
      (nodes.filterMap collection.keyOf?).filter fun key =>
        key ∈ (nodes.filter chosen).filterMap collection.keyOf? ∧
          key ∈ (nodes.filter alsoChosen).filterMap collection.keyOf? := by
  rw [List.filterMap_filter, List.filter_filterMap]
  refine List.filterMap_congr fun node member => ?_
  cases keyed : collection.keyOf? node with
  | none => simp
  | some key =>
      simp only [Option.filter_some, mem_keys_iff distinct member keyed, Bool.and_eq_true,
        decide_eq_true_eq]

end Graph

namespace Site

variable {State : Type}

/-- Comparators of one filter are independent as long as none tests what hangs on the others.  In a
built site, whatever its store holds, let the comparators of a filter be those of two filters that
are clear of each other.  Where all three succeed on a collection with distinct reference values,
the joined filter keeps the reference values that both keep, in the collection's order. -/
theorem passing_joined (config : Config) (source : Content.Source State) (state : State)
    (registry : Content.Registry) (site : Graph)
    (built : graphOf config source state registry = .ok site) (store : Store)
    (collection : Collection) (isCollection : collection ∈ site.collections)
    (distinct : ((store.nodes collection.name).filterMap collection.keyOf?).Nodup)
    (first second joined : Value) (isJoined : manifest joined = manifest first ++ manifest second)
    (firstSift secondSift : Sift) (isFirst : Sift.compile first = .ok firstSift)
    (isSecond : Sift.compile second = .ok secondSift) :
    let graph : Graph := { site with store }
    let dependence (path : Value.Path) : Dependence :=
      graph.dependence path collection.shape collection.relations
    firstSift.ClearOf dependence secondSift -> secondSift.ClearOf dependence firstSift ->
      ∀ firstKeys secondKeys keys, graph.passing first collection.name = .ok firstKeys ->
        graph.passing second collection.name = .ok secondKeys ->
        graph.passing joined collection.name = .ok keys ->
          keys = ((graph.nodes collection.name).filterMap collection.keyOf?).filter fun key =>
            key ∈ firstKeys ∧ key ∈ secondKeys := by
  intro graph dependence clearFirst clearSecond firstKeys secondKeys keys passingFirst
    passingSecond passingJoined
  have legal : graph.LegalNames := fun own member => legalNames_of_graphOf built own member
  have known : graph.collection collection.name = .ok collection :=
    (collection_of_graphOf built isCollection : site.collection collection.name = _)
  have isAll : Sift.ofManifest (manifest joined) = .ok (firstSift ++ secondSift) :=
    isJoined ▸ Sift.ofManifest_append isFirst isSecond
  have acceptsBoth : ∀ node ∈ graph.nodes collection.name,
      graph.accepts collection joined node =
        (graph.accepts collection first node && graph.accepts collection second node) :=
    fun node member => Graph.accepts_joined legal (legal collection isCollection) isJoined isFirst
      isSecond clearFirst clearSecond
      ((Graph.exists_passing_iff known isFirst).mp ⟨firstKeys, passingFirst⟩ node member)
      ((Graph.exists_passing_iff known isSecond).mp ⟨secondKeys, passingSecond⟩ node member)
      ((Graph.exists_passing_iff known isAll).mp ⟨keys, passingJoined⟩ node member)
  rw [Graph.passing_eq known passingFirst, Graph.passing_eq known passingSecond,
    Graph.passing_eq known passingJoined, List.filter_congr acceptsBoth]
  exact Graph.keys_of_both distinct _ _

/-- A filter that looks for an object field. -/
def sampleFirstFilter : Value :=
  .object [("meta", .object [("exists", .bool true)])]

/-- A filter that looks into the same field, and below a relation. -/
def sampleSecondFilter : Value :=
  .object [("meta", .object [("a", .object [("eq", .string "u")])]),
    ("author", .object [("name", .object [("eq", .string "Eva")])])]

/-- The comparators of `sampleFirstFilter` and `sampleSecondFilter`. -/
def sampleJoinedFilter : Value :=
  .object [("meta", .object [("exists", .bool true), ("a", .object [("eq", .string "u")])]),
    ("author", .object [("name", .object [("eq", .string "Eva")])])]

theorem passing_joined_sampleReviews :
    sampleReviewGraph.passing sampleFirstFilter "Post" = .ok ["p1", "p2"] ∧
      sampleReviewGraph.passing sampleSecondFilter "Post" = .ok ["p1"] ∧
      sampleReviewGraph.passing sampleJoinedFilter "Post" = .ok ["p1"] := by
  have passingFirst : sampleReviewGraph.passing sampleFirstFilter "Post" = .ok ["p1", "p2"] := by
    cbv
  have passingSecond : sampleReviewGraph.passing sampleSecondFilter "Post" = .ok ["p1"] := by
    cbv
  have passes : (sampleReviewGraph.passing sampleJoinedFilter "Post").isOk = true := by
    cbv
  refine ⟨passingFirst, passingSecond, ?_⟩
  cases passing : sampleReviewGraph.passing sampleJoinedFilter "Post" with
  | error failure => simp [passing, Except.isOk, Except.toBool] at passes
  | ok keys =>
      have both := passing_joined sampleReviews Content.MemoryStore.source sampleReviewStore []
        sampleReviewGraph graphOf_sampleReviews sampleReviewStore.collections sampleReviewedPosts
        List.mem_cons_self (by decide) sampleFirstFilter sampleSecondFilter sampleJoinedFilter
        (by decide) _ _ rfl rfl (by decide) (by decide) ["p1", "p2"] ["p1"] keys passingFirst
        passingSecond passing
      rw [both]
      decide

/-- A joined filter keeps less where a comparator of one filter stands above a path of the other: a
relation gives its reference value only where nothing is selected below it, and an object shows only
what is selected of it.  Each line has two filters that keep a post, and the filter with the
comparators of both, which does not. -/
theorem passing_joined_fails_above :
    graphOf sampleReviews Content.MemoryStore.source sampleReviewStore [] =
        .ok sampleReviewGraph ∧
      sampleReviewedPosts ∈ sampleReviewGraph.collections ∧
      ((sampleReviewGraph.nodes "Post").filterMap sampleReviewedPosts.keyOf?).Nodup ∧
      ∀ failing ∈ [
          (Value.object [("author", .object [("eq", .string "a")])],
            Value.object [("author", .object [("name", .object [("eq", .string "Eva")])])],
            Value.object [("author", .object [("eq", .string "a"),
              ("name", .object [("eq", .string "Eva")])])]),
          (.object [("meta", .object [("in", .array [
              .object [("a", .string "u"), ("b", .string "v")]])])],
            .object [("meta", .object [("a", .object [("eq", .string "u")])])],
            .object [("meta", .object [("in", .array [
                .object [("a", .string "u"), ("b", .string "v")]]),
              ("a", .object [("eq", .string "u")])])])],
        manifest failing.2.2 = manifest failing.1 ++ manifest failing.2.1 ∧
          sampleReviewGraph.passing failing.1 "Post" = .ok ["p1"] ∧
          sampleReviewGraph.passing failing.2.1 "Post" = .ok ["p1"] ∧
          sampleReviewGraph.passing failing.2.2 "Post" = .ok [] := by
  refine ⟨graphOf_sampleReviews, List.mem_cons_self, by decide, ?_⟩
  simp only [List.forall_mem_cons]
  refine ⟨⟨by decide, ?_, ?_, ?_⟩, ⟨by decide, ?_, ?_, ?_⟩, List.forall_mem_nil _⟩ <;> cbv

end Site

end ContentGraph
