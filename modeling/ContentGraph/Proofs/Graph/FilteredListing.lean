import ContentGraph.Graph.Listing
import ContentGraph.Proofs.Success
import ContentGraph.Shape.Reduce
import Mathlib

/-!
Contract: what a filtered listing keeps.

Owns:
- `Graph.accepts`, whether a node's projection passes a filter;
- `passingKeys_eq`: the reference values that survive a filter are those of the accepted nodes, and
  `exists_passing_iff`: a filter succeeds when it can be tested on every node;
- `list_filtered`: a filtered listing of all nodes has the reference values of the accepted nodes
  that have one, and is these nodes themselves where no rejected node comes before an accepted one
  of its reference value;
- `list_filtered_drops_keyless`: an accepted node without a reference value is left out.
-/

namespace ContentGraph

open ContentGraph.Json ContentGraph.Filter

namespace Graph

/-! ### The reference values that survive a filter -/

/-- Whether the projection of a node passes a filter, where it can be tested. -/
def accepts (graph : Graph) (collection : Collection) (filter node : Value) : Bool :=
  let entries := manifest filter
  match Sift.ofManifest entries with
  | .ok sift =>
      match Projection.node graph collection node (collection.selection entries) with
      | .ok projected =>
          match sift.test projected with
          | .ok passes => passes
          | .error _ => false
      | .error _ => false
  | .error _ => false

variable {graph : Graph} {collection : Collection} {filter : Value} {name : String}
  {keys : List String} {nodes : List Value}

/-- The reference values that survive are those of the accepted nodes, in order. -/
theorem passingKeys_eq {sift : Sift} (isSift : Sift.ofManifest (manifest filter) = .ok sift)
    (passing : graph.passingKeys collection sift (collection.selection (manifest filter)) nodes =
      .ok keys) :
    keys = (nodes.filter (graph.accepts collection filter)).filterMap collection.keyOf? := by
  induction nodes generalizing keys with
  | nil =>
      cases passing
      rfl
  | cons node rest inductionHypothesis =>
      obtain ⟨projected, isProjected, passes, isTested, others, passingRest, isKeys⟩ := by
        simpa only [passingKeys, bind_eq_ok] using passing
      cases isKeys
      have accepted : graph.accepts collection filter node = passes := by
        simp [accepts, isSift, isProjected, isTested]
      rw [inductionHypothesis passingRest, List.filter_cons, accepted]
      cases passes with
      | false => rfl
      | true => cases held : collection.keyOf? node <;> simp [held]

/-- A node can be projected onto a selection and tested. -/
def Tests (graph : Graph) (collection : Collection) (sift : Sift) (selection : Selection)
    (node : Value) : Prop :=
  ∃ projected, Projection.node graph collection node selection = .ok projected ∧
    ∃ passes, sift.test projected = .ok passes

/-- Filtering succeeds when every node can be projected and tested. -/
theorem exists_passingKeys_iff {sift : Sift} {selection : Selection} :
    (∃ keys, graph.passingKeys collection sift selection nodes = .ok keys) ↔
      ∀ node ∈ nodes, graph.Tests collection sift selection node := by
  induction nodes with
  | nil => simp [passingKeys]
  | cons first rest inductionHypothesis =>
      rw [List.forall_mem_cons, ← inductionHypothesis]
      simp only [passingKeys, bind_eq_ok, Except.ok.injEq]
      constructor
      · rintro ⟨_, projected, isProjected, passes, isTested, others, passingRest, _⟩
        exact ⟨⟨projected, isProjected, passes, isTested⟩, others, passingRest⟩
      · rintro ⟨⟨projected, isProjected, passes, isTested⟩, others, passingRest⟩
        exact ⟨_, projected, isProjected, passes, isTested, others, passingRest, rfl⟩

theorem passing_eq (known : graph.collection name = .ok collection)
    (passing : graph.passing filter name = .ok keys) :
    keys = ((graph.nodes name).filter (graph.accepts collection filter)).filterMap
      collection.keyOf? := by
  obtain ⟨own, isOwn, sift, isSift, passingAll⟩ := by
    simpa only [Graph.passing, bind_eq_ok] using passing
  cases known.symm.trans isOwn
  exact passingKeys_eq isSift passingAll

theorem exists_passing_iff {sift : Sift} (known : graph.collection name = .ok collection)
    (isSift : Sift.ofManifest (manifest filter) = .ok sift) :
    (∃ keys, graph.passing filter name = .ok keys) ↔
      ∀ node ∈ graph.nodes name,
        graph.Tests collection sift (collection.selection (manifest filter)) node := by
  rw [← exists_passingKeys_iff]
  simp only [Graph.passing, bind_eq_ok, known, isSift, Except.ok.injEq, exists_eq_left']

/-! ### Distinct reference values -/

theorem pairwise_of_distinct (distinct : (nodes.filterMap collection.keyOf?).Nodup) :
    nodes.Pairwise fun earlier later =>
      ∀ key, collection.keyOf? earlier = some key -> collection.keyOf? later ≠ some key := by
  refine (List.pairwise_filterMap.mp distinct).imp fun apart key isEarlier isLater => ?_
  exact apart key isEarlier key isLater rfl

/-- Where reference values are distinct, one node has a reference value at most. -/
theorem eq_of_distinct (distinct : (nodes.filterMap collection.keyOf?).Nodup) {node other : Value}
    (isNode : node ∈ nodes) (isOther : other ∈ nodes) {key : String}
    (keyed : collection.keyOf? node = some key) (otherKeyed : collection.keyOf? other = some key) :
    node = other := by
  have apart := pairwise_of_distinct distinct
  clear distinct
  induction nodes with
  | nil => cases isNode
  | cons first rest inductionHypothesis =>
      obtain ⟨firstApart, restApart⟩ := List.pairwise_cons.mp apart
      rcases List.mem_cons.mp isNode with rfl | nodeInRest
      · rcases List.mem_cons.mp isOther with rfl | otherInRest
        · rfl
        · exact absurd otherKeyed (firstApart other otherInRest key keyed)
      · rcases List.mem_cons.mp isOther with rfl | otherInRest
        · exact absurd keyed (firstApart node nodeInRest key otherKeyed)
        · exact inductionHypothesis nodeInRest otherInRest restApart

/-! ### Taking nodes by their reference values -/

/-- Taking the first node of a reference value takes one of that value out. -/
theorem takeKey_of_held {key : String} (held : key ∈ nodes.filterMap collection.keyOf?) :
    ∃ node others, takeKey collection key nodes = some (node, others) ∧
      collection.keyOf? node = some key ∧
      (nodes.filterMap collection.keyOf?).Perm (key :: others.filterMap collection.keyOf?) := by
  induction nodes with
  | nil => cases held
  | cons first rest inductionHypothesis =>
      by_cases isFirst : collection.hasKey key first = true
      · have ownKey : collection.keyOf? first = some key := by
          simpa [Collection.hasKey] using isFirst
        exact ⟨first, rest, by simp [takeKey, isFirst], ownKey, by simp [ownKey]⟩
      · have otherKey : collection.keyOf? first ≠ some key := by
          simpa [Collection.hasKey] using isFirst
        have heldRest : key ∈ rest.filterMap collection.keyOf? := by
          cases keyed : collection.keyOf? first with
          | none => simpa [keyed] using held
          | some other =>
              have different : key ≠ other := fun same => otherKey (keyed.trans (same ▸ rfl))
              simpa [keyed, different] using held
        obtain ⟨node, others, taken, ownKey, permutation⟩ := inductionHypothesis heldRest
        refine ⟨node, first :: others, by simp [takeKey, isFirst, taken], ownKey, ?_⟩
        cases keyed : collection.keyOf? first with
        | none => simpa [keyed] using permutation
        | some other =>
            simp only [List.filterMap_cons, keyed]
            exact (permutation.cons other).trans (.swap key other _)

/-- Nodes taken by reference values that are all held have these reference values. -/
theorem map_keyOf?_takeKeys (held : keys.Subperm (nodes.filterMap collection.keyOf?)) :
    (takeKeys collection keys nodes).map collection.keyOf? = keys.map some := by
  induction keys generalizing nodes with
  | nil => rfl
  | cons key rest inductionHypothesis =>
      obtain ⟨node, others, taken, ownKey, permutation⟩ :=
        takeKey_of_held (held.subset List.mem_cons_self)
      have heldRest := (List.subperm_cons key).mp (held.trans permutation.subperm)
      simp [takeKeys, taken, ownKey, inductionHypothesis heldRest]

/-- A node whose reference value is not asked for is passed over. -/
theorem takeKeys_cons_of_other {node : Value}
    (other : ∀ key ∈ keys, collection.keyOf? node ≠ some key) :
    takeKeys collection keys (node :: nodes) = takeKeys collection keys nodes := by
  induction keys generalizing nodes with
  | nil => rfl
  | cons key rest inductionHypothesis =>
      obtain ⟨otherKey, otherRest⟩ := List.forall_mem_cons.mp other
      have passed : collection.hasKey key node = false := by simp [Collection.hasKey, otherKey]
      cases taken : takeKey collection key nodes with
      | none => simp [takeKeys, takeKey, passed, taken, inductionHypothesis otherRest]
      | some found =>
          obtain ⟨found, others⟩ := found
          simp [takeKeys, takeKey, passed, taken, inductionHypothesis otherRest]

/-- Taking nodes by the reference values of chosen ones gives the chosen ones that have one, where
no other node comes before a chosen one of its reference value. -/
theorem takeKeys_of_chosen {chosen : Value -> Bool}
    (first : nodes.Pairwise fun earlier later => chosen later = true ->
      collection.keyOf? earlier = collection.keyOf? later -> collection.keyOf? later ≠ none ->
        chosen earlier = true) :
    takeKeys collection ((nodes.filter chosen).filterMap collection.keyOf?) nodes =
      nodes.filter fun node => chosen node && (collection.keyOf? node).isSome := by
  induction nodes with
  | nil => rfl
  | cons node rest inductionHypothesis =>
      obtain ⟨firstOfKey, firstRest⟩ := List.pairwise_cons.mp first
      have takenRest := inductionHypothesis firstRest
      cases keyed : collection.keyOf? node with
      | none =>
          have sameKeys : ((node :: rest).filter chosen).filterMap collection.keyOf? =
              (rest.filter chosen).filterMap collection.keyOf? := by
            cases isChosen : chosen node <;> simp [isChosen, keyed]
          rw [sameKeys, takeKeys_cons_of_other (by simp [keyed]), takenRest]
          simp [keyed]
      | some key =>
          cases isChosen : chosen node with
          | true =>
              simp [isChosen, keyed, takeKeys, takeKey, Collection.hasKey, takenRest]
          | false =>
              -- A later chosen node of this reference value would make this one chosen too.
              have notAsked : ∀ asked ∈ (rest.filter chosen).filterMap collection.keyOf?,
                  collection.keyOf? node ≠ some asked := by
                intro asked isAsked sameKey
                obtain ⟨later, member, laterKey⟩ := List.mem_filterMap.mp isAsked
                obtain ⟨inRest, isLater⟩ := List.mem_filter.mp member
                have chosenFirst := firstOfKey later inRest isLater
                  (sameKey.trans laterKey.symm) (by simp [laterKey])
                cases isChosen.symm.trans chosenFirst
              simp only [List.filter_cons, isChosen, Bool.false_eq_true, ↓reduceIte,
                Bool.false_and]
              rw [takeKeys_cons_of_other notAsked, takenRest]

private theorem map_keyOf?_filter {chosen : Value -> Bool} :
    (nodes.filter fun node => chosen node && (collection.keyOf? node).isSome).map
        collection.keyOf? =
      ((nodes.filter chosen).filterMap collection.keyOf?).map some := by
  induction nodes with
  | nil => rfl
  | cons node rest inductionHypothesis =>
      cases isChosen : chosen node <;> cases keyed : collection.keyOf? node <;>
        simpa [isChosen, keyed] using inductionHypothesis

/-! ### Filtered listings -/

/-- No rejected node comes before an accepted one of its reference value. -/
def AcceptedFirst (graph : Graph) (collection : Collection) (filter : Value)
    (nodes : List Value) : Prop :=
  nodes.Pairwise fun earlier later => graph.accepts collection filter later = true ->
    collection.keyOf? earlier = collection.keyOf? later -> collection.keyOf? later ≠ none ->
      graph.accepts collection filter earlier = true

/-- A listing with a filter that has comparators, and that can be tested on every node of the
collection, has the reference values of the accepted nodes, in the collection's order and each as
often as it is accepted.  It is the accepted nodes that have a reference value, each as often as it
is stored, where no rejected node comes before an accepted one of its reference value. -/
theorem list_filtered (graph : Graph) (name : String) (collection : Collection)
    (known : graph.collection name = .ok collection) (filter : Value)
    (compares : manifest filter ≠ []) (keys : List String)
    (passing : graph.passing filter name = .ok keys) :
    let accepted := (graph.nodes name).filter fun node =>
      graph.accepts collection filter node && (collection.keyOf? node).isSome
    ∃ listed, graph.list name { filter := some filter } (graph.nodes name) = .ok listed ∧
      listed.map collection.keyOf? = accepted.map collection.keyOf? ∧
      (graph.AcceptedFirst collection filter (graph.nodes name) -> listed = accepted) := by
  intro accepted
  have isKeys := passing_eq known passing
  refine ⟨takeKeys collection keys (graph.nodes name), ?_, ?_, ?_⟩
  · simp [list, known, filterNodes, compares, passing, sortNodes, page, bind, Except.bind,
      Except.map]
  · have held : keys.Subperm ((graph.nodes name).filterMap collection.keyOf?) := by
      rw [isKeys]
      exact (List.filter_sublist.filterMap collection.keyOf?).subperm
    rw [map_keyOf?_takeKeys held, map_keyOf?_filter, isKeys]
  · intro first
    rw [isKeys]
    exact takeKeys_of_chosen first

/-- A collection of titled posts. -/
def sampleTitled : Collection where
  entry := { name := "Post", path := "posts" }
  shape := .unnamed "title" (.scalar .string) :: .unnamed "id" (.scalar .string) ::
    metadataFields.map fun key => .unnamed key (.scalar .string)

/-- The graph of a collection of titled posts. -/
def sampleTitles (nodes : List Value) : Graph where
  collections := [sampleTitled]
  store := [("Post", nodes)]

/-- A filter for the title `x`. -/
def sampleTitleFilter : Value :=
  .object [("title", .object [("eq", .string "x")])]

/-- Posts that share a reference value, the accepted one first, and one of another. -/
def sampleTitledPosts : List Value :=
  [.object [("title", .string "x"), ("id", .string "a")],
   .object [("title", .string "y"), ("id", .string "a")],
   .object [("title", .string "x"), ("id", .string "b")]]

theorem list_filtered_sampleTitledPosts :
    (sampleTitles sampleTitledPosts).list "Post" { filter := some sampleTitleFilter }
        sampleTitledPosts =
      .ok [.object [("title", .string "x"), ("id", .string "a")],
        .object [("title", .string "x"), ("id", .string "b")]] := by
  have passing : (sampleTitles sampleTitledPosts).passing sampleTitleFilter "Post" =
      .ok ["a", "b"] := by
    cbv
  have accepted : sampleTitledPosts.map
      ((sampleTitles sampleTitledPosts).accepts sampleTitled sampleTitleFilter) =
        [true, false, true] := by
    cbv
  have first : (sampleTitles sampleTitledPosts).AcceptedFirst sampleTitled sampleTitleFilter
      sampleTitledPosts := by
    simp only [sampleTitledPosts, List.map_cons, List.map_nil, List.cons.injEq, and_true]
      at accepted
    have others : sampleTitled.keyOf? (.object [("title", .string "y"), ("id", .string "a")]) ≠
        sampleTitled.keyOf? (.object [("title", .string "x"), ("id", .string "b")]) := by
      decide
    simp [AcceptedFirst, sampleTitledPosts, accepted, others]
  obtain ⟨listed, isListed, _, exact_of_first⟩ := list_filtered (sampleTitles sampleTitledPosts)
    "Post" sampleTitled rfl sampleTitleFilter (by decide) ["a", "b"] passing
  rw [exact_of_first first] at isListed
  refine isListed.trans ?_
  cbv

/-- Posts that both pass the filter, one of them without a reference value. -/
def sampleKeylessPosts : List Value :=
  [.object [("title", .string "x")], .object [("title", .string "x"), ("id", .string "a")]]

/-- An accepted node without a reference value is left out of a filtered listing. -/
theorem list_filtered_drops_keyless :
    (sampleTitles sampleKeylessPosts).collection "Post" = .ok sampleTitled ∧
      manifest sampleTitleFilter ≠ [] ∧
      (sampleTitles sampleKeylessPosts).passing sampleTitleFilter "Post" = .ok ["a"] ∧
      sampleKeylessPosts.map
          ((sampleTitles sampleKeylessPosts).accepts sampleTitled sampleTitleFilter) =
        [true, true] ∧
      (sampleTitles sampleKeylessPosts).list "Post" { filter := some sampleTitleFilter }
          sampleKeylessPosts =
        .ok [.object [("title", .string "x"), ("id", .string "a")]] :=
  ⟨rfl, by decide, by cbv, by cbv, by cbv⟩

end Graph

end ContentGraph
