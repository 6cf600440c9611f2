import ContentGraph.Proofs.Graph.FilteredListing
import ContentGraph.Proofs.Graph.NodeLookup

/-!
Contract: filtered listings of the nodes that some reference values refer to.

Owns:
- `Collection.isAmong`, whether a node is referred to by some reference values;
- `takeKey_eq_some_iff`: a node that is taken is the first of its reference value;
- `takeKeys_filter`: taking nodes by reference values commutes with keeping those referred to;
- `list_findMany`: a filtered listing of the nodes referred to is the filtered listing of the whole
  collection, cut down to them.

Does not own: which nodes of a collection a filter keeps (`Proofs.Graph.FilteredListing`).
-/

namespace ContentGraph

open ContentGraph.Json ContentGraph.Filter

/-- Whether the reference value of a node is among some keys. -/
def Collection.isAmong (collection : Collection) (keys : List String) (node : Value) : Bool :=
  (collection.keyOf? node).any keys.contains

theorem Collection.isAmong_of_keyOf? {collection : Collection} {keys : List String} {key : String}
    {node : Value} (keyed : collection.keyOf? node = some key) :
    collection.isAmong keys node = true ↔ key ∈ keys := by
  simp [isAmong, keyed]

namespace Graph

variable {graph : Graph} {collection : Collection} {name key : String} {keys asked : List String}
  {node : Value} {nodes others listed : List Value} {filter : Option Value}

theorem findMany_of_known (known : graph.collection name = .ok collection) (keys : List String) :
    graph.findMany name keys = .ok ((graph.nodes name).filter (collection.isAmong keys)) := by
  rw [findMany, known]
  rfl

/-! ### Taking nodes by their reference values -/

theorem takeKey_eq_none_iff :
    takeKey collection key nodes = none ↔ ∀ node ∈ nodes, collection.keyOf? node ≠ some key := by
  induction nodes with
  | nil => simp [takeKey]
  | cons first rest inductionHypothesis =>
      by_cases isFirst : collection.keyOf? first = some key
      · simp [takeKey, Collection.hasKey, isFirst]
      · simp [takeKey, Collection.hasKey, isFirst, inductionHypothesis]

/-- The node that is taken is the first of its reference value, and the others stay in order. -/
theorem takeKey_eq_some_iff :
    takeKey collection key nodes = some (node, others) ↔
      ∃ before after, nodes = before ++ node :: after ∧ others = before ++ after ∧
        collection.keyOf? node = some key ∧
        ∀ earlier ∈ before, collection.keyOf? earlier ≠ some key := by
  induction nodes generalizing others with
  | nil => simp [takeKey]
  | cons first rest inductionHypothesis =>
      by_cases isFirst : collection.keyOf? first = some key
      · simp only [takeKey, Collection.hasKey, isFirst, decide_true, if_true]
        constructor
        · intro taken
          cases taken
          exact ⟨[], rest, rfl, rfl, isFirst, List.forall_mem_nil _⟩
        · rintro ⟨_ | ⟨earlier, before⟩, after, same, rfl, keyed, noneBefore⟩
          · cases same
            rfl
          · cases same
            exact absurd isFirst (noneBefore first List.mem_cons_self)
      · simp only [takeKey, Collection.hasKey, isFirst, decide_false, Bool.false_eq_true, if_false,
          Option.map_eq_some_iff, Prod.exists, Prod.mk.injEq]
        constructor
        · rintro ⟨found, left, taken, rfl, rfl⟩
          obtain ⟨before, after, rfl, rfl, keyed, noneBefore⟩ := inductionHypothesis.mp taken
          exact ⟨first :: before, after, rfl, rfl, keyed,
            List.forall_mem_cons.mpr ⟨isFirst, noneBefore⟩⟩
        · rintro ⟨_ | ⟨earlier, before⟩, after, same, rfl, keyed, noneBefore⟩
          · cases same
            exact absurd keyed isFirst
          · cases same
            refine ⟨node, before ++ after, inductionHypothesis.mpr ?_, rfl, rfl⟩
            exact ⟨before, after, rfl, rfl, keyed, (List.forall_mem_cons.mp noneBefore).2⟩

/-- It makes no difference whether the nodes referred to are kept before or after nodes are taken
by reference values: a key that is not among theirs takes none of them. -/
theorem takeKeys_filter :
    takeKeys collection asked (nodes.filter (collection.isAmong keys)) =
      (takeKeys collection asked nodes).filter (collection.isAmong keys) := by
  induction asked generalizing nodes with
  | nil => rfl
  | cons key rest inductionHypothesis =>
      cases taken : takeKey collection key nodes with
      | none =>
          have takenKept :
              takeKey collection key (nodes.filter (collection.isAmong keys)) = none :=
            takeKey_eq_none_iff.mpr fun node member =>
              takeKey_eq_none_iff.mp taken node (List.mem_of_mem_filter member)
          simp only [takeKeys, taken, takenKept, inductionHypothesis]
      | some found =>
          obtain ⟨node, others⟩ := found
          obtain ⟨before, after, rfl, rfl, keyed, noneBefore⟩ := takeKey_eq_some_iff.mp taken
          have among : collection.isAmong keys node = true ↔ key ∈ keys :=
            Collection.isAmong_of_keyOf? keyed
          by_cases isWanted : key ∈ keys
          · have takenKept : takeKey collection key
                ((before ++ node :: after).filter (collection.isAmong keys)) =
                  some (node, (before ++ after).filter (collection.isAmong keys)) := by
              refine takeKey_eq_some_iff.mpr ⟨before.filter (collection.isAmong keys),
                after.filter (collection.isAmong keys), ?_, List.filter_append .., keyed, ?_⟩
              · simp [among.mpr isWanted]
              · exact fun earlier member => noneBefore earlier (List.mem_of_mem_filter member)
            simp only [takeKeys, taken, takenKept, inductionHypothesis,
              List.filter_cons_of_pos (among.mpr isWanted)]
          · have takenKept : takeKey collection key
                ((before ++ node :: after).filter (collection.isAmong keys)) = none := by
              refine takeKey_eq_none_iff.mpr fun kept member sameKey => isWanted ?_
              exact (Collection.isAmong_of_keyOf? sameKey).mp (List.mem_filter.mp member).2
            have notAmong : ¬ collection.isAmong keys node = true := mt among.mp isWanted
            have sameKept : (before ++ node :: after).filter (collection.isAmong keys) =
                (before ++ after).filter (collection.isAmong keys) := by
              rw [List.filter_append, List.filter_cons_of_neg notAmong, ← List.filter_append]
            simp only [takeKeys, taken, takenKept]
            rw [sameKept, inductionHypothesis, List.filter_cons_of_neg notAmong]

/-! ### Filtered listings -/

theorem list_filter (known : graph.collection name = .ok collection) (nodes : List Value) :
    graph.list name { filter } nodes = graph.filterNodes collection name filter nodes := by
  rw [list, known]
  cases kept : graph.filterNodes collection name filter nodes <;>
    simp [kept, sortNodes, page, bind, Except.bind]

/-- The filter stage looks at the whole collection, so that it commutes with keeping the nodes
referred to. -/
theorem filterNodes_filter :
    graph.filterNodes collection name filter (nodes.filter (collection.isAmong keys)) =
      (graph.filterNodes collection name filter nodes).map
        (List.filter (collection.isAmong keys)) := by
  unfold filterNodes
  split
  · rfl
  · split
    · rfl
    · next filter _ =>
        cases graph.passing filter name with
        | error failure => rfl
        | ok passing => exact congrArg Except.ok takeKeys_filter

private theorem cases_of_filterNodes
    (kept : graph.filterNodes collection name filter nodes = .ok listed) :
    listed = nodes ∨ ∃ value passed, graph.passing value name = .ok passed ∧
      listed = takeKeys collection passed nodes := by
  unfold filterNodes at kept
  split at kept
  · exact .inl (Except.ok.inj kept).symm
  · next value =>
      split at kept
      · exact .inl (Except.ok.inj kept).symm
      · cases passing : graph.passing value name with
        | error failure => simp [passing, Except.map] at kept
        | ok passed =>
            rw [passing] at kept
            exact .inr ⟨value, passed, passing, (Except.ok.inj kept).symm⟩

/-- Where reference values are distinct, the filter stage keeps nodes in their order, and those
referred to at most once. -/
theorem sublist_of_filterNodes (known : graph.collection name = .ok collection)
    (distinct : ((graph.nodes name).filterMap collection.keyOf?).Nodup)
    (kept : graph.filterNodes collection name filter (graph.nodes name) = .ok listed) :
    listed.Sublist (graph.nodes name) ∧ (listed.filter (collection.isAmong keys)).Nodup := by
  have apart := pairwise_of_distinct distinct
  have sublist : listed.Sublist (graph.nodes name) := by
    rcases cases_of_filterNodes kept with rfl | ⟨value, passed, passing, rfl⟩
    · exact List.Sublist.refl _
    · rw [passing_eq known passing, takeKeys_of_chosen]
      · exact List.filter_sublist
      · refine apart.imp fun {earlier later} differ _ sameKey keyed => ?_
        obtain ⟨key, isKey⟩ := Option.ne_none_iff_exists'.mp keyed
        exact absurd isKey (differ key (sameKey.trans isKey))
  refine ⟨sublist, ?_⟩
  refine ((apart.sublist sublist).filter _).imp_of_mem fun {earlier later} isEarlier _ differ => ?_
  rintro rfl
  obtain ⟨key, isKey, _⟩ := (Option.any_eq_true _ _).mp (List.mem_filter.mp isEarlier).2
  exact differ key isKey isKey

/-- Filtering the nodes that some keys refer to is the same as cutting the filtered collection down
to them.  Where the reference values of a collection are distinct, a filtered listing of the nodes
found by any keys fails as the filtered listing of the whole collection does.  Otherwise it has the
nodes of that listing whose reference value is among the keys, in the collection's order and each
once. -/
theorem list_findMany (graph : Graph) (name : String) (collection : Collection)
    (known : graph.collection name = .ok collection)
    (distinct : ((graph.nodes name).filterMap collection.keyOf?).Nodup)
    (keys : List String) (filter : Option Value) :
    ∃ related, graph.findMany name keys = .ok related ∧
      (∀ failure, graph.list name { filter } related = .error failure ↔
        graph.list name { filter } (graph.nodes name) = .error failure) ∧
      ∀ rows, graph.list name { filter } (graph.nodes name) = .ok rows ->
        ∃ listed, graph.list name { filter } related = .ok listed ∧
          listed = rows.filter (collection.isAmong keys) ∧
          listed.Sublist (graph.nodes name) ∧ listed.Nodup := by
  refine ⟨_, findMany_of_known known keys, ?_⟩
  simp only [list_filter known, filterNodes_filter]
  cases kept : graph.filterNodes collection name filter (graph.nodes name) with
  | error failure => exact ⟨fun _ => Iff.rfl, nofun⟩
  | ok rows =>
      refine ⟨fun failure => by simp [Except.map], ?_⟩
      rintro _ ⟨⟩
      obtain ⟨sublist, once⟩ := sublist_of_filterNodes known distinct kept
      exact ⟨_, rfl, rfl, List.filter_sublist.trans sublist, once⟩

/-- Posts of different reference values, of which the second does not pass the filter. -/
def sampleKeyedPosts : List Value :=
  [.object [("title", .string "x"), ("id", .string "a")],
   .object [("title", .string "y"), ("id", .string "b")],
   .object [("title", .string "x"), ("id", .string "c")],
   .object [("title", .string "x"), ("id", .string "d")]]

theorem list_findMany_sampleKeyedPosts :
    (sampleTitles sampleKeyedPosts).findMany "Post" ["d", "z", "c", "d", "b"] =
        .ok (sampleKeyedPosts.drop 1) ∧
      (sampleTitles sampleKeyedPosts).list "Post" { filter := some sampleTitleFilter }
          (sampleKeyedPosts.drop 1) =
        .ok (sampleKeyedPosts.drop 2) := by
  have isRelated : (sampleTitles sampleKeyedPosts).findMany "Post" ["d", "z", "c", "d", "b"] =
      .ok (sampleKeyedPosts.drop 1) := by
    decide
  have lists : (sampleTitles sampleKeyedPosts).list "Post" { filter := some sampleTitleFilter }
      sampleKeyedPosts =
        .ok (sampleKeyedPosts.take 1 ++ sampleKeyedPosts.drop 2) := by
    cbv
  obtain ⟨related, found, _, cut⟩ := list_findMany (sampleTitles sampleKeyedPosts) "Post"
    sampleTitled rfl (by decide) ["d", "z", "c", "d", "b"] (some sampleTitleFilter)
  cases isRelated.symm.trans found
  obtain ⟨listed, isListed, rfl, _⟩ := cut _ lists
  exact ⟨found, isListed⟩

end Graph

end ContentGraph
