import ContentGraph.Proofs.Graph.FilteredListing

/-!
Contract: the order of listings, and their pages.

Owns:
- `SortKey`, what the order of listings looks at in a value, and that this order compares keys;
- `StablySorted`, a list sorted by a key with ties in their old order, and `sortNodes_stable`: the
  order of listings is a total preorder, and the sort stage sorts stably by it;
- `list_pages`: skip and limit cut a piece out of the listing without them, pages put one after
  another make it up, and a descending listing is the ascending one read backwards.

Does not own: which nodes a filter keeps (`Proofs.Graph.FilteredListing`).
-/

namespace ContentGraph

open ContentGraph.Json

/-! ### The order of values -/

/-- What the order of listings looks at in a value. -/
structure SortKey where
  rank : Nat
  truth : Bool := false
  units : Int := 0
  text : String := ""

/-- The key of a value.  A number counts by its nearest double. -/
def SortKey.ofValue : Option Value -> SortKey
  | none | some .null => { rank := 0 }
  | some (.bool truth) => { rank := 1, truth }
  | some (.number number) =>
      { rank := 2, units := (number.toDouble?.getD (.zero false)).units }
  | some (.string text) => { rank := 3, text }
  | some (.array _) | some (.object _) => { rank := 4 }

open SortKey in
/-- Values are ordered by the parts of their keys in turn: two values of one rank differ in one
part at most. -/
theorem sortOrder_eq_compareLex :
    sortOrder = compareLex (compareOn fun value => (ofValue value).rank)
      (compareLex (compareOn fun value => (ofValue value).truth)
        (compareLex (compareOn fun value => (ofValue value).units)
          (compareOn fun value => (ofValue value).text))) := by
  funext left right
  rcases left with _ | left <;> rcases right with _ | right
  · rfl
  · cases right <;> rfl
  · cases left <;> rfl
  · cases left <;> cases right <;> first
      | rfl
      | simp [sortOrder, sortRank, compareLex, compareOn, ofValue, orderNumbers,
          Decimal.Double.order]

instance : Std.TransCmp sortOrder := by
  rw [sortOrder_eq_compareLex]
  infer_instance

/-- The laws of a comparison that orders its values, where different values may compare equal. -/
structure IsTotalPreorder {Key : Type} (order : Key -> Key -> Ordering) : Prop where
  refl (value : Key) : order value value = .eq
  swap (left right : Key) : order right left = (order left right).swap
  lt_trans {first second third : Key} (less : order first second = .lt)
    (lessNext : order second third = .lt) : order first third = .lt
  eq_trans {first second third : Key} (equal : order first second = .eq)
    (equalNext : order second third = .eq) : order first third = .eq
  le_trans {first second third : Key} (upTo : order first second ≠ .gt)
    (upToNext : order second third ≠ .gt) : order first third ≠ .gt

theorem isTotalPreorder {Key : Type} (order : Key -> Key -> Ordering) [Std.TransCmp order] :
    IsTotalPreorder order where
  refl _ := Std.ReflCmp.compare_self
  swap _ _ := Std.OrientedCmp.eq_swap
  lt_trans less lessNext := Std.TransCmp.lt_trans less lessNext
  eq_trans equal equalNext := Std.TransCmp.eq_trans equal equalNext
  le_trans upTo upToNext := by
    rw [ne_eq, Ordering.ne_gt_iff_isLE] at *
    exact Std.TransCmp.isLE_trans upTo upToNext

/-! ### Sorting -/

/-- A list sorted by a key: the same elements, ascending, and those that compare equal in the
order in which they were. -/
structure StablySorted {Element Key : Type} (order : Key -> Key -> Ordering)
    (key : Element -> Key) (elements sorted : List Element) : Prop where
  perm : sorted.Perm elements
  ascending : sorted.Pairwise fun earlier later => order (key earlier) (key later) ≠ .gt
  stable (value : Key) : (sorted.filter fun element => order (key element) value = .eq) =
    elements.filter fun element => order (key element) value = .eq

theorem stablySorted_mergeSort {Element Key : Type} (order : Key -> Key -> Ordering)
    [Std.TransCmp order] (key : Element -> Key) (elements : List Element) :
    StablySorted order key elements
      (elements.mergeSort fun a b => order (key a) (key b) != .gt) := by
  let upTo (a b : Element) : Bool := order (key a) (key b) != .gt
  have upTo_iff {a b : Element} : upTo a b = true ↔ order (key a) (key b) ≠ .gt := by
    simp [upTo]
  have trans (a b c : Element) (first : upTo a b = true) (second : upTo b c = true) :
      upTo a c = true := by
    rw [upTo_iff] at *
    exact (isTotalPreorder order).le_trans first second
  have total (a b : Element) : (upTo a b || upTo b a) = true := by
    rw [Bool.or_eq_true, upTo_iff, upTo_iff, (isTotalPreorder order).swap (key a) (key b)]
    cases order (key a) (key b) <;> simp
  have perm : (elements.mergeSort upTo).Perm elements := List.mergeSort_perm elements upTo
  refine ⟨perm, ?_, fun value => ?_⟩
  · simpa only [upTo_iff] using List.pairwise_mergeSort trans total elements
  · -- The elements that compare equal to a value are sorted among themselves, so that the sort
    -- keeps them as a sublist, and it has no more of them.
    let ties (element : Element) : Bool := order (key element) value = .eq
    have tied : (elements.filter ties).Pairwise fun a b => upTo a b = true := by
      refine List.pairwise_of_forall_mem_list fun a inTies b inOthers => ?_
      have equal : order (key a) value = .eq := of_decide_eq_true (List.mem_filter.mp inTies).2
      have other : order (key b) value = .eq := of_decide_eq_true (List.mem_filter.mp inOthers).2
      rw [upTo_iff, Std.TransCmp.congr_left equal, Std.OrientedCmp.eq_symm other]
      decide
    have kept : (elements.filter ties).Sublist (elements.mergeSort upTo) :=
      List.sublist_mergeSort trans total tied List.filter_sublist
    have keptTies : (elements.filter ties).Sublist ((elements.mergeSort upTo).filter ties) := by
      simpa using kept.filter ties
    exact (keptTies.eq_of_length (perm.filter ties).length_eq.symm).symm

namespace Graph

variable {graph : Graph} {name : String} {nodes rows : List Value}

/-- The order of values in listings is a total preorder, and the sort stage sorts nodes by what
they hold at the sort path, with those that compare equal in the order in which they were. -/
theorem sortNodes_stable :
    IsTotalPreorder sortOrder ∧
      ∀ (collection : Collection) (sortBy : String) (nodes : List Value),
        StablySorted sortOrder (fun node => node.follow? (collection.sortPath sortBy)) nodes
          (sortNodes collection (some sortBy) nodes) :=
  ⟨isTotalPreorder sortOrder, fun _ _ nodes => stablySorted_mergeSort sortOrder _ nodes⟩

/-! ### Pages -/

/-- Skip and limit come last: they cut a piece out of the listing without them. -/
theorem list_eq_map_page (graph : Graph) (name : String) (listing : Listing)
    (nodes : List Value) :
    graph.list name listing nodes =
      (graph.list name { listing with skip := none, limit := none } nodes).map
        (page listing.skip listing.limit) := by
  cases known : graph.collection name with
  | error failure => simp [list, known, bind, Except.bind, Except.map]
  | ok collection =>
      cases kept : graph.filterNodes collection name listing.filter nodes <;>
        simp [list, known, kept, bind, Except.bind, Except.map, page]

/-- The direction comes after the sort: it turns the ascending listing around. -/
theorem list_descending (graph : Graph) (name : String) (listing : Listing)
    (nodes : List Value) :
    graph.list name { listing with direction := .descending, skip := none, limit := none } nodes =
      (graph.list name { listing with direction := .ascending, skip := none, limit := none }
        nodes).map List.reverse := by
  cases known : graph.collection name with
  | error failure => simp [list, known, bind, Except.bind, Except.map]
  | ok collection =>
      cases kept : graph.filterNodes collection name listing.filter nodes <;>
        simp [list, known, kept, bind, Except.bind, Except.map, page]

/-- Pages of one size, put one after another, are the beginning of what they are cut from. -/
theorem flatten_pages (rows : List Value) (size count : Nat) :
    ((List.range count).map fun index => (rows.drop (index * size)).take size).flatten =
      rows.take (count * size) := by
  induction count with
  | zero => simp
  | succ count inductionHypothesis =>
      rw [List.range_succ, List.map_append, List.flatten_append, inductionHypothesis,
        Nat.succ_mul, List.take_add]
      simp

/-- Paging and ordering compose.  Where the listing without skip and limit succeeds, so does the
listing with them, and it is the piece that they cut out; negative numbers count as zero.  Pages of
one size put one after another are the whole listing, as soon as there are enough of them.  The
descending listing is the ascending one read backwards. -/
theorem list_pages (listing : Listing)
    (lists : graph.list name { listing with skip := none, limit := none } nodes = .ok rows) :
    (∀ skip limit : Option Int, graph.list name { listing with skip, limit } nodes =
      .ok (match limit with
        | none => rows.drop (max (skip.getD 0) 0).toNat
        | some limit => (rows.drop (max (skip.getD 0) 0).toNat).take (max limit 0).toNat)) ∧
    (∀ size count : Nat, rows.length ≤ count * size ->
      ∃ pages, (List.range count).mapM (fun index => graph.list name
          { listing with skip := some ↑(index * size), limit := some ↑size } nodes) = .ok pages ∧
        pages.flatten = rows) ∧
    ∃ ascending,
      graph.list name { listing with direction := .ascending, skip := none, limit := none }
        nodes = .ok ascending ∧
      graph.list name { listing with direction := .descending, skip := none, limit := none }
        nodes = .ok ascending.reverse := by
  have cut (skip limit : Option Int) :
      graph.list name { listing with skip, limit } nodes = .ok (page skip limit rows) := by
    rw [list_eq_map_page, lists]
    rfl
  refine ⟨fun skip limit => ?_, fun size count enough => ?_, ?_⟩
  · have clamped (number : Int) : (max number 0).toNat = number.toNat := by omega
    rw [cut, clamped]
    cases limit with
    | none => rfl
    | some limit =>
        dsimp only
        rw [clamped]
        rfl
  · refine ⟨(List.range count).map fun index => (rows.drop (index * size)).take size, ?_, ?_⟩
    · rw [mapM_eq_ok, List.forall₂_map_right_iff, List.forall₂_same]
      intro index _
      rw [cut]
      rfl
    · rw [flatten_pages, List.take_of_length_le enough]
  · have turned := list_descending graph name listing nodes
    obtain ⟨skip, limit, direction, sortBy, filter⟩ := listing
    cases direction with
    | ascending => exact ⟨rows, lists, by rw [turned, lists]; rfl⟩
    | descending =>
        rw [turned] at lists
        cases isAscending : graph.list name
            { direction := .ascending, sortBy, filter } nodes with
        | error failure =>
            rw [isAscending] at lists
            cases lists
        | ok ascending => exact ⟨ascending, rfl, by rw [turned, isAscending]; rfl⟩

/-- Posts of two titles, the later title first. -/
def sampleTies : List Value :=
  [.object [("title", .string "y"), ("id", .string "a")],
   .object [("title", .string "x"), ("id", .string "b")],
   .object [("title", .string "y"), ("id", .string "c")]]

private theorem sortNodes_sampleTies :
    sortNodes sampleTitled (some "title") sampleTies =
      [.object [("title", .string "x"), ("id", .string "b")],
        .object [("title", .string "y"), ("id", .string "a")],
        .object [("title", .string "y"), ("id", .string "c")]] := by
  have path : sampleTitled.sortPath "title" = ["title"] := by cbv
  have after : compare "y" "x" = .gt := by decide
  have before : compare "x" "y" = .lt := by decide
  simp [sortNodes, path, sampleTies, List.mergeSort, List.MergeSort.Internal.splitInTwo,
    Value.follow?, Value.step?, Object.find?, sortOrder, sortRank, after, before]

theorem list_pages_sampleTies :
    (sampleTitles sampleTies).list "Post"
        { direction := .descending, sortBy := some "title", skip := some 1, limit := some 5 }
        sampleTies =
      .ok [.object [("title", .string "y"), ("id", .string "a")],
        .object [("title", .string "x"), ("id", .string "b")]] := by
  have known : (sampleTitles sampleTies).collection "Post" = .ok sampleTitled := rfl
  have lists : (sampleTitles sampleTies).list "Post"
      { direction := .descending, sortBy := some "title" } sampleTies =
        .ok [.object [("title", .string "y"), ("id", .string "c")],
          .object [("title", .string "y"), ("id", .string "a")],
          .object [("title", .string "x"), ("id", .string "b")]] := by
    simp [list, known, filterNodes, sortNodes_sampleTies, page, bind, Except.bind]
  exact (list_pages { direction := .descending, sortBy := some "title" } lists).1 (some 1) (some 5)

end Graph

end ContentGraph
