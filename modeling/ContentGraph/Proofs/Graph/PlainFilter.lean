import ContentGraph.Proofs.Filter.Reading
import ContentGraph.Proofs.Graph.FilteredListing
import ContentGraph.Proofs.Graph.PlainView
import ContentGraph.Proofs.Graph.ProjectedPaths
import ContentGraph.Proofs.Graph.RelationCompleteness

/-!
Contract: filters over plain content.

Owns:
- `follow?_fields`: what a projection holds at a selected path;
- `passing_plain`: over plain content a filter keeps the nodes that pass it as they are shown,
  which are the nodes that pass it as they are stored where its paths show what is stored;
- `passing_differs_from_keep`: a filter and the plain test of the nodes differ where they do not.

Does not own: how plain content is shown (`Proofs.Graph.PlainView`).
-/

namespace ContentGraph

open ContentGraph.Json ContentGraph.Filter

/-! ### What a projection gives -/

namespace Projection

open Kind

variable {graph : Graph} {typeName : String} {shape : Shape} {raw value parent projected : Value}
  {kind element : Kind} {firstBelow : Option String} {below : Selection} {held : Object}
  {enter : Shape -> Value -> Except Failure Value}

/-- What an object kind covers is projected to null, as a whole, or by entering it. -/
private theorem cases_of_object (covers : Covers Except.ok value (.object shape))
    (isProjected : ofKind enter typeName firstBelow (.object shape) value parent = .ok projected) :
    (value = .null ∧ projected = .null) ∨
      ∃ held, value = .object held ∧ if firstBelow.isSome = true
        then enter shape (.object held) = .ok projected else projected = .object held := by
  rcases ofKind_object_ok isProjected with ⟨notObject, isNull⟩ | entered
  · refine .inl ⟨?_, isNull⟩
    cases value with
    | null => rfl
    | object held => exact absurd rfl (notObject held)
    | _ => simp [Covers] at covers
  · exact .inr entered

/-- A list is projected item by item, and a single value as the only item. -/
private theorem cases_of_list (covers : Covers Except.ok value (.list element))
    (isProjected : ofKind enter typeName firstBelow (.list element) value parent = .ok projected) :
    (value = .null ∧ projected = .null) ∨
      ∃ items outs, projected = .array outs ∧
        (Kind.list element).shown value = .array (items.map element.shown) ∧
        (∀ item ∈ items, Covers Except.ok item element) ∧
        List.Forall₂ (fun item out => ofKind enter typeName firstBelow element item item = .ok out)
          items outs := by
  rcases ofKind_list_ok isProjected with nothing | ⟨notNull, outs, isArray, made⟩
  · exact .inl nothing
  · refine .inr ⟨Output.itemsOf value, outs, isArray, ?_⟩
    cases value with
    | null => exact absurd rfl notNull
    | array items => exact ⟨rfl, covers_list_array.mp covers, made⟩
    | _ => exact ⟨rfl, List.forall_mem_singleton.mpr ((covers_list_of_single rfl).mp covers), made⟩

private theorem map_eq_of_forall₂ {relation : Value -> Value -> Prop} {items outs : List Value}
    {ofItem ofOut : Value -> Value} (related : List.Forall₂ relation items outs)
    (same : ∀ item ∈ items, ∀ out, relation item out -> ofOut out = ofItem item) :
    outs.map ofOut = items.map ofItem := by
  induction related with
  | nil => rfl
  | cons isRelated _ inductionHypothesis =>
      obtain ⟨sameFirst, sameRest⟩ := List.forall_mem_cons.mp same
      rw [List.map_cons, List.map_cons, sameFirst _ isRelated, inductionHypothesis sameRest]

/-- A projection differs from what the graph shows only inside objects and inside items. -/
private theorem outline_ofKind (objects : ∀ shape value projected,
    enter shape value = .ok projected -> ∃ held, projected = .object held) :
    ∀ (kind : Kind) (value parent projected : Value), Every Plain kind ->
      Covers Except.ok value kind ->
      ofKind enter typeName firstBelow kind value parent = .ok projected ->
      projected.outline = (kind.shown value).outline
  | .unknown, _, _, _, _, _, isProjected => by
      cases (ofKind_unknown_ok isProjected).1
      rfl
  | .scalar _, _, _, _, _, _, isProjected => by
      cases (ofKind_scalar_ok isProjected).1
      rfl
  | .resolved _, _, _, _, plain, _, _ => plain.1.elim
  | .object _, _, _, _, _, covers, isProjected => by
      rcases cases_of_object covers isProjected with ⟨rfl, rfl⟩ | ⟨held, rfl, entered⟩
      · rfl
      · split at entered
        · obtain ⟨out, rfl⟩ := objects _ _ _ entered
          rfl
        · cases entered
          rfl
  | .list element, _, _, _, plain, covers, isProjected => by
      rcases cases_of_list covers isProjected with
        ⟨rfl, rfl⟩ | ⟨items, outs, rfl, isShown, coversItems, made⟩
      · rfl
      · rw [isShown, Value.outline, Value.outline, List.map_map]
        congr 1
        refine map_eq_of_forall₂ made fun item member out isOut => ?_
        have sameOutline := outline_ofKind objects element item item out plain.2
          (coversItems item member) isOut
        rw [← Value.surface_outline, sameOutline, Value.surface_outline]
        rfl

/-- A projection is what the graph shows where no object is entered: nothing is selected below, or
no object could be entered. -/
private theorem eq_of_ofKind (stays : firstBelow = none ∨ ∀ shape value projected,
    Every LegalNames (.object shape) -> enter shape value ≠ .ok projected) :
    ∀ (kind : Kind) (value parent projected : Value), Every Plain kind ->
      Every LegalNames kind -> Covers Except.ok value kind ->
      ofKind enter typeName firstBelow kind value parent = .ok projected ->
      projected = kind.shown value
  | .unknown, _, _, _, _, _, _, isProjected => (ofKind_unknown_ok isProjected).1
  | .scalar _, _, _, _, _, _, _, isProjected => (ofKind_scalar_ok isProjected).1
  | .resolved _, _, _, _, plain, _, _, _ => plain.1.elim
  | .object _, _, _, _, _, legal, covers, isProjected => by
      rcases cases_of_object covers isProjected with ⟨rfl, rfl⟩ | ⟨held, rfl, entered⟩
      · rfl
      · split at entered
        · next isSome =>
            rcases stays with rfl | refused
            · cases isSome
            · exact absurd entered (refused _ _ _ legal)
        · exact entered
  | .list element, _, _, _, plain, legal, covers, isProjected => by
      rcases cases_of_list covers isProjected with
        ⟨rfl, rfl⟩ | ⟨items, outs, rfl, isShown, coversItems, made⟩
      · rfl
      · rw [isShown, ← map_eq_of_forall₂ made fun item member out isOut =>
          eq_of_ofKind stays element item item out plain.2 legal.2 (coversItems item member) isOut,
          List.map_id']

/-- No object is entered where a list index is selected below. -/
private theorem enterBelow_ne_ok {step : String} {inside : Selection} {index : Nat}
    (isSelected : below.fields.lookup step = some inside)
    (isIndex : Value.index? step = some index) (legal : Every LegalNames (.object shape)) :
    enterBelow graph typeName below shape value ≠ .ok projected := by
  intro entered
  obtain ⟨out, made, _⟩ := enterBelow_ok entered
  cases isIndex.symm.trans (index?_of_fields legal (List.forall_mem_nil _) made isSelected)

/-- A projected list, scalar or unknown value looks below as the graph shows it: what is selected
below finds nothing there, or is an index that keeps objects from being entered. -/
private theorem follow?_ofKind {step : String} {inside : Selection} (rest : Value.Path)
    (noObject : ∀ shape, kind ≠ .object shape) (plain : Every Plain kind)
    (legal : Every LegalNames kind) (covers : Covers Except.ok value kind)
    (isSelected : below.fields.lookup step = some inside)
    (isProjected : ofKind (enterBelow graph typeName below) typeName firstBelow kind value parent =
      .ok projected) :
    projected.follow? (step :: rest) = (kind.shown value).follow? (step :: rest) := by
  cases kind with
  | unknown => rw [(ofKind_unknown_ok isProjected).1, shown]; nofun
  | scalar form => rw [(ofKind_scalar_ok isProjected).1, shown]; nofun
  | resolved resolver => exact plain.1.elim
  | object shape => exact absurd rfl (noObject shape)
  | list element =>
      cases isIndex : Value.index? step with
      | some index =>
          rw [eq_of_ofKind (.inr fun _ _ _ => enterBelow_ne_ok isSelected isIndex) _ _ _ _ plain
            legal covers isProjected]
      | none =>
          rcases cases_of_list covers isProjected with
            ⟨rfl, rfl⟩ | ⟨items, outs, rfl, isShown, _⟩
          · rfl
          · simp [isShown, Value.follow?, Value.step?, isIndex]

/-- The first step into a projection: the type's name, or the projection of a field's value. -/
private theorem cases_of_fields {selected : List (String × Selection)} {inside : Selection}
    {step : String} {rest : Value.Path} {out : Object}
    (isProjected : fields graph typeName shape [] (.object held) selected = .ok out)
    (isSelected : selected.lookup step = some inside) :
    ((Value.object out).follow? (step :: rest) =
        shownAt typeName (.object shape) (.object held) (step :: rest)) ∨
      ∃ field projected, step ≠ "_collection" ∧ shape.field? step = some field ∧
        ofKind (enterBelow graph (nestedTypeName typeName step) inside)
          (nestedTypeName typeName step) (inside.fields.head?.map Prod.fst) field.kind
          ((Object.find? held field.sourceKey).getD .null) (.object held) = .ok projected ∧
        (Value.object out).follow? (step :: rest) = projected.follow? rest ∧
        shownAt typeName (.object shape) (.object held) (step :: rest) =
          shownAt (nestedTypeName typeName step) field.kind
            ((Object.find? held field.sourceKey).getD .null) rest := by
  obtain ⟨projected, found, isOne⟩ := exists_projected isProjected isSelected
  have entered : (Value.object out).follow? (step :: rest) = projected.follow? rest := by
    rw [Value.follow?, Value.step?, found, Option.bind_some]
  rw [one, show Collection.relation? [] step = none from rfl] at isOne
  dsimp only at isOne
  split at isOne
  · next isName =>
      cases isOne
      exact .inl (by rw [entered, shownAt, if_pos isName])
  · next noName =>
      split at isOne
      · cases isOne
      · next field foundField =>
          refine .inr ⟨field, projected, noName, foundField, isOne, entered, ?_⟩
          rw [shownAt, if_neg noName, foundField, Option.bind_some]

/-- Below a projected value, what stands at a selected path has the outline of what the graph shows
there, and is the same where nothing is selected below. -/
private theorem follow?_below {inside : Selection} {rest : Value.Path} (plain : Every Plain kind)
    (legal : Every LegalNames kind) (covers : Covers Except.ok value kind)
    (isProjected : ofKind (enterBelow graph typeName inside) typeName
      (inside.fields.head?.map Prod.fst) kind value parent = .ok projected)
    (isSelected : inside.at? rest = some below) :
    ((projected.follow? rest).map Value.outline =
        (kind.shownAt typeName value rest).map Value.outline) ∧
      (below.isLeaf = true -> projected.follow? rest = kind.shownAt typeName value rest) := by
  induction rest generalizing typeName kind value parent projected inside with
  | nil =>
      cases isSelected
      rw [shownAt, Value.follow?]
      refine ⟨?_, fun isLeaf => ?_⟩
      · have objects : ∀ shape value projected,
            enterBelow graph typeName below shape value = .ok projected ->
              ∃ held, projected = .object held := fun shape value projected isEntered =>
          (enterBelow_ok isEntered).imp fun _ isObject => isObject.2.symm
        rw [Option.map_some, Option.map_some,
          outline_ofKind objects _ _ _ _ plain covers isProjected]
      · have nothing : below.fields.head?.map Prod.fst = none := by
          rw [List.isEmpty_iff.mp isLeaf]
          rfl
        rw [eq_of_ofKind (.inl nothing) _ _ _ _ plain legal covers isProjected]
  | cons next others inductionHypothesis =>
      obtain ⟨deeper, isNext, isBelow⟩ := Selection.at?_cons_eq_some.mp isSelected
      by_cases isObject : ∃ shape, kind = .object shape
      · obtain ⟨shape, rfl⟩ := isObject
        rcases cases_of_object covers isProjected with ⟨rfl, rfl⟩ | ⟨held, rfl, isEntered⟩
        · exact ⟨rfl, fun _ => rfl⟩
        · rw [if_pos (Selection.isSome_head?_of_lookup isNext)] at isEntered
          obtain ⟨out, made, rfl⟩ := enterBelow_ok isEntered
          have reads := reads_of_covers_object plain covers
          rcases cases_of_fields made isNext with
            same | ⟨field, own, noName, found, isOwn, entered, isShown⟩
          · exact ⟨by rw [same], fun _ => same⟩
          · have member := (Shape.mem_of_field? found).1
            rw [entered, isShown]
            exact inductionHypothesis ((every_object_iff.mp plain).2 field member)
              ((every_object_iff.mp legal).2 field member)
              (reads.key next field found ▸ reads.covers next field noName found) isOwn isBelow
      · have noObject : ∀ shape, kind ≠ .object shape := fun shape same =>
          isObject ⟨shape, same⟩
        rw [follow?_ofKind others noObject plain legal covers isNext isProjected,
          shownAt_of_not_object noObject]
        exact ⟨rfl, fun _ => rfl⟩

/-- What a projection holds at a selected path has the outline of what the graph shows there, and
is the same where nothing is selected below. -/
theorem follow?_fields {selection : Selection} {step : String} {rest : Value.Path} {out : Object}
    (plain : Every Plain (.object shape)) (legal : Every LegalNames (.object shape))
    (reads : Reads shape held)
    (isProjected : fields graph typeName shape [] (.object held) selection.fields = .ok out)
    (isSelected : selection.at? (step :: rest) = some below) :
    (((Value.object out).follow? (step :: rest)).map Value.outline =
        (shownAt typeName (.object shape) (.object held) (step :: rest)).map Value.outline) ∧
      (below.isLeaf = true -> (Value.object out).follow? (step :: rest) =
        shownAt typeName (.object shape) (.object held) (step :: rest)) := by
  obtain ⟨inside, isFirst, isBelow⟩ := Selection.at?_cons_eq_some.mp isSelected
  rcases cases_of_fields isProjected isFirst with
    same | ⟨field, projected, noName, found, isOne, entered, isShown⟩
  · exact ⟨by rw [same], fun _ => same⟩
  · have member := (Shape.mem_of_field? found).1
    rw [entered, isShown]
    exact follow?_below ((every_object_iff.mp plain).2 field member)
      ((every_object_iff.mp legal).2 field member)
      (reads.key step field found ▸ reads.covers step field noName found) isOne isBelow

end Projection

/-! ### Filters -/

/-- What the graph shows of a node of a collection at a path. -/
def Collection.shownAt (collection : Collection) (node : Value) : Value.Path -> Option Value :=
  Kind.shownAt collection.typeName (.object collection.shape) node

namespace Graph

open Kind

variable {graph : Graph} {collection : Collection} {name : String} {filter node : Value}
  {sift : Sift} {nodes : List Value} {keys : List String}

/-- A collection of plain content: it has no overrides, no fragments and no references, its fields
are named by the identity, and its nodes are objects with legal keys and reference values. -/
structure IsPlain (graph : Graph) (collection : Collection) : Prop where
  noOverrides : collection.entry.overrides = []
  inferred : Collection.infer [] .identity graph.store collection.entry = .ok collection
  isObject : ∀ node ∈ graph.nodes collection.name, node.isObject = true
  wellKeyed : ∀ node ∈ graph.nodes collection.name, node.WellKeyed
  legal : ∀ node ∈ graph.nodes collection.name, node.LegalKeys
  keyed : ∀ node ∈ graph.nodes collection.name, (collection.keyOf? node).isSome = true

namespace IsPlain

theorem relations (plain : graph.IsPlain collection) : collection.relations = [] := by
  obtain ⟨_, _, _, _, isCollection⟩ := Collection.infer_eq_ok.mp plain.inferred
  rw [← isCollection]

/-- The shape of plain content is that of every node. -/
theorem shape (plain : graph.IsPlain collection) (isNode : node ∈ graph.nodes collection.name) :
    Every Plain (.object collection.shape) ∧ Every Kind.LegalNames (.object collection.shape) ∧
      ∃ held, node = .object held ∧ Reads collection.shape held := by
  obtain ⟨_, reduced⟩ := Site.shape_of_infer plain.noOverrides plain.inferred
  have legalReference : Text.IsLegal collection.entry.referenceField := by
    have keyed := plain.keyed node isNode
    have legal := plain.legal node isNode
    cases node with
    | object held =>
        cases found : Object.find? held collection.entry.referenceField with
        | some value => exact Value.legal_of_find? legal found
        | none =>
            have unkeyed : collection.keyOf? (.object held) = none := by
              rw [Collection.keyOf?]
              exact congrArg (Option.bind · Value.referenceKey?) found
            rw [unkeyed] at keyed
            cases keyed
    | _ => cases keyed
  obtain ⟨everyPlain, everyLegal, covers⟩ :=
    Shape.reduce_plain plain.wellKeyed plain.legal legalReference reduced
  have isObject := plain.isObject node isNode
  cases node with
  | object held =>
      have reads := reads_of_covers everyPlain (covers held isNode)
      exact ⟨everyPlain, everyLegal, held, rfl, reads⟩
  | _ => cases isObject

end IsPlain

/-- A filter gives the projection of a plain node the result that it gives the node as shown. -/
private theorem test_projected {projected : Value} (plain : graph.IsPlain collection)
    (isNode : node ∈ graph.nodes collection.name)
    (isSift : Sift.ofManifest (manifest filter) = .ok sift) (apart : sift.Apart)
    (isProjected : Projection.node graph collection node
      (collection.selection (manifest filter)) = .ok projected) :
    sift.test projected = sift.testAt (collection.shownAt node) := by
  obtain ⟨everyPlain, everyLegal, held, rfl, reads⟩ := plain.shape isNode
  rw [Projection.node, plain.relations] at isProjected
  obtain ⟨out, made, rfl⟩ := Projection.enterBelow_ok isProjected
  rw [Sift.test_eq_testAt]
  refine Sift.testAt_congr fun predicate member => ?_
  obtain ⟨below, isSelected, isLeaf⟩ :=
    Sift.exists_at?_of_mem isSift member collection.referenceFieldName
  cases isPath : predicate.path with
  | nil =>
      rcases apart predicate member with shallow | ⟨notTop, _⟩
      · rw [← Comparator.test_outline shallow,
          ← Comparator.test_outline shallow (collection.shownAt (.object held) [])]
        rfl
      · exact absurd isPath notTop
  | cons step rest =>
      rw [isPath] at isSelected
      obtain ⟨sameOutline, sameLeaf⟩ :=
        Projection.follow?_fields everyPlain everyLegal reads made isSelected
      rcases apart predicate member with shallow | ⟨notTop, ends⟩
      · rw [← Comparator.test_outline shallow, sameOutline, Comparator.test_outline shallow]
        rfl
      · rw [sameLeaf (isLeaf notTop ends)]
        rfl

/-- Over plain content a filter whose deep comparators stand apart keeps the nodes that pass it
as the graph shows them, in the collection's order.  Where the paths of the filter show what a node
stores, that is the plain test of the node. -/
theorem passing_plain (plain : graph.IsPlain collection)
    (known : graph.collection collection.name = .ok collection)
    (isSift : Sift.compile filter = .ok sift) (apart : sift.Apart)
    (passing : graph.passing filter collection.name = .ok keys) :
    keys = ((graph.nodes collection.name).filter fun node =>
        sift.testAt (collection.shownAt node) = .ok true).filterMap collection.keyOf? ∧
      ∀ node ∈ graph.nodes collection.name,
        (∀ predicate ∈ sift, storedAt (.object collection.shape) node predicate.path = true) ->
          sift.testAt (collection.shownAt node) = sift.test node := by
  constructor
  · have isCompiled : Sift.ofManifest (manifest filter) = .ok sift := isSift
    rw [passing_eq known passing]
    congr 1
    refine List.filter_congr fun node isNode => ?_
    obtain ⟨projected, isProjected, passes, isTested⟩ :=
      (exists_passing_iff known isCompiled).mp ⟨keys, passing⟩ node isNode
    rw [← test_projected plain isNode isCompiled apart isProjected, isTested]
    simp [accepts, isCompiled, isProjected, isTested]
  · intro node isNode stored
    obtain ⟨everyPlain, _, held, rfl, reads⟩ := plain.shape isNode
    rw [Sift.test_eq_testAt]
    refine Sift.testAt_congr fun predicate member => ?_
    cases isPath : predicate.path with
    | nil => rfl
    | cons step rest =>
        have storedHere := stored predicate member
        rw [isPath] at storedHere
        rw [Collection.shownAt, shownAt_eq_follow? everyPlain reads storedHere]

/-- A post with a list of tags and a nested text. -/
def sampleStoredPost : Value :=
  .object [("id", .string "c"), ("tags", .array [.string "x"]),
    ("meta", .object [("a", .string "u")])]

/-- Posts of which the first has a tag that stands alone, and the second a field holding null. -/
def samplePlainPosts : List Value := [
  .object [("id", .string "a"), ("tags", .string "x"),
    ("meta", .object [("a", .string "u"), ("b", .string "v")])],
  .object [("id", .string "b"), ("nick", .null), ("tags", .array [.string "x"])],
  sampleStoredPost]

/-- The collection of `samplePlainPosts`. -/
def samplePlainCollection : Collection where
  entry := { name := "Post", path := "posts" }
  shape := [
    .unnamed "id" (.scalar .string), .unnamed "tags" (.list (.scalar .string)),
    .unnamed "meta" (.object [.unnamed "a" (.scalar .string), .unnamed "b" (.scalar .string)]),
    .unnamed "nick" .unknown, .unnamed "_filename" (.scalar .string),
    .unnamed "_path" (.scalar .string), .unnamed "_slug" (.scalar .string)]

/-- The graph of `samplePlainPosts`. -/
def samplePlainGraph : Graph where
  collections := [samplePlainCollection]
  store := [("Post", samplePlainPosts)]

private theorem isPlain_samplePlainGraph : samplePlainGraph.IsPlain samplePlainCollection where
  noOverrides := rfl
  inferred := by with_unfolding_all rfl
  isObject := by decide
  wellKeyed := by
    simp [samplePlainGraph, samplePlainCollection, samplePlainPosts, sampleStoredPost, Graph.nodes,
      Store.nodes, Collection.name, Value.WellKeyed, Value.WellKeyedFields, Value.WellKeyedItems]
  legal := by
    have legal : ∀ key ∈ ["id", "tags", "meta", "a", "b", "nick"], Text.IsLegal key := by decide
    simp only [List.forall_mem_cons] at legal
    simp [samplePlainGraph, samplePlainCollection, samplePlainPosts, sampleStoredPost, Graph.nodes,
      Store.nodes, Collection.name, Value.LegalKeys, Value.LegalKeysFields, Value.LegalKeysItems,
      legal]
  keyed := by decide

/-- A filter with a comparator above another one, which looks for presence only. -/
def sampleShallowFilter : Value :=
  .object [("tags", .object [("includes", .string "x")]),
    ("meta", .object [("exists", .bool true), ("a", .object [("eq", .string "u")])])]

theorem passing_plain_samplePlainGraph :
    ∃ sift, Sift.compile sampleShallowFilter = .ok sift ∧ sift.Apart ∧
      samplePlainGraph.passing sampleShallowFilter "Post" = .ok ["a", "c"] ∧
      ["a", "c"] = ((samplePlainGraph.nodes "Post").filter fun node =>
        sift.testAt (samplePlainCollection.shownAt node) = .ok true).filterMap
          samplePlainCollection.keyOf? ∧
      sift.testAt (samplePlainCollection.shownAt sampleStoredPost) =
        sift.test sampleStoredPost := by
  have isPassing : samplePlainGraph.passing sampleShallowFilter "Post" = .ok ["a", "c"] := by
    cbv
  refine ⟨_, rfl, by decide, isPassing, ?_⟩
  obtain ⟨isKept, isPlainTest⟩ :=
    passing_plain isPlain_samplePlainGraph rfl rfl (by decide) isPassing
  exact ⟨isKept, isPlainTest sampleStoredPost (by decide) (by decide)⟩

/-- A filter over the graph and the plain filter of the nodes differ at a field that only one node
has, at a single value in a list field, at the name of the collection, and where a comparator of a
whole object stands above another one: each line has the reference values of the nodes that the one
and the other keep. -/
theorem passing_differs_from_keep :
    samplePlainGraph.IsPlain samplePlainCollection ∧
      samplePlainGraph.collection "Post" = .ok samplePlainCollection ∧
      samplePlainGraph.nodes "Post" = samplePlainPosts ∧
      (samplePlainPosts.map samplePlainCollection.keyOf?).Nodup ∧
      ∀ differing ∈ [
          (Value.object [("nick", .object [("strictlyExists", .bool true)])],
            ["a", "b", "c"], ["b"]),
          (.object [("tags", .object [("eq", .string "x")])], [], ["a"]),
          (.object [("_collection", .object [("eq", .string "Post")])], ["a", "b", "c"], []),
          (.object [("meta", .object [
            ("in", .array [.object [("a", .string "u"), ("b", .string "v")]]),
            ("a", .object [("eq", .string "u")])])], [], ["a"])],
        samplePlainGraph.passing differing.1 "Post" = .ok differing.2.1 ∧
          (∃ sift, Sift.compile differing.1 = .ok sift ∧
            (sift.keep samplePlainPosts).map (·.filterMap samplePlainCollection.keyOf?) =
              .ok differing.2.2) ∧
          differing.2.1 ≠ differing.2.2 := by
  refine ⟨isPlain_samplePlainGraph, rfl, rfl, by decide, ?_⟩
  simp only [List.forall_mem_cons]
  refine ⟨⟨?_, ⟨_, rfl, ?_⟩, by decide⟩, ⟨?_, ⟨_, rfl, ?_⟩, by decide⟩,
    ⟨?_, ⟨_, rfl, ?_⟩, by decide⟩, ⟨?_, ⟨_, rfl, ?_⟩, by decide⟩,
    List.forall_mem_nil _⟩ <;> cbv

end Graph

end ContentGraph
