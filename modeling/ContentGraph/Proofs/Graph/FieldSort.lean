import ContentGraph.Proofs.Graph.SortedListing
import ContentGraph.Proofs.Site.SchemaNames
import ContentGraph.Proofs.Text.Split

/-!
Contract: listings sorted by the fields of a shape.

Owns:
- `Graph.SortsBy`, that a listing sorted by the graph name of a field is sorted by what the nodes
  store under its content key;
- `sortsBy_iff`: a field sorts all nodes by what they store exactly where its content key holds no
  dot, and is no list index unless all nodes are objects;
- `sortsBy_fails_dotted`: a site has a field whose content key holds a dot.

Does not own: the order of values, and listings with pages (`Proofs.Graph.SortedListing`).
-/

namespace ContentGraph

open ContentGraph.Json

/-! ### Paths of one step -/

namespace Text

variable {mark : Char} {text : String}

theorem parts_of_not_mem (unmarked : mark ∉ text.toList) : parts mark text = [text] := by
  rw [parts, splitAt_of_not_mem unmarked, List.map_singleton, String.ofList_toList]

theorem exists_part_ne (marked : mark ∈ text.toList) :
    ∃ first rest, parts mark text = first :: rest ∧ first ≠ text := by
  cases cut : splitAt mark text.toList with
  | nil => exact absurd cut (splitAt_ne_nil _)
  | cons part others =>
      refine ⟨String.ofList part, others.map String.ofList, by rw [parts, cut]; rfl, ?_⟩
      rintro rfl
      rw [String.toList_ofList] at marked cut
      exact mark_not_mem_of_mem_splitAt (cut ▸ List.mem_cons_self) marked

end Text

namespace Json.Value

theorem follow?_singleton {node : Value} {key : String}
    (noItem : node.items? = none ∨ index? key = none) :
    node.follow? [key] = node.field? key := by
  cases node with
  | array items =>
      have noIndex : index? key = none := noItem.resolve_left nofun
      simp [follow?, step?, noIndex, field?, fields?]
  | object fields => simp [follow?, step?, field?, fields?]
  | _ => rfl

end Json.Value

/-! ### Sorting by a field -/

namespace Graph

variable {graph : Graph} {collection : Collection} {name : String} {field : Field}
  {nodes rows : List Value}

/-- A listing sorted by the graph name of a field has the nodes in ascending order of what they
store under the field's content key. -/
def SortsBy (graph : Graph) (name : String) (field : Field) (nodes : List Value) : Prop :=
  ∃ rows, graph.list name { sortBy := some field.name } nodes = .ok rows ∧ rows.Perm nodes ∧
    rows.Pairwise fun earlier later =>
      sortOrder (earlier.field? field.sourceKey) (later.field? field.sourceKey) ≠ .gt

theorem list_sortBy (known : graph.collection name = .ok collection) (sortBy : String)
    (nodes : List Value) :
    graph.list name { sortBy := some sortBy } nodes =
      .ok (sortNodes collection (some sortBy) nodes) := by
  simp [list, known, filterNodes, page, bind, Except.bind]

theorem sortPath_of_mem (distinct : collection.shape.names.Nodup)
    (isField : field ∈ collection.shape) :
    collection.sortPath field.name = Text.parts '.' field.sourceKey := by
  rw [Collection.sortPath, Shape.field?_of_mem distinct isField]

variable (known : graph.collection name = .ok collection)
  (distinct : collection.shape.names.Nodup) (isField : field ∈ collection.shape)

include known distinct isField

theorem stablySorted_list (nodes : List Value) :
    ∃ rows, graph.list name { sortBy := some field.name } nodes = .ok rows ∧
      StablySorted sortOrder (fun node => node.follow? (Text.parts '.' field.sourceKey)) nodes
        rows := by
  refine ⟨_, list_sortBy known field.name nodes, ?_⟩
  rw [← sortPath_of_mem distinct isField]
  exact sortNodes_stable.2 collection field.name nodes

theorem sortsBy_of_stored
    (stored : ∀ node ∈ nodes, node.follow? (Text.parts '.' field.sourceKey) =
      node.field? field.sourceKey) :
    graph.SortsBy name field nodes := by
  obtain ⟨rows, isListed, sorted⟩ := stablySorted_list known distinct isField nodes
  refine ⟨rows, isListed, sorted.perm, sorted.ascending.imp_of_mem ?_⟩
  intro earlier later isEarlier isLater ascending
  rwa [stored earlier (sorted.perm.mem_iff.mp isEarlier),
    stored later (sorted.perm.mem_iff.mp isLater)] at ascending

omit known distinct isField in
private theorem field?_single (key : String) (value : Value) :
    (Value.object [(key, value)]).field? key = some value := by
  simp [Value.field?, Value.fields?, Object.find?]

/-- The parts of a content key with a dot lead nowhere in nodes that store nothing else, so that
these stay as they are. -/
theorem not_sortsBy_of_dot (dotted : '.' ∈ field.sourceKey.toList) :
    ¬ graph.SortsBy name field [.object [(field.sourceKey, .bool true)],
      .object [(field.sourceKey, .bool false)]] := by
  obtain ⟨first, rest, isPath, notKey⟩ := Text.exists_part_ne dotted
  have leadsNowhere (truth : Bool) :
      (Value.object [(field.sourceKey, .bool truth)]).follow?
        (Text.parts '.' field.sourceKey) = none := by
    simp [isPath, Value.follow?, Value.step?, Object.find?, notKey.symm]
  rintro ⟨rows, isListed, perm, ascending⟩
  obtain ⟨sorted, isSorted, stable⟩ := stablySorted_list known distinct isField
    [.object [(field.sourceKey, .bool true)], .object [(field.sourceKey, .bool false)]]
  cases isListed.symm.trans isSorted
  have tied : ∀ node ∈ rows,
      sortOrder (node.follow? (Text.parts '.' field.sourceKey)) none = .eq := by
    intro node member
    obtain ⟨truth, rfl⟩ : ∃ truth, node = .object [(field.sourceKey, .bool truth)] := by
      rcases List.mem_pair.mp (perm.mem_iff.mp member) with rfl | rfl
      · exact ⟨true, rfl⟩
      · exact ⟨false, rfl⟩
    rw [leadsNowhere]
    rfl
  have kept := stable.stable none
  rw [List.filter_eq_self.mpr fun node member => decide_eq_true (tied node member),
    List.filter_eq_self.mpr fun node member =>
      decide_eq_true (tied node (perm.mem_iff.mpr member))] at kept
  subst kept
  have wrongOrder := (List.pairwise_cons.mp ascending).1 _ List.mem_cons_self
  rw [field?_single, field?_single] at wrongOrder
  exact wrongOrder (by decide)

/-- A content key that is a list index finds the item of a node that is a list, which stores no
field. -/
theorem not_sortsBy_of_index (undotted : '.' ∉ field.sourceKey.toList) {index : Nat}
    (isIndex : Value.index? field.sourceKey = some index) :
    ¬ graph.SortsBy name field [.array (List.replicate index .null ++ [.string ""]),
      .object [(field.sourceKey, .bool true)]] := by
  rintro ⟨rows, isListed, perm, ascending⟩
  obtain ⟨sorted, isSorted, stable⟩ := stablySorted_list known distinct isField
    [.array (List.replicate index .null ++ [.string ""]), .object [(field.sourceKey, .bool true)]]
  cases isListed.symm.trans isSorted
  have item : (Value.array (List.replicate index .null ++ [.string ""])).follow?
      [field.sourceKey] = some (.string "") := by
    simp [Value.follow?, Value.step?, isIndex]
  have stored : (Value.object [(field.sourceKey, .bool true)]).follow? [field.sourceKey] =
      some (.bool true) := by
    simp [Value.follow?, Value.step?, Object.find?]
  have followed := stable.ascending
  rw [Text.parts_of_not_mem undotted] at followed
  rcases List.perm_pair.mp perm with rfl | rfl
  · have wrongOrder := (List.pairwise_cons.mp followed).1 _ List.mem_cons_self
    rw [item, stored] at wrongOrder
    exact wrongOrder (by decide)
  · have wrongOrder := (List.pairwise_cons.mp ascending).1 _ List.mem_cons_self
    rw [field?_single] at wrongOrder
    exact wrongOrder rfl

end Graph

/-! ### Sites -/

namespace Site

variable {State : Type}

/-- A listing sorted by the graph name of a field goes by the parts of the field's content key.  In
a built site a field sorts all nodes that are objects by what they store under its content key
exactly where this key holds no dot, and all other nodes too where it is no list index either. -/
theorem sortsBy_iff (config : Config) (source : Content.Source State) (state : State)
    (registry : Content.Registry) (graph : Graph)
    (built : graphOf config source state registry = .ok graph)
    (collection : Collection) (isCollection : collection ∈ graph.collections)
    (field : Field) (isField : field ∈ collection.shape) :
    ((∀ nodes : List Value, (∀ node ∈ nodes, node.items? = none) ->
        graph.SortsBy collection.name field nodes) ↔ '.' ∉ field.sourceKey.toList) ∧
      ((∀ nodes : List Value, graph.SortsBy collection.name field nodes) ↔
        '.' ∉ field.sourceKey.toList ∧ Value.index? field.sourceKey = none) := by
  have known := collection_of_graphOf built isCollection
  have distinct : collection.shape.names.Nodup := (distinctNames_of_graphOf built isCollection).1
  have sorts {nodes : List Value} (undotted : '.' ∉ field.sourceKey.toList)
      (noItem : ∀ node ∈ nodes, node.items? = none ∨ Value.index? field.sourceKey = none) :
      graph.SortsBy collection.name field nodes := by
    refine Graph.sortsBy_of_stored known distinct isField fun node member => ?_
    rw [Text.parts_of_not_mem undotted, Value.follow?_singleton (noItem node member)]
  refine ⟨⟨fun sortsAll dotted => ?_, fun undotted nodes noArray => ?_⟩,
    ⟨fun sortsAll => ?_, fun ⟨undotted, noIndex⟩ nodes => ?_⟩⟩
  · refine Graph.not_sortsBy_of_dot known distinct isField dotted (sortsAll _ ?_)
    simp [Value.items?]
  · exact sorts undotted fun node member => .inl (noArray node member)
  · have undotted : '.' ∉ field.sourceKey.toList := fun dotted =>
      Graph.not_sortsBy_of_dot known distinct isField dotted (sortsAll _)
    refine ⟨undotted, ?_⟩
    cases isIndex : Value.index? field.sourceKey with
    | none => rfl
    | some index =>
        exact absurd (sortsAll _) (Graph.not_sortsBy_of_index known distinct isField undotted isIndex)
  · exact sorts undotted fun _ _ => .inr noIndex

/-- Posts in the descending order of a field whose content key holds a dot. -/
def sampleDottedPosts : List Value :=
  [.object [("id", .string "a"), ("first.name", .string "z")],
   .object [("id", .string "b"), ("first.name", .string "y")]]

def sampleDotted : Config where
  collections := [{ name := "Post", path := "posts" }]

def sampleDottedCollection : Collection where
  entry := { name := "Post", path := "posts" }
  shape := .unnamed "id" (.scalar .string) :: .mk "first_name" "first.name" (.scalar .string) ::
    metadataFields.map fun key => .unnamed key (.scalar .string)

def sampleDottedGraph : Graph where
  collections := [sampleDottedCollection]
  store := [("Post", sampleDottedPosts)]

private theorem graphOf_sampleDotted :
    graphOf sampleDotted Content.MemoryStore.source { collections := [("Post", sampleDottedPosts)] }
      [] = .ok sampleDottedGraph := by
  with_unfolding_all rfl

theorem sortsBy_iff_sampleDotted :
    sampleDottedGraph.SortsBy "Post" (.unnamed "id" (.scalar .string))
      sampleDottedPosts.reverse := by
  have sortsAll := (sortsBy_iff sampleDotted Content.MemoryStore.source _ [] sampleDottedGraph
    graphOf_sampleDotted sampleDottedCollection List.mem_cons_self
    (.unnamed "id" (.scalar .string)) List.mem_cons_self).2.mpr ⟨by decide, by decide⟩
  exact sortsAll sampleDottedPosts.reverse

/-- Posts are not sorted by a field whose content key holds a dot, neither computed nor a relation:
they stay in their order, which is the descending one. -/
theorem sortsBy_fails_dotted :
    graphOf sampleDotted Content.MemoryStore.source
        { collections := [("Post", sampleDottedPosts)] } [] = .ok sampleDottedGraph ∧
      sampleDottedCollection ∈ sampleDottedGraph.collections ∧
      .mk "first_name" "first.name" (.scalar .string) ∈ sampleDottedCollection.shape ∧
      Collection.relation? sampleDottedCollection.relations "first_name" = none ∧
      sampleDottedGraph.list "Post" { sortBy := some "first_name" } sampleDottedPosts =
        .ok sampleDottedPosts ∧
      ¬ sampleDottedGraph.SortsBy "Post" (.mk "first_name" "first.name" (.scalar .string))
        sampleDottedPosts := by
  have stays : sampleDottedGraph.list "Post" { sortBy := some "first_name" } sampleDottedPosts =
      .ok sampleDottedPosts := by
    cbv
  refine ⟨graphOf_sampleDotted, List.mem_cons_self, List.mem_cons_of_mem _ List.mem_cons_self, rfl,
    stays, ?_⟩
  rintro ⟨rows, isListed, _, ascending⟩
  cases stays.symm.trans isListed
  exact (List.pairwise_cons.mp ascending).1 _ List.mem_cons_self (by decide)

end Site

end ContentGraph
