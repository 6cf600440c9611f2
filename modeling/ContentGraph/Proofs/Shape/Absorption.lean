import ContentGraph.Proofs.Shape.Observation

/-!
Contract: what a shape has seen, it does not have to see again.

Owns:
- `Kind.Absorbs`, that an observation tells a kind nothing new, and what a kind absorbs;
- `Merged.absorbs`: the merge of two kinds absorbs what either of them absorbs;
- `reduce_append_of_mem`: another copy of a node leaves the representative shape as it is.

Merging is not associative, so a copy cannot be moved next to the node that it repeats.  Absorption
takes its place: it is an upper bound that every later merge keeps.
-/

namespace ContentGraph

open ContentGraph.Json

namespace Kind

/-- An observation tells a kind nothing new. -/
def Absorbs (kind seen : Kind) : Prop :=
  kind.merge seen = kind

variable {kind left right seen element single widened : Kind} {fields others : Shape}
  {form : Scalar}

/-! ### What a kind absorbs -/

theorem absorbs_unknown (kind : Kind) : Absorbs kind .unknown :=
  merge_unknown_right kind

theorem absorbs_resolved (resolver : Resolver) (seen : Kind) :
    Absorbs (.resolved resolver) seen := by
  rw [Absorbs, merge]

/-- What a kind absorbs is by the rules of merging. -/
private theorem Absorbs.rule (absorbs : Absorbs kind seen) :
    ∃ result, Merged kind seen result ∧ result = kind :=
  ⟨kind.merge seen, merged kind seen, absorbs⟩

/-- Only computed fields absorb computed fields. -/
theorem Absorbs.plain (absorbs : Absorbs kind seen)
    (plain : ∀ resolver, kind ≠ .resolved resolver) (resolver : Resolver) :
    seen ≠ .resolved resolver := by
  rintro rfl
  obtain ⟨result, rule, isKind⟩ := absorbs.rule
  cases rule with
  | computedLeft own => exact plain own rfl
  | computedRight => exact plain resolver isKind.symm
  | unknownLeft => exact plain resolver isKind.symm
  | listSingle isSingle => cases isSingle

/-- Free JSON absorbs everything but computed fields. -/
theorem absorbs_json (plain : ∀ resolver, seen ≠ .resolved resolver) :
    Absorbs (.scalar .json) seen := by
  cases seen with
  | resolved resolver => exact absurd rfl (plain resolver)
  | _ => simp [Absorbs, merge]

theorem Absorbs.of_scalar (absorbs : Absorbs (.scalar form) seen) (informative : form ≠ .json) :
    seen = .unknown ∨ ∃ other, seen = .scalar other ∧ form.widen other = form := by
  obtain ⟨result, rule, isKind⟩ := absorbs.rule
  cases rule with
  | unknownRight => exact .inl rfl
  | scalars _ other => exact .inr ⟨other, rfl, Kind.scalar.inj isKind⟩
  | scalarObject | jsonList => exact absurd (Kind.scalar.inj isKind).symm informative
  | computedRight | singleList => cases isKind

theorem absorbs_scalar_iff {other : Scalar} :
    Absorbs (.scalar form) (.scalar other) ↔ form.widen other = form := by
  rw [Absorbs, merge_scalars, Kind.scalar.injEq]

theorem Absorbs.of_list (absorbs : Absorbs (.list element) seen) :
    seen = .unknown ∨ (∃ other, seen = .list other ∧ Absorbs element other) ∨
      Single seen ∧ Absorbs element seen := by
  have plain := absorbs.plain nofun
  cases seen with
  | unknown => exact .inl rfl
  | list other => exact .inr (.inl ⟨other, rfl, by simpa [Absorbs, merge] using absorbs⟩)
  | resolved resolver => exact absurd rfl (plain resolver)
  | scalar other =>
      have informative : other ≠ .json := by
        rintro rfl
        simp [Absorbs, merge] at absorbs
      have isSingle : Single (.scalar other) := .scalar informative
      refine .inr (.inr ⟨isSingle, ?_⟩)
      rw [Absorbs, merge_list_single isSingle] at absorbs
      exact Kind.list.inj absorbs
  | object others =>
      refine .inr (.inr ⟨.object others, ?_⟩)
      rw [Absorbs, merge_list_single (.object others)] at absorbs
      exact Kind.list.inj absorbs

theorem absorbs_lists (absorbs : Absorbs element seen) : Absorbs (.list element) (.list seen) := by
  rw [Absorbs] at absorbs ⊢
  rw [merge, absorbs]

theorem absorbs_list_single (isSingle : Single seen) (absorbs : Absorbs element seen) :
    Absorbs (.list element) seen := by
  rw [Absorbs] at absorbs ⊢
  rw [merge_list_single isSingle, absorbs]

theorem absorbs_object_iff :
    Absorbs (.object fields) (.object others) ↔ fields.merge others = fields := by
  rw [Absorbs, merge_objects, Kind.object.injEq]

theorem Absorbs.of_object (absorbs : Absorbs (.object fields) seen) :
    seen = .unknown ∨ ∃ others, seen = .object others ∧ fields.merge others = fields := by
  obtain ⟨result, rule, isKind⟩ := absorbs.rule
  cases rule with
  | unknownRight => exact .inl rfl
  | @objects _ others => exact .inr ⟨others, rfl, Kind.object.inj isKind⟩
  | computedRight | objectScalar | singleList => cases isKind

/-- What the kind of a single value absorbs is the kind of a single value, or nothing was seen. -/
theorem Absorbs.of_single (absorbs : Absorbs single seen) (isSingle : Single single) :
    seen = .unknown ∨ Single seen := by
  cases isSingle with
  | @scalar form informative =>
      rcases absorbs.of_scalar informative with isUnknown | ⟨other, rfl, widened⟩
      · exact .inl isUnknown
      · refine .inr (.scalar ?_)
        rintro rfl
        revert widened informative
        cases form <;> decide
  | object fields =>
      rcases absorbs.of_object with isUnknown | ⟨others, rfl, _⟩
      · exact .inl isUnknown
      · exact .inr (.object others)

/-- A widened scalar absorbs what either scalar does. -/
theorem absorbs_widen {left right : Scalar}
    (absorbs : Absorbs (.scalar left) seen ∨ Absorbs (.scalar right) seen) :
    Absorbs (.scalar (left.widen right)) seen := by
  by_cases mixed : left.widen right = .json
  · rw [mixed]
    exact absorbs_json (absorbs.elim (·.plain nofun) (·.plain nofun))
  · have informative : left ≠ .json ∧ right ≠ .json := by
      revert mixed
      cases left <;> cases right <;> decide
    rcases absorbs with absorbs | absorbs
    · rcases absorbs.of_scalar informative.1 with rfl | ⟨other, rfl, widened⟩
      · exact absorbs_unknown _
      · rw [absorbs_scalar_iff]
        revert widened
        cases left <;> cases right <;> cases other <;> decide
    · rcases absorbs.of_scalar informative.2 with rfl | ⟨other, rfl, widened⟩
      · exact absorbs_unknown _
      · rw [absorbs_scalar_iff]
        revert widened mixed
        cases left <;> cases right <;> cases other <;> decide

/-- A list that took single values in absorbs what its elements do. -/
theorem absorbs_list_of_single (isSingle : Single single) (absorbs : Absorbs single seen)
    (taken : Absorbs widened seen) : Absorbs (.list widened) seen := by
  rcases absorbs.of_single isSingle with rfl | isSingleSeen
  · exact absorbs_unknown _
  · exact absorbs_list_single isSingleSeen taken

/-- A list absorbs what another list does, when its elements do. -/
theorem absorbs_list_of_list (absorbs : Absorbs (.list element) seen)
    (taken : ∀ seen, Absorbs element seen -> Absorbs widened seen) :
    Absorbs (.list widened) seen := by
  rcases absorbs.of_list with rfl | ⟨other, rfl, inside⟩ | ⟨isSingle, inside⟩
  · exact absorbs_unknown _
  · exact absorbs_lists (taken other inside)
  · exact absorbs_list_single isSingle (taken seen inside)

end Kind

namespace Shape

variable {shape left right fields others seen : Shape}

private theorem absorb_eq_self_iff {field other : Field} :
    field.absorb (some other) = field ↔ field.kind.Absorbs other.kind := by
  cases field
  simp [Field.absorb, Field.name, Field.sourceKey, Field.kind, Kind.Absorbs]

/-- A shape stays as it is in a merge when every field of the other shape has its name there, where
its kind is absorbed. -/
theorem merge_eq_self_iff :
    shape.merge seen = shape ↔ (∀ other ∈ seen, other.name ∈ shape.names) ∧
      ∀ field ∈ shape, ∀ other, seen.field? field.name = some other ->
        field.kind.Absorbs other.kind := by
  have isNothing : (seen.filter fun field => (shape.field? field.name).isNone) = [] ↔
      ∀ other ∈ seen, other.name ∈ shape.names := by
    simp [List.filter_eq_nil_iff, field?_eq_none_iff]
  have isSame : (shape.map fun field => field.absorb (seen.field? field.name)) = shape ↔
      ∀ field ∈ shape, ∀ other, seen.field? field.name = some other ->
        field.kind.Absorbs other.kind := by
    conv_lhs => rhs; rw [← List.map_id shape]
    rw [List.map_inj_left]
    refine forall₂_congr fun field _ => ?_
    cases found : seen.field? field.name with
    | none => simp [Field.absorb]
    | some other => simp [absorb_eq_self_iff]
  rw [merge, mergeShared_eq_map, ← isNothing, ← isSame]
  constructor
  · intro same
    have nothing : (seen.filter fun field => (shape.field? field.name).isNone) = [] := by
      have lengths := congrArg List.length same
      rw [List.length_append, List.length_map] at lengths
      exact List.length_eq_zero_iff.mp (by omega)
    rw [nothing, List.append_nil] at same
    exact ⟨nothing, same⟩
  · rintro ⟨nothing, same⟩
    rw [nothing, same, List.append_nil]

/-- The merge of two shapes keeps what either of them keeps in a merge, when the merges of their
fields do. -/
theorem merge_merge_eq_self (absorbs : left.merge seen = left ∨ right.merge seen = right)
    (shared : ∀ mine ∈ left, ∀ theirs, right.field? mine.name = some theirs ->
      ∀ seen, mine.kind.Absorbs seen ∨ theirs.kind.Absorbs seen ->
        (mine.kind.merge theirs.kind).Absorbs seen) :
    (left.merge right).merge seen = left.merge right := by
  simp only [merge_eq_self_iff] at absorbs ⊢
  constructor
  · intro other member
    rw [names_merge, List.mem_append, List.mem_filter, decide_eq_true_iff]
    rcases absorbs with ⟨named, _⟩ | ⟨named, _⟩
    · exact .inl (named other member)
    · by_cases inLeft : other.name ∈ left.names
      · exact .inl inLeft
      · exact .inr ⟨named other member, inLeft⟩
  · intro field member other found
    obtain ⟨isOther, otherName⟩ := mem_of_field? found
    rcases List.mem_append.mp member with inLeft | inRight
    · rw [mergeShared_eq_map, List.mem_map] at inLeft
      obtain ⟨mine, isMine, rfl⟩ := inLeft
      rw [Field.name_absorb] at found otherName
      cases both : right.field? mine.name with
      | some theirs =>
          have isTheirs := mem_of_field? both
          refine shared mine isMine theirs both other.kind ?_
          exact absorbs.imp (·.2 mine isMine other found) fun same =>
            same.2 theirs isTheirs.1 other (isTheirs.2 ▸ found)
      | none =>
          rcases absorbs with same | same
          · exact same.2 mine isMine other found
          · exact absurd (otherName ▸ same.1 other isOther) (field?_eq_none_iff.mp both)
    · obtain ⟨isTheirs, isNew⟩ := List.mem_filter.mp inRight
      rcases absorbs with same | same
      · have absent := field?_eq_none_iff.mp (Option.isNone_iff_eq_none.mp isNew)
        exact absurd (otherName ▸ same.1 other isOther) absent
      · exact same.2 field isTheirs other found

end Shape

namespace Kind

/-- The merge of two kinds absorbs what either of them absorbs. -/
theorem Merged.absorbs {left right merge : Kind} (merged : Merged left right merge) :
    ∀ seen, Absorbs left seen ∨ Absorbs right seen -> Absorbs merge seen := by
  induction merged with
  | computedLeft resolver | computedRight _ resolver =>
      exact fun seen _ => absorbs_resolved resolver seen
  | unknownLeft other =>
      rintro seen (nothing | absorbs)
      · rw [Absorbs, merge_unknown_left] at nothing
        exact nothing ▸ absorbs_unknown other
      · exact absorbs
  | unknownRight other =>
      rintro seen (absorbs | nothing)
      · exact absorbs
      · rw [Absorbs, merge_unknown_left] at nothing
        exact nothing ▸ absorbs_unknown other
  | scalars left right => exact fun seen absorbs => absorbs_widen absorbs
  | scalarObject | objectScalar | jsonList | listJson =>
      rintro seen (absorbs | absorbs) <;> exact absorbs_json (absorbs.plain nofun)
  | lists elements inductionHypothesis =>
      rintro seen (absorbs | absorbs)
      · exact absorbs_list_of_list absorbs fun seen inside => inductionHypothesis seen (.inl inside)
      · exact absorbs_list_of_list absorbs fun seen inside => inductionHypothesis seen (.inr inside)
  | listSingle isSingle taken inductionHypothesis =>
      rintro seen (absorbs | absorbs)
      · exact absorbs_list_of_list absorbs fun seen inside => inductionHypothesis seen (.inl inside)
      · exact absorbs_list_of_single isSingle absorbs (inductionHypothesis seen (.inr absorbs))
  | singleList isSingle taken inductionHypothesis =>
      rintro seen (absorbs | absorbs)
      · exact absorbs_list_of_single isSingle absorbs (inductionHypothesis seen (.inr absorbs))
      · exact absorbs_list_of_list absorbs fun seen inside => inductionHypothesis seen (.inl inside)
  | @objects left right shared inductionHypothesis =>
      intro seen absorbs
      have isObject : seen = .unknown ∨ ∃ others, seen = .object others ∧
          (left.merge others = left ∨ right.merge others = right) := by
        rcases absorbs with absorbs | absorbs <;>
          rcases absorbs.of_object with rfl | ⟨others, rfl, same⟩
        · exact .inl rfl
        · exact .inr ⟨others, rfl, .inl same⟩
        · exact .inl rfl
        · exact .inr ⟨others, rfl, .inr same⟩
      rcases isObject with rfl | ⟨others, rfl, same⟩
      · exact absorbs_unknown _
      · exact absorbs_object_iff.mpr (Shape.merge_merge_eq_self same inductionHypothesis)

theorem Absorbs.merge_left (absorbs : Absorbs left seen) (right : Kind) :
    Absorbs (left.merge right) seen :=
  (merged left right).absorbs seen (.inl absorbs)

theorem Absorbs.merge_right (absorbs : Absorbs right seen) (left : Kind) :
    Absorbs (left.merge right) seen :=
  (merged left right).absorbs seen (.inr absorbs)

mutual

/-- A kind without repeated names absorbs itself. -/
theorem absorbs_self : ∀ kind : Kind, Every DistinctNames kind -> Absorbs kind kind
  | .unknown, _ => absorbs_unknown _
  | .scalar form, _ => absorbs_scalar_iff.mpr (by cases form <;> rfl)
  | .resolved resolver, _ => absorbs_resolved resolver _
  | .list element, distinct => absorbs_lists (absorbs_self element distinct.2)
  | .object fields, distinct => by
      have inside := absorbs_fields fields distinct.2
      refine absorbs_object_iff.mpr (Shape.merge_eq_self_iff.mpr ?_)
      refine ⟨fun other member => List.mem_map_of_mem member, fun field member other found => ?_⟩
      cases (Shape.field?_of_mem distinct.1 member).symm.trans found
      exact inside field member

theorem absorbs_fields : ∀ fields : List Field, EveryField DistinctNames fields ->
    ∀ field ∈ fields, Absorbs field.kind field.kind
  | [], _ => List.forall_mem_nil _
  | .mk _ _ kind :: rest, distinct =>
      List.forall_mem_cons.mpr ⟨absorbs_self kind distinct.1, absorbs_fields rest distinct.2⟩

end

end Kind

/-! ### Nodes -/

namespace Shape

open Kind

variable {shape fragments : Shape} {node : Value} {nodes : List Value}

/-- What a node adds to a shape: its fields, laid over the declared ones. -/
def layer (fragments : Shape) : Value -> Shape
  | .object held => overlayFields fragments (inferFields held)
  | _ => []

theorem observe_eq_merge : observe fragments shape node = shape.merge (layer fragments node) := by
  cases node with
  | object held => rw [observe_object, layer]
  | _ => exact (observe_of_not_object rfl).trans (merge_nil shape).symm

theorem distinctNames_layer (distinct : Every DistinctNames (.object fragments))
    (wellKeyed : node.WellKeyed) : Every DistinctNames (.object (layer fragments node)) := by
  cases node with
  | object held =>
      have inferred := invariant_distinctNames.every_infer _ wellKeyed
      exact invariant_distinctNames.every_overlayFields _ inferred.2 fragments distinct
  | _ => exact ⟨List.nodup_nil, trivial⟩

/-- A node that a shape has taken in tells it nothing new. -/
theorem observe_observe (distinct : Every DistinctNames (.object fragments))
    (wellKeyed : node.WellKeyed) :
    observe fragments (observe fragments shape node) node = observe fragments shape node := by
  have absorbs := (absorbs_self _ (distinctNames_layer distinct wellKeyed)).merge_right
    (.object shape)
  rwa [merge_objects, absorbs_object_iff, ← observe_eq_merge, ← observe_eq_merge] at absorbs

/-- What tells a shape nothing new does so after any other node. -/
theorem observe_of_observed (same : observe fragments shape node = shape) (other : Value) :
    observe fragments (observe fragments shape other) node = observe fragments shape other := by
  rw [observe_eq_merge, ← absorbs_object_iff] at same
  have absorbs := same.merge_left (.object (layer fragments other))
  rwa [merge_objects, absorbs_object_iff, ← observe_eq_merge, ← observe_eq_merge] at absorbs

/-- A node among those that a shape took in, one after another, tells it nothing new. -/
theorem observe_foldl_of_mem (shape : Shape) (distinct : Every DistinctNames (.object fragments))
    (wellKeyed : node.WellKeyed) (member : node ∈ nodes) :
    observe fragments (nodes.foldl (observe fragments) shape) node =
      nodes.foldl (observe fragments) shape := by
  have kept (rest : List Value) : ∀ shape : Shape, observe fragments shape node = shape ->
      observe fragments (rest.foldl (observe fragments) shape) node =
        rest.foldl (observe fragments) shape := by
    induction rest with
    | nil => exact fun _ same => same
    | cons next rest inductionHypothesis =>
        exact fun shape same => inductionHypothesis _ (observe_of_observed same next)
  obtain ⟨before, after, rfl⟩ := List.append_of_mem member
  rw [List.foldl_append, List.foldl_cons]
  exact kept after _ (observe_observe distinct wellKeyed)

/-- Seeing a node again changes nothing: with another copy of one of the nodes, the representative
shape is the same, with the same fields in the same order, the same kinds and the same computed
fields, or it is refused as before. -/
theorem reduce_append_of_mem (overrides fragments : ResolverTree) (referenceField : String)
    (transform : FieldTransform) (nodes : List Value) (node : Value) (member : node ∈ nodes)
    (wellKeyed : node.WellKeyed) (distinct : Every DistinctNames (.object (ofTree fragments))) :
    reduce overrides fragments referenceField transform (nodes ++ [node]) =
      reduce overrides fragments referenceField transform nodes := by
  have seen := observe_foldl_of_mem (ofTree overrides) distinct wellKeyed member
  have observed : observed overrides fragments referenceField (nodes ++ [node]) =
      observed overrides fragments referenceField nodes := by
    simp only [Shape.observed, List.foldl_append, List.foldl_cons, List.foldl_nil, seen]
  rw [reduce, reduce, observed]

/-- A post with a single tag and a body. -/
def sampleTaggedPost : Value :=
  .object [("tags", .string "one"), ("_content", .object [("raw", .string "x")])]

/-- Posts whose tags are a text, a mixed list and a number. -/
def sampleTaggedPosts : List Value :=
  [sampleTaggedPost,
   .object [("tags", .array [.array [.ofInt 1], .object [("name", .string "two")]])],
   .object [("tags", .ofInt 3), ("_content", .null)]]

/-- A computed field of every body. -/
def sampleBodyFragments : ResolverTree :=
  [("_content", .object
    [("html", .resolver { typeRef := "String", resolve := fun body _ _ => .ok body })])]

theorem reduce_append_of_mem_sampleTaggedPosts :
    (∃ shape, reduce [] sampleBodyFragments "id" .identity sampleTaggedPosts = .ok shape) ∧
      reduce [] sampleBodyFragments "id" .identity (sampleTaggedPosts ++ [sampleTaggedPost]) =
        reduce [] sampleBodyFragments "id" .identity sampleTaggedPosts := by
  refine ⟨⟨_, by with_unfolding_all rfl⟩, reduce_append_of_mem [] sampleBodyFragments "id" .identity
    sampleTaggedPosts sampleTaggedPost List.mem_cons_self ?_ ?_⟩
  · simp [sampleTaggedPost, Value.WellKeyed, Value.WellKeyedFields]
  · simp [sampleBodyFragments, ofTree, ofNode, Field.unnamed, Every, EveryField, DistinctNames,
      names, Field.name]

end Shape

end ContentGraph
