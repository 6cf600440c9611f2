import ContentGraph.Proofs.Shape.FieldOrder
import ContentGraph.Proofs.Shape.Observation

/-!
Contract: what the order of the nodes can change about a representative shape.

Owns:
- `sameUpTo_observed`: reordering the nodes changes the order of the observed fields and the
  nesting of free JSON;
- `reduce_perm`: it changes nothing else about the representative shape;
- `reduce_not_perm`: it does change the nesting of free JSON.
-/

namespace ContentGraph

open ContentGraph.Json

/-! ### The observed shape -/

namespace Shape

open Kind

variable {shape left right fields : Shape} {nodes others : List Value}

/-- The fields that a node adds to what was seen. -/
def ofValue : Value -> Shape
  | .object held => inferFields held
  | _ => []

/-- New fields, under their content keys, are laid after the declared ones. -/
theorem overlayFields_of_new (declared : Shape) (distinct : (declared.names ++ fields.names).Nodup)
    (named : NamedBy Except.ok (.object fields)) :
    overlayFields declared fields = declared ++ fields := by
  induction fields generalizing declared with
  | nil => simp [overlayFields]
  | cons first rest inductionHypothesis =>
      obtain ⟨key, sourceKey, kind⟩ := first
      obtain ⟨ownKey, otherKeys⟩ := List.forall_mem_cons.mp named
      have sameKey : sourceKey = key := Except.ok.inj ownKey
      have isNew : declared.field? key = none := by
        rw [field?_eq_none_iff]
        exact fun member =>
          (List.nodup_append.mp distinct).2.2 key member key List.mem_cons_self rfl
      have moved : Shape.names (declared ++ [.mk key key kind]) ++ Shape.names rest =
          declared.names ++ Shape.names (.mk key sourceKey kind :: rest) := by
        simp [names, Field.name]
      simp only [overlayFields, isNew, Field.unnamed]
      rw [setField_of_absent isNew, inductionHypothesis _ (moved ▸ distinct) otherKeys,
        List.append_assoc, List.singleton_append, sameKey]

/-- Where nothing is declared, taking in one more node is a merge with its fields. -/
theorem observe_nil {node : Value} (wellKeyed : node.WellKeyed) :
    observe [] shape node = shape.merge (ofValue node) := by
  cases node with
  | object held =>
      have distinct := invariant_distinctNames.inferred held wellKeyed.1
      have named := invariant_namedBy_ok.inferred held wellKeyed.1
      rw [observe_object, overlayFields_of_new [] distinct named]
      rfl
  | _ => exact (observe_of_not_object rfl).trans (merge_nil shape).symm

theorem meaningAt_foldl_observe (wellKeyed : ∀ node ∈ nodes, node.WellKeyed) (name : String) :
    meaningAt (nodes.foldl (observe []) shape) name =
      nodes.foldl (fun said node => said.join (meaningAt (ofValue node) name))
        (meaningAt shape name) := by
  induction nodes generalizing shape with
  | nil => rfl
  | cons node rest inductionHypothesis =>
      have keyed := List.forall_mem_cons.mp wellKeyed
      rw [List.foldl_cons, List.foldl_cons, inductionHypothesis keyed.2, observe_nil keyed.1,
        meaningAt_merge]

theorem meaningAt_addMissing (same : meaningAt left = meaningAt right) (key : String) :
    meaningAt (left.addMissing key) = meaningAt (right.addMissing key) := by
  funext name
  have said := congrFun same name
  rw [meaningAt_eq, meaningAt_eq, field?_addMissing, field?_addMissing]
  cases foundLeft : left.field? name with
  | none =>
      rw [← meaningAt_eq_absent_iff, said, meaningAt_eq_absent_iff] at foundLeft
      rw [foundLeft]
  | some mine =>
      cases foundRight : right.field? name with
      | none =>
          rw [← meaningAt_eq_absent_iff, ← said, meaningAt_eq_absent_iff] at foundRight
          cases foundLeft.symm.trans foundRight
      | some theirs =>
          rw [meaningAt_eq, meaningAt_eq, foundLeft, foundRight] at said
          exact said

theorem meaningAt_foldl_addMissing (keys : List String)
    (same : meaningAt left = meaningAt right) :
    meaningAt (keys.foldl addMissing left) = meaningAt (keys.foldl addMissing right) := by
  induction keys generalizing left right with
  | nil => exact same
  | cons key rest inductionHypothesis => exact inductionHypothesis (meaningAt_addMissing same key)

/-- What is observed does not depend on the order of the nodes. -/
theorem meaningAt_observed_perm (referenceField : String) (permutation : nodes.Perm others)
    (wellKeyed : ∀ node ∈ nodes, node.WellKeyed) :
    meaningAt (observed [] [] referenceField nodes) =
      meaningAt (observed [] [] referenceField others) := by
  have wellKeyedOthers : ∀ node ∈ others, node.WellKeyed :=
    fun node member => wellKeyed node (permutation.mem_iff.mpr member)
  have seen : meaningAt (nodes.foldl (observe []) []) =
      meaningAt (others.foldl (observe []) []) := by
    funext name
    -- For one name the nodes are joined one by one, and joins commute.
    rw [meaningAt_foldl_observe wellKeyed, meaningAt_foldl_observe wellKeyedOthers]
    exact permutation.foldl_eq' (fun _ _ _ _ said => Meaning.join_right_comm said _ _) _
  have complete := meaningAt_foldl_addMissing (referenceField :: metadataFields) seen
  funext name
  have said := congrFun complete name
  rw [meaningAt_eq, meaningAt_eq] at said ⊢
  rw [observed, observed, field?_filter fun name => decide (name ≠ "_collection"),
    field?_filter fun name => decide (name ≠ "_collection")]
  split
  · exact said
  · rfl

/-- The observed shape keeps its fields up to order when the nodes are reordered, and their kinds
up to the nesting of free JSON. -/
theorem sameUpTo_observed (referenceField : String) (permutation : nodes.Perm others)
    (wellKeyed : ∀ node ∈ nodes, node.WellKeyed) :
    SameUpTo JsonNest (.object (observed [] [] referenceField nodes))
      (.object (observed [] [] referenceField others)) := by
  have nothing : Every Plain (.object (ofTree [])) := ⟨⟨trivial, List.nodup_nil, nofun⟩, trivial⟩
  have plain : ∀ {nodes : List Value}, (∀ node ∈ nodes, node.WellKeyed) ->
      Every Plain (.object (observed [] [] referenceField nodes)) :=
    every_observed invariant_plain nothing nothing referenceField
  refine sameUpTo_of_meaning _ _ (plain wellKeyed)
    (plain fun node member => wellKeyed node (permutation.mem_iff.mpr member)) ?_
  simp only [meaning, meaningAt_observed_perm referenceField permutation wellKeyed]

/-! ### The representative shape -/

/-- The representative shape depends on the order of the nodes in little.  Where no two fields of
one object get one name, it exists for a reordered collection whenever it exists for the
collection itself; both shapes have the same fields at every level, under the same names and from
the same keys, and the kinds of fields are the same, free JSON apart, which either order may leave
in lists.  A shape without free JSON is the same for every order. -/
theorem reduce_perm (referenceField : String) (transform : FieldTransform)
    (nodes others : List Value) (shape : Shape) (permutation : nodes.Perm others)
    (wellKeyed : ∀ node ∈ nodes, node.WellKeyed)
    (apart : Every (Apart transform) (.object (observed [] [] referenceField nodes)))
    (reduced : reduce [] [] referenceField transform nodes = .ok shape) :
    ∃ other, reduce [] [] referenceField transform others = .ok other ∧
      SameUpTo JsonNest (.object shape) (.object other) ∧
      (Every (· ≠ .scalar .json) (.object shape) ->
        SameUpTo (fun _ => False) (.object shape) (.object other)) := by
  have same := sameUpTo_observed referenceField permutation wellKeyed
  have nothing : Every DistinctNames (.object (ofTree [])) := ⟨List.nodup_nil, trivial⟩
  have distinct := every_observed invariant_distinctNames nothing nothing referenceField wellKeyed
  obtain ⟨kind, isNamed, sameNamed⟩ := rename_sameUpTo rename_jsonNest same distinct apart _
    (rename_object_ok.mpr ⟨shape, reduced, rfl⟩)
  obtain ⟨other, isOther, rfl⟩ := rename_object_ok.mp isNamed
  exact ⟨other, isOther, sameNamed, sameNamed.of_no_json⟩

theorem apart_of_keys {fields : Shape}
    (kept : ∀ key ∈ fields.names, FieldTransform.identity.fieldName key = .ok key) :
    Apart .identity (.object fields) := by
  intro first inFirst second inSecond name isFirst isSecond
  have sameFirst := Except.ok.inj ((kept first inFirst).symm.trans isFirst)
  have sameSecond := Except.ok.inj ((kept second inSecond).symm.trans isSecond)
  exact sameFirst.trans sameSecond.symm

/-- A node with a list of objects and one with a single object under the same key. -/
def sampleParts : List Value :=
  [.object [("id", .string "a"), ("parts", .array [.object [("size", .ofInt 1)], .null])],
   .object [("parts", .object [("unit", .string "kg"), ("size", .ofInt 2)]), ("id", .null)]]

/-- The representative shape of `sampleParts`. -/
def samplePartsShape : Shape :=
  [.unnamed "id" (.scalar .string),
   .unnamed "parts" (.list (.object
     [.unnamed "size" (.scalar .int), .unnamed "unit" (.scalar .string)])),
   .unnamed "_filename" (.scalar .string), .unnamed "_path" (.scalar .string),
   .unnamed "_slug" (.scalar .string)]

theorem reduce_perm_sampleParts :
    ∃ other, reduce [] [] "id" .identity sampleParts.reverse = .ok other ∧
      SameUpTo (fun _ => False) (.object samplePartsShape) (.object other) := by
  have wellKeyed : ∀ node ∈ sampleParts, node.WellKeyed := by
    simp [sampleParts, Value.WellKeyed, Value.WellKeyedFields, Value.WellKeyedItems, Value.ofInt]
  have observed : observed [] [] "id" sampleParts = samplePartsShape := by
    with_unfolding_all rfl
  have reduced : reduce [] [] "id" .identity sampleParts = .ok samplePartsShape := by
    with_unfolding_all rfl
  have apart : Every (Apart .identity) (.object samplePartsShape) := by
    simp only [samplePartsShape, Field.unnamed, Every, EveryField, and_true]
    refine ⟨apart_of_keys (by decide +kernel), trivial, ⟨trivial, ?_, trivial, trivial⟩, trivial,
      trivial, trivial⟩
    exact apart_of_keys (by decide +kernel)
  have noJson : Every (· ≠ .scalar .json) (.object samplePartsShape) := by
    simp [samplePartsShape, Field.unnamed, Every, EveryField]
  obtain ⟨other, reducedOther, _, same⟩ := reduce_perm "id" .identity sampleParts
    sampleParts.reverse samplePartsShape (List.reverse_perm _).symm wellKeyed (observed ▸ apart)
    reduced
  exact ⟨other, reducedOther, same noJson⟩

/-- Nodes with one field: a text, a number, and an empty list. -/
def sampleClash : List Value :=
  [.object [("m", .string "x")], .object [("m", .ofInt 1)], .object [("m", .array [])]]

/-- The nodes of `sampleClash`, the list before the number. -/
def sampleClashReordered : List Value :=
  [.object [("m", .string "x")], .object [("m", .array [])], .object [("m", .ofInt 1)]]

/-- The representative shape of nodes whose field `m` is of a kind. -/
def sampleClashShape (kind : Kind) : Shape :=
  [.unnamed "m" kind, .unnamed "id" (.scalar .string), .unnamed "_filename" (.scalar .string),
   .unnamed "_path" (.scalar .string), .unnamed "_slug" (.scalar .string)]

/-- The nesting of free JSON does depend on the order: a list that comes after the clash of a text
and a number is forgotten, and one that comes before it is not. -/
theorem reduce_not_perm :
    sampleClash.Perm sampleClashReordered ∧ (∀ node ∈ sampleClash, node.WellKeyed) ∧
      Every (Apart .identity) (.object (observed [] [] "id" sampleClash)) ∧
      reduce [] [] "id" .identity sampleClash = .ok (sampleClashShape (.scalar .json)) ∧
      reduce [] [] "id" .identity sampleClashReordered =
        .ok (sampleClashShape (.list (.scalar .json))) ∧
      ¬ SameUpTo (fun _ => False) (.object (sampleClashShape (.scalar .json)))
        (.object (sampleClashShape (.list (.scalar .json)))) := by
  have observed : observed [] [] "id" sampleClash = sampleClashShape (.scalar .json) := by
    with_unfolding_all rfl
  refine ⟨by decide +kernel, ?_, ?_, by with_unfolding_all rfl, by with_unfolding_all rfl, ?_⟩
  · simp [sampleClash, Value.WellKeyed, Value.WellKeyedFields, Value.WellKeyedItems, Value.ofInt]
  · rw [observed]
    simp only [sampleClashShape, Field.unnamed, Every, EveryField, and_true]
    exact ⟨apart_of_keys (by decide +kernel), trivial, trivial, trivial, trivial, trivial⟩
  · intro same
    cases same with
    | blurred isBlurred => exact isBlurred
    | object names sourceKeys kinds =>
        have same := kinds _ List.mem_cons_self _ List.mem_cons_self rfl
        cases same with
        | blurred isBlurred => exact isBlurred

end Shape

end ContentGraph
