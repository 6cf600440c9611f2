import ContentGraph.Proofs.Json.ObjectFields
import ContentGraph.Proofs.Shape.Coverage

/-!
Contract: the shape that is observed in a collection, before its fields are named.

Owns:
- `every_observed`: an invariant of the declared fields is one of the observed shape;
- `covers_observed`: the observed shape covers every object node, its `_collection` field apart,
  whatever overrides and fragments there are.
-/

namespace ContentGraph

open ContentGraph.Json

namespace Kind

mutual

/-- Declared fields stand under their content keys. -/
theorem namedBy_ofNode : ∀ node : ResolverNode, Every (NamedBy Except.ok) (ofNode node)
  | .resolver _ => trivial
  | .object fields => ⟨(namedBy_ofTree fields).1, everyField_iff.mpr (namedBy_ofTree fields).2⟩
  | .list element => ⟨trivial, namedBy_ofNode element⟩

theorem namedBy_ofTree : ∀ tree : List (String × ResolverNode),
    (∀ field ∈ ofTree tree, Except.ok field.sourceKey = (.ok field.name : Except Failure String)) ∧
      ∀ field ∈ ofTree tree, Every (NamedBy Except.ok) field.kind
  | [] => by simp [ofTree]
  | (key, node) :: rest => by
      have first := namedBy_ofNode node
      have others := namedBy_ofTree rest
      rw [ofTree]
      constructor
      · intro field member
        rcases List.mem_cons.mp member with rfl | inRest
        · rfl
        · exact others.1 field inRest
      · intro field member
        rcases List.mem_cons.mp member with rfl | inRest
        · exact first
        · exact others.2 field inRest

end

end Kind

namespace Shape

open Kind

variable {shape fragments : Shape} {property : Kind -> Prop}

/-! ### One more node -/

theorem observe_object (held : Object) :
    observe fragments shape (.object held) =
      shape.merge (overlayFields fragments (inferFields held)) := by
  simp [observe, infer]

/-- A node that is no object is passed over. -/
theorem observe_of_not_object {node : Value} (noObject : node.isObject = false) :
    observe fragments shape node = shape := by
  unfold observe
  split
  · next fields isObject =>
      cases node with
      | object held => cases noObject
      | number number =>
          cases number <;> rw [infer] at isObject
          · split at isObject <;> cases isObject
          · cases isObject
      | _ => cases isObject
  · rfl

/-- A field that is missing is added as if it were set. -/
theorem addMissing_eq (key : String) :
    shape.addMissing key = shape ∨
      shape.addMissing key = shape.setField (.unnamed key (.scalar .string)) := by
  unfold addMissing
  split
  · exact .inl rfl
  · next absent =>
      exact .inr (setField_of_absent absent).symm

theorem every_addMissing (invariant : Invariant property) (key : String)
    (every : Every property (.object shape)) :
    Every property (.object (shape.addMissing key)) := by
  rcases shape.addMissing_eq key with same | isSet
  · rwa [same]
  · rw [isSet]
    exact invariant.every_setField every (invariant.scalar .string)

theorem every_observe (invariant : Invariant property)
    (everyFragment : Every property (.object fragments)) {node : Value}
    (wellKeyed : node.WellKeyed) (every : Every property (.object shape)) :
    Every property (.object (observe fragments shape node)) := by
  cases node with
  | object held =>
      rw [observe_object, ← merge_objects]
      have inferred := invariant.every_infer _ wellKeyed
      exact invariant.every_merge every
        (invariant.every_overlayFields _ inferred.2 fragments everyFragment)
  | _ => rwa [observe_of_not_object rfl]

/-! ### All nodes -/

/-- An invariant of the declared fields holds at every level of the observed shape. -/
theorem every_observed (invariant : Invariant property) {overrides fragments : ResolverTree}
    (everyOverride : Every property (.object (ofTree overrides)))
    (everyFragment : Every property (.object (ofTree fragments)))
    (referenceField : String) {nodes : List Value} (wellKeyed : ∀ node ∈ nodes, node.WellKeyed) :
    Every property (.object (observed overrides fragments referenceField nodes)) := by
  refine invariant.every_filter _ ?_
  generalize referenceField :: metadataFields = keys
  have seen : Every property
      (.object (nodes.foldl (observe (ofTree fragments)) (ofTree overrides))) := by
    generalize ofTree overrides = start at everyOverride
    induction nodes generalizing start with
    | nil => exact everyOverride
    | cons node rest inductionHypothesis =>
        have keyed := List.forall_mem_cons.mp wellKeyed
        exact inductionHypothesis keyed.2 _
          (every_observe invariant everyFragment keyed.1 everyOverride)
  generalize nodes.foldl _ _ = start at seen
  induction keys generalizing start with
  | nil => exact seen
  | cons key rest inductionHypothesis =>
      exact inductionHypothesis _ (every_addMissing invariant key seen)

theorem namedBy_observed (overrides fragments : ResolverTree) (referenceField : String)
    {nodes : List Value} (wellKeyed : ∀ node ∈ nodes, node.WellKeyed) :
    Every (NamedBy Except.ok) (.object (observed overrides fragments referenceField nodes)) :=
  every_observed invariant_namedBy_ok
    (every_object_iff.mpr (namedBy_ofTree overrides))
    (every_object_iff.mpr (namedBy_ofTree fragments)) referenceField wellKeyed

/-! ### Coverage of the nodes -/

variable {value : Value} {held : Object}

theorem covers_observe_of_covers (node : Value) (covers : Covers Except.ok value (.object shape)) :
    Covers Except.ok value (.object (observe fragments shape node)) := by
  cases node with
  | object held =>
      rw [observe_object, ← merge_objects]
      exact covers_merge_left _ covers
  | _ => rwa [observe_of_not_object rfl]

/-- A node is covered by the shape that took it in. -/
theorem covers_observe (wellKeyed : (Value.object held).WellKeyed) :
    Covers Except.ok (.object held) (.object (observe fragments shape (.object held))) := by
  have covers := covers_infer (.object held) wellKeyed
  have distinct := invariant_distinctNames.every_infer (.object held) wellKeyed
  rw [infer] at covers distinct
  have laid := covers_overlay _ distinct (.object fragments) _ covers
  rw [overlay] at laid
  rw [observe_object, ← merge_objects]
  exact covers_merge_right _ laid

theorem covers_foldl_observe_of_covers (nodes : List Value)
    (covers : Covers Except.ok value (.object shape)) :
    Covers Except.ok value (.object (nodes.foldl (observe fragments) shape)) := by
  induction nodes generalizing shape with
  | nil => exact covers
  | cons node rest inductionHypothesis =>
      exact inductionHypothesis (covers_observe_of_covers node covers)

/-- Every object node is covered by the shape that took all nodes in. -/
theorem covers_foldl_observe {nodes : List Value} (wellKeyed : ∀ node ∈ nodes, node.WellKeyed)
    (member : Value.object held ∈ nodes) :
    Covers Except.ok (.object held) (.object (nodes.foldl (observe fragments) shape)) := by
  induction nodes generalizing shape with
  | nil => cases member
  | cons node rest inductionHypothesis =>
      have keyed := List.forall_mem_cons.mp wellKeyed
      rw [List.foldl_cons]
      rcases List.mem_cons.mp member with rfl | inRest
      · exact covers_foldl_observe_of_covers rest (covers_observe keyed.1)
      · exact inductionHypothesis keyed.2 inRest

/-- Adding a missing field takes none away. -/
theorem field?_addMissing {key name : String} :
    (shape.addMissing key).field? name =
      (shape.field? name).or
        (if name = key then some (.unnamed key (.scalar .string)) else none) := by
  unfold addMissing
  split
  · next existing found =>
      by_cases same : name = key
      · rw [same, found, Option.some_or]
      · rw [if_neg same, Option.or_none]
  · rw [field?_append]
    by_cases same : name = key
    · simp [field?, Field.unnamed, Field.name, same]
    · simp [field?, Field.unnamed, Field.name, same, Ne.symm same]

theorem covers_addMissing (keys : List String)
    (covers : Covers Except.ok (.object held) (.object shape)) :
    Covers Except.ok (.object held) (.object (keys.foldl addMissing shape)) := by
  induction keys generalizing shape with
  | nil => exact covers
  | cons key rest inductionHypothesis =>
      refine inductionHypothesis (covers_object_iff.mpr fun entry member => ?_)
      obtain ⟨name, field, named, found, covered⟩ := covers_object_iff.mp covers entry member
      refine ⟨name, field, named, ?_, covered⟩
      rw [field?_addMissing, found, Option.some_or]

/-- The observed shape covers every object node without its `_collection` field. -/
theorem covers_observed (overrides fragments : ResolverTree) (referenceField : String)
    {nodes : List Value} (wellKeyed : ∀ node ∈ nodes, node.WellKeyed)
    (member : Value.object held ∈ nodes) :
    Covers Except.ok (.object (held.erase "_collection"))
      (.object (observed overrides fragments referenceField nodes)) := by
  have seen : Covers Except.ok (.object held)
      (.object (nodes.foldl (observe (ofTree fragments)) (ofTree overrides))) :=
    covers_foldl_observe wellKeyed member
  have complete := covers_addMissing (referenceField :: metadataFields) seen
  rw [covers_object_iff] at complete ⊢
  intro entry inErased
  obtain ⟨inHeld, other⟩ := List.mem_filter.mp inErased
  obtain ⟨name, field, named, found, covered⟩ := complete entry inHeld
  cases named
  refine ⟨entry.1, field, rfl, ?_, covered⟩
  rw [observed, field?_filter fun name => decide (name ≠ "_collection"), if_pos other]
  exact found

end Shape

end ContentGraph
