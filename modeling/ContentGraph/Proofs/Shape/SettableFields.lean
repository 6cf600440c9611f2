import ContentGraph.Proofs.Schema.TypeFields
import ContentGraph.Proofs.Shape.ReferenceField
import ContentGraph.Proofs.Shape.Soundness

/-!
Contract: fields that a payload may set, from their declaration to the named shape.

Owns:
- `hasInput_merge`, `hasInput_overlay` and `hasInput_rename`: a kind gets its input from the kinds
  that it is made of;
- `Shape.Settable`, that no field of a name is computed, and `Shape.settable_observed`: an observed
  shape computes no field that neither overrides nor fragments compute;
- `Collection.SettableReference` and `Collection.exists_settable_reference`: when the graph name of
  the reference field leads to a field of the content that a payload may set.

Does not own: the input types that are made of such fields.
-/

namespace ContentGraph

open ContentGraph.Json
open ContentGraph.Schema (hasInput)

namespace Kind

/-! ### Kinds with an input -/

private theorem hasInput_merged {left right merge : Kind} (merged : Merged left right merge) :
    hasInput left = true -> hasInput right = true -> hasInput merge = true := by
  induction merged with
  | computedLeft => exact fun given _ => given
  | computedRight => exact fun _ given => given
  | unknownLeft => exact fun _ given => given
  | unknownRight => exact fun given _ => given
  | scalars | scalarObject | objectScalar | jsonList | listJson | objects => exact fun _ _ => rfl
  | lists _ inductionHypothesis => exact inductionHypothesis
  | listSingle _ _ inductionHypothesis => exact inductionHypothesis
  | singleList _ _ inductionHypothesis =>
      exact fun givenSingle givenElement => inductionHypothesis givenElement givenSingle

theorem hasInput_merge {left right : Kind} (givenLeft : hasInput left = true)
    (givenRight : hasInput right = true) : hasInput (left.merge right) = true :=
  hasInput_merged (merged left right) givenLeft givenRight

/-- What is observed in content has an input. -/
theorem hasInput_of_observed : ∀ kind : Kind, Every Observed kind -> hasInput kind = true
  | .unknown, _ => rfl
  | .scalar _, _ => rfl
  | .object _, _ => rfl
  | .list element, observed => hasInput_of_observed element observed.2

theorem hasInput_overlay {defaults node : Kind} (givenDefaults : hasInput defaults = true)
    (givenNode : hasInput node = true) : hasInput (overlay defaults node) = true := by
  cases node with
  | unknown => rwa [overlay]
  | object fields => cases defaults <;> simp [overlay, hasInput]
  | scalar form => rw [overlay]; exact givenNode; all_goals simp
  | list element => rw [overlay]; exact givenNode; all_goals simp
  | resolved resolver => cases givenNode

theorem hasInput_rename {transform : FieldTransform} (kind : Kind) {renamed : Kind}
    (isNamed : rename transform kind = .ok renamed) : hasInput renamed = hasInput kind := by
  cases kind with
  | list element =>
      obtain ⟨inner, isInner, rfl⟩ := rename_list_ok.mp isNamed
      show hasInput inner = hasInput element
      exact hasInput_rename element isInner
  | object fields =>
      obtain ⟨named, _, rfl⟩ := rename_object_ok.mp isNamed
      rfl
  | _ =>
      cases isNamed
      rfl

end Kind

namespace Shape

/-! ### Settable fields -/

/-- Every field of a name has an input. -/
def Settable (shape : Shape) (name : String) : Prop :=
  ∀ field ∈ shape, field.name = name -> hasInput field.kind = true

namespace Settable

variable {left right shape fragments declared : Shape} {name : String}

theorem merge (settableLeft : left.Settable name) (settableRight : right.Settable name) :
    (left.merge right).Settable name := by
  intro field member isName
  rcases mem_merge member with ⟨mine, isMine, rfl⟩ | isTheirs
  · rw [Field.name_absorb] at isName
    have givenMine := settableLeft mine isMine isName
    cases found : right.field? mine.name with
    | none => exact givenMine
    | some theirs =>
        obtain ⟨isTheirs, sameName⟩ := mem_of_field? found
        exact Kind.hasInput_merge givenMine
          (settableRight theirs isTheirs (sameName.trans isName))
  · exact settableRight field isTheirs isName

theorem setField (settable : shape.Settable name) {field : Field}
    (given : field.name = name -> hasInput field.kind = true) :
    (shape.setField field).Settable name := by
  intro other member isName
  rcases mem_setField member with rfl | isOld
  · exact given isName
  · exact settable other isOld isName

/-- Fields with inputs may be laid over declared ones. -/
theorem overlayFields (settable : declared.Settable name) {fields : Shape}
    (given : ∀ field ∈ fields, hasInput field.kind = true) :
    (Kind.overlayFields declared fields).Settable name := by
  induction fields generalizing declared with
  | nil => rwa [Kind.overlayFields]
  | cons first rest inductionHypothesis =>
      obtain ⟨key, sourceKey, kind⟩ := first
      obtain ⟨givenFirst, givenRest⟩ := List.forall_mem_cons.mp given
      rw [Kind.overlayFields]
      refine inductionHypothesis (settable.setField fun isName => ?_) givenRest
      dsimp only [Field.name, Field.kind, Field.unnamed] at isName ⊢
      split
      · next existing found =>
          obtain ⟨member, isKey⟩ := mem_of_field? found
          exact Kind.hasInput_overlay (settable existing member (isKey.trans isName)) givenFirst
      · exact givenFirst

theorem observe (settable : shape.Settable name) (settableFragments : fragments.Settable name)
    {node : Value} (wellKeyed : node.WellKeyed) : (observe fragments shape node).Settable name := by
  cases node with
  | object held =>
      have observed := Kind.invariant_observed.every_infer (.object held) wellKeyed
      rw [Kind.infer, Kind.every_object_iff] at observed
      rw [observe_object]
      exact settable.merge (settableFragments.overlayFields fun field member =>
        Kind.hasInput_of_observed field.kind (observed.2 field member))
  | _ => rwa [observe_of_not_object rfl]

theorem addMissing (settable : shape.Settable name) (key : String) :
    (shape.addMissing key).Settable name := by
  rcases shape.addMissing_eq key with same | isSet
  · rwa [same]
  · rw [isSet]
    exact settable.setField fun _ => rfl

theorem addNamed (settable : shape.Settable name) {field : Field}
    (given : field.name = name -> hasInput field.kind = true) :
    (shape.addNamed field).Settable name := by
  unfold Shape.addNamed
  split
  · next existing found =>
      obtain ⟨member, isName⟩ := mem_of_field? found
      refine settable.setField fun same => ?_
      dsimp only [Field.name] at same
      exact Kind.hasInput_merge (settable existing member same) (given (isName.symm.trans same))
  · intro other member isName
    rcases List.mem_append.mp member with isOld | isNew
    · exact settable other isOld isName
    · cases List.mem_singleton.mp isNew
      exact given isName

end Settable

/-- An observed shape computes no field that neither overrides nor fragments compute. -/
theorem settable_observed {overrides fragments : ResolverTree} {name : String}
    (settableOverrides : Settable (Kind.ofTree overrides) name)
    (settableFragments : Settable (Kind.ofTree fragments) name) (referenceField : String)
    {nodes : List Value} (wellKeyed : ∀ node ∈ nodes, node.WellKeyed) :
    (observed overrides fragments referenceField nodes).Settable name := by
  have seen : (nodes.foldl (Shape.observe (Kind.ofTree fragments))
      (Kind.ofTree overrides)).Settable name := by
    generalize Kind.ofTree overrides = start at settableOverrides
    induction nodes generalizing start with
    | nil => exact settableOverrides
    | cons node rest inductionHypothesis =>
        obtain ⟨keyed, keyedRest⟩ := List.forall_mem_cons.mp wellKeyed
        exact inductionHypothesis keyedRest _ (settableOverrides.observe settableFragments keyed)
  have complete : ((referenceField :: metadataFields).foldl Shape.addMissing
      (nodes.foldl (Shape.observe (Kind.ofTree fragments)) (Kind.ofTree overrides))).Settable
        name := by
    generalize referenceField :: metadataFields = keys
    generalize nodes.foldl _ _ = shape at seen
    induction keys generalizing shape with
    | nil => exact seen
    | cons key rest inductionHypothesis => exact inductionHypothesis _ (seen.addMissing key)
  exact fun field member => complete field (List.mem_filter.mp member).1

/-- A named field has an input when all fields that got its name have one. -/
theorem settable_renameFields {transform : FieldTransform} {fields named renamed : Shape}
    {name : String} (areNamed : Kind.renameFields transform named fields = .ok renamed)
    (settable : named.Settable name)
    (given : ∀ field ∈ fields, transform.fieldName field.name = .ok name ->
      hasInput field.kind = true) : renamed.Settable name := by
  induction fields generalizing named with
  | nil =>
      cases areNamed
      exact settable
  | cons first rest inductionHypothesis =>
      obtain ⟨key, sourceKey, kind⟩ := first
      obtain ⟨givenFirst, givenRest⟩ := List.forall_mem_cons.mp given
      obtain ⟨firstName, isName, inner, isInner, isRest⟩ := Kind.renameFields_cons_ok.mp areNamed
      refine inductionHypothesis isRest (settable.addNamed ?_) givenRest
      rintro rfl
      rw [Field.kind, Kind.hasInput_rename kind isInner]
      exact givenFirst isName

end Shape

namespace Collection

/-! ### The reference field -/

/-- The reference field is one of the content, and no other key gets its name.  The name of the
collection and the metadata are no content, and neither is what is computed. -/
structure SettableReference (collection : Collection) (overrides fragments : ResolverTree)
    (transform : FieldTransform) (nodes : List Value) : Prop where
  notAdded : collection.referenceField ≠ "_collection"
  noMetadata : collection.referenceField ∉ metadataFields
  noOverride : Shape.Settable (Kind.ofTree overrides) collection.referenceField
  noFragment : Shape.Settable (Kind.ofTree fragments) collection.referenceField
  apart : ∀ key ∈ (Shape.observed overrides fragments collection.referenceField nodes).names,
    transform.fieldName key = transform.fieldName collection.referenceField ->
      key = collection.referenceField

variable {collection : Collection} {overrides fragments : ResolverTree}
  {transform : FieldTransform} {nodes : List Value}

theorem SettableReference.keepsReference
    (settable : collection.SettableReference overrides fragments transform nodes)
    (wellKeyed : ∀ node ∈ nodes, node.WellKeyed)
    (reduced : Shape.reduce overrides fragments collection.referenceField transform nodes =
      .ok collection.shape) : collection.KeepsReference := by
  refine (keepsReference_iff wellKeyed reduced).mpr ⟨settable.notAdded, fun earlier member => ?_⟩
  intro same
  have isReference := settable.apart earlier ((List.takeWhile_sublist _).subset member) same
  have isEarlier := List.all_eq_true.mp List.all_takeWhile earlier member
  simp [isReference] at isEarlier

/-- The graph name of such a reference field leads to its field, and that has an input. -/
theorem SettableReference.exists_field
    (settable : collection.SettableReference overrides fragments transform nodes)
    (wellKeyed : ∀ node ∈ nodes, node.WellKeyed)
    (reduced : Shape.reduce overrides fragments collection.referenceField transform nodes =
      .ok collection.shape) :
    ∃ field, collection.shape.field? collection.referenceFieldName = some field ∧
      field.sourceKey = collection.referenceField ∧ hasInput field.kind = true := by
  obtain ⟨field, found, isSource⟩ := settable.keepsReference wellKeyed reduced
  obtain ⟨inShape, hasName⟩ := Shape.mem_of_field? found
  have isNamed := (Shape.wellNamed_reduce wellKeyed reduced).1.2 field inShape
  rw [isSource] at isNamed
  have observed := Shape.settable_observed settable.noOverride settable.noFragment
    collection.referenceField wellKeyed
  have isSettable : collection.shape.Settable field.name := by
    refine Shape.settable_renameFields reduced (List.forall_mem_nil _) fun origin member isName => ?_
    -- only the reference field got the name
    exact observed origin member
      (settable.apart origin.name (List.mem_map_of_mem member) (isName.trans isNamed.symm))
  exact ⟨field, found, isSource, isSettable field inShape rfl⟩

end Collection

end ContentGraph
