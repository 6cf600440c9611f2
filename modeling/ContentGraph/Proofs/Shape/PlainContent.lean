import ContentGraph.Proofs.Shape.OrderIndependence
import ContentGraph.Proofs.Text.LegalNames

/-!
Contract: shapes of content whose keys are legal graph names.

Owns:
- `Value.LegalKeys`, every key inside a value is a legal name, and that inference keeps it;
- `rename_identity`: legal names are not changed, so that a representative shape is the observed
  one;
- `reduce_plain`, what is known of a representative shape without computed fields then.
-/

namespace ContentGraph

open ContentGraph.Json

namespace Json.Value

mutual

/-- Every key inside the value is a legal graph name. -/
def LegalKeys : Value -> Prop
  | .array items => LegalKeysItems items
  | .object fields => LegalKeysFields fields
  | _ => True

/-- Every key inside the items is a legal graph name. -/
def LegalKeysItems : List Value -> Prop
  | [] => True
  | item :: rest => LegalKeys item ∧ LegalKeysItems rest

/-- Every key of the fields and inside them is a legal graph name. -/
def LegalKeysFields : List (String × Value) -> Prop
  | [] => True
  | (key, value) :: rest => Text.IsLegal key ∧ LegalKeys value ∧ LegalKeysFields rest

end

theorem legal_of_find? {fields : Object} {key : String} {value : Value}
    (legal : LegalKeysFields fields) (found : Object.find? fields key = some value) :
    Text.IsLegal key := by
  induction fields with
  | nil => cases found
  | cons field rest inductionHypothesis =>
      obtain ⟨name, held⟩ := field
      rw [LegalKeysFields] at legal
      rw [Object.find?] at found
      split at found
      · next same => exact same ▸ legal.1
      · exact inductionHypothesis legal.2.2 found

end Json.Value

namespace Kind

/-- The fields of an object have legal names. -/
def LegalNames : Kind -> Prop
  | .object fields => ∀ field ∈ fields, Text.IsLegal field.name
  | _ => True

theorem mergeInvariant_legalNames : MergeInvariant LegalNames where
  scalar _ := trivial
  list _ := trivial
  merge left right legalLeft legalRight := by
    intro field member
    rcases Shape.mem_merge member with ⟨mine, isMine, rfl⟩ | isTheirs
    · simpa using legalLeft mine isMine
    · exact legalRight field isTheirs

private theorem every_legalNames_nil : Every LegalNames (.object []) :=
  every_object_iff.mpr ⟨List.forall_mem_nil _, List.forall_mem_nil _⟩

mutual

/-- The kind of a value with legal keys has legal names at every level. -/
theorem legalNames_infer : ∀ value : Value, value.LegalKeys -> Every LegalNames (infer value)
  | .null, _ => trivial
  | .bool _, _ => trivial
  | .number (.int number), _ => by
      rw [infer]
      split <;> trivial
  | .number (.double _), _ => trivial
  | .string _, _ => trivial
  | .array items, legal => by
      rw [Value.LegalKeys] at legal
      exact ⟨trivial, legalNames_inferItems items legal .unknown trivial⟩
  | .object fields, legal => by
      rw [Value.LegalKeys] at legal
      exact every_object_iff.mpr (legalNames_inferFields fields legal)

theorem legalNames_inferItems : ∀ items : List Value, Value.LegalKeysItems items ->
    ∀ seen : Kind, Every LegalNames seen -> Every LegalNames (inferItems seen items)
  | [], _, _, everySeen => everySeen
  | first :: rest, legal, seen, everySeen => by
      rw [Value.LegalKeysItems] at legal
      rw [inferItems]
      exact legalNames_inferItems rest legal.2 _
        (mergeInvariant_legalNames.every_merge everySeen (legalNames_infer first legal.1))

theorem legalNames_inferFields : ∀ fields : Object, Value.LegalKeysFields fields ->
    LegalNames (.object (inferFields fields)) ∧
      ∀ field ∈ inferFields fields, Every LegalNames field.kind
  | [], _ => every_object_iff.mp every_legalNames_nil
  | (key, value) :: rest, legal => by
      rw [Value.LegalKeysFields] at legal
      have first := legalNames_infer value legal.2.1
      obtain ⟨names, inside⟩ := legalNames_inferFields rest legal.2.2
      rw [inferFields]
      exact ⟨List.forall_mem_cons.mpr ⟨legal.1, names⟩, List.forall_mem_cons.mpr ⟨first, inside⟩⟩

end

/-! ### Naming legal names -/

mutual

/-- The identity transform leaves a kind with legal names as it is. -/
theorem rename_identity : ∀ kind : Kind, Every DistinctNames kind -> Every LegalNames kind ->
    rename .identity kind = .ok kind
  | .unknown, _, _ => rfl
  | .scalar _, _, _ => rfl
  | .resolved _, _, _ => rfl
  | .list element, distinct, legal =>
      rename_list_ok.mpr ⟨element, rename_identity element distinct.2 legal.2, rfl⟩
  | .object fields, distinct, legal =>
      rename_object_ok.mpr ⟨fields, renameFields_identity fields [] distinct.1 distinct.2 legal.1
        legal.2, rfl⟩

theorem renameFields_identity : ∀ fields named : Shape, (Shape.names (named ++ fields)).Nodup ->
    EveryField DistinctNames fields -> LegalNames (.object fields) ->
    EveryField LegalNames fields -> renameFields .identity named fields = .ok (named ++ fields)
  | [], named, _, _, _, _ => by rw [List.append_nil]; rfl
  | .mk key sourceKey kind :: rest, named, distinct, distinctInside, legal, legalInside => by
      obtain ⟨isLegal, areLegal⟩ := List.forall_mem_cons.mp legal
      have isNew : Shape.field? named key = none := by
        rw [Shape.field?_eq_none_iff]
        rw [Shape.names, List.map_append, List.nodup_append] at distinct
        exact fun member => distinct.2.2 key member key List.mem_cons_self rfl
      have added : Shape.addNamed named (.mk key sourceKey kind) =
          named ++ [.mk key sourceKey kind] := by
        simp [Shape.addNamed, Field.name, isNew]
      have moved : named ++ .mk key sourceKey kind :: rest =
          (named ++ [.mk key sourceKey kind]) ++ rest := by simp
      rw [moved] at distinct ⊢
      refine renameFields_cons_ok.mpr ⟨key, Text.fieldName_identity isLegal, kind,
        rename_identity kind distinctInside.1 legalInside.1, ?_⟩
      rw [added]
      exact renameFields_identity rest _ distinct distinctInside.2 areLegal legalInside.2

end

end Kind

namespace Shape

open Kind

variable {nodes : List Value} {referenceField : String} {shape : Shape}

theorem legalNames_addMissing {key : String} (legal : Text.IsLegal key)
    (every : Every LegalNames (.object shape)) :
    Every LegalNames (.object (shape.addMissing key)) := by
  unfold addMissing
  split
  · exact every
  · rw [every_object_iff] at every ⊢
    constructor
    · intro field member
      rcases List.mem_append.mp member with isOld | isAdded
      · exact every.1 field isOld
      · cases List.mem_singleton.mp isAdded
        exact legal
    · intro field member
      rcases List.mem_append.mp member with isOld | isAdded
      · exact every.2 field isOld
      · cases List.mem_singleton.mp isAdded
        trivial

theorem legalNames_foldl_observe (wellKeyed : ∀ node ∈ nodes, node.WellKeyed)
    (legal : ∀ node ∈ nodes, node.LegalKeys) (every : Every LegalNames (.object shape)) :
    Every LegalNames (.object (nodes.foldl (observe []) shape)) := by
  induction nodes generalizing shape with
  | nil => exact every
  | cons node rest inductionHypothesis =>
      obtain ⟨isWellKeyed, areWellKeyed⟩ := List.forall_mem_cons.mp wellKeyed
      obtain ⟨isLegal, areLegal⟩ := List.forall_mem_cons.mp legal
      refine inductionHypothesis areWellKeyed areLegal ?_
      rw [observe_nil isWellKeyed, ← merge_objects]
      refine mergeInvariant_legalNames.every_merge every ?_
      cases node with
      | object held => exact legalNames_infer (.object held) isLegal
      | _ => exact every_legalNames_nil

theorem legalNames_observed (wellKeyed : ∀ node ∈ nodes, node.WellKeyed)
    (legal : ∀ node ∈ nodes, node.LegalKeys) (legalReference : Text.IsLegal referenceField) :
    Every LegalNames (.object (observed [] [] referenceField nodes)) := by
  have complete : Every LegalNames (.object ((referenceField :: metadataFields).foldl addMissing
      (nodes.foldl (observe []) []))) := by
    have seen : Every LegalNames (.object (nodes.foldl (observe []) [])) :=
      legalNames_foldl_observe wellKeyed legal every_legalNames_nil
    have legalAdded : ∀ key ∈ referenceField :: metadataFields, Text.IsLegal key :=
      List.forall_mem_cons.mpr ⟨legalReference, by decide⟩
    generalize referenceField :: metadataFields = keys at legalAdded
    generalize nodes.foldl _ _ = start at seen
    induction keys generalizing start with
    | nil => exact seen
    | cons key rest inductionHypothesis =>
        obtain ⟨isLegal, areLegal⟩ := List.forall_mem_cons.mp legalAdded
        exact inductionHypothesis areLegal _ (legalNames_addMissing isLegal seen)
  rw [every_object_iff] at complete ⊢
  exact ⟨fun field member => complete.1 field (List.mem_filter.mp member).1,
    fun field member => complete.2 field (List.mem_filter.mp member).1⟩

/-- The representative shape of plain content.  Under the identity transform and without computed
fields, it is what was observed: at every level its fields stand once each under their content
keys, which are legal names, and it covers the nodes under these names. -/
theorem reduce_plain (wellKeyed : ∀ node ∈ nodes, node.WellKeyed)
    (legal : ∀ node ∈ nodes, node.LegalKeys) (legalReference : Text.IsLegal referenceField)
    (reduced : reduce [] [] referenceField .identity nodes = .ok shape) :
    Every Plain (.object shape) ∧ Every LegalNames (.object shape) ∧
      ∀ held, Value.object held ∈ nodes ->
        Covers Except.ok (.object (Object.erase held "_collection")) (.object shape) := by
  have plain : Every Plain (.object (observed [] [] referenceField nodes)) := by
    have nothing : Every Plain (.object (ofTree [])) :=
      ⟨⟨trivial, List.nodup_nil, List.forall_mem_nil _⟩, trivial⟩
    exact every_observed invariant_plain nothing nothing referenceField wellKeyed
  have distinct : Every DistinctNames (.object (observed [] [] referenceField nodes)) := by
    have nothing : Every DistinctNames (.object (ofTree [])) := ⟨List.nodup_nil, trivial⟩
    exact every_observed invariant_distinctNames nothing nothing referenceField wellKeyed
  have legalNames := legalNames_observed wellKeyed legal legalReference
  have isObserved : shape = observed [] [] referenceField nodes := by
    have same := renameFields_identity _ [] distinct.1 distinct.2 legalNames.1 legalNames.2
    exact Except.ok.inj (reduced.symm.trans same)
  subst isObserved
  exact ⟨plain, legalNames,
    fun held member => covers_observed [] [] referenceField wellKeyed member⟩

end Shape

end ContentGraph
