import ContentGraph.Proofs.Schema.Build
import ContentGraph.Proofs.Shape.Invariant

/-!
Contract: the fields of derived types.

Owns:
- the names of the fields that are derived from a shape: all of them on the output side, those
  whose kinds have an input on the input side;
- `collectionName_not_mem_names`: in a built schema no field of a shape has the name of the field
  that tells the name of the collection;
- `FieldsDistinct`, no type of a draft has two fields of one name, which deriving the types of a
  kind keeps where the kind has distinct names at every level.
-/

namespace ContentGraph.Schema

variable {types : List (String × List FieldDef)} {relations : List Relation}
  {collections : List Collection} {collection : Collection} {table : TypeTable}

/-! ### Names of fields -/

theorem names_of_defines {shape : Shape} {fields : List FieldDef}
    (defines : List.Forall₂ (Defines types relations) shape fields) :
    fields.map FieldDef.name = shape.names := by
  induction defines with
  | nil => rfl
  | cons first _ inductionHypothesis =>
      rw [List.map_cons, inductionHypothesis, first.name_eq]
      rfl

theorem names_outputFields {shape : Shape} {parent : String} {draft after : TypeDraft}
    {fields : List FieldDef} (derived : outputFields parent draft shape = .ok (fields, after)) :
    fields.map FieldDef.name = shape.names :=
  names_of_defines ((outputFields_ok shape derived).2 _ fun _ member => member).defines

/-- No field of the shape has the name of a field that was there before. -/
theorem not_mem_names_of_collectionFields {draft after : TypeDraft} {shape : Shape}
    {fields all : List FieldDef}
    (derived : collectionFields collection fields draft shape = .ok (all, after)) :
    ∀ field ∈ fields, field.name ∉ shape.names := by
  induction shape generalizing fields draft with
  | nil => exact fun _ _ => List.not_mem_nil
  | cons first rest inductionHypothesis =>
      rw [collectionFields] at derived
      split at derived
      · cases derived
      · next added middle derivedFirst =>
          obtain ⟨_, definition, rfl, defines⟩ := collectionField_ok derivedFirst
          obtain ⟨extended, addedFirst, derivedRest⟩ := bind_eq_ok.mp derived
          obtain ⟨rfl, free⟩ := addFields_ok addedFirst
          have isName : definition.name = first.name := (defines _ fun _ isType => isType).name_eq
          intro field member isField
          rcases List.mem_cons.mp isField with isFirst | inRest
          · exact free definition List.mem_cons_self field member (isFirst.trans isName.symm)
          · exact inductionHypothesis derivedRest field (List.mem_append_left _ member) inRest

/-- No field of a shape has the name of the field that every collection type has. -/
theorem collectionName_not_mem_names (built : build collections = .ok table)
    (member : collection ∈ collections) : "_collection" ∉ collection.shape.names := by
  have added {parts last : Parts} (folded : collections.foldlM Parts.add parts = .ok last) :
      ∃ draft after, TypeDraft.addCollection draft collection = .ok after := by
    clear built
    induction collections generalizing parts with
    | nil => cases member
    | cons first rest inductionHypothesis =>
        rw [List.foldlM_cons, bind_eq_ok] at folded
        obtain ⟨next, addedFirst, foldedRest⟩ := folded
        rcases List.mem_cons.mp member with rfl | inRest
        · obtain ⟨after, addedTypes, _⟩ := bind_eq_ok.mp addedFirst
          exact ⟨_, after, addedTypes⟩
        · exact inductionHypothesis inRest foldedRest
  obtain ⟨parts, isParts, _⟩ := bind_eq_ok.mp built
  obtain ⟨draft, after, addedTypes⟩ := added isParts
  obtain ⟨fields, middle, _, _, derived, _⟩ := addCollection_ok addedTypes
  exact not_mem_names_of_collectionFields derived _ List.mem_cons_self

/-- Whether a kind has an input: computed fields and lists of them have none. -/
def hasInput : Kind -> Bool
  | .resolved _ => false
  | .list element => hasInput element
  | _ => true

theorem isSome_inputType (base : String) (draft : TypeDraft) :
    ∀ kind : Kind, (inputType base draft kind).1.isSome = hasInput kind
  | .unknown => rfl
  | .scalar _ => rfl
  | .list element => by
      rw [inputType, Option.isSome_map, isSome_inputType base draft element, hasInput]
  | .resolved _ => rfl
  | .object fields => by
      simp only [inputType, hasInput]
      split <;> rfl

/-- The input fields of a shape are those of the kinds that have an input. -/
theorem names_inputFields (shape : Shape) (parent : String) (draft : TypeDraft) :
    (inputFields parent draft shape).1.map Prod.fst =
      Shape.names (shape.filter fun field => hasInput field.kind) := by
  induction shape generalizing draft with
  | nil => rfl
  | cons field rest inductionHypothesis =>
      obtain ⟨name, sourceKey, kind⟩ := field
      have others := inductionHypothesis (inputType (nestedName parent name) draft kind).2
      have given := isSome_inputType (nestedName parent name) draft kind
      simp only [inputFields]
      split
      · next type isType =>
          rw [isType] at given
          rw [List.filter_cons_of_pos (by simpa [Field.kind] using given.symm), List.map_cons,
            others]
          rfl
      · next noType =>
          rw [noType] at given
          rw [List.filter_cons_of_neg (by simpa [Field.kind] using given.symm), others]

/-! ### Types without repeated fields -/

/-- No type of a draft has two fields of one name. -/
structure FieldsDistinct (draft : TypeDraft) : Prop where
  objects : ∀ object ∈ draft.objects, (object.2.map FieldDef.name).Nodup
  inputs : ∀ input ∈ draft.inputs, (input.2.map Prod.fst).Nodup

namespace FieldsDistinct

variable {draft : TypeDraft} {name : String}

theorem addObject (distinct : FieldsDistinct draft) {fields : List FieldDef}
    (own : (fields.map FieldDef.name).Nodup) :
    FieldsDistinct { draft with objects := draft.objects ++ [(name, fields)] } where
  objects := List.forall_mem_append.mpr ⟨distinct.objects, List.forall_mem_singleton.mpr own⟩
  inputs := distinct.inputs

theorem addInput (distinct : FieldsDistinct draft) {fields : List (String × TypeRef)}
    (own : (fields.map Prod.fst).Nodup) :
    FieldsDistinct { draft with inputs := draft.inputs ++ [(name, fields)] } where
  objects := distinct.objects
  inputs := List.forall_mem_append.mpr ⟨distinct.inputs, List.forall_mem_singleton.mpr own⟩

theorem claim (distinct : FieldsDistinct draft) (base : String) :
    FieldsDistinct (draft.claim base).2 :=
  ⟨distinct.objects, distinct.inputs⟩

end FieldsDistinct

theorem nodup_inputFields {shape : Shape} (parent : String) (draft : TypeDraft)
    (distinct : shape.names.Nodup) :
    ((inputFields parent draft shape).1.map Prod.fst).Nodup := by
  rw [names_inputFields]
  exact distinct.sublist (List.filter_sublist.map Field.name)

open Kind (Every EveryField DistinctNames)

mutual

/-- Deriving the output type of a kind of distinct names repeats no field. -/
theorem outputType_fieldsDistinct : ∀ (kind : Kind) {base : String} {draft after : TypeDraft}
    {type : TypeRef}, Every DistinctNames kind -> FieldsDistinct draft ->
      outputType base draft kind = .ok (type, after) -> FieldsDistinct after
  | .unknown, _, _, _, _, _, distinct, derived => by cases derived; exact distinct
  | .scalar _, _, _, _, _, _, distinct, derived => by cases derived; exact distinct
  | .object [], _, _, _, _, _, distinct, derived => by cases derived; exact distinct
  | .resolved _, _, _, _, _, _, distinct, derived => by
      obtain ⟨_, _, isType⟩ := bind_eq_ok.mp derived
      cases isType
      exact distinct
  | .list element, _, _, _, _, named, distinct, derived => by
      rw [outputType, bind_eq_ok] at derived
      obtain ⟨⟨inner, middle⟩, derivedInner, isType⟩ := derived
      cases isType
      exact outputType_fieldsDistinct element named.2 distinct derivedInner
  | .object (first :: rest), base, draft, _, _, named, distinct, derived => by
      rw [outputType, bind_eq_ok] at derived
      obtain ⟨⟨fields, middle⟩, derivedFields, isType⟩ := derived
      cases isType
      have inside := outputFields_fieldsDistinct (first :: rest) named.2 (distinct.claim base)
        derivedFields
      exact inside.addObject (names_outputFields derivedFields ▸ named.1)

/-- Deriving the fields of an object whose kinds have distinct names repeats no field. -/
theorem outputFields_fieldsDistinct : ∀ (shape : Shape) {parent : String}
    {draft after : TypeDraft} {fields : List FieldDef}, EveryField DistinctNames shape ->
      FieldsDistinct draft -> outputFields parent draft shape = .ok (fields, after) ->
      FieldsDistinct after
  | [], _, _, _, _, _, distinct, derived => by cases derived; exact distinct
  | .mk name sourceKey kind :: rest, _, _, _, _, named, distinct, derived => by
      simp only [outputFields, bind_eq_ok] at derived
      obtain ⟨⟨type, middle⟩, derivedType, arguments, _, ⟨others, last⟩, derivedRest,
        isFields⟩ := derived
      cases isFields
      have first := outputType_fieldsDistinct kind named.1 distinct derivedType
      exact outputFields_fieldsDistinct rest named.2 first derivedRest

end

mutual

/-- Deriving the input type of a kind of distinct names repeats no field. -/
theorem inputType_fieldsDistinct : ∀ (kind : Kind) (base : String) {draft : TypeDraft},
    Every DistinctNames kind -> FieldsDistinct draft ->
      FieldsDistinct (inputType base draft kind).2
  | .unknown, _, _, _, distinct => distinct
  | .scalar _, _, _, _, distinct => distinct
  | .resolved _, _, _, _, distinct => distinct
  | .list element, base, _, named, distinct => by
      rw [inputType]
      exact inputType_fieldsDistinct element base named.2 distinct
  | .object fields, base, draft, named, distinct => by
      -- the claimed name is kept also where no field has an input and the type is free JSON
      have own := nodup_inputFields base (draft.claim (inputName base)).2 named.1
      have inside := inputFields_fieldsDistinct fields base named.2
        (distinct.claim (inputName base))
      simp only [inputType]
      split
      · next isDerived =>
          rw [isDerived] at inside
          exact inside
      · next isDerived =>
          rw [isDerived] at own inside
          exact inside.addInput own

/-- Deriving the input types of an object's fields repeats no field. -/
theorem inputFields_fieldsDistinct : ∀ (shape : Shape) (parent : String) {draft : TypeDraft},
    EveryField DistinctNames shape -> FieldsDistinct draft ->
      FieldsDistinct (inputFields parent draft shape).2
  | [], _, _, _, distinct => distinct
  | .mk name _ kind :: rest, parent, draft, named, distinct => by
      have first := inputType_fieldsDistinct kind (nestedName parent name) named.1 distinct
      have last := inputFields_fieldsDistinct rest parent named.2 first
      simp only [inputFields]
      split <;> exact last

end

end ContentGraph.Schema
