import ContentGraph.Proofs.Shape.ReferenceField
import ContentGraph.Proofs.Shape.Soundness
import ContentGraph.Proofs.Text.LegalNames

/-!
Contract: which shapes can be named, and what the names of a representative shape are.

Owns:
- `Kind.KeyWithin`, a key at any depth of a kind;
- `exists_key_of_rename` and `fieldName_of_rename`: naming is refused for one of these keys, and
  gives each of them a name where it succeeds;
- `reduce_names`: when a representative shape is refused, and its names when it is not.
-/

namespace ContentGraph

open ContentGraph.Json

namespace Kind

variable {transform : FieldTransform} {fields named renamed : Shape} {failure : Failure}
  {key : String}

/-! ### Keys at any depth -/

/-- A key of a kind, at any depth through objects and lists. -/
inductive KeyWithin (key : String) : Kind -> Prop where
  | here {fields : Shape} {field : Field} (member : field ∈ fields) (isKey : field.name = key) :
      KeyWithin key (.object fields)
  | inside {fields : Shape} {field : Field} (member : field ∈ fields)
      (within : KeyWithin key field.kind) : KeyWithin key (.object fields)
  | element {element : Kind} (within : KeyWithin key element) : KeyWithin key (.list element)

theorem keyWithin_cons_iff {first : Field} :
    KeyWithin key (.object (first :: fields)) ↔
      first.name = key ∨ KeyWithin key first.kind ∨ KeyWithin key (.object fields) := by
  constructor
  · rintro (⟨member, isKey⟩ | ⟨member, within⟩ | _)
    · rcases List.mem_cons.mp member with rfl | inRest
      · exact .inl isKey
      · exact .inr (.inr (.here inRest isKey))
    · rcases List.mem_cons.mp member with rfl | inRest
      · exact .inr (.inl within)
      · exact .inr (.inr (.inside inRest within))
  · rintro (isKey | within | within)
    · exact .here List.mem_cons_self isKey
    · exact .inside List.mem_cons_self within
    · cases within with
      | here member isKey => exact .here (List.mem_cons_of_mem _ member) isKey
      | inside member within => exact .inside (List.mem_cons_of_mem _ member) within

mutual

/-- The naming of a kind is refused for one of its keys. -/
theorem exists_key_of_rename : ∀ kind : Kind, rename transform kind = .error failure ->
    ∃ key, KeyWithin key kind ∧ transform.fieldName key = .error failure
  | .unknown, refused | .scalar _, refused | .resolved _, refused => by cases refused
  | .list element, refused => by
      rw [rename] at refused
      obtain ⟨key, within, isRefused⟩ :=
        exists_key_of_rename element (bind_ok_eq_error.mp refused)
      exact ⟨key, .element within, isRefused⟩
  | .object fields, refused => by
      rw [rename] at refused
      exact exists_key_of_renameFields fields [] (bind_ok_eq_error.mp refused)

theorem exists_key_of_renameFields : ∀ fields named : Shape,
    renameFields transform named fields = .error failure ->
      ∃ key, KeyWithin key (.object fields) ∧ transform.fieldName key = .error failure
  | [], _, refused => by cases refused
  | .mk key sourceKey kind :: rest, named, refused => by
      simp only [keyWithin_cons_iff]
      rw [renameFields, bind_eq_error] at refused
      obtain isRefused | ⟨name, _, refused⟩ := refused
      · exact ⟨key, .inl rfl, isRefused⟩
      · obtain refused | ⟨inner, _, refused⟩ := bind_eq_error.mp refused
        · obtain ⟨other, within, isRefused⟩ := exists_key_of_rename kind refused
          exact ⟨other, .inr (.inl within), isRefused⟩
        · obtain ⟨other, within, isRefused⟩ := exists_key_of_renameFields rest _ refused
          exact ⟨other, .inr (.inr within), isRefused⟩

end

mutual

/-- Where a kind can be named, each of its keys gets a name. -/
theorem fieldName_of_rename : ∀ kind renamed : Kind, rename transform kind = .ok renamed ->
    KeyWithin key kind -> ∃ name, transform.fieldName key = .ok name
  | .unknown, _, _, within | .scalar _, _, _, within | .resolved _, _, _, within => by cases within
  | .list element, _, isNamed, within => by
      obtain ⟨inner, isInner, _⟩ := rename_list_ok.mp isNamed
      cases within with
      | element within => exact fieldName_of_rename element inner isInner within
  | .object fields, _, isNamed, within => by
      obtain ⟨inner, areNamed, _⟩ := rename_object_ok.mp isNamed
      exact fieldName_of_renameFields fields [] inner areNamed within

theorem fieldName_of_renameFields : ∀ fields named renamed : Shape,
    renameFields transform named fields = .ok renamed -> KeyWithin key (.object fields) ->
      ∃ name, transform.fieldName key = .ok name
  | [], _, _, _, within => by
      obtain ⟨member, _⟩ | ⟨member, _⟩ := within <;> cases member
  | .mk own sourceKey kind :: rest, named, renamed, areNamed, within => by
      obtain ⟨name, isName, inner, isInner, isRest⟩ := renameFields_cons_ok.mp areNamed
      obtain rfl | within | within := keyWithin_cons_iff.mp within
      · exact ⟨name, isName⟩
      · exact fieldName_of_rename kind inner isInner within
      · exact fieldName_of_renameFields rest _ renamed isRest within

end

/-- Every key of the fields has, after naming, a field under its name. -/
theorem exists_field_of_key (areNamed : renameFields transform [] fields = .ok renamed)
    (isKey : key ∈ fields.names) :
    ∃ name field, transform.fieldName key = .ok name ∧ renamed.field? name = some field := by
  obtain ⟨origin, member, rfl⟩ := List.mem_map.mp isKey
  obtain ⟨name, isName⟩ := exists_name_of_renameFields areNamed member
  have given : (fields.find? fun field => transform.gives field.name name).isSome = true :=
    List.find?_isSome.mpr ⟨origin, member, FieldTransform.gives_iff.mpr isName⟩
  have found : ((renamed.field? name).map Field.sourceKey).isSome = true := by
    rw [map_sourceKey_field? areNamed]
    simpa [Shape.field?] using given
  rw [Option.isSome_map] at found
  obtain ⟨field, isField⟩ := Option.isSome_iff_exists.mp found
  exact ⟨name, field, isName, isField⟩

/-- The fields of an object stand under their own names, which are graph names, and those that
their content keys get. -/
def NamedFields (transform : FieldTransform) : Kind -> Prop
  | .object fields => ∀ field ∈ fields, Shape.field? fields field.name = some field ∧
      Text.IsGraphName field.name ∧ transform.fieldName field.sourceKey = .ok field.name
  | _ => True

theorem namedFields_of_wellNamed {kind : Kind} (well : WellNamed transform.fieldName kind) :
    NamedFields transform kind := by
  cases kind with
  | object fields =>
      obtain ⟨distinct, isNamed⟩ := well
      intro field member
      have isName := isNamed field member
      exact ⟨Shape.field?_of_mem distinct member,
        Text.isLegal_iff.mp (Text.isLegal_of_fieldName isName), isName⟩
  | _ => trivial

end Kind

namespace Shape

open Kind

variable {overrides fragments : ResolverTree} {referenceField key : String} {nodes : List Value}
  {node : Value}

/-- The keys of object nodes are observed, but for the one that tells the name of the collection. -/
theorem mem_names_observed_of_node (wellKeyed : ∀ node ∈ nodes, node.WellKeyed)
    (member : node ∈ nodes) (isHeld : (node.field? key).isSome = true)
    (other : key ≠ "_collection") :
    key ∈ (observed overrides fragments referenceField nodes).names := by
  cases node with
  | object held =>
      obtain ⟨value, found⟩ := Option.isSome_iff_exists.mp isHeld
      have kept : Object.find? (Object.erase held "_collection") key = some value :=
        (Object.find?_erase other).trans found
      have covers := covers_observed overrides fragments referenceField wellKeyed member
      obtain ⟨_, field, isKey, isField, _⟩ :=
        covers_object_iff.mp covers _ (Object.mem_of_find? kept)
      cases isKey
      obtain ⟨inShape, sameName⟩ := mem_of_field? isField
      exact List.mem_map.mpr ⟨field, inShape, sameName⟩
  | _ => cases isHeld

/-- The names of a representative shape.  It is refused exactly when some key of what was observed,
at any depth, still holds a list marker after the transform, and then for such a key.  If it is
not, the fields of every object in it stand under their own names, which are graph names and the
names of their content keys; and the keys of object nodes, the reference field and the metadata
fields have fields under their names, but for the key that tells the name of the collection. -/
theorem reduce_names (overrides fragments : ResolverTree) (referenceField : String)
    (transform : FieldTransform) (nodes : List Value)
    (wellKeyed : ∀ node ∈ nodes, node.WellKeyed) :
    let observed : Kind := .object (observed overrides fragments referenceField nodes)
    let marked (key : String) : Prop := ['[', ']'] <:+: (transform.apply key).toList
    let reduced := reduce overrides fragments referenceField transform nodes
    ((∃ text, reduced = .error (.illegalFieldName text)) ↔
        ∃ key, KeyWithin key observed ∧ marked key) ∧
      (∀ failure, reduced = .error failure ->
        ∃ key, KeyWithin key observed ∧ marked key ∧
          failure = .illegalFieldName (transform.apply key)) ∧
      ∀ shape, reduced = .ok shape ->
        Every (NamedFields transform) (.object shape) ∧
          ∀ key, key ≠ "_collection" ->
            (key ∈ referenceField :: metadataFields ∨
              ∃ node ∈ nodes, (node.field? key).isSome = true) ->
            ∃ name field, transform.fieldName key = .ok name ∧ shape.field? name = some field := by
  intro observed marked reduced
  have refused (failure : Failure) (isRefused : reduced = .error failure) :
      ∃ key, KeyWithin key observed ∧ marked key ∧
        failure = .illegalFieldName (transform.apply key) := by
    obtain ⟨key, within, isKey⟩ := exists_key_of_renameFields _ [] isRefused
    exact ⟨key, within, Text.fieldName_eq_error_iff.mp isKey⟩
  refine ⟨⟨?refused, ?marked⟩, refused, fun shape isShape => ⟨?named, ?covered⟩⟩
  case refused =>
    rintro ⟨text, isRefused⟩
    obtain ⟨key, within, isMarked, _⟩ := refused _ isRefused
    exact ⟨key, within, isMarked⟩
  case marked =>
    rintro ⟨key, within, isMarked⟩
    cases isReduced : reduced with
    | error failure =>
        obtain ⟨other, _, _, rfl⟩ := refused failure isReduced
        exact ⟨_, rfl⟩
    | ok shape =>
        obtain ⟨name, isName⟩ := fieldName_of_renameFields _ [] shape isReduced within
        cases isName.symm.trans (Text.fieldName_eq_error_iff.mpr ⟨isMarked, rfl⟩)
  case named =>
    exact (wellNamed_reduce wellKeyed isShape).imp fun _ => namedFields_of_wellNamed
  case covered =>
    intro key other isKey
    refine exists_field_of_key isShape ?_
    rcases isKey with isAdded | ⟨node, member, isHeld⟩
    · exact (mem_names_observed_iff isAdded).mpr other
    · exact mem_names_observed_of_node wellKeyed member isHeld other

theorem reduce_names_sampleMixedNodes :
    reduce [] [] "id" .camelCase sampleMixedNodes = .ok sampleMixedShape ∧
      Every (NamedFields .camelCase) (.object sampleMixedShape) ∧
        ∃ name field, FieldTransform.camelCase.fieldName "word_count" = .ok name ∧
          sampleMixedShape.field? name = some field := by
  have wellKeyed : ∀ node ∈ sampleMixedNodes, node.WellKeyed := by
    simp [sampleMixedNodes, Value.WellKeyed, Value.WellKeyedFields, Value.WellKeyedItems,
      Value.ofInt]
  have reduced : reduce [] [] "id" .camelCase sampleMixedNodes = .ok sampleMixedShape := by
    with_unfolding_all rfl
  obtain ⟨_, _, names⟩ := reduce_names [] [] "id" .camelCase sampleMixedNodes wellKeyed
  obtain ⟨named, covered⟩ := names sampleMixedShape reduced
  exact ⟨reduced, named, covered "word_count" (by decide)
    (.inr ⟨_, List.mem_cons_self, by with_unfolding_all rfl⟩)⟩

end Shape

end ContentGraph
