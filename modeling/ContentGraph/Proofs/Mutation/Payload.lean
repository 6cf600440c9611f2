import ContentGraph.Graph.Mutation
import ContentGraph.Proofs.Json.Merge

/-!
Contract: the records that payloads describe.

Owns:
- no key comes twice in such a record, whatever the payload holds;
- dropping the protected keys or the nulls adds no key, and leaves values well keyed;
- `deepMerge_changes_of_new`: an update of the payload of a new record changes nothing;
- what an update lays over a node does not touch the node's reference value.
-/

namespace ContentGraph

open ContentGraph.Json

/-! ### Content keys -/

/-- Setting fields one after another under their content keys leaves no key twice, even where
several graph names go to one content key. -/
theorem nodup_keys_contentFields {shape : Shape} {done : Object}
    {fields : List (String × Value)} (distinct : (Object.keys done).Nodup) :
    (Object.keys (contentFields shape done fields)).Nodup := by
  induction fields generalizing done with
  | nil => simpa [contentFields] using distinct
  | cons field rest inductionHypothesis =>
      obtain ⟨name, value⟩ := field
      rw [contentFields]
      split <;> exact inductionHypothesis (Object.nodup_keys_insert distinct)

private theorem wellKeyedFields_insert {fields : Object} {key : String} {value : Value}
    (wellKeyed : Value.WellKeyedFields fields) (wellKeyedValue : value.WellKeyed) :
    Value.WellKeyedFields (Object.insert fields key value) := by
  rw [Object.wellKeyedFields_iff] at wellKeyed ⊢
  intro field member
  rcases Object.mem_of_mem_insert member with old | isValue
  · exact wellKeyed field old
  · rw [isValue]
    exact wellKeyedValue

mutual

/-- Values under content keys hold no key twice where the payload does not. -/
theorem wellKeyed_contentValue : ∀ (value : Value) (kind : Kind), value.WellKeyed ->
    (contentValue value kind).WellKeyed
  | .object fields, .object shape, wellKeyed =>
      ⟨nodup_keys_contentFields List.nodup_nil,
        wellKeyedFields_contentFields fields shape wellKeyed.2 trivial⟩
  | .array items, .list element, wellKeyed => wellKeyedItems_contentItems items element wellKeyed
  | .null, _, wellKeyed | .bool _, _, wellKeyed | .number _, _, wellKeyed
  | .string _, _, wellKeyed => wellKeyed
  | .object _, .unknown, wellKeyed | .object _, .scalar _, wellKeyed
  | .object _, .list _, wellKeyed | .object _, .resolved _, wellKeyed => wellKeyed
  | .array _, .unknown, wellKeyed | .array _, .scalar _, wellKeyed
  | .array _, .object _, wellKeyed | .array _, .resolved _, wellKeyed => wellKeyed

theorem wellKeyedItems_contentItems : ∀ (items : List Value) (element : Kind),
    Value.WellKeyedItems items -> Value.WellKeyedItems (contentItems element items)
  | [], _, _ => trivial
  | item :: rest, element, wellKeyed =>
      ⟨wellKeyed_contentValue item element wellKeyed.1,
        wellKeyedItems_contentItems rest element wellKeyed.2⟩

theorem wellKeyedFields_contentFields : ∀ (fields : List (String × Value)) (shape : Shape)
    {done : Object}, Value.WellKeyedFields fields -> Value.WellKeyedFields done ->
      Value.WellKeyedFields (contentFields shape done fields)
  | [], _, _, _, wellKeyedDone => wellKeyedDone
  | (name, value) :: rest, shape, done, wellKeyed, wellKeyedDone => by
      rw [contentFields]
      split
      · next field _ =>
          exact wellKeyedFields_contentFields rest shape wellKeyed.2
            (wellKeyedFields_insert wellKeyedDone
              (wellKeyed_contentValue value field.kind wellKeyed.1))
      · exact wellKeyedFields_contentFields rest shape wellKeyed.2
          (wellKeyedFields_insert wellKeyedDone wellKeyed.1)

end

/-- The record of a payload holds no key twice. -/
theorem Collection.nodup_keys_of_payloadRecord {collection : Collection} {payload : Value}
    {record : Object} (described : collection.payloadRecord payload = .ok record) :
    (Object.keys record).Nodup := by
  cases payload with
  | object fields =>
      cases described
      exact nodup_keys_contentFields (by simp [Object.keys])
  | _ => cases described

theorem Collection.wellKeyedFields_of_payloadRecord {collection : Collection} {payload : Value}
    {record : Object} (described : collection.payloadRecord payload = .ok record)
    (wellKeyed : payload.WellKeyed) : Value.WellKeyedFields record := by
  cases payload with
  | object fields =>
      cases described
      exact wellKeyedFields_contentFields fields _ wellKeyed.2 trivial
  | _ => cases described

/-! ### Keys that are dropped -/

private theorem foldl_swapErase {erased : List String} {record : Object}
    (distinct : (Object.keys record).Nodup) :
    (Object.keys (erased.foldl Object.swapErase record)).Nodup ∧
      ∀ key, Object.find? (erased.foldl Object.swapErase record) key =
        if key ∈ erased then none else Object.find? record key := by
  induction erased generalizing record with
  | nil => simp [distinct]
  | cons first rest inductionHypothesis =>
      obtain ⟨distinctRest, lookup⟩ :=
        inductionHypothesis (Object.nodup_keys_swapErase first distinct)
      refine ⟨distinctRest, ?_⟩
      intro key
      rw [List.foldl_cons, lookup key, Object.find?_swapErase distinct]
      by_cases isFirst : key = first
      · simp [isFirst]
      · simp [isFirst]

theorem nodup_keys_stripProtected {record : Object} (distinct : (Object.keys record).Nodup) :
    (Object.keys (stripProtected record)).Nodup :=
  (foldl_swapErase distinct).1

/-- Dropping the protected keys leaves every other key as it is. -/
theorem find?_stripProtected {record : Object} (distinct : (Object.keys record).Nodup)
    (key : String) :
    Object.find? (stripProtected record) key =
      if key ∈ protectedKeys then none else Object.find? record key :=
  (foldl_swapErase distinct).2 key

private theorem mem_of_mem_foldl_swapErase {erased : List String} {record : Object}
    {field : String × Value} (member : field ∈ erased.foldl Object.swapErase record) :
    field ∈ record := by
  induction erased generalizing record with
  | nil => exact member
  | cons first rest inductionHypothesis =>
      exact Object.mem_of_mem_swapErase (inductionHypothesis member)

theorem mem_of_mem_stripProtected {record : Object} {field : String × Value}
    (member : field ∈ stripProtected record) : field ∈ record :=
  mem_of_mem_foldl_swapErase member

/-- What is left of fields without nulls. -/
theorem mem_stripNullFields {fields : Object} {key : String} {value : Value}
    (member : (key, value) ∈ stripNullFields fields) :
    ∃ held, (key, held) ∈ fields ∧ value = stripNulls held := by
  induction fields with
  | nil => cases member
  | cons field rest inductionHypothesis =>
      obtain ⟨name, held⟩ := field
      rw [stripNullFields] at member
      split at member
      · obtain ⟨other, isThere, isValue⟩ := inductionHypothesis member
        exact ⟨other, List.mem_cons_of_mem _ isThere, isValue⟩
      · rcases List.mem_cons.mp member with same | inRest
        · cases same
          exact ⟨held, List.mem_cons_self, rfl⟩
        · obtain ⟨other, isThere, isValue⟩ := inductionHypothesis inRest
          exact ⟨other, List.mem_cons_of_mem _ isThere, isValue⟩

theorem nodup_keys_stripNullFields {fields : Object} (distinct : (Object.keys fields).Nodup) :
    (Object.keys (stripNullFields fields)).Nodup := by
  induction fields with
  | nil => exact List.nodup_nil
  | cons field rest inductionHypothesis =>
      obtain ⟨name, held⟩ := field
      obtain ⟨isNew, distinctRest⟩ := List.nodup_cons.mp distinct
      rw [stripNullFields]
      split
      · exact inductionHypothesis distinctRest
      · refine List.nodup_cons.mpr ⟨fun isThere => ?_, inductionHypothesis distinctRest⟩
        obtain ⟨⟨key, value⟩, member, rfl⟩ := List.mem_map.mp isThere
        obtain ⟨other, isField, _⟩ := mem_stripNullFields member
        exact isNew (List.mem_map.mpr ⟨_, isField, rfl⟩)

theorem wellKeyed_stripNulls (value : Value) (wellKeyed : value.WellKeyed) :
    (stripNulls value).WellKeyed := by
  induction value using Value.fieldInduction with
  | leaf value isLeaf =>
      cases value with
      | object fields => cases isLeaf
      | _ => exact wellKeyed
  | object fields inductionHypothesis =>
      obtain ⟨distinct, wellKeyedFields⟩ := wellKeyed
      refine ⟨nodup_keys_stripNullFields distinct, Object.wellKeyedFields_iff.mpr ?_⟩
      rintro ⟨key, value⟩ member
      obtain ⟨held, isField, rfl⟩ := mem_stripNullFields member
      exact inductionHypothesis _ isField
        (Object.wellKeyedFields_iff.mp wellKeyedFields _ isField)

/-- A value without its nulls changes nothing of the value itself. -/
theorem deepMerge_stripNulls (value : Value) (wellKeyed : value.WellKeyed) :
    value.deepMerge (stripNulls value) = value := by
  induction value using Value.fieldInduction with
  | leaf value isLeaf =>
      cases value with
      | object fields => cases isLeaf
      | _ => rfl
  | object fields inductionHypothesis =>
      obtain ⟨distinct, wellKeyedFields⟩ := wellKeyed
      rw [stripNulls, Value.deepMerge, Value.deepMergeFields_of_absorbed]
      rintro ⟨key, value⟩ member
      obtain ⟨held, isField, rfl⟩ := mem_stripNullFields member
      have wellKeyedHeld := Object.wellKeyedFields_iff.mp wellKeyedFields _ isField
      exact ⟨held, (Object.find?_eq_some_iff distinct).mpr isField,
        inductionHypothesis _ isField wellKeyedHeld⟩

theorem find?_stripNullFields_of_absent {fields : Object} {key : String}
    (absent : Object.find? fields key = none) :
    Object.find? (stripNullFields fields) key = none := by
  induction fields with
  | nil => simp [stripNullFields, Object.find?]
  | cons field rest inductionHypothesis =>
      obtain ⟨name, value⟩ := field
      have different : name ≠ key := by
        intro equal
        simp [Object.find?, equal] at absent
      have absentRest : Object.find? rest key = none := by
        simpa [Object.find?, different] using absent
      rw [stripNullFields]
      split
      · exact inductionHypothesis absentRest
      · simpa [Object.find?, different] using inductionHypothesis absentRest

namespace Collection

/-- An update changes no reference value: the reference field is not among its changes. -/
theorem find?_changes_referenceField {collection : Collection} {record : Object}
    (distinct : (Object.keys record).Nodup) :
    Object.find? (collection.changes record) collection.referenceField = none := by
  apply find?_stripNullFields_of_absent
  rw [Object.find?_swapErase (nodup_keys_stripProtected distinct)]
  simp

/-- An update changes no key that belongs to the system or to the record's file. -/
theorem find?_changes_of_protected {collection : Collection} {record : Object} {key : String}
    (distinct : (Object.keys record).Nodup) (isProtected : key ∈ protectedKeys) :
    Object.find? (collection.changes record) key = none := by
  apply find?_stripNullFields_of_absent
  rw [Object.find?_swapErase (nodup_keys_stripProtected distinct),
    find?_stripProtected distinct, if_pos isProtected, ite_self]

/-- A record without its identity holds no key twice. -/
theorem wellKeyed_unidentified {collection : Collection} {record : Object}
    (distinct : (Object.keys record).Nodup) (wellKeyed : Value.WellKeyedFields record) :
    (Value.object ((stripProtected record).swapErase collection.referenceField)).WellKeyed := by
  refine ⟨Object.nodup_keys_swapErase _ (nodup_keys_stripProtected distinct),
    Object.wellKeyedFields_iff.mpr ?_⟩
  intro field member
  have inRecord := mem_of_mem_stripProtected (Object.mem_of_mem_swapErase member)
  exact Object.wellKeyedFields_iff.mp wellKeyed field inRecord

/-- What an update lays over a node holds no key twice. -/
theorem wellKeyed_changes {collection : Collection} {record : Object}
    (distinct : (Object.keys record).Nodup) (wellKeyed : Value.WellKeyedFields record) :
    (Value.object (collection.changes record)).WellKeyed :=
  wellKeyed_stripNulls _ (wellKeyed_unidentified distinct wellKeyed)

/-- A new record has taken in what an update of the same payload would change. -/
theorem deepMerge_changes_of_new {collection : Collection} {record : Object}
    (distinct : (Object.keys record).Nodup) (wellKeyed : Value.WellKeyedFields record) :
    (Value.object (stripProtected record)).deepMerge (.object (collection.changes record)) =
      .object (stripProtected record) := by
  have distinctNew := nodup_keys_stripProtected distinct
  rw [Value.deepMerge, Value.deepMergeFields_of_absorbed]
  rintro ⟨key, value⟩ member
  obtain ⟨held, isField, rfl⟩ := mem_stripNullFields member
  have inNew := Object.mem_of_mem_swapErase isField
  have wellKeyedHeld := Object.wellKeyedFields_iff.mp wellKeyed _ (mem_of_mem_stripProtected inNew)
  exact ⟨held, (Object.find?_eq_some_iff distinctNew).mpr inNew,
    deepMerge_stripNulls held wellKeyedHeld⟩

/-! ### Reference values -/

theorem hasKey_iff {collection : Collection} {key : String} {node : Value} :
    collection.hasKey key node = true ↔ collection.keyOf? node = some key := by
  simp [hasKey]

/-- A node with a reference value is an object. -/
theorem object_of_hasKey {collection : Collection} {key : String} {node : Value}
    (held : collection.hasKey key node = true) : ∃ fields, node = .object fields := by
  cases node with
  | object fields => exact ⟨fields, rfl⟩
  | _ => simp [hasKey, keyOf?, Value.field?, Value.fields?] at held

/-- What an update stores has the reference value of the node it is laid over. -/
theorem keyOf?_deepMerge_changes {collection : Collection} {key : String} {node : Value}
    {record : Object} (held : collection.hasKey key node = true)
    (distinct : (Object.keys record).Nodup) :
    collection.keyOf? (node.deepMerge (.object (collection.changes record))) = some key := by
  obtain ⟨fields, rfl⟩ := object_of_hasKey held
  rw [keyOf?, Value.field?_deepMerge_of_absent (find?_changes_referenceField distinct)]
  exact hasKey_iff.mp held

end Collection

end ContentGraph
