import ContentGraph.Json.Path
import ContentGraph.Proofs.Json.ObjectFields

/-!
Contract: laying one object over another.

Owns:
- the keys of the base that the overlay does not mention, and those that it mentions;
- `deepMergeFields_of_absorbed`: an overlay that the base has taken in changes nothing;
- `deepMerge_deepMerge`: laying a value over another twice is laying it over once, where the value
  holds no key twice.
-/

namespace ContentGraph.Json.Value

variable {base additions : Object} {key : String} {value : Value}

/-- Induction over the fields of objects; the items of arrays are not entered. -/
theorem fieldInduction {motive : Value -> Prop} (leaf : ∀ value, value.isObject = false -> motive value)
    (object : ∀ fields : Object, (∀ field ∈ fields, motive field.2) -> motive (.object fields)) :
    ∀ value, motive value
  | .object fields => object fields fun field member => by
      have smaller : sizeOf field < sizeOf fields := List.sizeOf_lt_of_mem member
      obtain ⟨name, held⟩ := field
      exact fieldInduction leaf object held
  | .null => leaf _ rfl
  | .bool _ => leaf _ rfl
  | .number _ => leaf _ rfl
  | .string _ => leaf _ rfl
  | .array _ => leaf _ rfl
termination_by value => sizeOf value
decreasing_by
  simp only [Prod.mk.sizeOf_spec, Value.object.sizeOf_spec] at *
  omega

/-- Only objects merge; any other value replaces what it is laid over. -/
theorem deepMerge_of_leaf (isLeaf : value.isObject = false) (held : Value) :
    deepMerge held value = value := by
  cases value with
  | object fields => cases isLeaf
  | _ => rfl

/-! ### Keys -/

/-- Merging keeps what the base holds under a key that the overlay does not have. -/
theorem find?_deepMergeFields_of_absent (absent : Object.find? additions key = none) :
    Object.find? (deepMergeFields base additions) key = Object.find? base key := by
  induction additions generalizing base with
  | nil => simp [deepMergeFields]
  | cons addition rest inductionHypothesis =>
      obtain ⟨name, value⟩ := addition
      have different : key ≠ name := by
        intro equal
        simp [Object.find?, equal] at absent
      have absentRest : Object.find? rest key = none := by
        simpa [Object.find?, different.symm] using absent
      rw [deepMergeFields, inductionHypothesis absentRest, Object.find?_insert_other different]

/-- The merge of an object over an object keeps the fields that only the base has. -/
theorem field?_deepMerge_of_absent (absent : Object.find? additions key = none) :
    (deepMerge (.object base) (.object additions)).field? key = (Value.object base).field? key := by
  simpa [deepMerge, field?, fields?] using find?_deepMergeFields_of_absent absent

/-- Under a key of the overlay stands its value, laid over what the base holds there. -/
theorem find?_deepMergeFields_of_mem (distinct : (Object.keys additions).Nodup)
    (member : (key, value) ∈ additions) :
    Object.find? (deepMergeFields base additions) key =
      some (match Object.find? base key with
        | some held => deepMerge held value
        | none => value) := by
  induction additions generalizing base with
  | nil => cases member
  | cons addition rest inductionHypothesis =>
      obtain ⟨name, added⟩ := addition
      obtain ⟨isNew, distinctRest⟩ := List.nodup_cons.mp distinct
      rw [deepMergeFields]
      rcases List.mem_cons.mp member with same | inRest
      · cases same
        have absent := Object.find?_eq_none_iff.mpr isNew
        exact (find?_deepMergeFields_of_absent absent).trans Object.find?_insert_same
      · have different : key ≠ name := by
          rintro rfl
          exact isNew (List.mem_map.mpr ⟨_, inRest, rfl⟩)
        rw [inductionHypothesis distinctRest inRest, Object.find?_insert_other different]

/-! ### Repeated merges -/

/-- Laying fields over an object that has taken them in changes nothing. -/
theorem deepMergeFields_of_absorbed
    (absorbed : ∀ field ∈ additions, ∃ held,
      Object.find? base field.1 = some held ∧ deepMerge held field.2 = held) :
    deepMergeFields base additions = base := by
  induction additions with
  | nil => rfl
  | cons addition rest inductionHypothesis =>
      obtain ⟨name, added⟩ := addition
      obtain ⟨⟨held, found, isTaken⟩, absorbedRest⟩ := List.forall_mem_cons.mp absorbed
      have isSame : Object.insert base name held = base := Object.insert_of_find? found
      rw [deepMergeFields, found]
      dsimp only
      rw [isTaken, isSame, inductionHypothesis absorbedRest]

theorem deepMerge_self (value : Value) (wellKeyed : value.WellKeyed) :
    deepMerge value value = value := by
  induction value using fieldInduction with
  | leaf value isLeaf => exact deepMerge_of_leaf isLeaf value
  | object fields inductionHypothesis =>
      obtain ⟨distinct, wellKeyedFields⟩ := wellKeyed
      rw [deepMerge, deepMergeFields_of_absorbed]
      intro field member
      have found := (Object.find?_eq_some_iff distinct).mpr member
      have wellKeyedField := Object.wellKeyedFields_iff.mp wellKeyedFields field member
      exact ⟨field.2, found, inductionHypothesis field member wellKeyedField⟩

/-- Laying a value over another twice is laying it over once. -/
theorem deepMerge_deepMerge (value : Value) (wellKeyed : value.WellKeyed) (base : Value) :
    deepMerge (deepMerge base value) value = deepMerge base value := by
  induction value using fieldInduction generalizing base with
  | leaf value isLeaf => rw [deepMerge_of_leaf isLeaf, deepMerge_of_leaf isLeaf]
  | object fields inductionHypothesis =>
      obtain ⟨distinct, wellKeyedFields⟩ := wellKeyed
      cases base with
      | object held =>
          rw [deepMerge, deepMerge, deepMergeFields_of_absorbed]
          intro field member
          have wellKeyedField := Object.wellKeyedFields_iff.mp wellKeyedFields field member
          refine ⟨_, find?_deepMergeFields_of_mem distinct member, ?_⟩
          cases Object.find? held field.1 with
          | some old => exact inductionHypothesis field member wellKeyedField old
          | none => exact deepMerge_self field.2 wellKeyedField
      | _ => exact deepMerge_self (.object fields) ⟨distinct, wellKeyedFields⟩

end ContentGraph.Json.Value
