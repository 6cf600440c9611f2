import ContentGraph.Json.Object
import Mathlib.Data.List.Nodup

/-!
Contract: what the operations on an object's fields do to its lookup.

Owns:
- the keys and the lookup after `insert`, for every object;
- well-keyed objects, field by field;
- the keys and the lookup after `swapErase`, for objects that hold no key twice.  Moving the last
  field into the gap reorders the fields, so these laws go through permutations.

Does not own: merges (`Proofs.Json.Merge`).
-/

namespace ContentGraph.Json.Object

variable {fields : Object} {key other : String} {value : Value}

/-! ### Lookup -/

theorem find?_eq_none_iff : Object.find? fields key = none ↔ key ∉ Object.keys fields := by
  induction fields with
  | nil => simp [Object.find?, Object.keys]
  | cons field rest inductionHypothesis =>
      obtain ⟨name, held⟩ := field
      by_cases same : name = key
      · simp [Object.find?, Object.keys, same]
      · have different : key ≠ name := fun equal => same equal.symm
        simpa [Object.find?, Object.keys, same, different] using inductionHypothesis

theorem mem_of_find? (found : Object.find? fields key = some value) : (key, value) ∈ fields := by
  induction fields with
  | nil => simp [Object.find?] at found
  | cons field rest inductionHypothesis =>
      obtain ⟨name, held⟩ := field
      rw [Object.find?] at found
      split at found
      · next same =>
          cases found
          exact same ▸ List.mem_cons_self
      · exact List.mem_cons_of_mem _ (inductionHypothesis found)

/-- Where no key comes twice, the lookup is membership. -/
theorem find?_eq_some_iff (distinct : (Object.keys fields).Nodup) :
    Object.find? fields key = some value ↔ (key, value) ∈ fields := by
  induction fields with
  | nil => simp [Object.find?]
  | cons field rest inductionHypothesis =>
      obtain ⟨name, held⟩ := field
      simp only [Object.keys, List.map_cons, List.nodup_cons] at distinct
      by_cases same : name = key
      · subst same
        have absent : (name, value) ∉ rest := fun member =>
          distinct.1 (List.mem_map.mpr ⟨(name, value), member, rfl⟩)
        simp [Object.find?, absent, eq_comm]
      · have different : key ≠ name := fun equal => same equal.symm
        simpa [Object.find?, same, different] using inductionHypothesis distinct.2

/-- The order of fields does not matter to the lookup where no key comes twice. -/
theorem find?_eq_of_perm {left right : Object} (distinct : (Object.keys left).Nodup)
    (permutation : left.Perm right) :
    Object.find? left key = Object.find? right key := by
  have distinctRight : (Object.keys right).Nodup :=
    (permutation.map Prod.fst).nodup_iff.mp distinct
  apply Option.ext
  intro value
  rw [find?_eq_some_iff distinct, find?_eq_some_iff distinctRight]
  exact permutation.mem_iff

/-! ### Setting a key -/

@[simp] theorem find?_insert_same :
    Object.find? (Object.insert fields key value) key = some value := by
  induction fields with
  | nil => simp [Object.insert, Object.find?]
  | cons field rest inductionHypothesis =>
      by_cases same : field.1 = key
      · simp [Object.insert, Object.find?, same]
      · simpa [Object.insert, Object.find?, same] using inductionHypothesis

theorem find?_insert_other (different : other ≠ key) :
    Object.find? (Object.insert fields key value) other = Object.find? fields other := by
  induction fields with
  | nil => simp [Object.insert, Object.find?, different.symm]
  | cons field rest inductionHypothesis =>
      by_cases same : field.1 = key
      · simp [Object.insert, Object.find?, same, different.symm]
      · simp only [Object.insert, same, ↓reduceIte, Object.find?, inductionHypothesis]

/-- Setting a key keeps the place of one that is there and puts a new one at the end. -/
theorem keys_insert :
    Object.keys (Object.insert fields key value) =
      if key ∈ Object.keys fields then Object.keys fields else Object.keys fields ++ [key] := by
  induction fields with
  | nil => simp [Object.insert, Object.keys]
  | cons field rest inductionHypothesis =>
      obtain ⟨name, held⟩ := field
      by_cases same : name = key
      · simp [Object.insert, Object.keys, same]
      · have different : key ≠ name := fun equal => same equal.symm
        simp only [Object.keys] at inductionHypothesis
        simp only [Object.insert, same, ↓reduceIte, Object.keys, List.map_cons, List.mem_cons,
          different, false_or, inductionHypothesis]
        by_cases member : key ∈ rest.map Prod.fst <;> simp [member]

theorem find?_append_of_absent (absent : key ∉ Object.keys fields) (rest : Object) :
    Object.find? (fields ++ rest) key = Object.find? rest key := by
  induction fields with
  | nil => rfl
  | cons field fields inductionHypothesis =>
      obtain ⟨different, absentRest⟩ := List.ne_and_not_mem_of_not_mem_cons absent
      rw [List.cons_append, Object.find?, if_neg (Ne.symm different),
        inductionHypothesis absentRest]

/-- A key that is not in front is set behind. -/
theorem insert_append_of_absent (absent : key ∉ Object.keys fields) (rest : Object) :
    Object.insert (fields ++ rest) key value = fields ++ Object.insert rest key value := by
  induction fields with
  | nil => rfl
  | cons field fields inductionHypothesis =>
      obtain ⟨different, absentRest⟩ := List.ne_and_not_mem_of_not_mem_cons absent
      rw [List.cons_append, Object.insert, if_neg (Ne.symm different),
        inductionHypothesis absentRest]
      rfl

/-- A key that is not there comes behind the others. -/
theorem insert_of_absent (absent : key ∉ Object.keys fields) :
    Object.insert fields key value = fields ++ [(key, value)] := by
  have behind : Object.insert (fields ++ []) key value = fields ++ Object.insert [] key value :=
    insert_append_of_absent absent []
  rwa [List.append_nil] at behind

/-- Setting a key to what it holds changes nothing. -/
theorem insert_of_find? (found : Object.find? fields key = some value) :
    Object.insert fields key value = fields := by
  induction fields with
  | nil => cases found
  | cons field rest inductionHypothesis =>
      obtain ⟨name, held⟩ := field
      rw [Object.find?] at found
      rw [Object.insert]
      split at found
      · next same =>
          cases found
          rw [if_pos same]
      · next different => rw [if_neg different, inductionHypothesis found]

theorem mem_of_mem_insert {field : String × Value}
    (member : field ∈ Object.insert fields key value) : field ∈ fields ∨ field.2 = value := by
  induction fields with
  | nil =>
      cases List.mem_singleton.mp member
      exact .inr rfl
  | cons first rest inductionHypothesis =>
      obtain ⟨name, held⟩ := first
      rw [Object.insert] at member
      split at member
      · rcases List.mem_cons.mp member with rfl | inRest
        · exact .inr rfl
        · exact .inl (List.mem_cons_of_mem _ inRest)
      · rcases List.mem_cons.mp member with rfl | inRest
        · exact .inl List.mem_cons_self
        · exact (inductionHypothesis inRest).imp_left (List.mem_cons_of_mem _)

theorem nodup_keys_insert (distinct : (Object.keys fields).Nodup) :
    (Object.keys (Object.insert fields key value)).Nodup := by
  rw [keys_insert]
  split
  · exact distinct
  · next absent =>
      rw [List.nodup_append]
      refine ⟨distinct, by simp, ?_⟩
      intro held member added addedMember
      rw [List.mem_singleton.mp addedMember]
      exact fun equal => absent (equal ▸ member)

/-! ### Well-keyed objects -/

theorem wellKeyedFields_iff :
    Value.WellKeyedFields fields ↔ ∀ field ∈ fields, field.2.WellKeyed := by
  induction fields with
  | nil => simp [Value.WellKeyedFields]
  | cons field rest inductionHypothesis =>
      obtain ⟨name, held⟩ := field
      rw [Value.WellKeyedFields, inductionHypothesis, List.forall_mem_cons]

theorem wellKeyedItems_iff {items : List Value} :
    Value.WellKeyedItems items ↔ ∀ item ∈ items, item.WellKeyed := by
  induction items with
  | nil => simp [Value.WellKeyedItems]
  | cons item rest inductionHypothesis =>
      rw [Value.WellKeyedItems, inductionHypothesis, List.forall_mem_cons]

/-! ### Removing a key -/

/-- After a key is removed in place, every other key is as before. -/
theorem find?_erase (different : other ≠ key) :
    Object.find? (Object.erase fields key) other = Object.find? fields other := by
  induction fields with
  | nil => rfl
  | cons field rest inductionHypothesis =>
      obtain ⟨name, held⟩ := field
      rw [Object.erase] at inductionHypothesis ⊢
      by_cases removed : name = key
      · have passed : name ≠ other := fun same => different (same.symm.trans removed)
        simpa [Object.find?, removed, removed ▸ passed] using inductionHypothesis
      · by_cases same : name = other
        · simp [Object.find?, same, different]
        · simpa [Object.find?, removed, same] using inductionHypothesis

/-- Removing a key by moving the last field into the gap leaves the fields that removing it in
place leaves, in another order. -/
theorem swapErase_perm (fields : Object) (key : String) :
    (Object.swapErase fields key).Perm (fields.eraseP fun field => field.1 = key) := by
  induction fields with
  | nil => simp [Object.swapErase]
  | cons field rest inductionHypothesis =>
      obtain ⟨name, held⟩ := field
      by_cases same : name = key
      · simp only [Object.swapErase, same, ↓reduceIte, decide_true, List.eraseP_cons_of_pos]
        rcases rest.eq_nil_or_concat with rfl | ⟨front, last, rfl⟩
        · simp
        · simpa using (List.perm_append_singleton last front).symm
      · simpa [Object.swapErase, same] using inductionHypothesis

theorem mem_of_mem_swapErase {field : String × Value} {key : String}
    (member : field ∈ Object.swapErase fields key) : field ∈ fields :=
  List.mem_of_mem_eraseP ((swapErase_perm fields key).mem_iff.mp member)

theorem nodup_keys_swapErase (key : String) (distinct : (Object.keys fields).Nodup) :
    (Object.keys (Object.swapErase fields key)).Nodup := by
  have permutation := (swapErase_perm fields key).map Prod.fst
  rw [Object.keys, permutation.nodup_iff]
  exact distinct.sublist (List.eraseP_sublist.map Prod.fst)

private theorem find?_eraseP (distinct : (Object.keys fields).Nodup) :
    Object.find? (fields.eraseP fun field => field.1 = key) other =
      if other = key then none else Object.find? fields other := by
  induction fields with
  | nil => simp [Object.find?]
  | cons field rest inductionHypothesis =>
      obtain ⟨name, held⟩ := field
      simp only [Object.keys, List.map_cons, List.nodup_cons] at distinct
      by_cases same : name = key
      · subst same
        simp only [decide_true, List.eraseP_cons_of_pos, Object.find?]
        split
        · next isKey =>
            subst isKey
            exact find?_eq_none_iff.mpr distinct.1
        · next notKey => simp [Ne.symm notKey]
      · simp only [same, decide_false, Bool.false_eq_true, not_false_eq_true,
          List.eraseP_cons_of_neg, Object.find?, inductionHypothesis distinct.2]
        by_cases isName : name = other
        · simp [isName, isName ▸ same]
        · simp [isName]

/-- After a key is removed it is absent, and every other key is as before. -/
theorem find?_swapErase (distinct : (Object.keys fields).Nodup) :
    Object.find? (Object.swapErase fields key) other =
      if other = key then none else Object.find? fields other := by
  rw [find?_eq_of_perm (nodup_keys_swapErase key distinct) (swapErase_perm fields key)]
  exact find?_eraseP distinct

end ContentGraph.Json.Object
