import ContentGraph.Shape.Reduce
import Mathlib.Data.List.Nodup

/-!
Contract: the fields of shapes and their lookup by graph name.

Owns:
- the lookup and its relation to membership, where no name comes twice;
- the names and the lookup after a field was set, after fields were laid over declared ones, and
  after two shapes were merged: `Field.merge?` says field by field what the merge does.

Does not own: what the merge of two kinds does (`Proofs.Shape.Merge`).
-/

namespace ContentGraph

namespace Field

/-- A field with what another shape holds under its name merged into its kind. -/
def absorb (field : Field) : Option Field -> Field
  | some other => .mk field.name field.sourceKey (field.kind.merge other.kind)
  | none => field

@[simp] theorem name_absorb (field : Field) (other : Option Field) :
    (field.absorb other).name = field.name := by
  cases other <;> rfl

@[simp] theorem sourceKey_absorb (field : Field) (other : Option Field) :
    (field.absorb other).sourceKey = field.sourceKey := by
  cases other <;> rfl

/-- The field of a name in the merge of two shapes, from the fields of that name in both. -/
def merge? : Option Field -> Option Field -> Option Field
  | some left, right => some (left.absorb right)
  | none, right => right

end Field

namespace Shape

variable {shape left right : Shape} {field : Field} {name : String}

/-- The graph names of the fields, in order. -/
def names (shape : Shape) : List String :=
  shape.map Field.name

/-! ### Lookup -/

theorem field?_eq_none_iff : shape.field? name = none ↔ name ∉ shape.names := by
  induction shape with
  | nil => simp [field?, names]
  | cons first rest inductionHypothesis =>
      by_cases same : first.name = name
      · simp [field?, names, same]
      · have different : name ≠ first.name := fun equal => same equal.symm
        simpa [field?, names, same, different] using inductionHypothesis

theorem mem_of_field? (found : shape.field? name = some field) :
    field ∈ shape ∧ field.name = name := by
  induction shape with
  | nil => simp [field?] at found
  | cons first rest inductionHypothesis =>
      unfold field? at found
      split at found
      · next same =>
          cases found
          exact ⟨List.mem_cons_self, same⟩
      · obtain ⟨member, named⟩ := inductionHypothesis found
        exact ⟨List.mem_cons_of_mem _ member, named⟩

theorem mem_of_fieldBySource? {key : String} (found : shape.fieldBySource? key = some field) :
    field ∈ shape ∧ field.sourceKey = key :=
  ⟨List.mem_of_find?_eq_some found, by simpa using List.find?_some found⟩

/-- Where no name comes twice, every field is found under its name. -/
theorem field?_of_mem (distinct : shape.names.Nodup) (member : field ∈ shape) :
    shape.field? field.name = some field := by
  induction shape with
  | nil => cases member
  | cons first rest inductionHypothesis =>
      simp only [names, List.map_cons, List.nodup_cons] at distinct
      rcases List.mem_cons.mp member with rfl | inRest
      · simp [field?]
      · have different : first.name ≠ field.name := fun same =>
          distinct.1 (same ▸ List.mem_map_of_mem inRest)
        simpa [field?, different] using inductionHypothesis distinct.2 inRest

theorem field?_append :
    Shape.field? (left ++ right) name = (left.field? name).or (right.field? name) := by
  induction left with
  | nil => simp [field?]
  | cons first rest inductionHypothesis =>
      by_cases same : first.name = name
      · simp [field?, same]
      · simpa [field?, same] using inductionHypothesis

/-- Fields that are left out by their names are not found, and all others are found as before. -/
theorem field?_filter (keep : String -> Bool) :
    Shape.field? (shape.filter fun field => keep field.name) name =
      if keep name then shape.field? name else none := by
  induction shape with
  | nil => simp [field?]
  | cons first rest inductionHypothesis =>
      by_cases same : first.name = name
      · subst same
        by_cases kept : keep first.name = true
        · simp [field?, kept]
        · simp only [kept, Bool.false_eq_true, ↓reduceIte] at inductionHypothesis ⊢
          simpa [kept] using inductionHypothesis
      · by_cases kept : keep first.name = true
        · simpa [field?, kept, same] using inductionHypothesis
        · simpa [field?, kept, same] using inductionHypothesis

/-! ### Setting a field -/

theorem field?_setField :
    (shape.setField field).field? name =
      if name = field.name then some field else shape.field? name := by
  induction shape with
  | nil => simp [setField, field?, eq_comm]
  | cons first rest inductionHypothesis =>
      by_cases replaced : first.name = field.name
      · by_cases same : name = field.name
        · simp [setField, field?, replaced, same]
        · simp [setField, field?, replaced, same, Ne.symm same]
      · by_cases same : first.name = name
        · have other : name ≠ field.name := fun equal => replaced (same.trans equal)
          simp [setField, field?, same, other]
        · simp only [setField, replaced, ↓reduceIte, field?, same, inductionHypothesis]

theorem names_setField :
    (shape.setField field).names =
      if field.name ∈ shape.names then shape.names else shape.names ++ [field.name] := by
  induction shape with
  | nil => simp [setField, names]
  | cons first rest inductionHypothesis =>
      by_cases same : first.name = field.name
      · simp [setField, names, same]
      · have different : field.name ≠ first.name := fun equal => same equal.symm
        simp only [names] at inductionHypothesis
        simp only [setField, same, ↓reduceIte, names, List.map_cons, List.mem_cons, different,
          false_or, inductionHypothesis]
        by_cases member : field.name ∈ rest.map Field.name <;> simp [member]

theorem nodup_names_setField (distinct : shape.names.Nodup) :
    (shape.setField field).names.Nodup := by
  rw [names_setField]
  split
  · exact distinct
  · next absent =>
      refine List.nodup_append.mpr ⟨distinct, by simp, ?_⟩
      intro name member added isAdded same
      exact absent (List.mem_singleton.mp isAdded ▸ same ▸ member)

theorem setField_of_absent (absent : shape.field? field.name = none) :
    shape.setField field = shape ++ [field] := by
  induction shape with
  | nil => rfl
  | cons first rest inductionHypothesis =>
      rw [field?] at absent
      split at absent
      · cases absent
      · next different =>
          rw [setField, if_neg different, inductionHypothesis absent, List.cons_append]

theorem mem_setField {added : Field} (member : added ∈ shape.setField field) :
    added = field ∨ added ∈ shape := by
  induction shape with
  | nil => simpa [setField] using member
  | cons first rest inductionHypothesis =>
      unfold setField at member
      split at member
      · rcases List.mem_cons.mp member with isSet | inRest
        · exact .inl isSet
        · exact .inr (List.mem_cons_of_mem _ inRest)
      · rcases List.mem_cons.mp member with isFirst | inRest
        · exact .inr (isFirst ▸ List.mem_cons_self)
        · rcases inductionHypothesis inRest with isSet | isOld
          · exact .inl isSet
          · exact .inr (List.mem_cons_of_mem _ isOld)

/-- Laying fields over declared ones leaves those of other names alone. -/
theorem field?_overlayFields_of_none {fields : Shape} (absent : fields.field? name = none) :
    (Kind.overlayFields shape fields).field? name = shape.field? name := by
  induction fields generalizing shape with
  | nil => rw [Kind.overlayFields]
  | cons first rest inductionHypothesis =>
      obtain ⟨key, sourceKey, kind⟩ := first
      rw [field?] at absent
      split at absent
      · cases absent
      · next different =>
          have other : name ≠ key := fun same => different same.symm
          rw [Kind.overlayFields, inductionHypothesis absent, field?_setField]
          exact if_neg other

/-! ### Merging two shapes -/

theorem mergeShared_eq_map :
    Kind.mergeShared left right =
      left.map fun field => field.absorb (right.field? field.name) := by
  induction left with
  | nil => simp [Kind.mergeShared]
  | cons first rest inductionHypothesis =>
      obtain ⟨name, sourceKey, kind⟩ := first
      rw [Kind.mergeShared, inductionHypothesis]
      cases found : right.field? name <;>
        simp [Field.absorb, Field.name, Field.sourceKey, Field.kind, found]

theorem merge_nil (shape : Shape) : shape.merge [] = shape := by
  simp [merge, mergeShared_eq_map, field?, Field.absorb]

private theorem field?_mergeShared :
    Shape.field? (Kind.mergeShared left right) name =
      (left.field? name).map fun field => field.absorb (right.field? name) := by
  rw [mergeShared_eq_map]
  induction left with
  | nil => simp [field?]
  | cons first rest inductionHypothesis =>
      by_cases same : first.name = name
      · subst same
        simp [field?]
      · simpa [field?, same] using inductionHypothesis

/-- The merge of two shapes works field by field. -/
theorem field?_merge :
    (left.merge right).field? name = Field.merge? (left.field? name) (right.field? name) := by
  rw [merge, field?_append, field?_mergeShared,
    field?_filter fun name => (left.field? name).isNone]
  cases left.field? name <;> cases right.field? name <;> simp [Field.merge?]

/-- The names of the first shape come first, then the new ones of the second. -/
theorem names_merge :
    (left.merge right).names = left.names ++ right.names.filter (· ∉ left.names) := by
  have kept : ∀ field ∈ right,
      (left.field? field.name).isNone = decide (field.name ∉ left.names) := by
    intro field _
    rw [Bool.eq_iff_iff, Option.isNone_iff_eq_none, field?_eq_none_iff, decide_eq_true_iff]
  rw [merge, mergeShared_eq_map, List.filter_congr kept]
  simp [names, List.filter_map, Function.comp_def]

theorem nodup_names_merge (distinctLeft : left.names.Nodup) (distinctRight : right.names.Nodup) :
    (left.merge right).names.Nodup := by
  rw [names_merge, List.nodup_append]
  refine ⟨distinctLeft, distinctRight.filter _, ?_⟩
  intro name inLeft other inRight same
  have notLeft := (List.mem_filter.mp inRight).2
  simp [← same, inLeft] at notLeft

/-- Every field of a merge is one of the first shape, with what the second holds under its name
merged in, or one of the second. -/
theorem mem_merge (member : field ∈ left.merge right) :
    (∃ mine ∈ left, field = mine.absorb (right.field? mine.name)) ∨ field ∈ right := by
  rcases List.mem_append.mp member with shared | new
  · rw [mergeShared_eq_map, List.mem_map] at shared
    obtain ⟨mine, isMine, absorbed⟩ := shared
    exact .inl ⟨mine, isMine, absorbed.symm⟩
  · exact .inr (List.mem_filter.mp new).1

end Shape

end ContentGraph
