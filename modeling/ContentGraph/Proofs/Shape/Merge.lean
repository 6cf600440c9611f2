import ContentGraph.Proofs.Shape.FieldLookup

/-!
Contract: what the merge of two kinds can give.

Owns:
- `Scalar.widen`, the merge of two scalars;
- `Kind.Single`, the kinds of single values that a list of such values takes in;
- `Kind.Merged`, one rule for every way in which two kinds merge, and `merged`: the merge of two
  kinds is by these rules.

Proofs about merges go by induction on the rules and never open the merge itself.
-/

namespace ContentGraph

/-- Two scalars: equal ones stay, integers widen to floats, anything else to free JSON. -/
def Scalar.widen (left right : Scalar) : Scalar :=
  if left = right then left
  else if (left = .int ∧ right = .float) ∨ (left = .float ∧ right = .int) then .float
  else .json

namespace Kind

/-- The kind of a single value: a scalar that is not free JSON, or an object. -/
inductive Single : Kind -> Prop where
  | scalar {form : Scalar} (informative : form ≠ .json) : Single (.scalar form)
  | object (fields : Shape) : Single (.object fields)

/-- How two kinds merge. -/
inductive Merged : Kind -> Kind -> Kind -> Prop where
  | computedLeft (resolver : Resolver) (other : Kind) :
      Merged (.resolved resolver) other (.resolved resolver)
  | computedRight (other : Kind) (resolver : Resolver)
      (plain : ∀ own, other ≠ .resolved own) :
      Merged other (.resolved resolver) (.resolved resolver)
  | unknownLeft (other : Kind) : Merged .unknown other other
  | unknownRight (other : Kind) : Merged other .unknown other
  | scalars (left right : Scalar) :
      Merged (.scalar left) (.scalar right) (.scalar (left.widen right))
  | scalarObject (form : Scalar) (fields : Shape) :
      Merged (.scalar form) (.object fields) (.scalar .json)
  | objectScalar (fields : Shape) (form : Scalar) :
      Merged (.object fields) (.scalar form) (.scalar .json)
  | jsonList (element : Kind) : Merged (.scalar .json) (.list element) (.scalar .json)
  | listJson (element : Kind) : Merged (.list element) (.scalar .json) (.scalar .json)
  | lists {left right element : Kind} (elements : Merged left right element) :
      Merged (.list left) (.list right) (.list element)
  | listSingle {element single widened : Kind} (isSingle : Single single)
      (taken : Merged element single widened) :
      Merged (.list element) single (.list widened)
  | singleList {element single widened : Kind} (isSingle : Single single)
      (taken : Merged element single widened) :
      Merged single (.list element) (.list widened)
  | objects {left right : Shape}
      (shared : ∀ mine ∈ left, ∀ theirs, right.field? mine.name = some theirs ->
        Merged mine.kind theirs.kind (mine.kind.merge theirs.kind)) :
      Merged (.object left) (.object right) (.object (left.merge right))

/-! ### The equations of the merge -/

theorem merge_unknown_left (other : Kind) : merge .unknown other = other := by
  cases other <;> simp [merge]

theorem merge_unknown_right (other : Kind) : merge other .unknown = other := by
  cases other with
  | scalar form => cases form <;> simp [merge]
  | _ => simp [merge]

theorem merge_scalars (left right : Scalar) :
    merge (.scalar left) (.scalar right) = .scalar (left.widen right) := by
  cases left <;> cases right <;> simp [merge, Scalar.widen]

theorem merge_list_single {element single : Kind} (isSingle : Single single) :
    merge (.list element) single = .list (element.merge single) := by
  cases isSingle with
  | @scalar form informative => cases form <;> simp [merge] at informative ⊢
  | object fields => simp [merge]

theorem merge_single_list {element single : Kind} (isSingle : Single single) :
    merge single (.list element) = .list (element.merge single) := by
  cases isSingle with
  | @scalar form informative => cases form <;> simp [merge] at informative ⊢
  | object fields => simp [merge]

theorem merge_objects (left right : Shape) :
    merge (.object left) (.object right) = .object (left.merge right) := by
  rw [merge, Shape.merge]

private theorem sizeOf_kind_lt_of_mem {fields : Shape} {field : Field} (member : field ∈ fields) :
    sizeOf field.kind < sizeOf fields := by
  have inside := List.sizeOf_lt_of_mem member
  cases field
  simp [Field.kind] at inside ⊢
  omega

/-- The merge of two kinds is by the rules. -/
theorem merged : ∀ left right : Kind, Merged left right (left.merge right)
  | .resolved resolver, other => by
      rw [merge]
      exact .computedLeft resolver other
  | .unknown, other => by
      rw [merge_unknown_left]
      exact .unknownLeft other
  | .scalar form, .resolved resolver => by
      rw [merge]
      exact .computedRight _ resolver (by simp)
      simp
  | .scalar form, .unknown => by
      rw [merge_unknown_right]
      exact .unknownRight _
  | .scalar left, .scalar right => by
      rw [merge_scalars]
      exact .scalars left right
  | .scalar form, .list element => by
      by_cases mixed : form = .json
      · subst mixed
        simpa [merge] using Merged.jsonList element
      · rw [merge_single_list (.scalar mixed)]
        exact .singleList (.scalar mixed) (merged element (.scalar form))
  | .scalar form, .object fields => by
      have widened : merge (.scalar form) (.object fields) = .scalar .json := by
        cases form <;> simp [merge]
      rw [widened]
      exact .scalarObject form fields
  | .list element, .resolved resolver => by
      rw [merge]
      exact .computedRight _ resolver (by simp)
      simp
  | .list element, .unknown => by
      rw [merge_unknown_right]
      exact .unknownRight _
  | .list element, .scalar form => by
      by_cases mixed : form = .json
      · subst mixed
        simpa [merge] using Merged.listJson element
      · rw [merge_list_single (.scalar mixed)]
        exact .listSingle (.scalar mixed) (merged element (.scalar form))
  | .list left, .list right => by
      rw [merge]
      exact .lists (merged left right)
  | .list element, .object fields => by
      rw [merge_list_single (.object fields)]
      exact .listSingle (.object fields) (merged element (.object fields))
  | .object fields, .resolved resolver => by
      rw [merge]
      exact .computedRight _ resolver (by simp)
      simp
  | .object fields, .unknown => by
      rw [merge_unknown_right]
      exact .unknownRight _
  | .object fields, .scalar form => by
      have widened : merge (.object fields) (.scalar form) = .scalar .json := by
        cases form <;> simp [merge]
      rw [widened]
      exact .objectScalar fields form
  | .object fields, .list element => by
      rw [merge_single_list (.object fields)]
      exact .singleList (.object fields) (merged element (.object fields))
  | .object left, .object right => by
      rw [merge_objects]
      exact .objects fun mine isMine theirs foundTheirs =>
        have smallerMine := sizeOf_kind_lt_of_mem isMine
        have smallerTheirs := Shape.sizeOf_kind_lt foundTheirs
        merged mine.kind theirs.kind
termination_by left right => sizeOf left + sizeOf right
decreasing_by
  all_goals simp
  all_goals omega

end Kind

end ContentGraph
