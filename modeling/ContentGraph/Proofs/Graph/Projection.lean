import ContentGraph.Graph.Output
import ContentGraph.Proofs.Success

/-!
Contract: projections field by field.

Owns:
- `Kind.core`, the kind inside of lists, and what the projection of a value by its kind gives;
- `Projection.one`, the projection of one selected field, and `fields_cons`: the fields of a
  selection are projected one after another;
- `exists_projected`, what stands under a selected name in a projection that succeeds.
-/

namespace ContentGraph

open ContentGraph.Json ContentGraph.Filter

/-- The kind inside of lists. -/
def Kind.core : Kind -> Kind
  | .list element => core element
  | kind => kind

namespace Projection

/-! ### Values by their kinds -/

section

variable {enter : Shape -> Value -> Except Failure Value} {typeName : String}
  {firstBelow : Option String} {element : Kind} {shape : Shape} {value parent projected : Value}

theorem ofKind_unknown_ok
    (isProjected : ofKind enter typeName firstBelow .unknown value parent = .ok projected) :
    projected = value ∧ firstBelow = none := by
  simp only [ofKind] at isProjected
  split at isProjected <;> cases isProjected
  exact ⟨rfl, rfl⟩

theorem ofKind_scalar_ok {form : Scalar}
    (isProjected : ofKind enter typeName firstBelow (.scalar form) value parent = .ok projected) :
    projected = value ∧ (form ≠ .json -> firstBelow = none) := by
  cases form <;> simp only [ofKind] at isProjected
  case json =>
    cases isProjected
    exact ⟨rfl, fun notJson => absurd rfl notJson⟩
  all_goals
    split at isProjected <;> cases isProjected
    exact ⟨rfl, fun _ => rfl⟩

/-- An object is given as a whole where nothing is selected below, and else entered; for anything
else null is given. -/
theorem ofKind_object_ok
    (isProjected : ofKind enter typeName firstBelow (.object shape) value parent = .ok projected) :
    ((∀ held, value ≠ .object held) ∧ projected = .null) ∨
      ∃ held, value = .object held ∧ if firstBelow.isSome = true
        then enter shape (.object held) = .ok projected else projected = .object held := by
  cases value with
  | object held =>
      refine .inr ⟨held, rfl, ?_⟩
      simp only [ofKind] at isProjected
      split at isProjected
      · next isSome => rwa [if_pos isSome]
      · next isNone =>
          rw [if_neg isNone]
          exact (Except.ok.inj isProjected).symm
  | _ =>
      cases isProjected
      exact .inl ⟨nofun, rfl⟩

/-- The items of a list are projected one by one. -/
theorem ofKind_list (notNull : value ≠ .null) (parent : Value) :
    ofKind enter typeName firstBelow (.list element) value parent =
      ((Output.itemsOf value).mapM fun item =>
        ofKind enter typeName firstBelow element item item).map .array := by
  cases value with
  | null => exact absurd rfl notNull
  | array items => rw [ofKind]; rfl
  | _ =>
      simp only [ofKind, Output.itemsOf, List.mapM_cons, List.mapM_nil]
      cases ofKind enter typeName firstBelow element _ _ <;> rfl

theorem ofKind_list_ok
    (isProjected : ofKind enter typeName firstBelow (.list element) value parent = .ok projected) :
    (value = .null ∧ projected = .null) ∨ (value ≠ .null ∧ ∃ outs, projected = .array outs ∧
      List.Forall₂ (fun item out => ofKind enter typeName firstBelow element item item = .ok out)
        (Output.itemsOf value) outs) := by
  by_cases isNull : value = .null
  · subst isNull
    cases isProjected
    exact .inl ⟨rfl, rfl⟩
  · rw [ofKind_list isNull, map_eq_ok] at isProjected
    obtain ⟨outs, made, rfl⟩ := isProjected
    exact .inr ⟨isNull, outs, rfl, mapM_eq_ok.mp made⟩

end

/-! ### Selected fields -/

variable {graph : Graph} {typeName name : String} {shape : Shape} {relations : List Relation}
  {raw : Value} {below : Selection} {rest selected : List (String × Selection)} {out : Object}

/-- Projects an object without relations onto a selection. -/
def enterBelow (graph : Graph) (typeName : String) (below : Selection) (shape : Shape)
    (value : Value) : Except Failure Value :=
  (fields graph typeName shape [] value below.fields).map .object

theorem enterBelow_ok {value projected : Value}
    (entered : enterBelow graph typeName below shape value = .ok projected) :
    ∃ held, fields graph typeName shape [] value below.fields = .ok held ∧
      .object held = projected :=
  map_eq_ok.mp entered

/-- Projects a relation's value onto the selection below it. -/
def relationBelow (graph : Graph) (relation : Relation) (value : Value) (below : Selection) :
    Except Failure Value :=
  if below.isLeaf then .ok value
  else do
    let target ← graph.collection relation.target
    match ← referred graph relation value with
    | .one none => .ok .null
    | .one (some found) => node graph target found below
    | .many nodes => (nodes.mapM (node graph target · below)).map .array

/-- The projection of one selected field. -/
def one (graph : Graph) (typeName : String) (shape : Shape) (relations : List Relation)
    (raw : Value) (name : String) (below : Selection) : Except Failure Value :=
  match Collection.relation? relations name with
  | some relation => relationBelow graph relation ((raw.field? relation.sourceKey).getD .null) below
  | none =>
      if name = "_collection" then .ok (.string typeName)
      else
        match shape.field? name with
        | none => .error (.unknownField typeName name)
        | some field =>
            ofKind (enterBelow graph (nestedTypeName typeName name) below)
              (nestedTypeName typeName name) (below.fields.head?.map Prod.fst) field.kind
              ((raw.field? field.sourceKey).getD .null) raw

/-- The selected fields are projected one after another. -/
theorem fields_cons :
    fields graph typeName shape relations raw ((name, below) :: rest) = (do
      let projected ← one graph typeName shape relations raw name below
      let others ← fields graph typeName shape relations raw rest
      .ok ((name, projected) :: others)) := by
  obtain ⟨below⟩ := below
  cases found : Collection.relation? relations name with
  | some relation =>
      simp only [fields, one, relationBelow, found, Selection.isLeaf, Selection.fields]
      cases below with
      | nil => rfl
      | cons first others =>
          cases graph.collection relation.target with
          | error failure => rfl
          | ok target =>
              dsimp only [bind, Except.bind]
              cases referred graph relation ((raw.field? relation.sourceKey).getD .null) with
              | error failure => rfl
              | ok nodes => rcases nodes with (_ | found) | nodes <;> rfl
  | none =>
      simp only [fields, one, found]
      split
      · rfl
      · cases shape.field? name <;> rfl

/-- A projection succeeds when every selected field can be projected. -/
theorem exists_fields_iff :
    (∃ out, fields graph typeName shape relations raw selected = .ok out) ↔
      ∀ entry ∈ selected, ∃ projected,
        one graph typeName shape relations raw entry.1 entry.2 = .ok projected := by
  induction selected with
  | nil => simp [fields]
  | cons first rest inductionHypothesis =>
      rw [List.forall_mem_cons, ← inductionHypothesis]
      obtain ⟨name, below⟩ := first
      simp only [fields_cons, bind_eq_ok, Except.ok.injEq]
      constructor
      · rintro ⟨_, projected, isProjected, others, areOthers, _⟩
        exact ⟨⟨projected, isProjected⟩, others, areOthers⟩
      · rintro ⟨⟨projected, isProjected⟩, others, areOthers⟩
        exact ⟨_, projected, isProjected, others, areOthers, rfl⟩

theorem exists_node_iff {collection : Collection} {selection : Selection} :
    (∃ projected, node graph collection raw selection = .ok projected) ↔
      ∀ entry ∈ selection.fields, ∃ projected,
        one graph collection.typeName collection.shape collection.relations raw entry.1 entry.2 =
          .ok projected := by
  rw [← exists_fields_iff]
  simp [node, map_eq_ok]

/-- What stands under a selected name in a projection. -/
theorem exists_projected
    (isProjected : fields graph typeName shape relations raw selected = .ok out)
    (isSelected : selected.lookup name = some below) :
    ∃ projected, Object.find? out name = some projected ∧
      one graph typeName shape relations raw name below = .ok projected := by
  induction selected generalizing out with
  | nil => cases isSelected
  | cons first rest inductionHypothesis =>
      obtain ⟨other, own⟩ := first
      rw [fields_cons] at isProjected
      obtain ⟨value, isValue, others, madeOthers, isOut⟩ := by
        simpa only [bind_eq_ok] using isProjected
      cases isOut
      by_cases same : name = other
      · subst same
        rw [List.lookup_cons_self] at isSelected
        cases isSelected
        exact ⟨value, if_pos rfl, isValue⟩
      · have differ : (name == other) = false := by simpa using same
        rw [List.lookup_cons, differ] at isSelected
        obtain ⟨projected, found, isShown⟩ := inductionHypothesis madeOthers isSelected
        exact ⟨projected, (if_neg (Ne.symm same)).trans found, isShown⟩

end Projection

end ContentGraph
