import ContentGraph.Proofs.Graph.Projection
import ContentGraph.Proofs.Query.Following
import ContentGraph.Proofs.Schema.TypeDraft
import ContentGraph.Proofs.Shape.Soundness

/-!
Contract: completed values of data fields.

Owns:
- `Kind.HoldsLists`: no list of lists holds null for one;
- `Completable`, what is selected below a field fits the core of its kind;
- `follows_ofKind`: completing what a value gives by its kind follows the projection of the value
  by its kind.
-/

namespace ContentGraph

open ContentGraph.Json

namespace Kind

mutual

/-- No list of lists inside a value holds null in the place of a list. -/
def HoldsLists (value : Value) : Kind -> Prop
  | .list element =>
      value = .null ∨ ∀ item ∈ Output.itemsOf value,
        (∀ inner, element = .list inner -> item ≠ .null) ∧ HoldsLists item element
  | .object fields => HoldsListsIn value fields
  | _ => True

/-- No list of lists inside the fields of an object holds null in the place of a list. -/
def HoldsListsIn (value : Value) : List Field -> Prop
  | [] => True
  | .mk _ sourceKey kind :: rest =>
      HoldsLists ((value.field? sourceKey).getD .null) kind ∧ HoldsListsIn value rest

end

theorem holdsListsIn_iff {value : Value} {fields : Shape} :
    HoldsListsIn value fields ↔
      ∀ field ∈ fields, HoldsLists ((value.field? field.sourceKey).getD .null) field.kind := by
  induction fields with
  | nil => simp [HoldsListsIn]
  | cons first rest inductionHypothesis =>
      obtain ⟨name, sourceKey, kind⟩ := first
      simp [HoldsListsIn, Field.sourceKey, Field.kind, inductionHypothesis]

/-- The items of a value that fits a list fit its elements. -/
theorem fits_of_mem_itemsOf {value item : Value} {element : Kind}
    (fits : Fits value (.list element)) (notNull : value ≠ .null)
    (member : item ∈ Output.itemsOf value) : Fits item element := by
  cases value with
  | null => exact absurd rfl notNull
  | array items => exact fits_list_array.mp fits item member
  | _ =>
      cases List.mem_singleton.mp member
      simpa [Fits] using fits

/-- Kinds whose values are shown as they are. -/
inductive Leaf : Kind -> Prop where
  | unknown : Leaf .unknown
  | scalar (form : Scalar) : Leaf (.scalar form)
  | json : Leaf (.object [])

end Kind

namespace Query

open Progress Schema Kind

variable {State : Type} {runtime : Runtime State} {table : TypeTable}
  {select : String -> Output -> StateM (Progress State) Value}
  {enter : Shape -> Value -> Except Failure Value} {firstBelow : Option String}
  {types : List (String × List FieldDef)} {typeName name : String} {kind : Kind} {value : Value}

/-- What is selected below a field fits the core of its kind: nothing below a scalar of the table,
and something below an object, where selecting follows entering the object. -/
inductive Completable (runtime : Runtime State) (table : TypeTable)
    (select : String -> Output -> StateM (Progress State) Value)
    (enter : Shape -> Value -> Except Failure Value) (firstBelow : Option String)
    (name : String) : Kind -> Prop where
  | leaf {kind : Kind} (isLeaf : Leaf kind) (isScalar : table.find? name = some .scalar)
      (noneBelow : firstBelow = none) :
      Completable runtime table select enter firstBelow name kind
  | object {shape : Shape} {fields : List FieldDef} (notEmpty : shape ≠ [])
      (isObject : table.find? name = some (.object fields)) (someBelow : firstBelow.isSome = true)
      (nothing : Follows runtime (select name .nothing) (.ok .null) Eq)
      (enters : ∀ held, FitsFields (.object held) shape -> HoldsListsIn (.object held) shape ->
        Follows runtime (select name (.node (.object held))) (enter shape (.object held)) Eq) :
      Completable runtime table select enter firstBelow name (.object shape)

/-- A value is the completion of what a run of a field has to give. -/
abbrev Completes (runtime : Runtime State) (run : StateM (Progress State) (Option Value))
    (expected : Except Failure Value) : Prop :=
  Follows runtime run expected fun shown result => result = some shown

private theorem some_map {Result : Type} (run : StateM (Progress State) Result) :
    some <$> run = run >>= fun result => pure (some result) :=
  map_eq_pure_bind _ _

theorem mapM_id_of_some {values : List Value} {results : List (Option Value)}
    (related : List.Forall₂ (fun shown result => result = some shown) values results) :
    results.mapM id = some values := by
  induction related with
  | nil => rfl
  | cons isFirst _ inductionHypothesis => simp [isFirst, inductionHypothesis]

/-- The value of a scalar. -/
theorem complete_scalar (isScalar : table.find? name = some .scalar) (value : Value) :
    complete table select (.named name) (if value.isNull then none else some (.leaf value)) =
      pure (some value) := by
  cases value <;> simp [Value.isNull, complete, isScalar]

/-- The value of a node. -/
theorem completes_object {fields : List FieldDef} {output : Output}
    {expected : Except Failure Value} (isObject : table.find? name = some (.object fields))
    (follows : Follows runtime (select name output) expected Eq) :
    Completes runtime (complete table select (.named name) (some output)) expected := by
  have isRun : complete table select (.named name) (some output) =
      select name output >>= fun result => pure (some result) := by
    simp only [complete, isObject]
    exact some_map _
  have isExpected : expected = expected.map id := by cases expected <;> rfl
  rw [isRun, isExpected]
  exact follows.map fun shown result same => congrArg some same.symm

private theorem named_of_leaf (isLeaf : Leaf kind) {type : TypeRef}
    (describes : Describes types kind type) : ∃ name, type = .named name := by
  cases isLeaf <;> cases describes <;> exact ⟨_, rfl⟩

/-- What a value of a kind without fields gives, and its projection. -/
private theorem ofKind_leaf (isLeaf : Leaf kind) (fits : Fits value kind) (parent : Value) :
    Output.ofKind kind value = (if value.isNull then none else some (.leaf value)) ∧
      Projection.ofKind enter typeName none kind value parent = .ok value := by
  cases isLeaf with
  | unknown =>
      cases fits
      exact ⟨rfl, rfl⟩
  | scalar form =>
      cases form with
      | string => rcases fits with rfl | ⟨text, rfl⟩ <;> exact ⟨rfl, rfl⟩
      | _ => exact ⟨rfl, rfl⟩
  | json =>
      rw [Fits] at fits
      rcases fits with rfl | ⟨isObject, _⟩
      · exact ⟨rfl, rfl⟩
      · cases value with
        | object held => exact ⟨rfl, rfl⟩
        | _ => cases isObject

/-- Completing what a value gives outside of lists. -/
private theorem completes_core {type : TypeRef} (describes : Describes types kind type)
    (completable : Completable runtime table select enter firstBelow type.core kind)
    (fits : Fits value kind) (holds : HoldsLists value kind) (parent : Value) :
    Completes runtime (complete table select type (Output.ofKind kind value))
      (Projection.ofKind enter typeName firstBelow kind value parent) := by
  cases completable with
  | leaf isLeaf isScalar noneBelow =>
      obtain ⟨name, rfl⟩ := named_of_leaf isLeaf describes
      obtain ⟨isOutput, isProjected⟩ := ofKind_leaf isLeaf fits parent
      have isScalar : table.find? name = some .scalar := isScalar
      rw [noneBelow, isOutput, isProjected, complete_scalar isScalar]
      exact .pure rfl
  | object notEmpty isObject someBelow nothing enters =>
      cases describes with
      | json => exact absurd rfl notEmpty
      | object isType describes =>
          rw [Fits] at fits
          rcases fits with rfl | ⟨isHeld, fitsFields⟩
          · exact .pure rfl
          · cases value with
            | object held =>
                have entered := completes_object isObject (enters held fitsFields holds)
                simpa [Output.ofKind, Value.isObject, Projection.ofKind, someBelow, TypeRef.core]
                  using entered
            | _ => cases isHeld

private theorem eq_null_of_isNull (isNull : value.isNull = true) : value = .null := by
  cases value with
  | null => rfl
  | _ => cases isNull

/-- Computed fields apart, only null gives nothing. -/
private theorem eq_null_of_ofKind (fits : Fits value kind)
    (notComputed : ∀ resolver, kind ≠ .resolved resolver)
    (isNothing : Output.ofKind kind value = none) : value = .null := by
  cases kind with
  | unknown => exact fits
  | scalar form => exact eq_null_of_isNull (by simpa [Output.ofKind] using isNothing)
  | list element => exact eq_null_of_isNull (by simpa [Output.ofKind] using isNothing)
  | resolved resolver => exact absurd rfl (notComputed resolver)
  | object shape =>
      cases shape with
      | nil => exact eq_null_of_isNull (by simpa [Output.ofKind] using isNothing)
      | cons first rest =>
          have noObject : value.isObject = false := by simpa [Output.ofKind] using isNothing
          rw [Fits] at fits
          refine fits.resolve_right fun isHeld => ?_
          cases noObject.symm.trans isHeld.1

/-- Null in the place of an item. -/
private theorem completes_nothing {type : TypeRef} (describes : Describes types kind type)
    (completable : Completable runtime table select enter firstBelow type.core kind)
    (parent : Value) :
    Completes runtime (complete table select type (some .nothing))
      (Projection.ofKind enter typeName firstBelow kind .null parent) := by
  cases completable with
  | leaf isLeaf isScalar noneBelow =>
      obtain ⟨name, rfl⟩ := named_of_leaf isLeaf describes
      have isNull : complete table select (.named name) (some .nothing) =
          (pure (some .null) : StateM (Progress State) (Option Value)) := by
        have isScalar : table.find? name = some .scalar := isScalar
        simp only [complete, isScalar, Output.nothing]
      rw [noneBelow, isNull, (ofKind_leaf isLeaf (fits_null kind) parent).2]
      exact .pure rfl
  | object notEmpty isObject someBelow nothing enters =>
      cases describes with
      | json => exact absurd rfl notEmpty
      | object isType describes => exact completes_object isObject nothing

/-- Completing an item of a list, in whose place null stands where the item gives nothing. -/
private theorem completes_item {type : TypeRef} (describes : Describes types kind type)
    (completable : Completable runtime table select enter firstBelow type.core kind.core)
    (fits : Fits value kind) (noNull : ∀ inner, kind = .list inner -> value ≠ .null)
    (completes : Completes runtime (complete table select type (Output.ofKind kind value))
      (Projection.ofKind enter typeName firstBelow kind value value)) :
    Completes runtime
      (complete table select type (some ((Output.ofKind kind value).getD .nothing)))
      (Projection.ofKind enter typeName firstBelow kind value value) := by
  cases isOutput : Output.ofKind kind value with
  | some output =>
      rw [isOutput] at completes
      exact completes
  | none =>
      have notComputed : ∀ resolver, kind ≠ .resolved resolver := by
        rintro resolver rfl
        cases completable with
        | leaf isLeaf => cases isLeaf
      have isNull := eq_null_of_ofKind fits notComputed isOutput
      subst isNull
      cases kind with
      | list inner => exact absurd rfl (noNull inner rfl)
      | _ => exact completes_nothing describes completable .null

/-- Completing what a value gives by its kind follows the projection of the value by its kind. -/
theorem completes_ofKind : ∀ (kind : Kind) {type : TypeRef}, Describes types kind type ->
    Completable runtime table select enter firstBelow type.core kind.core ->
    ∀ value parent : Value, Fits value kind -> HoldsLists value kind ->
      Completes runtime (complete table select type (Output.ofKind kind value))
        (Projection.ofKind enter typeName firstBelow kind value parent)
  | .unknown, _, describes, completable, _, parent, fits, holds =>
      completes_core describes completable fits holds parent
  | .scalar _, _, describes, completable, _, parent, fits, holds =>
      completes_core describes completable fits holds parent
  | .object _, _, describes, completable, _, parent, fits, holds =>
      completes_core describes completable fits holds parent
  | .resolved _, _, _, completable, _, _, _, _ => by
      cases completable with
      | leaf isLeaf => cases isLeaf
  | .list element, type, describes, completable, value, parent, fits, holds => by
      cases describes with
      | @list _ inner describes =>
          rw [HoldsLists] at holds
          by_cases isNull : value = .null
          · subst isNull
            exact .pure rfl
          · have holdsItems := holds.resolve_left isNull
            have each : List.Forall₂ (fun output item =>
                Completes runtime (complete table select inner (some output))
                  (Projection.ofKind enter typeName firstBelow element item item))
                ((Output.itemsOf value).map fun item => (Output.ofKind element item).getD .nothing)
                (Output.itemsOf value) := by
              rw [List.forall₂_map_left_iff, List.forall₂_same]
              intro item member
              have fitsItem := fits_of_mem_itemsOf fits isNull member
              obtain ⟨noNull, holdsItem⟩ := holdsItems item member
              exact completes_item describes completable fitsItem noNull
                (completes_ofKind element describes completable item item fitsItem holdsItem)
            have isOutput : Output.ofKind (.list element) value = some (.list
                ((Output.itemsOf value).map fun item =>
                  (Output.ofKind element item).getD .nothing)) := by
              cases value <;> first | exact absurd rfl isNull | rfl
            rw [isOutput, Projection.ofKind_list isNull, complete]
            refine (Follows.mapM each).map fun shown results related => ?_
            rw [mapM_id_of_some related]
            rfl

end Query

end ContentGraph
