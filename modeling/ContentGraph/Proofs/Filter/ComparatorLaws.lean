import ContentGraph.Filter.Comparator
import ContentGraph.Proofs.Success

/-!
Contract: how the operations of filters belong together.

Owns:
- `verdict`, a named operation applied to its value and to a field, and `Opposed`, two verdicts of
  which exactly one holds;
- `looseOrder?_swap`: a loose order turns around when field and target are exchanged;
- `comparator_laws`: negated operations, membership in terms of equality, presence, and the
  relations of the loose order among each other.
-/

namespace ContentGraph

open ContentGraph.Json

/-! ### Orders turned around -/

theorem Decimal.Extended.order?_swap (x y : Extended) :
    (x.order? y).map Ordering.swap = y.order? x := by
  cases x with
  | notANumber => cases y <;> rfl
  | infinite negative =>
      cases y with
      | notANumber => rfl
      | infinite other => cases negative <;> cases other <;> rfl
      | finite value => cases negative <;> rfl
  | finite value =>
      cases y with
      | notANumber => rfl
      | infinite negative => cases negative <;> rfl
      | finite other => exact congrArg some Std.OrientedOrd.eq_swap.symm

namespace Filter

variable {field : Option Value} {target : Value}

/-- The order of the numbers that two values stand for. -/
private def numberOrder? (a b : Value) : Option Ordering :=
  (looseNumber? a).bind fun x => (looseNumber? b).bind fun y => x.order? y

private theorem numberOrder?_swap (a b : Value) :
    (numberOrder? a b).map Ordering.swap = numberOrder? b a := by
  unfold numberOrder?
  cases looseNumber? a with
  | none => cases looseNumber? b <;> rfl
  | some x =>
      cases looseNumber? b with
      | none => rfl
      | some y => exact x.order?_swap y

/-- Values that are not both strings are compared as numbers. -/
private theorem looseOrder?_eq_numberOrder? {a b : Value}
    (notTexts : a.text? = none ∨ b.text? = none) :
    looseOrder? (some a) b = numberOrder? a b := by
  simp only [looseOrder?, numberOrder?, Option.bind_eq_bind, Option.bind_some]
  split
  · rcases notTexts with impossible | impossible <;> cases impossible
  · rfl

/-- A loose order turns around when field and target are exchanged. -/
theorem looseOrder?_swap (a b : Value) :
    (looseOrder? (some a) b).map Ordering.swap = looseOrder? (some b) a := by
  by_cases areTexts : a.text? = none ∨ b.text? = none
  · rw [looseOrder?_eq_numberOrder? areTexts, looseOrder?_eq_numberOrder? areTexts.symm,
      numberOrder?_swap]
  · cases a with
    | string left =>
        cases b with
        | string right => exact congrArg some Std.OrientedOrd.eq_swap.symm
        | _ => exact absurd (.inr rfl) areTexts
    | _ => exact absurd (.inl rfl) areTexts

/-- The relation with its sides exchanged. -/
def Relation.converse : Relation -> Relation
  | .less => .greater
  | .lessOrEqual => .greaterOrEqual
  | .greater => .less
  | .greaterOrEqual => .lessOrEqual

theorem Relation.admits_swap (relation : Relation) (order : Ordering) :
    relation.converse.admits order.swap = relation.admits order := by
  cases relation <;> cases order <;> rfl

namespace Comparator

/-! ### Verdicts -/

/-- The verdict of a named operation with its value on a field, which may be absent. -/
def verdict (operation : String) (target : Value) (field : Option Value) : Except Failure Bool :=
  (ofOperation operation target).bind fun comparator => comparator.test field

/-- Exactly one of two verdicts holds, and none of them fails. -/
def Opposed (one other : Except Failure Bool) : Prop :=
  ∃ holds, one = .ok holds ∧ other = .ok !holds

/-- The two operations of a pair expect opposite answers. -/
private theorem opposed_expected (holds : Bool) :
    Opposed (.ok (holds == true)) (.ok (holds == false)) :=
  ⟨_, rfl, by cases holds <;> rfl⟩

theorem verdict_ordered (relation : Relation) {operation : String}
    (isOperation : ∀ target, ofOperation operation target = .ok (.ordered relation target)) :
    verdict operation target field = .ok ((looseOrder? field target).any relation.admits) := by
  rw [verdict, isOperation]
  rfl

/-- The verdict on two values that are there turns around with the relation. -/
theorem any_looseOrder?_swap (relation : Relation) (a b : Value) :
    (looseOrder? (some b) a).any relation.converse.admits =
      (looseOrder? (some a) b).any relation.admits := by
  rw [← looseOrder?_swap a b, Option.any_map]
  congr 1
  funext order
  exact relation.admits_swap order

/-- An item is found among candidates exactly if it equals one of them. -/
theorem opposed_amongst (items : List Value) (field : Option Value) :
    Opposed (verdict "in" (.array items) field) (verdict "nin" (.array items) field) ∧
      (verdict "in" (.array items) field = .ok true ↔
        ∃ item ∈ items, verdict "eq" item field = .ok true) := by
  have isIn : verdict "in" (.array items) field = .ok (items.any (strictEq field) == true) := rfl
  have isEqual (item : Value) : verdict "eq" item field = .ok (strictEq field item == true) := rfl
  refine ⟨opposed_expected (items.any (strictEq field)), ?_⟩
  simp only [isIn, isEqual, Except.ok.injEq, beq_true, List.any_eq_true]

/-- A list includes a target exactly if one of its items equals the target. -/
theorem opposed_including (items : List Value) (target : Value) :
    Opposed (verdict "includes" target (some (.array items)))
        (verdict "excludes" target (some (.array items))) ∧
      (verdict "includes" target (some (.array items)) = .ok true ↔
        ∃ item ∈ items, verdict "eq" target (some item) = .ok true) := by
  have isIncluded : verdict "includes" target (some (.array items)) =
      .ok (items.any (fun item => strictEq (some item) target) == true) := rfl
  have isEqual (item : Value) :
      verdict "eq" target (some item) = .ok (strictEq (some item) target == true) := rfl
  refine ⟨opposed_expected (items.any fun item => strictEq (some item) target), ?_⟩
  simp only [isIncluded, isEqual, Except.ok.injEq, beq_true, List.any_eq_true]

/-- How the relations of one order go together: of less, greater, and at most with at least no two
hold, and each wide relation is its narrow one or both wide ones. -/
structure Coherent (less greater atMost atLeast : Bool) : Prop where
  notBoth : (less && greater) = false
  notLess : (less && (atMost && atLeast)) = false
  notGreater : (greater && (atMost && atLeast)) = false
  atMost_eq : atMost = (less || (atMost && atLeast))
  atLeast_eq : atLeast = (greater || (atMost && atLeast))

theorem ordered_relations (field : Option Value) (target : Value) :
    ∃ less greater atMost atLeast : Bool,
      verdict "lt" target field = .ok less ∧ verdict "gt" target field = .ok greater ∧
      verdict "lte" target field = .ok atMost ∧ verdict "gte" target field = .ok atLeast ∧
      Coherent less greater atMost atLeast := by
  refine ⟨_, _, _, _, verdict_ordered .less fun _ => rfl, verdict_ordered .greater fun _ => rfl,
    verdict_ordered .lessOrEqual fun _ => rfl, verdict_ordered .greaterOrEqual fun _ => rfl, ?_⟩
  cases looseOrder? field target with
  | none => exact ⟨rfl, rfl, rfl, rfl, rfl⟩
  | some order => cases order <;> exact ⟨rfl, rfl, rfl, rfl, rfl⟩

/-- The laws of comparators, for every field, absent or not, and every target.  Exactly one of `eq`
and `ne` holds.  For an array, exactly one of `in` and `nin` holds, and `in` does if `eq` holds for
an element; for anything else both fail, each in its own name.  For a field that is an array,
exactly one of `includes` and `excludes` holds, and `includes` does if `eq` holds between an item
and the target; for any other field both fail in their own names.  Presence that is wanted and
presence that is not are opposed, and null is present for `strictlyExists` only.  The relations of
an order go together as for a partial order, and they turn around when a field that is there and
its target are exchanged. -/
theorem comparator_laws (field : Option Value) (target : Value) :
    Opposed (verdict "eq" target field) (verdict "ne" target field) ∧
    (match target with
      | .array items =>
          Opposed (verdict "in" target field) (verdict "nin" target field) ∧
            (verdict "in" target field = .ok true ↔
              ∃ item ∈ items, verdict "eq" item field = .ok true)
      | _ =>
          verdict "in" target field = .error (.filterType "in" .arrayValue) ∧
            verdict "nin" target field = .error (.filterType "nin" .arrayValue)) ∧
    (match field with
      | some (.array items) =>
          Opposed (verdict "includes" target field) (verdict "excludes" target field) ∧
            (verdict "includes" target field = .ok true ↔
              ∃ item ∈ items, verdict "eq" target (some item) = .ok true)
      | _ =>
          verdict "includes" target field = .error (.filterType "includes" .arrayField) ∧
            verdict "excludes" target field = .error (.filterType "excludes" .arrayField)) ∧
    (Opposed (verdict "exists" (.bool true) field) (verdict "exists" (.bool false) field) ∧
      (verdict "exists" (.bool true) field = .ok true ↔ field ≠ none ∧ field ≠ some .null)) ∧
    (Opposed (verdict "strictlyExists" (.bool true) field)
        (verdict "strictlyExists" (.bool false) field) ∧
      (verdict "strictlyExists" (.bool true) field = .ok true ↔ field ≠ none)) ∧
    (∃ less greater atMost atLeast : Bool,
      verdict "lt" target field = .ok less ∧ verdict "gt" target field = .ok greater ∧
      verdict "lte" target field = .ok atMost ∧ verdict "gte" target field = .ok atLeast ∧
      Coherent less greater atMost atLeast) ∧
    ∀ value, verdict "lt" target (some value) = verdict "gt" value (some target) ∧
      verdict "lte" target (some value) = verdict "gte" value (some target) := by
  refine ⟨opposed_expected (strictEq field target), ?membership, ?inclusion,
    ⟨opposed_expected (field.any fun value : Value => !value.isNull), ?presence⟩,
    ⟨opposed_expected field.isSome, ?strictPresence⟩, ordered_relations field target, ?exchange⟩
  case membership =>
    cases target with
    | array items => exact opposed_amongst items field
    | _ => exact ⟨rfl, rfl⟩
  case inclusion =>
    rcases field with _ | value
    · exact ⟨rfl, rfl⟩
    · cases value with
      | array items => exact opposed_including items target
      | _ => exact ⟨rfl, rfl⟩
  case presence =>
    rcases field with _ | value
    · simp [verdict, ofOperation, Except.bind, test]
    · cases value <;> simp [verdict, ofOperation, Except.bind, test, Value.isNull]
  case strictPresence =>
    cases field <;> simp [verdict, ofOperation, Except.bind, test]
  case exchange =>
    intro value
    rw [verdict_ordered .less fun _ => rfl, verdict_ordered .greater fun _ => rfl,
      verdict_ordered .lessOrEqual fun _ => rfl, verdict_ordered .greaterOrEqual fun _ => rfl]
    exact ⟨congrArg Except.ok (any_looseOrder?_swap .less value target).symm,
      congrArg Except.ok (any_looseOrder?_swap .lessOrEqual value target).symm⟩

end Comparator

end Filter

end ContentGraph
