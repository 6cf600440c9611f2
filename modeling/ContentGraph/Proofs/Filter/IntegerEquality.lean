import ContentGraph.Json.Path
import ContentGraph.Proofs.Decimal.IntegerRounding
import ContentGraph.Proofs.Filter.ComparatorLaws
import Mathlib

/-!
Contract: equality of integers, in filters and as reference keys.

Owns:
- `strictEq_ofInt`: a filter compares two integers by their doubles, so in 53 significant bits;
- `referenceKey?_ofInt_inj`: two integers have one reference key only if they are equal;
- `integer_equality`: what that makes of `eq`, `in` and `includes`.

Does not own: integers beyond 64 bits, which no JSON reader yields.
-/

namespace ContentGraph.Filter

open ContentGraph.Json
open ContentGraph.Decimal.Double

/-- The integers of 64 bits, with or without a sign. -/
def IsInteger64 (value : Int) : Prop :=
  -2 ^ 63 ≤ value ∧ value < 2 ^ 64

instance (value : Int) : Decidable (IsInteger64 value) :=
  inferInstanceAs (Decidable (_ ∧ _))

/-- Two integers that are the same in 53 significant bits. -/
def sameRounded (value other : Int) : Bool :=
  decide (nearestInt value = nearestInt other)

theorem IsInteger64.natAbs_lt {value : Int} (inRange : IsInteger64 value) :
    value.natAbs < 2 ^ 64 := by
  obtain ⟨atLeast, below⟩ := inRange
  omega

/-- A filter finds two integers equal exactly if they are the same in 53 significant bits. -/
theorem strictEq_ofInt {value other : Int} (inRange : IsInteger64 value)
    (otherInRange : IsInteger64 other) :
    strictEq (some (.ofInt value)) (.ofInt other) = sameRounded value other := by
  obtain ⟨x, y, isDouble, isOtherDouble, isSame⟩ :=
    sameValue_ofInt? inRange.natAbs_lt otherInRange.natAbs_lt
  simp only [strictEq, Value.ofInt, Number.toDouble?, isDouble, isOtherDouble]
  exact isSame

theorem sameRounded_comm (value other : Int) : sameRounded value other = sameRounded other value :=
  decide_eq_decide.mpr eq_comm

/-- The rounding does not matter for an integer of at most 53 bits. -/
theorem sameRounded_of_small {value other : Int} (small : value.natAbs < 2 ^ 53) :
    sameRounded value other = decide (value = other) :=
  decide_eq_decide.mpr (nearestInt_eq_iff_of_small small)

/-- A list of integers searched by a test that agrees with one of integers. -/
theorem any_ofInt {test : Value → Bool} {same : Int → Bool} {others : List Int}
    (agree : ∀ other ∈ others, test (.ofInt other) = same other) :
    (others.map .ofInt).any test = others.any same := by
  induction others with
  | nil => rfl
  | cons other rest inductionHypothesis =>
      have agreeFirst := agree other List.mem_cons_self
      have agreeRest := inductionHypothesis fun other isOther =>
        agree other (List.mem_cons_of_mem _ isOther)
      rw [List.map_cons, List.any_cons, List.any_cons, agreeFirst, agreeRest]

/-- Two integers have the same reference key only if they are equal. -/
theorem referenceKey?_ofInt_inj (value other : Int) :
    (Value.ofInt value).referenceKey? = (Value.ofInt other).referenceKey? ↔ value = other := by
  have isText (value : Int) : (Value.ofInt value).referenceKey? = some value.repr := rfl
  rw [isText, isText, Option.some_inj, Int.repr_inj]

namespace Comparator

theorem verdict_eq_ofInt {value other : Int} (inRange : IsInteger64 value)
    (otherInRange : IsInteger64 other) :
    verdict "eq" (.ofInt other) (some (.ofInt value)) = .ok (sameRounded value other) := by
  have isVerdict : verdict "eq" (.ofInt other) (some (.ofInt value)) =
      .ok (strictEq (some (.ofInt value)) (.ofInt other) == true) := rfl
  rw [isVerdict, strictEq_ofInt inRange otherInRange, beq_true]

theorem verdict_in_ofInt {value : Int} {others : List Int} (inRange : IsInteger64 value)
    (othersInRange : ∀ other ∈ others, IsInteger64 other) :
    verdict "in" (.array (others.map .ofInt)) (some (.ofInt value)) =
      .ok (others.any (sameRounded value)) := by
  have isVerdict : verdict "in" (.array (others.map .ofInt)) (some (.ofInt value)) =
      .ok ((others.map .ofInt).any (strictEq (some (.ofInt value))) == true) := rfl
  have agree (other : Int) (isOther : other ∈ others) :
      strictEq (some (.ofInt value)) (.ofInt other) = sameRounded value other :=
    strictEq_ofInt inRange (othersInRange other isOther)
  rw [isVerdict, beq_true, any_ofInt agree]

theorem verdict_includes_ofInt {value : Int} {others : List Int} (inRange : IsInteger64 value)
    (othersInRange : ∀ other ∈ others, IsInteger64 other) :
    verdict "includes" (.ofInt value) (some (.array (others.map .ofInt))) =
      .ok (others.any (sameRounded value)) := by
  have isVerdict : verdict "includes" (.ofInt value) (some (.array (others.map .ofInt))) =
      .ok ((others.map .ofInt).any (fun item => strictEq (some item) (.ofInt value)) == true) :=
    rfl
  have agree (other : Int) (isOther : other ∈ others) :
      strictEq (some (.ofInt other)) (.ofInt value) = sameRounded value other := by
    rw [strictEq_ofInt (othersInRange other isOther) inRange, sameRounded_comm]
  rw [isVerdict, beq_true, any_ofInt agree]

/-- The comparators find an integer equal to exactly those that are the same in 53 significant
bits.  So they tell it apart from every other one, as a reference key does, if one of the two has
no more bits than that. -/
theorem integer_equality (value : Int) (others : List Int) (inRange : IsInteger64 value)
    (othersInRange : ∀ other ∈ others, IsInteger64 other) :
    (∀ other ∈ others,
      verdict "eq" (.ofInt other) (some (.ofInt value)) = .ok (sameRounded value other) ∧
        (sameRounded value other = true ↔ nearestInt value = nearestInt other) ∧
        (value.natAbs < 2 ^ 53 ∨ other.natAbs < 2 ^ 53 →
          (sameRounded value other = true ↔ value = other)) ∧
        ((Value.ofInt value).referenceKey? = (Value.ofInt other).referenceKey? ↔
          value = other)) ∧
      verdict "in" (.array (others.map .ofInt)) (some (.ofInt value)) =
        .ok (others.any (sameRounded value)) ∧
      verdict "includes" (.ofInt value) (some (.array (others.map .ofInt))) =
        .ok (others.any (sameRounded value)) := by
  refine ⟨fun other isOther => ⟨?_, decide_eq_true_iff, ?_, referenceKey?_ofInt_inj value other⟩,
    verdict_in_ofInt inRange othersInRange, verdict_includes_ofInt inRange othersInRange⟩
  · exact verdict_eq_ofInt inRange (othersInRange other isOther)
  · rintro (small | smallOther)
    · rw [sameRounded_of_small small, decide_eq_true_iff]
    · rw [sameRounded_comm, sameRounded_of_small smallOther, decide_eq_true_iff, eq_comm]

/-- A small identifier next to one beyond 53 bits: they are told apart. -/
theorem integer_equality_sampleIdentifiers :
    IsInteger64 7 ∧ (∀ other ∈ [7, 2 ^ 53 + 1], IsInteger64 other) ∧
      verdict "eq" (.ofInt 7) (some (.ofInt 7)) = .ok true ∧
      verdict "eq" (.ofInt (2 ^ 53 + 1)) (some (.ofInt 7)) = .ok false := by
  have inRange : IsInteger64 7 := by decide
  have othersInRange : ∀ other ∈ [7, 2 ^ 53 + 1], IsInteger64 other := by decide
  obtain ⟨each, -, -⟩ := integer_equality 7 [7, 2 ^ 53 + 1] inRange othersInRange
  refine ⟨inRange, othersInRange, ?_, ?_⟩
  · rw [(each 7 (by decide)).1]
    decide
  · rw [(each (2 ^ 53 + 1) (by decide)).1]
    decide

/-- Identifiers beyond 53 bits: filters take one for the next, although their reference keys
differ. -/
theorem equality_confuses_identifiers :
    IsInteger64 (2 ^ 53) ∧ IsInteger64 (2 ^ 53 + 1) ∧
      verdict "eq" (.ofInt (2 ^ 53 + 1)) (some (.ofInt (2 ^ 53))) = .ok true ∧
      verdict "in" (.array [.ofInt (2 ^ 53 + 1)]) (some (.ofInt (2 ^ 53))) = .ok true ∧
      verdict "includes" (.ofInt (2 ^ 53)) (some (.array [.ofInt (2 ^ 53 + 1)])) = .ok true ∧
      (Value.ofInt (2 ^ 53)).referenceKey? ≠ (Value.ofInt (2 ^ 53 + 1)).referenceKey? := by
  have inRange : IsInteger64 (2 ^ 53) := by decide
  have nextInRange : ∀ other ∈ [2 ^ 53 + 1], IsInteger64 other := by decide
  have isSame : sameRounded (2 ^ 53) (2 ^ 53 + 1) = true := by decide
  have isSameAsOne : [2 ^ 53 + 1].any (sameRounded (2 ^ 53)) = true := by
    rw [List.any_cons, isSame, Bool.true_or]
  refine ⟨inRange, nextInRange _ List.mem_cons_self, ?_, ?_, ?_, ?_⟩
  · rw [verdict_eq_ofInt inRange (nextInRange _ List.mem_cons_self), isSame]
  · exact (verdict_in_ofInt inRange nextInRange).trans (congrArg _ isSameAsOne)
  · exact (verdict_includes_ofInt inRange nextInRange).trans (congrArg _ isSameAsOne)
  · rw [Ne, referenceKey?_ofInt_inj]
    decide

end Comparator

end ContentGraph.Filter
