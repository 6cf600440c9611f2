import ContentGraph.Proofs.Filter.Selection
import ContentGraph.Proofs.Success

/-!
Contract: what comparators read of the fields that they test.

Owns:
- `Value.outline`, a value without what stands inside its objects and inside its items;
- `Comparator.isShallow`, the comparators that an outline decides, and `test_outline`;
- `Sift.testAt`, a filter tested by any way to look paths up;
- `Sift.Apart`, filters whose other comparators do not stand above a comparator, so that nothing
  is selected below their paths.
-/

namespace ContentGraph

open ContentGraph.Json

namespace Json.Value

/-- A value without what stands inside it. -/
def surface : Value -> Value
  | .array _ => .array []
  | .object _ => .object []
  | single => single

/-- A value without what stands inside its objects and inside its items. -/
def outline : Value -> Value
  | .array items => .array (items.map surface)
  | other => other.surface

theorem surface_outline (value : Value) : value.outline.surface = value.surface := by
  cases value <;> rfl

/-- Whether a value is neither an array nor an object. -/
def isSingle : Value -> Bool
  | .array _ | .object _ => false
  | _ => true

end Json.Value

namespace Filter

/-! ### Comparators -/

namespace Comparator

open Value (surface outline)

/-- Whether an outline of the field decides a comparator: it compares the field, or the items of
the field, with single values, or looks for no more than presence, order or text. -/
def isShallow : Comparator -> Bool
  | .equals _ target | .including _ target => target.isSingle
  | .amongst _ (.array items) => items.all Value.isSingle
  | .regex _ => false
  | _ => true

/-- A single value never equals one that is not single. -/
private theorem strictEq_of_nested {value target : Value} (nested : value.isSingle = false)
    (single : target.isSingle = true) : strictEq (some value) target = false := by
  cases value <;> cases target <;> first | rfl | contradiction

private theorem strictEq_surface {target : Value} (single : target.isSingle = true)
    (value : Value) : strictEq (some value.surface) target = strictEq (some value) target := by
  cases value with
  | array items => rw [strictEq_of_nested rfl single, strictEq_of_nested rfl single]
  | object fields => rw [strictEq_of_nested rfl single, strictEq_of_nested rfl single]
  | _ => rfl

private theorem strictEq_outline {target : Value} (single : target.isSingle = true)
    (field : Option Value) : strictEq (field.map outline) target = strictEq field target := by
  rcases field with _ | value
  · rfl
  · cases value with
    | array items =>
        exact (strictEq_of_nested rfl single).trans (strictEq_of_nested rfl single).symm
    | object fields => exact strictEq_surface single (.object fields)
    | _ => rfl

private theorem looseOrder?_outline (field : Option Value) (target : Value) :
    looseOrder? (field.map outline) target = looseOrder? field target := by
  rcases field with _ | value
  · rfl
  · cases value <;> cases target <;> rfl

/-- A shallow comparator does not tell a field from its outline. -/
theorem test_outline {comparator : Comparator} (shallow : comparator.isShallow = true)
    (field : Option Value) : comparator.test (field.map outline) = comparator.test field := by
  cases comparator with
  | equals expected target => rw [test, test, strictEq_outline shallow]
  | ordered relation target => rw [test, test, looseOrder?_outline]
  | amongst expected candidates =>
      cases candidates with
      | array items =>
          have single : ∀ item ∈ items, item.isSingle = true := List.all_eq_true.mp shallow
          have same : items.any (strictEq (field.map outline)) = items.any (strictEq field) := by
            rw [Bool.eq_iff_iff, List.any_eq_true, List.any_eq_true]
            refine exists_congr fun item => and_congr_right fun member => ?_
            rw [strictEq_outline (single item member)]
          rw [test, test, same]
      | _ => rfl
  | including expected target =>
      rcases field with _ | value
      · rfl
      · cases value with
        | array items =>
            have same : (items.map surface).any (fun item => strictEq (some item) target) =
                items.any fun item => strictEq (some item) target := by
              rw [List.any_map]
              exact congrArg items.any (funext (strictEq_surface shallow))
            simp only [Option.map_some, outline, test, same]
        | _ => rfl
  | regex pattern => cases shallow
  | wildcard pattern =>
      rcases field with _ | value
      · rfl
      · cases value <;> rfl
  | present wanted =>
      rcases field with _ | value
      · rfl
      · cases value <;> rfl
  | strictlyPresent wanted => rcases field with _ | value <;> rfl

end Comparator

/-! ### Filters -/

namespace Sift

variable {sift : Sift} {predicate : Predicate}

/-- Tests a filter on what is looked up at its paths. -/
def testAt (look : Value.Path -> Option Value) : Sift -> Except Failure Bool
  | [] => .ok true
  | predicate :: rest =>
      match predicate.comparator.test (look predicate.path) with
      | .error failure => .error failure
      | .ok false => .ok false
      | .ok true => testAt look rest

/-- The test of a node looks its paths up by following them. -/
theorem test_eq_testAt (sift : Sift) (node : Value) :
    sift.test node = sift.testAt node.follow? := by
  induction sift with
  | nil => rfl
  | cons predicate rest inductionHypothesis =>
      have tested : predicate.comparator.test (node.follow? predicate.path) =
          predicate.test node := rfl
      cases isTested : predicate.test node with
      | error failure => simp only [test, testAt, tested, isTested]
      | ok passes =>
          cases passes with
          | false => simp only [test, testAt, tested, isTested]
          | true => simp only [test, testAt, tested, isTested, inductionHypothesis]

/-- A path goes on below another one. -/
def GoesOn (path longer : Value.Path) : Prop :=
  path <+: longer ∧ longer ≠ path

instance : DecidableRel GoesOn := fun _ _ => instDecidableAnd

/-- No comparator that looks inside objects or inside items stands above another comparator. -/
def Apart (sift : Sift) : Prop :=
  ∀ predicate ∈ sift, predicate.comparator.isShallow = true ∨
    (predicate.path ≠ [] ∧ ∀ other ∈ sift, ¬ GoesOn predicate.path other.path)

instance : DecidablePred Apart := fun sift => inferInstanceAs (Decidable (∀ predicate ∈ sift, _))

theorem testAt_congr {look other : Value.Path -> Option Value}
    (agree : ∀ predicate ∈ sift, predicate.comparator.test (look predicate.path) =
      predicate.comparator.test (other predicate.path)) :
    sift.testAt look = sift.testAt other := by
  induction sift with
  | nil => rfl
  | cons predicate rest inductionHypothesis =>
      obtain ⟨first, others⟩ := List.forall_mem_cons.mp agree
      rw [testAt, testAt, first, inductionHypothesis others]

/-- The test of two filters in turn. -/
theorem testAt_append (look : Value.Path -> Option Value) (first second : Sift) :
    Sift.testAt look (first ++ second) =
      match Sift.testAt look first with
      | .error failure => .error failure
      | .ok false => .ok false
      | .ok true => Sift.testAt look second := by
  induction first with
  | nil => rfl
  | cons predicate rest inductionHypothesis =>
      rw [List.cons_append, testAt, testAt, inductionHypothesis]
      rcases predicate.comparator.test (look predicate.path) with failure | _ | _ <;> rfl

/-- Manifests that compile are compiled one after another. -/
theorem ofManifest_append {first second : Manifest} {firstSift secondSift : Sift}
    (isFirst : Sift.ofManifest first = .ok firstSift)
    (isSecond : Sift.ofManifest second = .ok secondSift) :
    Sift.ofManifest (first ++ second) = .ok (firstSift ++ secondSift) :=
  mapM_eq_ok.mpr (List.rel_append (mapM_eq_ok.mp isFirst) (mapM_eq_ok.mp isSecond))

/-- Compiling keeps the paths. -/
theorem map_path_of_ofManifest {manifest : Manifest}
    (isSift : Sift.ofManifest manifest = .ok sift) :
    sift.map Predicate.path = manifest.map Entry.path := by
  have compiled := mapM_eq_ok.mp isSift
  clear isSift
  induction compiled with
  | nil => rfl
  | cons made _ inductionHypothesis =>
      obtain ⟨comparator, _, rfl⟩ := by simpa only [bind_eq_ok, pure_eq_ok] using made
      rw [List.map_cons, List.map_cons, inductionHypothesis]

/-- The path of every comparator is selected, and it is a leaf where no other comparator's path
goes on. -/
theorem exists_at?_of_mem {manifest : Manifest} (isSift : Sift.ofManifest manifest = .ok sift)
    (member : predicate ∈ sift) (referenceField : String) :
    ∃ below, (Selection.ofManifest manifest referenceField).at? predicate.path = some below ∧
      (predicate.path ≠ [] -> (∀ other ∈ sift, ¬ GoesOn predicate.path other.path) ->
        below.isLeaf = true) := by
  have samePaths := map_path_of_ofManifest isSift
  obtain ⟨entry, isEntry, samePath⟩ :=
    List.mem_map.mp (samePaths ▸ List.mem_map_of_mem (f := Predicate.path) member)
  have held : ((Selection.ofManifest manifest referenceField).at? predicate.path).isSome = true :=
    Selection.isSome_at?_ofManifest.mpr (.inr ⟨entry, isEntry, samePath ▸ List.prefix_rfl⟩)
  obtain ⟨below, found⟩ := Option.isSome_iff_exists.mp held
  refine ⟨below, found, fun inside ends => Selection.isLeaf_at? found fun step => ?_⟩
  rw [← Bool.not_eq_true, Selection.isSome_at?_ofManifest]
  rintro (isReference | ⟨longer, isLonger, isPrefix⟩)
  · have short := isReference.length_le
    simp only [List.length_append, List.length_singleton] at short
    exact inside (List.eq_nil_of_length_eq_zero (by omega))
  · obtain ⟨other, isOther, samePath⟩ :=
      List.mem_map.mp (samePaths.symm ▸ List.mem_map_of_mem (f := Entry.path) isLonger)
    refine ends other isOther ⟨?_, ?_⟩
    · rw [samePath]
      exact (List.prefix_append _ _).trans isPrefix
    · intro same
      have short := isPrefix.length_le
      rw [← samePath, same, List.length_append, List.length_singleton] at short
      omega

end Sift

end Filter

end ContentGraph
