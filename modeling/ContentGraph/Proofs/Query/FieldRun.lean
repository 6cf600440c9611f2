import ContentGraph.Proofs.Query.Completion

/-!
Contract: runs of single fields.

Owns:
- `follows_of_output`: a field whose output is completed to a value gives it under its key;
- `follows_of_failure`: a field whose resolver fails records the failure;
- `follows_of_nothing`: on what is no node, a field that reads from nodes gives nothing, and only
  the engine finds fault with it.
-/

namespace ContentGraph.Query.Progress

open ContentGraph.Json ContentGraph.Schema

variable {State : Type} {runtime : Runtime State} {setting : Setting State} {typeName : String}
  {parent : Output} {head : FieldHead} {select : String -> Output -> StateM (Progress State) Value}
  {field : FieldDef} {args : Object} {expected : Except Failure Value}

/-- The field of a type that a head asks for. -/
abbrev Asks (setting : Setting State) (typeName : String) (head : FieldHead) (field : FieldDef) :
    Prop :=
  head.name ≠ typenameField ∧
    (setting.table.objectFields? typeName).bind (·.find? fun field => field.name = head.name) =
      some field

/-- The value of a field under its key, or the engine's problem with it. -/
private def keep (head : FieldHead) (value : Option Value) :
    StateM (Progress State) (Option (String × Value)) :=
  match value with
  | some value => pure (some (head.key, value))
  | none => record head.position .engine

private theorem runField_of_asks (asks : Asks setting typeName head field)
    (areArguments : fieldArguments? setting.value? field.arguments head.arguments = some args)
    {outcome : Except FieldProblem (Option Output)}
    (isResolved : resolve setting.source runtime field.origin parent args = (outcome, runtime))
    (problems : List RecordedProblem) :
    (runField setting typeName parent head select).run { runtime, problems } =
      (match outcome with
        | .error problem => record head.position problem
        | .ok output => complete setting.table select field.type output >>= keep head).run
          { runtime, problems } := by
  simp only [runField, asks.1, if_false, asks.2, areArguments]
  have isRead : (get : StateM (Progress State) (Progress State)).run { runtime, problems } =
      ({ runtime, problems }, { runtime, problems }) := rfl
  rw [run_bind isRead]
  simp only [isResolved]
  cases outcome <;> rfl

theorem follows_of_output (asks : Asks setting typeName head field)
    (areArguments : fieldArguments? setting.value? field.arguments head.arguments = some args)
    {output : Option Output}
    (isResolved : resolve setting.source runtime field.origin parent args = (.ok output, runtime))
    (completes : Completes runtime (complete setting.table select field.type output) expected) :
    Follows runtime (runField setting typeName parent head select) expected
      fun shown result => result = some (head.key, shown) := by
  have isExpected : expected = expected.map id := by cases expected <;> rfl
  have follows : Follows runtime (complete setting.table select field.type output >>= keep head)
      expected fun shown result => result = some (head.key, shown) := by
    rw [isExpected]
    refine completes.bind (fun result => ?_) fun shown result isShown => ?_
    · cases result with
      | some value => exact Keeps.pure _
      | none => exact Keeps.record _ _
    · rw [isShown]
      exact Follows.pure rfl
  intro problems
  rw [runField_of_asks asks areArguments isResolved]
  exact follows problems

theorem follows_of_failure {Shown : Type} {related : Shown -> Option (String × Value) -> Prop}
    {failure : Failure} (asks : Asks setting typeName head field)
    (areArguments : fieldArguments? setting.value? field.arguments head.arguments = some args)
    (isResolved : resolve setting.source runtime field.origin parent args =
      (.error (.failed failure), runtime)) :
    Follows runtime (runField setting typeName parent head select) (.error failure) related := by
  intro problems
  rw [runField_of_asks asks areArguments isResolved]
  exact ⟨none, [⟨head.position, .failed failure⟩], rfl, rfl⟩

/-- A field that reads from nodes gives nothing on what is none. -/
theorem follows_of_nothing (named : head.name ≠ typenameField)
    (reads : ∀ field, Asks setting typeName head field ->
      (∃ sourceKey kind, field.origin = .data sourceKey kind) ∨
        ∃ relation, field.origin = .relation relation) :
    Follows runtime (runField setting typeName .nothing head select) (.ok ())
      fun _ result => result = none := by
  cases isField : (setting.table.objectFields? typeName).bind
      (·.find? fun field => field.name = head.name) with
  | none =>
      have isRun : runField setting typeName .nothing head select = pure none := by
        simp only [runField, named, if_false, isField]
      rw [isRun]
      exact .pure rfl
  | some field =>
      cases areArguments : fieldArguments? setting.value? field.arguments head.arguments with
      | none =>
          have isRun : runField setting typeName .nothing head select =
              record head.position .engine := by
            simp only [runField, named, if_false, isField, areArguments]
          rw [isRun]
          exact fun _ => ⟨none, [⟨head.position, .engine⟩], rfl, rfl, rfl⟩
      | some args =>
          have isResolved : resolve setting.source runtime field.origin .nothing args =
              (.error .engine, runtime) := by
            rcases reads field ⟨named, isField⟩ with ⟨sourceKey, kind, isData⟩ | ⟨relation, isRelation⟩
            · rw [isData]
              rfl
            · rw [isRelation]
              rfl
          intro problems
          rw [runField_of_asks ⟨named, isField⟩ areArguments isResolved]
          exact ⟨none, [⟨head.position, .engine⟩], rfl, rfl, rfl⟩

end ContentGraph.Query.Progress
