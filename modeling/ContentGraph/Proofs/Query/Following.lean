import ContentGraph.Proofs.Success
import ContentGraph.Query.Execution

/-!
Contract: runs that follow a computation which may fail.

Owns:
- `Progress.Follows`: a run records the failure that the computation ends with, or gives a result
  that is related to its own;
- how runs in turn, and runs over the items of a list, follow computations of the same form.

A computation ends with its first failure and a run goes on, so that of the failures that a run
records only the first one counts.
-/

namespace ContentGraph.Query

/-- The failure of a problem; those of the engine have none. -/
def FieldProblem.failure? : FieldProblem -> Option Failure
  | .engine => none
  | .failed failure => some failure

/-- The first failure among recorded problems. -/
def firstFailure? (problems : List RecordedProblem) : Option Failure :=
  problems.findSome? (·.problem.failure?)

theorem firstFailure?_append {first second : List RecordedProblem} :
    firstFailure? (first ++ second) = (firstFailure? first).or (firstFailure? second) :=
  List.findSome?_append

namespace Progress

variable {State Result Shown Next NextShown : Type}

/-- A run follows a computation.  It keeps the runtime and records problems behind those that are
there.  Where the computation succeeds, no failure is among them and the results are related;
where it fails, the first failure among them is its own. -/
def Follows (runtime : Runtime State) (run : StateM (Progress State) Result)
    (expected : Except Failure Shown) (related : Shown -> Result -> Prop) : Prop :=
  ∀ problems, ∃ result added,
    run.run { runtime, problems } = (result, { runtime, problems := problems ++ added }) ∧
      match expected with
      | .ok shown => related shown result ∧ firstFailure? added = none
      | .error failure => firstFailure? added = some failure

theorem run_bind {Stored : Type} {first : StateM Stored Result}
    {rest : Result -> StateM Stored Next}
    {before after : Stored} {result : Result} (isRun : first.run before = (result, after)) :
    (first >>= rest).run before = (rest result).run after := by
  rw [StateT.run_bind, isRun]
  rfl

/-- A run keeps the runtime and records problems behind those that are there. -/
def Keeps (runtime : Runtime State) (run : StateM (Progress State) Result) : Prop :=
  ∀ problems, ∃ result added,
    run.run { runtime, problems } = (result, { runtime, problems := problems ++ added })

theorem Keeps.pure {runtime : Runtime State} (result : Result) :
    Keeps runtime (Pure.pure result) :=
  fun problems => ⟨result, [], by rw [List.append_nil]; rfl⟩

theorem Keeps.record {runtime : Runtime State} (position : Position) (problem : FieldProblem) :
    Keeps runtime (record position problem) :=
  fun _ => ⟨none, [⟨position, problem⟩], rfl⟩

namespace Follows

variable {runtime : Runtime State} {run : StateM (Progress State) Result}
  {expected : Except Failure Shown} {related : Shown -> Result -> Prop}
  {next : StateM (Progress State) Next} {expectedNext : Except Failure NextShown}
  {relatedNext : NextShown -> Next -> Prop}

theorem pure {result : Result} {shown : Shown} (isRelated : related shown result) :
    Follows runtime (Pure.pure result) (.ok shown) related :=
  fun problems => ⟨result, [], by rw [List.append_nil]; rfl, isRelated, rfl⟩

/-- A run that goes on from the result of one that follows: from a related result it follows as
well, and from any other one it keeps the runtime. -/
theorem bind (follows : Follows runtime run expected related)
    {rest : Result -> StateM (Progress State) Next}
    {makeShown : Shown -> NextShown} (kept : ∀ result, Keeps runtime (rest result))
    (followsRest : ∀ shown result, related shown result ->
      Follows runtime (rest result) (.ok (makeShown shown)) relatedNext) :
    Follows runtime (run >>= rest) (expected.map makeShown) relatedNext := by
  intro problems
  obtain ⟨result, added, isRun, outcome⟩ := follows problems
  cases expected with
  | error failure =>
      obtain ⟨nextResult, more, isNext⟩ := kept result (problems ++ added)
      refine ⟨nextResult, added ++ more, ?_, ?_⟩
      · rw [run_bind isRun, isNext, List.append_assoc]
      · dsimp only at outcome
        show firstFailure? (added ++ more) = some failure
        rw [firstFailure?_append, outcome]
        rfl
  | ok shown =>
      obtain ⟨nextResult, more, isNext, isRelated, noFailure⟩ :=
        followsRest shown result outcome.1 (problems ++ added)
      refine ⟨nextResult, added ++ more, ?_, isRelated, ?_⟩
      · rw [run_bind isRun, isNext, List.append_assoc]
      · rw [firstFailure?_append, outcome.2, noFailure]
        rfl

/-- A result that is made from the one of a run. -/
theorem map (follows : Follows runtime run expected related) {make : Result -> Next}
    {makeShown : Shown -> NextShown}
    (made : ∀ shown result, related shown result -> relatedNext (makeShown shown) (make result)) :
    Follows runtime (run >>= fun result => Pure.pure (make result)) (expected.map makeShown)
      relatedNext :=
  follows.bind (fun result => Keeps.pure (make result))
    fun shown result isRelated => pure (made shown result isRelated)

/-- Two runs in turn, of which the second does not depend on the first. -/
theorem both {Both BothShown : Type} {relatedBoth : BothShown -> Both -> Prop}
    {make : Result -> Next -> Both} {makeShown : Shown -> NextShown -> BothShown}
    (follows : Follows runtime run expected related)
    (followsNext : Follows runtime next expectedNext relatedNext)
    (made : ∀ shown result nextShown nextResult, related shown result ->
      relatedNext nextShown nextResult ->
        relatedBoth (makeShown shown nextShown) (make result nextResult)) :
    Follows runtime
      (run >>= fun result => next >>= fun nextResult => Pure.pure (make result nextResult))
      (expected >>= fun shown => expectedNext >>= fun nextShown =>
        .ok (makeShown shown nextShown)) relatedBoth := by
  intro problems
  obtain ⟨result, added, isRun, outcome⟩ := follows problems
  obtain ⟨nextResult, more, isNext, nextOutcome⟩ := followsNext (problems ++ added)
  refine ⟨make result nextResult, added ++ more, ?_, ?_⟩
  · rw [run_bind isRun, run_bind isNext, List.append_assoc]
    rfl
  · cases expected with
    | error failure =>
        dsimp only at outcome
        rw [firstFailure?_append, outcome]
        rfl
    | ok shown =>
        rw [firstFailure?_append, outcome.2, Option.none_or]
        cases expectedNext with
        | error failure => exact nextOutcome
        | ok nextShown =>
            exact ⟨made shown result nextShown nextResult outcome.1 nextOutcome.1, nextOutcome.2⟩

/-- One run for every item of a list. -/
theorem mapM {Item Source : Type} {step : Item -> StateM (Progress State) Result}
    {stepShown : Source -> Except Failure Shown} {items : List Item} {sources : List Source}
    (each : List.Forall₂ (fun item source =>
      Follows runtime (step item) (stepShown source) related) items sources) :
    Follows runtime (items.mapM step) (sources.mapM stepShown)
      (List.Forall₂ related) := by
  induction each with
  | nil => exact pure .nil
  | cons first _ inductionHypothesis =>
      rw [List.mapM_cons, List.mapM_cons]
      exact both first inductionHypothesis fun _ _ _ _ => .cons

end Follows

end Progress

end ContentGraph.Query
