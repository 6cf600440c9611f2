import ContentGraph.Failure
import Mathlib.Data.List.Forall2

/-!
Contract: what a success says about the steps that it took.

Owns:
- success and failure of two steps in turn, and success of one step for every element of a list;
- the partners of the elements of two lists that are related one by one.
-/

namespace ContentGraph

variable {Source Target : Type}

theorem bind_eq_ok {Problem : Type} {step : Except Problem Source}
    {next : Source -> Except Problem Target} {target : Target} :
    step >>= next = .ok target ↔ ∃ source, step = .ok source ∧ next source = .ok target := by
  cases step <;> simp [bind, Except.bind]

/-- Two steps in turn stop at the problem of the first or of the second. -/
theorem bind_eq_error {Problem : Type} {step : Except Problem Source}
    {next : Source -> Except Problem Target} {problem : Problem} :
    step >>= next = .error problem ↔
      step = .error problem ∨ ∃ source, step = .ok source ∧ next source = .error problem := by
  cases step <;> simp [bind, Except.bind]

/-- A step that is only finished stops at its own problem. -/
theorem bind_ok_eq_error {Problem : Type} {step : Except Problem Source}
    {finish : Source -> Target} {problem : Problem} :
    (step >>= fun source => .ok (finish source)) = .error problem ↔ step = .error problem := by
  cases step <;> simp [bind, Except.bind]

theorem map_eq_ok {Problem : Type} {step : Except Problem Source} {change : Source -> Target}
    {target : Target} :
    step.map change = .ok target ↔ ∃ source, step = .ok source ∧ change source = target := by
  cases step <;> simp [Except.map]

theorem map_eq_error {Problem : Type} {step : Except Problem Source} {change : Source -> Target}
    {problem : Problem} : step.map change = .error problem ↔ step = .error problem := by
  cases step <;> simp [Except.map]

theorem pure_eq_ok {source target : Source} :
    (pure source : Except Failure Source) = .ok target ↔ source = target := by
  simp [pure, Except.pure]

/-- One step for every element succeeds when each does, with their results in order. -/
theorem mapM_eq_ok {step : Source -> Except Failure Target} {sources : List Source}
    {targets : List Target} :
    sources.mapM step = .ok targets ↔
      List.Forall₂ (fun source target => step source = .ok target) sources targets := by
  induction sources generalizing targets with
  | nil => cases targets <;> simp [pure, Except.pure]
  | cons source rest inductionHypothesis =>
      rw [List.mapM_cons, bind_eq_ok, List.forall₂_cons_left_iff]
      simp only [bind_eq_ok, pure_eq_ok, inductionHypothesis]
      constructor
      · rintro ⟨target, made, others, madeOthers, rfl⟩
        exact ⟨target, others, made, madeOthers, rfl⟩
      · rintro ⟨target, others, made, madeOthers, rfl⟩
        exact ⟨target, made, others, madeOthers, rfl⟩

/-- One step for every element stops at the failure of one of them. -/
theorem exists_error_of_mapM {step : Source -> Except Failure Target} {sources : List Source}
    {failure : Failure} (failed : sources.mapM step = .error failure) :
    ∃ source ∈ sources, step source = .error failure := by
  induction sources with
  | nil => cases failed
  | cons first rest inductionHypothesis =>
      rw [List.mapM_cons, bind_eq_error] at failed
      rcases failed with isFirst | ⟨_, _, failedRest⟩
      · exact ⟨first, List.mem_cons_self, isFirst⟩
      · obtain ⟨source, member, isError⟩ := inductionHypothesis (bind_ok_eq_error.mp failedRest)
        exact ⟨source, List.mem_cons_of_mem _ member, isError⟩

/-! ### Lists that are related one by one -/

variable {relation : Source -> Target -> Prop} {sources : List Source} {targets : List Target}

theorem exists_source_of_mem (related : List.Forall₂ relation sources targets) {target : Target}
    (member : target ∈ targets) : ∃ source ∈ sources, relation source target := by
  induction related with
  | nil => cases member
  | cons isFirst areRest inductionHypothesis =>
      rcases List.mem_cons.mp member with rfl | inRest
      · exact ⟨_, List.mem_cons_self, isFirst⟩
      · obtain ⟨source, isSource, isRelated⟩ := inductionHypothesis inRest
        exact ⟨source, List.mem_cons_of_mem _ isSource, isRelated⟩

theorem exists_target_of_mem (related : List.Forall₂ relation sources targets) {source : Source}
    (member : source ∈ sources) : ∃ target ∈ targets, relation source target := by
  have flipped : List.Forall₂ (flip relation) targets sources := related.flip
  exact exists_source_of_mem flipped member

/-- Two lists that are related to one list one by one are related to each other. -/
theorem forall₂_of_shared {Other : Type} {left : Source -> Target -> Prop}
    {right : Source -> Other -> Prop} {relation : Target -> Other -> Prop} {others : List Other}
    (each : ∀ source target other, left source target -> right source other ->
      relation target other)
    (lefts : List.Forall₂ left sources targets) (rights : List.Forall₂ right sources others) :
    List.Forall₂ relation targets others := by
  induction lefts generalizing others with
  | nil =>
      cases rights
      exact .nil
  | cons isLeft _ inductionHypothesis =>
      cases rights with
      | cons isRight areRight =>
          exact .cons (each _ _ _ isLeft isRight) (inductionHypothesis areRight)

theorem exists_targets (each : ∀ source ∈ sources, ∃ target, relation source target) :
    ∃ targets, List.Forall₂ relation sources targets := by
  induction sources with
  | nil => exact ⟨[], .nil⟩
  | cons first rest inductionHypothesis =>
      obtain ⟨⟨target, isRelated⟩, others⟩ := List.forall_mem_cons.mp each
      obtain ⟨targets, areRelated⟩ := inductionHypothesis others
      exact ⟨target :: targets, .cons isRelated areRelated⟩

end ContentGraph
