import ContentGraph.Proofs.Success
import ContentGraph.Site

/-!
Contract: what a built site was built from.

Owns:
- the parts of a built site: its graph, its types and the state it starts from;
- a site is built from a valid configuration only.
-/

namespace ContentGraph.Site

variable {State : Type} {config : Config} {source : Content.Source State} {state : State}
  {registry : Content.Registry} {firstId : Nat} {site : Site State}

/-- A built site holds what its configuration and its source gave. -/
theorem build_ok (built : build config source state registry firstId = .ok site) :
    ∃ graph table, graphOf config source state registry = .ok graph ∧
      Schema.build graph.collections = .ok table ∧
      site =
        { hash := config.hash, table, source, runtime := { graph, state, nextId := firstId } } := by
  rw [build] at built
  split at built
  · cases built
  · next graph isGraph =>
      obtain ⟨table, hasTable, isSite⟩ := bind_eq_ok.mp built
      cases isSite
      exact ⟨graph, table, isGraph, hasTable, rfl⟩

theorem graphOf_of_build (built : build config source state registry firstId = .ok site) :
    graphOf config source state registry = .ok site.graph := by
  obtain ⟨graph, table, isGraph, _, rfl⟩ := build_ok built
  exact isGraph

theorem hash_of_build (built : build config source state registry firstId = .ok site) :
    site.hash = config.hash := by
  obtain ⟨graph, table, _, _, rfl⟩ := build_ok built
  rfl

theorem state_of_build (built : build config source state registry firstId = .ok site) :
    site.runtime.state = state := by
  obtain ⟨graph, table, _, _, rfl⟩ := build_ok built
  rfl

/-- A site is built from a valid configuration only. -/
theorem validate_of_build (built : build config source state registry firstId = .ok site) :
    config.validate = .ok () := by
  obtain ⟨store, loaded, _⟩ := bind_eq_ok.mp (graphOf_of_build built)
  obtain ⟨_, valid, _⟩ := bind_eq_ok.mp loaded
  exact valid

end ContentGraph.Site
