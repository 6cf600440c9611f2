import ContentGraph.Proofs.Graph.RelationCompleteness
import ContentGraph.Proofs.Shape.PlainContent

/-!
Contract: the names of a site are legal.

Owns:
- `namingInvariant_legalNames`: naming gives legal names at every level, whatever keys are named;
- `Graph.LegalNames`, that the fields and the relations of all collections have legal names, and
  `legalNames_of_graphOf`: those of a site have.
-/

namespace ContentGraph

open ContentGraph.Json

/-- A field that is added under the name of a key gives a legal name, or joins a field of one. -/
theorem Kind.namingInvariant_legalNames {transform : FieldTransform} :
    NamingInvariant transform LegalNames where
  fieldless {kind} noFields := by
    cases kind with
    | object fields => exact absurd rfl (noFields fields)
    | _ => trivial
  empty := List.forall_mem_nil _
  addNamed {named field key} legal legalField isName := by
    rw [every_object_iff] at legal ⊢
    obtain ⟨entry, isSet, legalEntry, origin, isOrigin, sameName, _⟩ :=
      addNamed_sets mergeInvariant_legalNames legal.2 legalField
    have legalOrigin : Text.IsLegal origin.name := by
      rcases isOrigin with rfl | isOld
      · exact Text.isLegal_of_fieldName isName
      · exact legal.1 origin isOld
    rw [isSet]
    refine ⟨fun other member => ?_, every_kinds_setField legal.2 legalEntry⟩
    rcases Shape.mem_setField member with rfl | isOld
    · exact sameName ▸ legalOrigin
    · exact legal.1 other isOld

/-- The fields of a collection, at every level, and its relations have legal names. -/
structure Collection.LegalNames (collection : Collection) : Prop where
  shape : Kind.Every Kind.LegalNames (.object collection.shape)
  relations : ∀ relation ∈ collection.relations, Text.IsLegal relation.field

/-- All collections have legal names. -/
def Graph.LegalNames (graph : Graph) : Prop :=
  ∀ collection ∈ graph.collections, collection.LegalNames

/-- The collections of a site have legal names, whatever its configuration and its content are. -/
theorem Site.legalNames_of_graphOf {State : Type} {config : Config}
    {source : Content.Source State} {state : State} {registry : Content.Registry} {graph : Graph}
    (built : graphOf config source state registry = .ok graph) : graph.LegalNames := by
  intro collection member
  obtain ⟨_, _, _, reduced⟩ := reduced_of_graphOf built member
  have legal : Kind.Every Kind.LegalNames (.object collection.shape) :=
    Kind.namingInvariant_legalNames.every_renameFields _ [] collection.shape
      ⟨List.forall_mem_nil _, trivial⟩ reduced
  refine ⟨legal, fun relation isRelation => ?_⟩
  obtain ⟨_, _, inferred, _, isWired⟩ := inferred_of_graphOf built member
  obtain ⟨_, field, isField, _, sameName, _⟩ := Collection.field_of_wired (isWired ▸ isRelation)
  have inShape : field ∈ collection.shape := by
    rw [isWired]
    exact isField
  exact sameName ▸ legal.1 field inShape

end ContentGraph
