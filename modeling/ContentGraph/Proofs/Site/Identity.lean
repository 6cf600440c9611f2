import ContentGraph.Config
import ContentGraph.Proofs.Json.Printer
import ContentGraph.Proofs.Success

/-!
Contract: what the identity of a configuration tells.

Owns:
- `Config.Alike`, configurations that declare the same: they differ in the functions of their
  overrides, in the function of a custom transform and in their root at most;
- `Config.alike_of_identity`: configurations of one identity text declare the same, where the names
  of their collections are distinct;
- a valid configuration has distinct names.

Does not own: the digest of the text (`Digest.Blake3`).
-/

namespace ContentGraph

open ContentGraph.Json

/-- What an override declares. -/
def Override.declared (override : Override) : String × String :=
  (override.field, override.typeName)

/-- Collections that declare the same. -/
structure CollectionEntry.Alike (left right : CollectionEntry) : Prop where
  entry : { left with overrides := [] } = { right with overrides := [] }
  overrides : left.overrides.map Override.declared = right.overrides.map Override.declared

namespace Config

variable {left right config : Config} {entry other : CollectionEntry}
  {entries others : List CollectionEntry}

/-- Configurations that declare the same. -/
structure Alike (left right : Config) : Prop where
  collections : List.Forall₂ CollectionEntry.Alike left.collections right.collections
  transform : left.transform = right.transform ∨
    ∃ one another, left.transform = .custom one ∧ right.transform = .custom another

/-! ### Valid configurations -/

private theorem nodup_of_validateFrom {seen : List String}
    (valid : validateFrom seen entries = .ok ()) :
    (entries.map CollectionEntry.name).Nodup ∧
      ∀ name ∈ entries.map CollectionEntry.name, name ∉ seen := by
  induction entries generalizing seen with
  | nil => exact ⟨List.nodup_nil, List.forall_mem_nil _⟩
  | cons first rest inductionHypothesis =>
      rw [validateFrom] at valid
      split at valid
      · cases valid
      split at valid
      · cases valid
      split at valid
      · cases valid
      · next isNew =>
          obtain ⟨distinct, areNew⟩ := inductionHypothesis valid
          refine ⟨List.nodup_cons.mpr ⟨fun isThere => ?_, distinct⟩, List.forall_mem_cons.mpr ⟨?_, ?_⟩⟩
          · exact areNew _ isThere List.mem_cons_self
          · simpa using isNew
          · exact fun name member isSeen => areNew name member (List.mem_cons_of_mem _ isSeen)

/-- The collections of a valid configuration have distinct names. -/
theorem nodup_names_of_validate (valid : config.validate = .ok ()) :
    (config.collections.map CollectionEntry.name).Nodup := by
  rw [validate] at valid
  split at valid
  · cases valid
  · split at valid
    · next isValid => exact (nodup_of_validateFrom isValid).1
    · cases valid

/-! ### Identity text -/

private theorem textualItems_map {Source : Type} {make : Source -> Value} {sources : List Source}
    (textual : ∀ source ∈ sources, (make source).Textual) :
    Value.TextualItems (sources.map make) := by
  induction sources with
  | nil => trivial
  | cons first rest inductionHypothesis =>
      obtain ⟨isFirst, areRest⟩ := List.forall_mem_cons.mp textual
      exact ⟨isFirst, inductionHypothesis areRest⟩

private theorem textualFields_refs (refs : List (String × String)) :
    Value.TextualFields (refs.map fun (field, target) => (field, .string target)) := by
  induction refs with
  | nil => trivial
  | cons first rest inductionHypothesis => exact ⟨trivial, inductionHypothesis⟩

private theorem textual_entryJson (entry : CollectionEntry) : (entryJson entry).Textual := by
  have required : Value.TextualItems (entry.requiredFields.map .string) :=
    textualItems_map fun _ _ => trivial
  have plural : ((entry.plural.map Value.string).getD .null).Textual := by
    cases entry.plural <;> exact trivial
  exact ⟨trivial, trivial, textualFields_refs entry.refs, trivial, required, plural, trivial⟩

theorem textual_identityJson (config : Config) : config.identityJson.Textual := by
  refine ⟨trivial, textualItems_map fun entry _ => textual_entryJson entry, ?_, trivial⟩
  rw [← List.map_id (config.collections.flatMap _)]
  refine textualItems_map fun value member => ?_
  obtain ⟨entry, _, isOverride⟩ := List.mem_flatMap.mp member
  obtain ⟨override, _, rfl⟩ := List.mem_map.mp isOverride
  exact ⟨trivial, trivial, trivial, trivial⟩

/-- The declared parts of a collection are those of its JSON form. -/
theorem entry_of_entryJson (same : entryJson entry = entryJson other) :
    { entry with overrides := [] } = { other with overrides := [] } := by
  obtain ⟨name, path, refs, referenceField, requiredFields, plural, overrides⟩ := entry
  obtain ⟨otherName, otherPath, otherRefs, otherReference, otherRequired, otherPlural, _⟩ := other
  simp only [entryJson, Value.object.injEq, List.cons.injEq, Prod.mk.injEq, Value.string.injEq,
    Value.array.injEq, true_and, and_true] at same
  obtain ⟨rfl, rfl, sameRefs, rfl, sameRequired, samePlural⟩ := same
  have isRefs : refs = otherRefs := by
    refine List.map_injective_iff.mpr (fun first second sameRef => ?_) sameRefs
    obtain ⟨field, target⟩ := first
    obtain ⟨otherField, otherTarget⟩ := second
    simpa using sameRef
  have isRequired : requiredFields = otherRequired :=
    List.map_injective_iff.mpr (fun _ _ sameText => Value.string.inj sameText) sameRequired
  have isPlural : plural = otherPlural := by
    cases plural <;> cases otherPlural <;> simp_all
  rw [isRefs, isRequired, isPlural]

/-! ### Overrides -/

/-- The overrides of a collection under its name. -/
private def tagged (entry : CollectionEntry) : List (String × String × String) :=
  entry.overrides.map fun override => (entry.name, override.declared)

private theorem filter_tagged {entry : CollectionEntry} (name : String) :
    (tagged entry).filter (·.1 = name) = if entry.name = name then tagged entry else [] := by
  split
  · next same =>
      refine List.filter_eq_self.mpr fun item member => ?_
      obtain ⟨override, _, rfl⟩ := List.mem_map.mp member
      simpa using same
  · next differ =>
      refine List.filter_eq_nil_iff.mpr fun item member => ?_
      obtain ⟨override, _, rfl⟩ := List.mem_map.mp member
      simpa using differ

private theorem filter_flatMap_of_not_mem {name : String}
    (absent : name ∉ entries.map CollectionEntry.name) :
    (entries.flatMap tagged).filter (·.1 = name) = [] := by
  refine List.filter_eq_nil_iff.mpr fun item member => ?_
  obtain ⟨entry, isEntry, isItem⟩ := List.mem_flatMap.mp member
  obtain ⟨override, _, rfl⟩ := List.mem_map.mp isItem
  have differ : entry.name ≠ name := by
    rintro rfl
    exact absent (List.mem_map_of_mem isEntry)
  simpa using differ

/-- The declared parts of a collection other than its overrides. -/
private abbrev declaration (entry : CollectionEntry) : CollectionEntry :=
  { entry with overrides := [] }

/-- Where names are distinct, the overrides of all collections tell those of each. -/
private theorem alike_of_tagged (distinct : (entries.map CollectionEntry.name).Nodup)
    (sameEntries : entries.map declaration = others.map declaration)
    (same : entries.flatMap tagged = others.flatMap tagged) :
    List.Forall₂ CollectionEntry.Alike entries others := by
  induction entries generalizing others with
  | nil =>
      cases List.map_eq_nil_iff.mp sameEntries.symm
      exact .nil
  | cons entry entries inductionHypothesis =>
      obtain ⟨other, others, rfl⟩ := List.exists_cons_of_ne_nil fun empty : others = [] => by
        simp [empty] at sameEntries
      obtain ⟨sameEntry, sameRest⟩ := List.cons.inj sameEntries
      obtain ⟨isNew, distinctRest⟩ := List.nodup_cons.mp distinct
      have isNamed : entry.name = other.name := by
        have declaredName := congrArg CollectionEntry.name sameEntry
        exact declaredName
      have names : entries.map CollectionEntry.name = others.map CollectionEntry.name := by
        have declaredNames := congrArg (List.map CollectionEntry.name) sameRest
        simpa [Function.comp_def] using declaredNames
      have isNewOther : entry.name ∉ others.map CollectionEntry.name := names ▸ isNew
      rw [List.flatMap_cons, List.flatMap_cons] at same
      have sameTagged : tagged entry = tagged other := by
        have filtered := congrArg (List.filter (·.1 = entry.name)) same
        rw [List.filter_append, List.filter_append, filter_tagged, filter_tagged, if_pos rfl,
          if_pos isNamed.symm, filter_flatMap_of_not_mem isNew,
          filter_flatMap_of_not_mem isNewOther, List.append_nil, List.append_nil] at filtered
        exact filtered
      rw [sameTagged] at same
      have sameDeclared : entry.overrides.map Override.declared =
          other.overrides.map Override.declared := by
        have untagged := congrArg (List.map Prod.snd) sameTagged
        simpa [tagged, Function.comp_def] using untagged
      exact .cons ⟨sameEntry, sameDeclared⟩
        (inductionHypothesis distinctRest sameRest (List.append_cancel_left same))

/-! ### Identity -/

private theorem transform_of_label {left right : FieldTransform} (same : left.label = right.label) :
    left = right ∨ ∃ one another, left = .custom one ∧ right = .custom another := by
  cases left <;> cases right <;> simp [FieldTransform.label] at same ⊢

/-- The overrides of a configuration as they enter its identity. -/
private theorem overridesJson_eq (entries : List CollectionEntry) :
    (entries.flatMap fun entry => entry.overrides.map fun override =>
        Value.array [.string entry.name, .string override.field, .string override.typeName]) =
      (entries.flatMap tagged).map fun (name, field, typeName) =>
        .array [.string name, .string field, .string typeName] := by
  rw [List.map_flatMap]
  refine List.flatMap_congr fun entry _ => ?_
  simp [tagged, Override.declared]

/-- Configurations of one identity text declare the same. -/
theorem alike_of_identity (distinct : (left.collections.map CollectionEntry.name).Nodup)
    (same : left.identityJson.compact = right.identityJson.compact) : left.Alike right := by
  have sameJson := Value.compact_injective (textual_identityJson left) (textual_identityJson right)
    same
  simp only [identityJson, Value.object.injEq, List.cons.injEq, Prod.mk.injEq, Value.string.injEq,
    Value.array.injEq, true_and, and_true, overridesJson_eq] at sameJson
  obtain ⟨sameLabel, sameEntries, sameOverrides⟩ := sameJson
  have sameDeclarations : left.collections.map declaration = right.collections.map declaration := by
    have each : List.Forall₂ (fun entry other => entryJson entry = entryJson other)
        left.collections right.collections := by
      rw [← List.forall₂_eq_eq_eq, List.forall₂_map_left_iff, List.forall₂_map_right_iff]
        at sameEntries
      exact sameEntries
    rw [← List.forall₂_eq_eq_eq, List.forall₂_map_left_iff, List.forall₂_map_right_iff]
    exact each.imp fun _ _ => entry_of_entryJson
  have sameTagged : left.collections.flatMap tagged = right.collections.flatMap tagged := by
    refine List.map_injective_iff.mpr (fun first second sameItem => ?_) sameOverrides
    obtain ⟨name, field, typeName⟩ := first
    obtain ⟨otherName, otherField, otherType⟩ := second
    simpa using sameItem
  exact ⟨alike_of_tagged distinct sameDeclarations sameTagged, transform_of_label sameLabel⟩

end Config

end ContentGraph
