import ContentGraph.Graph.Collection
import ContentGraph.Proofs.Shape.Naming

/-!
Contract: the reference field through naming.

Owns:
- `map_sourceKey_field?`: a named field has the content key of the first field that got its name;
- `Shape.KeepsKey`, that a key is observed and that none before it gets its name, and
  `exists_sourceKey_iff`: such keys, and no others, are the content keys of named fields;
- `Collection.KeepsReference`, that the graph name of the reference field leads to that field, and
  `keepsReference_iff`: it does when the reference field keeps its key.

Does not own: what filters and payloads make of the name.
-/

namespace ContentGraph

open ContentGraph.Json

/-- Whether a content key gets a name. -/
def FieldTransform.gives (transform : FieldTransform) (key name : String) : Bool :=
  match transform.fieldName key with
  | .ok given => given = name
  | .error _ => false

theorem FieldTransform.gives_iff {transform : FieldTransform} {key name : String} :
    transform.gives key name = true ↔ transform.fieldName key = .ok name := by
  unfold gives
  cases transform.fieldName key with
  | ok given => simp
  | error failure => simp

namespace Kind

variable {transform : FieldTransform} {fields named renamed : Shape} {name : String}

/-- Under a name stands the field that had it before, or else the first of the fields that got it:
later ones merge into its kind and leave its content key. -/
theorem map_sourceKey_field? (areNamed : renameFields transform named fields = .ok renamed) :
    (renamed.field? name).map Field.sourceKey =
      ((named.field? name).map Field.sourceKey).or
        ((fields.find? fun field => transform.gives field.name name).map Field.sourceKey) := by
  induction fields generalizing named with
  | nil =>
      cases areNamed
      simp
  | cons first rest inductionHypothesis =>
      obtain ⟨key, sourceKey, kind⟩ := first
      obtain ⟨firstName, isName, inner, _, isRest⟩ := renameFields_cons_ok.mp areNamed
      rw [inductionHypothesis isRest, Shape.field?_addNamed]
      by_cases same : name = firstName
      · subst same
        have given : transform.gives key name = true := FieldTransform.gives_iff.mpr isName
        cases held : named.field? name with
        | some existing => simp [Field.name, Field.merge?]
        | none => simp [Field.name, Field.merge?, given, Field.sourceKey]
      · have other : transform.gives key name = false := by
          rw [Bool.eq_false_iff, ne_eq, FieldTransform.gives_iff, isName]
          exact fun given => same (Except.ok.inj given).symm
        simp [Field.name, same, other]

theorem exists_name_of_renameFields {field : Field}
    (areNamed : renameFields transform named fields = .ok renamed) (member : field ∈ fields) :
    ∃ name, transform.fieldName field.name = .ok name := by
  induction fields generalizing named with
  | nil => cases member
  | cons first rest inductionHypothesis =>
      obtain ⟨key, sourceKey, kind⟩ := first
      obtain ⟨firstName, isName, inner, _, isRest⟩ := renameFields_cons_ok.mp areNamed
      rcases List.mem_cons.mp member with rfl | inRest
      · exact ⟨firstName, isName⟩
      · exact inductionHypothesis isRest inRest

end Kind

namespace Shape

variable {transform : FieldTransform} {fields renamed : Shape} {key : String}

/-- A key is observed, and no key observed before it gets its name. -/
def KeepsKey (fields : Shape) (transform : FieldTransform) (key : String) : Prop :=
  key ∈ fields.names ∧ ∀ earlier ∈ fields.names.takeWhile (· ≠ key),
    transform.fieldName earlier ≠ transform.fieldName key

private theorem mem_takeWhile_append {before after : List String} {earlier : String}
    (member : earlier ∈ (before ++ key :: after).takeWhile (· ≠ key)) : earlier ∈ before := by
  rw [List.takeWhile_append] at member
  split at member
  · simpa using member
  · exact (List.takeWhile_sublist _).subset member

/-- The keys that keep their names are the content keys of the named fields. -/
theorem exists_sourceKey_iff (unnamed : ∀ field ∈ fields, field.sourceKey = field.name)
    (isNamed : rename transform fields = .ok renamed) :
    (∃ field ∈ renamed, field.sourceKey = key) ↔ fields.KeepsKey transform key := by
  have lookup (name : String) : (renamed.field? name).map Field.sourceKey =
      (fields.find? fun field => transform.gives field.name name).map Field.sourceKey := by
    rw [Kind.map_sourceKey_field? isNamed]
    rfl
  constructor
  · rintro ⟨field, member, isKey⟩
    have distinct : renamed.names.Nodup :=
      (Kind.distinctNames_renameFields isNamed).1
    have isFirst := lookup field.name
    rw [field?_of_mem distinct member, Option.map_some, isKey] at isFirst
    obtain ⟨origin, found, isOrigin⟩ := Option.map_eq_some_iff.mp isFirst.symm
    obtain ⟨given, before, after, rfl, free⟩ := List.find?_eq_some_iff_append.mp found
    have isName : origin.name = key :=
      (unnamed origin (List.mem_append_right _ List.mem_cons_self)).symm.trans isOrigin
    subst isName
    rw [FieldTransform.gives_iff] at given
    refine ⟨by simp [names], fun earlier isEarlier => ?_⟩
    rw [names, List.map_append, List.map_cons] at isEarlier
    obtain ⟨other, isBefore, rfl⟩ := List.mem_map.mp (mem_takeWhile_append isEarlier)
    rw [given, ne_eq, ← FieldTransform.gives_iff]
    simpa using free other isBefore
  · rintro ⟨isObserved, apart⟩
    obtain ⟨own, isOwn, rfl⟩ := List.mem_map.mp isObserved
    obtain ⟨name, isName⟩ := Kind.exists_name_of_renameFields isNamed isOwn
    -- the first field that gets the name of the key is that of the key
    have someGiven : (fields.find? fun field => transform.gives field.name name).isSome = true :=
      List.find?_isSome.mpr ⟨own, isOwn, FieldTransform.gives_iff.mpr isName⟩
    obtain ⟨origin, found⟩ := Option.isSome_iff_exists.mp someGiven
    obtain ⟨given, before, after, isSplit, free⟩ := List.find?_eq_some_iff_append.mp found
    have isKey : origin.name = own.name := by
      by_contra differs
      have isEarlier : origin.name ∈ fields.names.takeWhile (· ≠ own.name) := by
        rw [isSplit, names, List.map_append, List.map_cons,
          List.takeWhile_append_of_pos, List.takeWhile_cons_of_pos (by simpa using differs)]
        · exact List.mem_append_right _ List.mem_cons_self
        · intro other isBefore
          obtain ⟨field, inBefore, rfl⟩ := List.mem_map.mp isBefore
          have notGiven := free field inBefore
          simp only [ne_eq, decide_eq_true_eq]
          intro same
          rw [same, FieldTransform.gives_iff.mpr isName] at notGiven
          cases notGiven
      exact apart origin.name isEarlier ((FieldTransform.gives_iff.mp given).trans isName.symm)
    have isOrigin : origin.sourceKey = own.name := by
      rw [unnamed origin (List.mem_of_find?_eq_some found), isKey]
    have isFirst := lookup name
    rw [found, Option.map_some, isOrigin] at isFirst
    obtain ⟨field, isField, isSource⟩ := Option.map_eq_some_iff.mp isFirst
    exact ⟨field, (mem_of_field? isField).1, isSource⟩

end Shape

namespace Collection

variable {collection : Collection}

/-- The graph name of the reference field leads to the field that is read from it. -/
def KeepsReference (collection : Collection) : Prop :=
  ∃ field, collection.shape.field? collection.referenceFieldName = some field ∧
    field.sourceKey = collection.referenceField

/-- The graph name leads to the reference field as soon as any field is read from that. -/
theorem keepsReference_iff_exists (distinct : collection.shape.names.Nodup) :
    collection.KeepsReference ↔
      ∃ field ∈ collection.shape, field.sourceKey = collection.referenceField := by
  constructor
  · rintro ⟨field, found, isReference⟩
    exact ⟨field, (Shape.mem_of_field? found).1, isReference⟩
  · rintro ⟨other, member, isReference⟩
    have isSome : (collection.shape.fieldBySource? collection.referenceField).isSome = true :=
      List.find?_isSome.mpr ⟨other, member, by simpa using isReference⟩
    obtain ⟨field, found⟩ := Option.isSome_iff_exists.mp isSome
    obtain ⟨isField, isSource⟩ := Shape.mem_of_fieldBySource? found
    have isName : collection.referenceFieldName = field.name := by
      rw [referenceFieldName, found]
    refine ⟨field, ?_, isSource⟩
    rw [isName]
    exact Shape.field?_of_mem distinct isField

end Collection

namespace Shape

variable {shape : Shape} {overrides fragments : ResolverTree} {referenceField : String}
  {nodes : List Value}

private theorem isSome_field?_foldl_addMissing {name : String} {keys : List String}
    (found : (shape.field? name).isSome = true ∨ name ∈ keys) :
    ((keys.foldl addMissing shape).field? name).isSome = true := by
  induction keys generalizing shape with
  | nil => exact found.resolve_right List.not_mem_nil
  | cons key rest inductionHypothesis =>
      apply inductionHypothesis
      rw [field?_addMissing, Option.isSome_or]
      rcases found with found | member
      · exact .inl (by rw [found, Bool.true_or])
      · rcases List.mem_cons.mp member with rfl | inRest
        · exact .inl (by rw [if_pos rfl, Option.isSome_some, Bool.or_true])
        · exact .inr inRest

/-- The reference field and the metadata fields are observed in any case, unless one is the field
that tells the name of the collection. -/
theorem mem_names_observed_iff {key : String} (isAdded : key ∈ referenceField :: metadataFields) :
    key ∈ (observed overrides fragments referenceField nodes).names ↔ key ≠ "_collection" := by
  have complete : (((referenceField :: metadataFields).foldl addMissing
      (nodes.foldl (observe (Kind.ofTree fragments)) (Kind.ofTree overrides))).field?
        key).isSome = true :=
    isSome_field?_foldl_addMissing (.inr isAdded)
  rw [← not_iff_not, ← field?_eq_none_iff, observed,
    field?_filter fun name => decide (name ≠ "_collection")]
  by_cases isCollection : key = "_collection"
  · simp [isCollection]
  · rw [if_pos (by simpa using isCollection), ← Option.not_isSome_iff_eq_none]
    exact iff_of_false (not_not_intro complete) (not_not_intro isCollection)

end Shape

/-- The graph name of the reference field leads to it exactly when the field is not the one that
tells the name of the collection, and no key observed before it gets its name. -/
theorem Collection.keepsReference_iff {collection : Collection}
    {overrides fragments : ResolverTree} {transform : FieldTransform} {nodes : List Value}
    (wellKeyed : ∀ node ∈ nodes, node.WellKeyed)
    (reduced : Shape.reduce overrides fragments collection.referenceField transform nodes =
      .ok collection.shape) :
    collection.KeepsReference ↔ collection.referenceField ≠ "_collection" ∧
      ∀ earlier ∈ (Shape.observed overrides fragments collection.referenceField nodes).names.takeWhile
          (· ≠ collection.referenceField),
        transform.fieldName earlier ≠ transform.fieldName collection.referenceField := by
  have distinct : collection.shape.names.Nodup :=
    (Kind.distinctNames_renameFields reduced).1
  have unnamed := (Kind.every_object_iff.mp
    (Shape.namedBy_observed overrides fragments collection.referenceField wellKeyed)).1
  rw [keepsReference_iff_exists distinct, Shape.exists_sourceKey_iff
    (fun field member => Except.ok.inj (unnamed field member)) reduced, Shape.KeepsKey,
    Shape.mem_names_observed_iff List.mem_cons_self]

end ContentGraph
