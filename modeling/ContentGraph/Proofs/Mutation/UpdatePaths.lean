import ContentGraph.Proofs.Json.KeyPaths
import ContentGraph.Proofs.Mutation.Schedule

/-!
Contract: what an update changes, path by path.

Owns:
- what is at a path after a value without its nulls was laid over another: a leaf of the overlay
  at the leaf's path, and what the base has at every path that the overlay spares;
- `Collection.writable`, the part of a payload's record that an update may write;
- `Runtime.update_lays_payload`: the record that an update hands to the source, at every path.
-/

namespace ContentGraph

open ContentGraph.Json

/-! ### Values without their nulls -/

/-- Dropping the nulls of an object drops those that stand directly under a key, and the nulls
inside of what stands under the others. -/
theorem find?_stripNullFields {fields : Object} (distinct : (Object.keys fields).Nodup)
    (key : String) :
    Object.find? (stripNullFields fields) key =
      ((Object.find? fields key).filter (!·.isNull)).map stripNulls := by
  induction fields with
  | nil => rfl
  | cons field rest inductionHypothesis =>
      obtain ⟨name, value⟩ := field
      obtain ⟨isNew, distinctRest⟩ := List.nodup_cons.mp distinct
      have atRest := inductionHypothesis distinctRest
      have absent : Object.find? rest name = none := Object.find?_eq_none_iff.mpr isNew
      by_cases isNull : value.isNull = true
      · by_cases same : name = key
        · subst same
          rw [stripNullFields, if_pos isNull, atRest, absent]
          simp [Object.find?, Option.filter, isNull]
        · rw [stripNullFields, if_pos isNull, atRest]
          simp [Object.find?, same]
      · by_cases same : name = key
        · simp [stripNullFields, Object.find?, Option.filter, isNull, same]
        · rw [stripNullFields, if_neg isNull]
          simpa [Object.find?, same] using atRest

namespace Json.Value

/-- What is under a key after an object without its nulls was laid over any value. -/
theorem field?_deepMerge_stripNulls {fields : Object} (distinct : (Object.keys fields).Nodup)
    (base : Value) (key : String) :
    (base.deepMerge (stripNulls (.object fields))).field? key =
      match (Object.find? fields key).filter (!·.isNull) with
      | none => base.field? key
      | some added => some (((base.field? key).getD .null).deepMerge (stripNulls added)) := by
  rw [stripNulls, field?_deepMerge (nodup_keys_stripNullFields distinct),
    find?_stripNullFields distinct]
  cases (Object.find? fields key).filter (!·.isNull) <;> rfl

/-- A leaf that is not null stays when the nulls go. -/
theorem at?_stripNulls {path : Path} {leaf : Value} (isLeaf : leaf.isObject = false)
    (isPresent : leaf.isNull = false) (overlay : Value) (wellKeyed : overlay.WellKeyed)
    (isAt : overlay.at? path = some leaf) : (stripNulls overlay).at? path = some leaf := by
  induction path generalizing overlay with
  | nil =>
      cases isAt
      cases leaf with
      | object fields => cases isLeaf
      | _ => rfl
  | cons key rest inductionHypothesis =>
      cases overlay with
      | object fields =>
          obtain ⟨distinct, wellKeyedFields⟩ := wellKeyed
          obtain ⟨held, found, inside⟩ := Option.bind_eq_some_iff.mp isAt
          have isHeld : Object.find? fields key = some held := found
          have isHeldPresent : held.isNull = false := by
            cases held with
            | null =>
                cases rest with
                | nil =>
                    cases inside
                    exact isPresent
                | cons next below => cases inside
            | _ => rfl
          have wellKeyedHeld := Object.wellKeyedFields_iff.mp wellKeyedFields _
            (Object.mem_of_find? isHeld)
          show (Object.find? (stripNullFields fields) key).bind _ = _
          rw [find?_stripNullFields distinct, isHeld]
          simp only [Option.filter, isHeldPresent, Bool.not_false, ↓reduceIte, Option.map_some,
            Option.bind_some]
          exact inductionHypothesis held wellKeyedHeld inside
      | _ => cases isAt

/-- A leaf of the overlay that is not null ends up at its path, whatever stood there. -/
theorem at?_deepMerge_of_leaf {path : Path} {leaf : Value} (isLeaf : leaf.isObject = false)
    (isPresent : leaf.isNull = false) (base overlay : Value) (wellKeyed : overlay.WellKeyed)
    (isAt : overlay.at? path = some leaf) :
    (base.deepMerge (stripNulls overlay)).at? path = some leaf :=
  at?_deepMerge isLeaf base _ (wellKeyed_stripNulls overlay wellKeyed)
    (at?_stripNulls isLeaf isPresent overlay wellKeyed isAt)

/-- At a path that the overlay spares, everything is as it was. -/
theorem at?_deepMerge_of_spares {path : Path} (base overlay : Value)
    (wellKeyed : overlay.WellKeyed) (spares : overlay.Spares path) :
    (base.deepMerge (stripNulls overlay)).at? path = base.at? path := by
  induction path generalizing base overlay with
  | nil =>
      obtain ⟨above, key, below, isPath, _⟩ := spares
      simp at isPath
  | cons key rest inductionHypothesis =>
      obtain ⟨fields, rfl, isNothing⟩ := spares_cons spares
      obtain ⟨distinct, wellKeyedFields⟩ := wellKeyed
      rw [at?_cons, field?_deepMerge_stripNulls distinct, at?_cons]
      rcases isNothing with absent | isNull | ⟨inner, next, below, isInner, isRest, sparesRest⟩
      · rw [absent]
        rfl
      · rw [isNull]
        rfl
      · have wellKeyedInner := Object.wellKeyedFields_iff.mp wellKeyedFields _
          (Object.mem_of_find? isInner)
        rw [isInner]
        show ((base.field? key).getD .null |>.deepMerge (stripNulls (.object inner))).at? rest = _
        rw [inductionHypothesis _ _ wellKeyedInner sparesRest]
        cases base.field? key with
        | some held => rfl
        | none =>
            -- nothing is below the null that stands in for the missing value
            rw [isRest]
            rfl

end Json.Value

/-! ### The record of an update -/

namespace Collection

/-- The part of a payload's record that an update may write: the protected keys and the reference
field are left out. -/
def writable (collection : Collection) (record : Object) : Object :=
  record.filter fun field =>
    decide (field.1 ∉ protectedKeys ∧ field.1 ≠ collection.referenceField)

variable {collection : Collection} {record : Object}

/-- An update drops what it may not write by moving fields around; the lookup is that of the
writable part. -/
theorem find?_unidentified (distinct : (Object.keys record).Nodup) (key : String) :
    Object.find? ((stripProtected record).swapErase collection.referenceField) key =
      Object.find? (collection.writable record) key := by
  have distinctWritable : (Object.keys (collection.writable record)).Nodup :=
    distinct.sublist (List.filter_sublist.map Prod.fst)
  apply Option.ext
  intro value
  rw [Object.find?_swapErase (nodup_keys_stripProtected distinct), find?_stripProtected distinct,
    Object.find?_eq_some_iff distinctWritable, writable, List.mem_filter,
    ← Object.find?_eq_some_iff distinct]
  by_cases isReference : key = collection.referenceField
  · simp [isReference]
  · by_cases isProtected : key ∈ protectedKeys <;> simp [isReference, isProtected]

theorem find?_writable_of_identity {kept : String}
    (isKept : kept ∈ collection.referenceField :: protectedKeys) :
    Object.find? (collection.writable record) kept = none := by
  rw [Object.find?_eq_none_iff]
  intro isThere
  obtain ⟨field, member, rfl⟩ := List.mem_map.mp isThere
  obtain ⟨isWritable, differs⟩ := of_decide_eq_true (List.mem_filter.mp member).2
  rcases List.mem_cons.mp isKept with isReference | isProtected
  · exact differs isReference
  · exact isWritable isProtected

end Collection

/-- What an update hands to the source: at the leaves of the payload their values, and at every
path that the payload spares what the stored record has there.  The payload never reaches the
reference field and the protected keys. -/
theorem Runtime.update_lays_payload {State : Type} {runtime : Runtime State} {name key : String}
    {collection : Collection} {payload stored : Value} {record : Object}
    (known : runtime.graph.collection name = .ok collection)
    (wellKeyed : payload.WellKeyed)
    (described : collection.payloadRecord payload = .ok record)
    (named : collection.recordKey? record = some key)
    (found : (runtime.graph.nodes name).find? (collection.hasKey key) = some stored) :
    ∃ put, (∀ source, runtime.update source name payload =
        runtime.storeRecord source collection put (collection.replaceKey key)) ∧
      (∀ path leaf, (Value.object (collection.writable record)).at? path = some leaf ->
        leaf.isNull = false -> leaf.isObject = false -> put.at? path = some leaf) ∧
      (∀ path, (Value.object (collection.writable record)).Spares path ->
        put.at? path = stored.at? path) ∧
      ∀ kept ∈ collection.referenceField :: protectedKeys, ∀ path,
        put.at? (kept :: path) = stored.at? (kept :: path) := by
  have distinct := Collection.nodup_keys_of_payloadRecord described
  have sameLookup : ∀ key, Object.find? (collection.writable record) key =
      Object.find? ((stripProtected record).swapErase collection.referenceField) key :=
    fun key => (Collection.find?_unidentified distinct key).symm
  have wellKeyedOverlay :
      (Value.object ((stripProtected record).swapErase collection.referenceField)).WellKeyed :=
    Collection.wellKeyed_unidentified distinct
      (Collection.wellKeyedFields_of_payloadRecord described wellKeyed)
  have keeps : ∀ path, (Value.object (collection.writable record)).Spares path ->
      (stored.deepMerge (.object (collection.changes record))).at? path = stored.at? path := by
    intro path spares
    exact Value.at?_deepMerge_of_spares stored _ wellKeyedOverlay
      (Value.spares_of_find?_eq sameLookup spares)
  refine ⟨stored.deepMerge (.object (collection.changes record)), ?_, ?_, keeps, ?_⟩
  · intro source
    have made : collection.updatedRecord (runtime.graph.nodes name) payload =
        .ok (key, stored.deepMerge (.object (collection.changes record))) := by
      simp [Collection.updatedRecord, described, named, found, bind, Except.bind]
    rw [Runtime.update, known]
    dsimp only
    rw [made]
  · intro path leaf isAt isPresent isLeaf
    cases path with
    | nil =>
        cases isAt
        cases isLeaf
    | cons first rest =>
        rw [Value.at?_of_find?_eq sameLookup] at isAt
        exact Value.at?_deepMerge_of_leaf isLeaf isPresent stored _ wellKeyedOverlay isAt
  · intro kept isKept path
    apply keeps
    have absent : Object.find? (collection.writable record) kept = none :=
      Collection.find?_writable_of_identity isKept
    exact ⟨[], kept, path, rfl, ⟨_, rfl⟩, .inl ((Value.at?_singleton _ _).trans absent)⟩

/-- A post with an object inside, and with a text where `samplePartialPost` has an object. -/
def sampleNestedPost : Value :=
  .object [("id", .string "a"), ("_slug", .string "old"), ("word_count", .ofInt 3),
    ("meta", .string "none"),
    ("seo", .object [("title", .string "T"), ("tags", .array [.string "x"])])]

/-- A payload with nulls at several depths, and with a protected key. -/
def samplePartialPost : Value :=
  .object [("id", .string "a"), ("_slug", .string "new"), ("wordCount", .ofInt 4),
    ("meta", .object [("lang", .object [("code", .null), ("names", .array [.null])])]),
    ("seo", .object [("title", .null), ("tags", .array [])])]

theorem Runtime.update_lays_payload_samplePartialPost :
    ∃ record put, samplePosts.payloadRecord samplePartialPost = .ok record ∧
      samplePosts.recordKey? record = some "a" ∧ samplePartialPost.WellKeyed ∧
      (∀ source : Content.Source Content.MemoryStore,
        (sampleRuntime [sampleNestedPost]).update source "Post" samplePartialPost =
          (sampleRuntime [sampleNestedPost]).storeRecord source samplePosts put
            (samplePosts.replaceKey "a")) ∧
      put.at? ["word_count"] = some (.ofInt 4) ∧ put.at? ["seo", "tags"] = some (.array []) ∧
      put.at? ["meta", "lang", "names"] = some (.array [.null]) ∧
      put.at? ["meta", "lang", "code"] = none ∧ put.at? ["seo", "title"] = some (.string "T") ∧
      put.at? ["_slug"] = some (.string "old") := by
  have wellKeyed : samplePartialPost.WellKeyed := by
    simp [samplePartialPost, Value.WellKeyed, Value.WellKeyedFields, Value.WellKeyedItems,
      Value.ofInt]
  have known : (sampleRuntime [sampleNestedPost]).graph.collection "Post" = .ok samplePosts := rfl
  have found : ((sampleRuntime [sampleNestedPost]).graph.nodes "Post").find?
      (samplePosts.hasKey "a") = some sampleNestedPost := by
    decide
  obtain ⟨put, isPut, takes, keeps, identity⟩ :=
    update_lays_payload known wellKeyed rfl (by decide) found
  refine ⟨_, put, rfl, by decide, wellKeyed, isPut, ?_, ?_, ?_, ?_, ?_, ?_⟩
  · exact takes ["word_count"] _ rfl rfl rfl
  · exact takes ["seo", "tags"] _ rfl rfl rfl
  · exact takes ["meta", "lang", "names"] _ rfl rfl rfl
  · exact keeps ["meta", "lang", "code"]
      ⟨["meta", "lang"], "code", [], rfl, ⟨_, rfl⟩, .inr rfl⟩
  · exact keeps ["seo", "title"] ⟨["seo"], "title", [], rfl, ⟨_, rfl⟩, .inr rfl⟩
  · exact identity "_slug" (by decide) []

end ContentGraph
