import ContentGraph.Proofs.Json.MergeOrder
import ContentGraph.Proofs.Mutation.UpdatePaths

/-!
Contract: two updates of one record, in either order.

Owns:
- an update in memory of a record that is there, and two of them in turn;
- `Runtime.update_update_comm`: updates that keep clear of each other's values can be taken in
  either order, and neither loses what the other wrote.

Does not own: updates of different records, and mutations that add records.
-/

namespace ContentGraph

open ContentGraph.Json

namespace Collection

variable {collection : Collection} {nodes : List Value} {key : String} {record other : Value}

/-- A record that took the place of the first one with its reference value can be replaced
itself. -/
theorem replaceKey_replaceKey (named : collection.keyOf? record = some key) :
    collection.replaceKey key other (collection.replaceKey key record nodes) =
      collection.replaceKey key other nodes := by
  induction nodes with
  | nil => rfl
  | cons node rest inductionHypothesis =>
      by_cases isFirst : collection.hasKey key node = true
      · rw [replaceKey, if_pos isFirst, replaceKey, if_pos (hasKey_iff.mpr named), replaceKey,
          if_pos isFirst]
      · rw [replaceKey, if_neg isFirst, replaceKey, if_neg isFirst, inductionHypothesis, replaceKey,
          if_neg isFirst]

theorem forall₂_reordered_replaceKey (reordered : Value.Reordered record other) :
    List.Forall₂ Value.Reordered (collection.replaceKey key record nodes)
      (collection.replaceKey key other nodes) := by
  induction nodes with
  | nil => exact .nil
  | cons node rest inductionHypothesis =>
      rw [replaceKey, replaceKey]
      split
      · exact .cons reordered (List.forall₂_same.mpr fun node _ => .same node)
      · exact .cons (.same node) inductionHypothesis

end Collection

namespace Runtime

variable {runtime : Runtime Content.MemoryStore} {name key : String} {collection : Collection}
  {payload first second stored : Value} {record one two : Object}

/-! ### One update -/

/-- A runtime came from another one by putting a record in the place of the first node with its
reference value. -/
structure Puts (before after : Runtime Content.MemoryStore) (collection : Collection)
    (name key : String) (record : Value) : Prop where
  known : after.graph.collection name = .ok collection
  nodes (other : String) : after.graph.nodes other =
    if other = name then collection.replaceKey key record (before.graph.nodes name)
    else before.graph.nodes other
  found : (after.graph.nodes name).find? (collection.hasKey key) = some record

theorem Puts.trans {between after : Runtime Content.MemoryStore} {stored record : Value}
    (first : Puts runtime between collection name key stored)
    (second : Puts between after collection name key record) :
    Puts runtime after collection name key record where
  known := second.known
  nodes other := by
    have named : collection.keyOf? stored = some key :=
      Collection.hasKey_iff.mp (List.find?_some first.found)
    rw [second.nodes, first.nodes, first.nodes, if_pos rfl, Collection.replaceKey_replaceKey named]
    by_cases isName : other = name
    · rw [if_pos isName, if_pos isName]
    · rw [if_neg isName, if_neg isName, if_neg isName]
  found := second.found

/-- An update of a record that is there puts the record, with the changes of the payload laid over
it, in its place. -/
theorem update_of_found (known : runtime.graph.collection name = .ok collection)
    (described : collection.payloadRecord payload = .ok record)
    (named : collection.recordKey? record = some key)
    (found : (runtime.graph.nodes name).find? (collection.hasKey key) = some stored) :
    ∃ after, runtime.update Content.MemoryStore.source name payload =
        (.ok (stored.deepMerge (.object (collection.changes record))), after) ∧
      Puts runtime after collection name key
        (stored.deepMerge (.object (collection.changes record))) := by
  have hands : Turn.Hands runtime name payload .update collection key _ :=
    .update known (Collection.updatedRecord_of_found described named found)
  refine ⟨_, hands.take_of_stored rfl, ?_, Turn.nodes_accept _ _, ?_⟩
  · rw [Turn.collection_accept, known]
  · rw [Turn.nodes_accept, if_pos rfl, hands.find?_place rfl hands.keyOf?_record, if_pos rfl]

/-! ### Two updates -/

/-- Two updates of one collection, one after the other, both of them successful.  The second one
answers with the record. -/
def UpdatesInTurn (runtime : Runtime Content.MemoryStore) (name : String)
    (first second record : Value) (after : Runtime Content.MemoryStore) : Prop :=
  ∃ stored between,
    runtime.update Content.MemoryStore.source name first = (.ok stored, between) ∧
      between.update Content.MemoryStore.source name second = (.ok record, after)

/-- Two updates of one record put the record, with the changes of both payloads laid over it, in
its place. -/
theorem updatesInTurn_of_found (known : runtime.graph.collection name = .ok collection)
    (isFirst : collection.payloadRecord first = .ok one)
    (isSecond : collection.payloadRecord second = .ok two)
    (namedFirst : collection.recordKey? one = some key)
    (namedSecond : collection.recordKey? two = some key)
    (found : (runtime.graph.nodes name).find? (collection.hasKey key) = some stored) :
    ∃ after, runtime.UpdatesInTurn name first second
        ((stored.deepMerge (.object (collection.changes one))).deepMerge
          (.object (collection.changes two))) after ∧
      Puts runtime after collection name key
        ((stored.deepMerge (.object (collection.changes one))).deepMerge
          (.object (collection.changes two))) := by
  obtain ⟨between, updated, puts⟩ := update_of_found known isFirst namedFirst found
  obtain ⟨after, updatedAgain, putsAgain⟩ :=
    update_of_found puts.known isSecond namedSecond puts.found
  exact ⟨after, ⟨_, between, updated, updatedAgain⟩, puts.trans putsAgain⟩

/-- Two updates of one record whose changes keep clear of each other succeed in either order.
Both orders leave the same nodes, up to the order of fields, and the record that they leave has
every leaf of either payload at its path. -/
theorem update_update_comm (known : runtime.graph.collection name = .ok collection)
    (wellKeyed : stored.WellKeyed) (wellKeyedFirst : first.WellKeyed)
    (wellKeyedSecond : second.WellKeyed)
    (isFirst : collection.payloadRecord first = .ok one)
    (isSecond : collection.payloadRecord second = .ok two)
    (namedFirst : collection.recordKey? one = some key)
    (namedSecond : collection.recordKey? two = some key)
    (found : (runtime.graph.nodes name).find? (collection.hasKey key) = some stored)
    (independent : Value.Independent (.object (collection.changes one))
      (.object (collection.changes two))) :
    ∃ record after other afterOther,
      runtime.UpdatesInTurn name first second record after ∧
      runtime.UpdatesInTurn name second first other afterOther ∧
      (∀ collectionName, List.Forall₂ Value.Reordered (after.graph.nodes collectionName)
        (afterOther.graph.nodes collectionName)) ∧
      (after.graph.nodes name).find? (collection.hasKey key) = some record ∧
      (afterOther.graph.nodes name).find? (collection.hasKey key) = some other ∧
      ∀ path leaf, leaf.isObject = false ->
        ((Value.object (collection.changes one)).at? path = some leaf ∨
          (Value.object (collection.changes two)).at? path = some leaf) ->
        record.at? path = some leaf ∧ other.at? path = some leaf := by
  have wellKeyedOne : (Value.object (collection.changes one)).WellKeyed :=
    Collection.wellKeyed_changes (Collection.nodup_keys_of_payloadRecord isFirst)
      (Collection.wellKeyedFields_of_payloadRecord isFirst wellKeyedFirst)
  have wellKeyedTwo : (Value.object (collection.changes two)).WellKeyed :=
    Collection.wellKeyed_changes (Collection.nodup_keys_of_payloadRecord isSecond)
      (Collection.wellKeyedFields_of_payloadRecord isSecond wellKeyedSecond)
  obtain ⟨after, inTurn, puts⟩ :=
    updatesInTurn_of_found known isFirst isSecond namedFirst namedSecond found
  obtain ⟨afterOther, inOtherTurn, putsOther⟩ :=
    updatesInTurn_of_found known isSecond isFirst namedSecond namedFirst found
  have reordered := Value.deepMerge_right_comm wellKeyed wellKeyedOne wellKeyedTwo rfl rfl
    independent
  have reorderedBack := Value.deepMerge_right_comm wellKeyed wellKeyedTwo wellKeyedOne rfl rfl
    independent.symm
  refine ⟨_, after, _, afterOther, inTurn, inOtherTurn, ?_, puts.found, putsOther.found, ?_⟩
  · intro collectionName
    rw [puts.nodes, putsOther.nodes]
    split
    · exact Collection.forall₂_reordered_replaceKey reordered
    · exact List.forall₂_same.mpr fun node _ => .same node
  · -- The payload that was laid last has its leaves in place, and the two orders agree on leaves.
    rintro path leaf isLeaf (isAt | isAt)
    · have isLast := Value.at?_deepMerge isLeaf
        (stored.deepMerge (.object (collection.changes two))) _ wellKeyedOne isAt
      exact ⟨reorderedBack.at?_of_leaf isLeaf isLast, isLast⟩
    · have isLast := Value.at?_deepMerge isLeaf
        (stored.deepMerge (.object (collection.changes one))) _ wellKeyedTwo isAt
      exact ⟨isLast, reordered.at?_of_leaf isLeaf isLast⟩

/-- A payload for `sampleNestedPost` with one field inside an object, and an object where the
post has a text. -/
def sampleTitlePost : Value :=
  .object [("id", .string "a"), ("wordCount", .ofInt 4),
    ("meta", .object [("lang", .string "en")]), ("seo", .object [("title", .string "U")])]

/-- A payload with other fields of the same objects. -/
def sampleTagsPost : Value :=
  .object [("id", .string "a"), ("title", .null),
    ("meta", .object [("code", .string "c")]), ("seo", .object [("tags", .array [])])]

/-- What an update lays over the post of `sampleTitlePost`. -/
def sampleTitleChanges : Object :=
  [("seo", .object [("title", .string "U")]), ("word_count", .ofInt 4),
    ("meta", .object [("lang", .string "en")])]

/-- What an update lays over the post of `sampleTagsPost`. -/
def sampleTagsChanges : Object :=
  [("seo", .object [("tags", .array [])]), ("meta", .object [("code", .string "c")])]

private theorem independent_sampleTitleChanges :
    Value.Independent (.object sampleTitleChanges) (.object sampleTagsChanges) := by
  have inSeo : Value.Independent (.object [("title", .string "U")])
      (.object [("tags", .array [])]) := Value.independent_of_shared (by simp)
  have inMeta : Value.Independent (.object [("lang", .string "en")])
      (.object [("code", .string "c")]) := Value.independent_of_shared (by simp)
  apply Value.independent_of_shared
  simp [sampleTitleChanges, sampleTagsChanges, inSeo, inMeta, Value.isObject]

theorem update_update_comm_sampleTitlePost :
    ∃ one two record after other afterOther,
      samplePosts.payloadRecord sampleTitlePost = .ok one ∧
      samplePosts.payloadRecord sampleTagsPost = .ok two ∧
      samplePosts.recordKey? one = some "a" ∧ samplePosts.recordKey? two = some "a" ∧
      sampleNestedPost.WellKeyed ∧ sampleTitlePost.WellKeyed ∧ sampleTagsPost.WellKeyed ∧
      Value.Independent (.object (samplePosts.changes one)) (.object (samplePosts.changes two)) ∧
      (sampleRuntime [sampleNestedPost]).UpdatesInTurn "Post" sampleTitlePost sampleTagsPost
        record after ∧
      (sampleRuntime [sampleNestedPost]).UpdatesInTurn "Post" sampleTagsPost sampleTitlePost
        other afterOther ∧
      List.Forall₂ Value.Reordered (after.graph.nodes "Post") (afterOther.graph.nodes "Post") ∧
      record.at? ["meta", "lang"] = some (.string "en") ∧
      other.at? ["meta", "code"] = some (.string "c") ∧
      record.at? ["seo", "title"] = some (.string "U") ∧
      other.at? ["seo", "tags"] = some (.array []) := by
  have wellKeyed : sampleNestedPost.WellKeyed ∧ sampleTitlePost.WellKeyed ∧
      sampleTagsPost.WellKeyed := by
    simp [sampleNestedPost, sampleTitlePost, sampleTagsPost, Value.WellKeyed,
      Value.WellKeyedFields, Value.WellKeyedItems, Value.ofInt]
  have known : (sampleRuntime [sampleNestedPost]).graph.collection "Post" = .ok samplePosts := rfl
  have found : ((sampleRuntime [sampleNestedPost]).graph.nodes "Post").find?
      (samplePosts.hasKey "a") = some sampleNestedPost := by
    decide
  obtain ⟨one, isOne, namedOne, changesOne⟩ : ∃ one,
      samplePosts.payloadRecord sampleTitlePost = .ok one ∧
        samplePosts.recordKey? one = some "a" ∧
        samplePosts.changes one = sampleTitleChanges := ⟨_, rfl, rfl, rfl⟩
  obtain ⟨two, isTwo, namedTwo, changesTwo⟩ : ∃ two,
      samplePosts.payloadRecord sampleTagsPost = .ok two ∧
        samplePosts.recordKey? two = some "a" ∧
        samplePosts.changes two = sampleTagsChanges := ⟨_, rfl, rfl, rfl⟩
  have independent : Value.Independent (.object (samplePosts.changes one))
      (.object (samplePosts.changes two)) := by
    rw [changesOne, changesTwo]
    exact independent_sampleTitleChanges
  obtain ⟨record, after, other, afterOther, inTurn, inOtherTurn, sameNodes, _, _, leaves⟩ :=
    update_update_comm known wellKeyed.1 wellKeyed.2.1 wellKeyed.2.2 isOne isTwo namedOne namedTwo
      found independent
  rw [changesOne, changesTwo] at leaves
  refine ⟨one, two, record, after, other, afterOther, isOne, isTwo, namedOne, namedTwo, wellKeyed.1,
    wellKeyed.2.1, wellKeyed.2.2, independent, inTurn, inOtherTurn, sameNodes "Post", ?_, ?_, ?_,
    ?_⟩
  · exact (leaves ["meta", "lang"] _ rfl (.inl rfl)).1
  · exact (leaves ["meta", "code"] _ rfl (.inr rfl)).2
  · exact (leaves ["seo", "title"] _ rfl (.inl rfl)).1
  · exact (leaves ["seo", "tags"] _ rfl (.inr rfl)).2

end Runtime

end ContentGraph
