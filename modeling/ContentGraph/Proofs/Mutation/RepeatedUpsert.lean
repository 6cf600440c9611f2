import ContentGraph.Proofs.Mutation.Schedule
import ContentGraph.Proofs.Mutation.UpsertTurn

/-!
Contract: an upsert whose payload is given once more.

Owns:
- `Turn.Hands.settles`, a record that a turn has stored is found by its payload, and an update of
  the same payload changes nothing of it;
- `Runtime.upsert_upsert`: over a source in memory the second upsert succeeds with the same record
  and changes nothing but the log, whichever turn the first one ended in.
-/

namespace ContentGraph

open ContentGraph.Json

/-! ### Nodes that stay -/

theorem Store.setNodes_nodes {store : Store} {name : String} (held : store.nodes name ≠ []) :
    store.setNodes name (store.nodes name) = store := by
  induction store with
  | nil => exact absurd rfl held
  | cons group rest inductionHypothesis =>
      obtain ⟨other, nodes⟩ := group
      rw [Store.nodes] at held ⊢
      rw [Store.setNodes]
      by_cases same : other = name
      · rw [if_pos same, if_pos same]
      · rw [if_neg same] at held ⊢
        rw [if_neg same, inductionHypothesis held]

namespace Collection

variable {collection : Collection} {nodes : List Value} {key freshId : String} {payload : Value}
  {fields record : Object}

theorem replaceKey_of_find? {node : Value}
    (found : nodes.find? (collection.hasKey key) = some node) :
    collection.replaceKey key node nodes = nodes := by
  induction nodes with
  | nil => cases found
  | cons first rest inductionHypothesis =>
      rw [replaceKey]
      by_cases isFirst : collection.hasKey key first = true
      · rw [List.find?_cons_of_pos isFirst] at found
        cases found
        rw [if_pos isFirst]
      · rw [List.find?_cons_of_neg isFirst] at found
        rw [if_neg isFirst, inductionHypothesis found]

/-- A create of a payload with a reference value makes no id up: the new record is the payload's
without the protected keys, and no node has its reference value. -/
theorem newRecord_of_identified (described : collection.payloadRecord payload = .ok fields)
    (named : collection.recordKey? fields = some key)
    (made : collection.newRecord nodes freshId payload = .ok record) :
    record = stripProtected fields ∧ collection.recordKey? record = some key ∧
      nodes.any (collection.hasKey key) = false := by
  obtain ⟨others, isRecord, identified, _⟩ := newRecord_ok made
  cases described.symm.trans isRecord
  have distinct := nodup_keys_of_payloadRecord described
  have stripped : collection.recordKey? (stripProtected fields) =
      if collection.referenceField ∈ protectedKeys then none else collection.recordKey? fields :=
    recordKey?_stripProtected distinct
  rcases identify_ok identified with ⟨other, namedNew, rfl, free⟩ | ⟨unnamed, isId, _⟩
  · by_cases isProtected : collection.referenceField ∈ protectedKeys
    · rw [if_pos isProtected, namedNew] at stripped
      cases stripped
    · rw [if_neg isProtected, namedNew, named] at stripped
      cases stripped
      exact ⟨rfl, namedNew, free⟩
  · -- The reference field is `id`, which payloads set.
    have notProtected : collection.referenceField ∉ protectedKeys := by
      rw [isId]
      decide
    rw [if_neg notProtected, unnamed, named] at stripped
    cases stripped

end Collection

namespace Turn

variable {State : Type} {source : Content.Source State} {runtime : Runtime State} {turn : Turn}
  {name key other : String} {payload record : Value} {collection : Collection} {fields : Object}

/-- A record that a turn has stored is the first one of its payload's reference value, and laying
the changes of the payload over it changes nothing. -/
theorem Hands.settles (hands : Hands runtime name payload turn collection other record)
    (wellKeyed : payload.WellKeyed) (described : collection.payloadRecord payload = .ok fields)
    (named : collection.recordKey? fields = some key) :
    (turn.place collection other record (runtime.graph.nodes name)).find?
        (collection.hasKey key) = some record ∧
      record.deepMerge (.object (collection.changes fields)) = record := by
  have distinct := Collection.nodup_keys_of_payloadRecord described
  have wellKeyedFields := Collection.wellKeyedFields_of_payloadRecord described wellKeyed
  have keyOf := hands.keyOf?_record
  have isHeld := fun isUpdate : turn = .update => (isUpdate ▸ hands).held
  cases hands with
  | create known made namedNew =>
      obtain ⟨rfl, namedSame, free⟩ := Collection.newRecord_of_identified described named made
      cases namedSame.symm.trans namedNew
      constructor
      · have found := Collection.find?_append_free keyOf free key
        rw [if_pos rfl] at found
        exact found
      · exact Collection.deepMerge_changes_of_new distinct wellKeyedFields
  | update known made =>
      obtain ⟨others, node, isRecord, namedOther, _, rfl⟩ := Collection.updatedRecord_ok made
      cases described.symm.trans isRecord
      cases named.symm.trans namedOther
      constructor
      · have found := Collection.find?_replaceKey keyOf (isHeld rfl) key
        rw [if_pos rfl] at found
        exact found
      · exact Value.deepMerge_deepMerge _ (Collection.wellKeyed_changes distinct wellKeyedFields) _

/-- An update that changes nothing of the node it finds hands that node to the source and leaves
the nodes as they are. -/
theorem update_of_settled {state : State}
    (known : runtime.graph.collection name = .ok collection)
    (described : collection.payloadRecord payload = .ok fields)
    (named : collection.recordKey? fields = some key)
    (found : (runtime.graph.nodes name).find? (collection.hasKey key) = some record)
    (unchanged : record.deepMerge (.object (collection.changes fields)) = record)
    (put : source.put runtime.state collection.entry record = (.ok record, state)) :
    Turn.update.take source runtime name payload = (.ok record, { runtime with state }) := by
  have made : collection.updatedRecord (runtime.graph.nodes name) payload = .ok (key, record) :=
    unchanged ▸ Collection.updatedRecord_of_found described named found
  have hands : Hands runtime name payload .update collection key record := .update known made
  have someNode : runtime.graph.store.nodes name ≠ [] := by
    intro empty
    rw [Graph.nodes, empty] at found
    cases found
  have sameNodes : runtime.graph.store.setNodes name
      (collection.replaceKey key record (runtime.graph.nodes name)) = runtime.graph.store := by
    rw [Collection.replaceKey_of_find? found]
    exact Store.setNodes_nodes someNode
  rw [hands.take_of_stored put, accept, place, Runtime.setNodes]
  simp only [ready, sameNodes]

end Turn

namespace Runtime

variable {State : Type} {source : Content.Source State} {name : String} {payload record : Value}

/-- An upsert that succeeds over a source which stores what it is given ends in one of its two
turns, taken at the runtime as it was. -/
theorem upsert_ok {runtime after : Runtime State} (echoes : source.Echoes)
    (upserted : runtime.upsert source name payload = (.ok record, after)) :
    ∃ (turn : Turn) (collection : Collection) (key : String) (state : State),
      Turn.Hands runtime name payload turn collection key record ∧
        after = turn.accept runtime name collection key record state := by
  have take_ok : ∀ turn : Turn, turn.take source runtime name payload = (.ok record, after) ->
      ∃ (turn : Turn) (collection : Collection) (key : String) (state : State),
        Turn.Hands runtime name payload turn collection key record ∧
          after = turn.accept runtime name collection key record state := by
    intro turn taken
    have outcome := Turn.take_outcome source turn runtime name payload
    rw [taken] at outcome
    cases outcome with
    | @stored collection key handed _ state hands put =>
        have isSame : (source.put runtime.state collection.entry handed).1 = .ok handed :=
          echoes _ _ _
        rw [put] at isSame
        cases isSame
        exact ⟨turn, collection, key, state, hands, rfl⟩
  rw [upsert_eq_turns] at upserted
  cases isUpdate : Turn.update.take source runtime name payload with
  | mk outcome between =>
      rw [isUpdate] at upserted
      cases outcome with
      | ok stored => exact take_ok .update (isUpdate.trans upserted)
      | error failure =>
          have unchanged : between = runtime := by
            have outcome := Turn.take_outcome source .update runtime name payload
            rw [isUpdate] at outcome
            cases outcome with
            | refused => rfl
            | @failed collection key handed _ state hands put =>
                have isStored : (source.put runtime.state collection.entry handed).1 = .ok handed :=
                  echoes _ _ _
                rw [put] at isStored
                cases isStored
          dsimp only at upserted
          split at upserted
          · rw [unchanged] at upserted
            exact take_ok .create upserted
          · cases upserted

/-- A payload with a reference value that was upserted can be upserted again: the second upsert
succeeds with the same record, logs it once more, and changes nothing else. -/
theorem upsert_upsert {runtime after : Runtime Content.MemoryStore} {collection : Collection}
    {key : String} (known : runtime.graph.collection name = .ok collection)
    (identified : collection.updateKey? payload = some key) (wellKeyed : payload.WellKeyed)
    (upserted : runtime.upsert Content.MemoryStore.source name payload = (.ok record, after)) :
    after.upsert Content.MemoryStore.source name payload =
      (.ok record,
        { after with
          state := { after.state with writes := after.state.writes ++ [(name, record)] } }) := by
  obtain ⟨turn, other, otherKey, state, hands, rfl⟩ :=
    upsert_ok Content.MemoryStore.source_echoes upserted
  cases known.symm.trans hands.known
  obtain ⟨fields, described, named⟩ : ∃ fields, collection.payloadRecord payload = .ok fields ∧
      collection.recordKey? fields = some key := by
    unfold Collection.updateKey? at identified
    split at identified
    · cases identified
    · next fields described => exact ⟨fields, described, identified⟩
  obtain ⟨found, unchanged⟩ := hands.settles wellKeyed described named
  have knownAfter : (turn.accept runtime name collection otherKey record state).graph.collection
      name = .ok collection := by
    rw [Turn.collection_accept, known]
  have foundAfter : ((turn.accept runtime name collection otherKey record state).graph.nodes
      name).find? (collection.hasKey key) = some record := by
    rw [Turn.nodes_accept, if_pos rfl, found]
  have isName : collection.entry.name = name := Graph.name_of_collection known
  rw [upsert_eq_turns, Turn.update_of_settled knownAfter described named foundAfter unchanged rfl,
    isName]

/-- A post with nulls and with metadata of its own. -/
def sampleDraft : Value :=
  .object [("id", .string "a"), ("title", .string "New"), ("wordCount", .null),
    ("notes", .object [("first", .null), ("second", .string "x")]), ("_slug", .string "own")]

/-- The first upsert creates the post, nulls and all, or lays it over the one that is there. -/
theorem upsert_upsert_sampleDraft :
    (∃ after, (sampleRuntime []).upsert Content.MemoryStore.source "Post" sampleDraft =
        (.ok (.object [("id", .string "a"), ("title", .string "New"), ("word_count", .null),
          ("notes", .object [("first", .null), ("second", .string "x")])]), after) ∧
      after.upsert Content.MemoryStore.source "Post" sampleDraft =
        (.ok (.object [("id", .string "a"), ("title", .string "New"), ("word_count", .null),
            ("notes", .object [("first", .null), ("second", .string "x")])]),
          { after with
            state := { after.state with
              writes := after.state.writes ++ [("Post", .object [("id", .string "a"),
                ("title", .string "New"), ("word_count", .null),
                ("notes", .object [("first", .null), ("second", .string "x")])])] } })) ∧
    ∃ after, (sampleRuntime [samplePost "a" "Old"]).upsert Content.MemoryStore.source "Post"
        sampleDraft =
        (.ok (.object [("id", .string "a"), ("title", .string "New"), ("word_count", .ofInt 3),
          ("notes", .object [("second", .string "x")])]), after) ∧
      after.upsert Content.MemoryStore.source "Post" sampleDraft =
        (.ok (.object [("id", .string "a"), ("title", .string "New"), ("word_count", .ofInt 3),
            ("notes", .object [("second", .string "x")])]),
          { after with
            state := { after.state with
              writes := after.state.writes ++ [("Post", .object [("id", .string "a"),
                ("title", .string "New"), ("word_count", .ofInt 3),
                ("notes", .object [("second", .string "x")])])] } }) := by
  have identified : samplePosts.updateKey? sampleDraft = some "a" := by decide
  have wellKeyed : sampleDraft.WellKeyed := by
    simp [sampleDraft, Value.WellKeyed, Value.WellKeyedFields]
  refine ⟨⟨_, rfl, ?created⟩, ⟨_, rfl, ?updated⟩⟩
  case created => exact @upsert_upsert _ _ _ (sampleRuntime []) _ _ _ rfl identified wellKeyed rfl
  case updated =>
    exact @upsert_upsert _ _ _ (sampleRuntime [samplePost "a" "Old"]) _ _ _ rfl identified wellKeyed
      rfl

end Runtime

end ContentGraph
