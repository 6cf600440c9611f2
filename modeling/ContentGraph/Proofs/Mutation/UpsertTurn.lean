import ContentGraph.Proofs.Mutation.Turn
import Mathlib.Data.List.Find

/-!
Contract: the two turns of an upsert whose payload describes a whole record.

Owns:
- `Collection.describes`, payloads with a reference value and all that a new record needs;
- the record that an update and a create make of such a payload, or their failure;
- the answer of either turn over a source that stores what it is given, and the number of nodes
  with the reference value after it.

What a payload holds under a protected key is read by an update and dropped by a create, so that a
collection which needs such a key has no new records (`Collection.barrier?`).
-/

namespace ContentGraph

open ContentGraph.Json

/-- A source that stores every record and answers with the record it was given. -/
def Content.Source.Echoes {State : Type} (source : Content.Source State) : Prop :=
  ∀ (state : State) (entry : CollectionEntry) (record : Value),
    (source.put state entry record).1 = .ok record

theorem Content.MemoryStore.source_echoes : MemoryStore.source.Echoes := fun _ _ _ => rfl

namespace Collection

/-- Whether a payload has a reference value and every field that a new record needs. -/
def describes (collection : Collection) (key : String) (payload : Value) : Bool :=
  match collection.payloadRecord payload with
  | .error _ => false
  | .ok record =>
      decide (collection.recordKey? record = some key) &&
        collection.entry.requiredFields.all (isPresent record)

/-- The first field that every new record needs and no payload sets. -/
def barrier? (collection : Collection) : Option String :=
  (collection.referenceField :: collection.entry.requiredFields).find? fun field =>
    decide (field ∈ protectedKeys)

/-- The failure of a create with a reference value that some node has. -/
def taken (collection : Collection) (key : String) : Failure :=
  if collection.referenceField ∈ protectedKeys then
    .missingRequiredField collection.name collection.referenceField
  else .referenceAlreadyExists collection.name collection.referenceField key

variable {collection : Collection} {key : String} {payload : Value} {nodes : List Value}

/-! ### Described records -/

theorem record_of_describes (described : collection.describes key payload = true) :
    ∃ record, collection.payloadRecord payload = .ok record ∧
      collection.recordKey? record = some key ∧
      ∀ field ∈ collection.entry.requiredFields, isPresent record field = true := by
  unfold describes at described
  split at described
  · cases described
  · next record isRecord =>
      rw [Bool.and_eq_true, decide_eq_true_eq, List.all_eq_true] at described
      exact ⟨record, isRecord, described.1, described.2⟩

/-- A field is present in what a create takes of a record where it was present and payloads may
set it. -/
theorem isPresent_stripProtected {record : Object} (distinct : (Object.keys record).Nodup)
    (field : String) :
    isPresent (stripProtected record) field =
      (decide (field ∉ protectedKeys) && isPresent record field) := by
  rw [isPresent, find?_stripProtected distinct]
  by_cases isProtected : field ∈ protectedKeys
  · simp [isProtected]
  · simp [isProtected, isPresent]

theorem recordKey?_stripProtected {record : Object} (distinct : (Object.keys record).Nodup) :
    collection.recordKey? (stripProtected record) =
      if collection.referenceField ∈ protectedKeys then none else collection.recordKey? record := by
  rw [recordKey?, find?_stripProtected distinct]
  split <;> rfl

/-- An update lays a described record over the first node with its reference value. -/
theorem updatedRecord_of_held (described : collection.describes key payload = true)
    (held : nodes.any (collection.hasKey key) = true) :
    ∃ merged, collection.updatedRecord nodes payload = .ok (key, merged) := by
  obtain ⟨record, isRecord, named, _⟩ := record_of_describes described
  obtain ⟨node, isFirst⟩ := Option.isSome_iff_exists.mp
    (List.find?_isSome.mpr (List.any_eq_true.mp held))
  exact ⟨_, updatedRecord_of_found isRecord named isFirst⟩

theorem updatedRecord_of_free (described : collection.describes key payload = true)
    (free : nodes.any (collection.hasKey key) = false) :
    collection.updatedRecord nodes payload =
      .error (.notFound collection.name collection.referenceField key) := by
  obtain ⟨record, isRecord, named, _⟩ := record_of_describes described
  have absent : nodes.find? (collection.hasKey key) = none := by
    rw [List.find?_eq_none]
    exact List.any_eq_false.mp free
  simp [updatedRecord, isRecord, named, absent, bind, Except.bind]

/-- Where no payload sets the reference field, a create has no reference value.  It makes none up
either: that is done for the field `id` alone, which payloads set. -/
private theorem identify_of_protected {record : Object} (freshId : String)
    (distinct : (Object.keys record).Nodup)
    (isProtected : collection.referenceField ∈ protectedKeys) :
    collection.identify nodes freshId (stripProtected record) =
      .error (.missingRequiredField collection.name collection.referenceField) := by
  have notId : collection.referenceField ≠ "id" := by
    intro isId
    rw [isId] at isProtected
    exact absurd isProtected (by decide)
  simp [identify, recordKey?_stripProtected distinct, isProtected, notId]

/-- A create with a reference value that some node has fails. -/
theorem newRecord_of_held (described : collection.describes key payload = true)
    (held : nodes.any (collection.hasKey key) = true) (freshId : String) :
    collection.newRecord nodes freshId payload = .error (collection.taken key) := by
  obtain ⟨record, isRecord, named, _⟩ := record_of_describes described
  have distinct := nodup_keys_of_payloadRecord isRecord
  by_cases isProtected : collection.referenceField ∈ protectedKeys
  · simp [newRecord, isRecord, identify_of_protected freshId distinct isProtected, taken,
      isProtected, bind, Except.bind]
  · simp [newRecord, isRecord, identify, recordKey?_stripProtected distinct, named, held, taken,
      isProtected, bind, Except.bind]

/-- A create with a free reference value makes a record of that value, or fails for the first
field that it needs and no payload sets. -/
theorem newRecord_of_free (described : collection.describes key payload = true)
    (free : nodes.any (collection.hasKey key) = false) (freshId : String) :
    match collection.barrier? with
    | some field =>
        collection.newRecord nodes freshId payload =
          .error (.missingRequiredField collection.name field)
    | none =>
        ∃ record, collection.newRecord nodes freshId payload = .ok record ∧
          collection.recordKey? record = some key := by
  obtain ⟨record, isRecord, named, complete⟩ := record_of_describes described
  have distinct := nodup_keys_of_payloadRecord isRecord
  by_cases isProtected : collection.referenceField ∈ protectedKeys
  · have barred : collection.barrier? = some collection.referenceField := by
      simp [barrier?, isProtected]
    simp [barred, newRecord, isRecord, identify_of_protected freshId distinct isProtected, bind,
      Except.bind]
  · have identified : collection.identify nodes freshId (stripProtected record) =
        .ok (stripProtected record) := by
      simp [identify, recordKey?_stripProtected distinct, isProtected, named, free]
    -- Every required field was described, so that only a protected one is missing.
    have missing : (collection.entry.requiredFields.find? fun field =>
        !isPresent (stripProtected record) field) = collection.barrier? := by
      rw [barrier?, List.find?_cons_of_neg (by simpa using isProtected)]
      apply List.find?_congr
      intro field required
      simp [isPresent_stripProtected distinct, complete field required]
    have namedNew : collection.recordKey? (stripProtected record) = some key := by
      rw [recordKey?_stripProtected distinct, if_neg isProtected, named]
    cases barrier : collection.barrier? with
    | some field =>
        simp [newRecord, isRecord, identified, missing, barrier, bind, Except.bind]
    | none =>
        refine ⟨stripProtected record, ?_, namedNew⟩
        simp [newRecord, isRecord, identified, missing, barrier, bind, Except.bind]

/-- Where payloads set every field that a new record needs, a create finds a reference value
taken exactly as such. -/
theorem taken_of_open (isOpen : collection.barrier? = none) :
    collection.taken key =
      .referenceAlreadyExists collection.name collection.referenceField key := by
  have settable := List.find?_eq_none.mp isOpen collection.referenceField (by simp)
  rw [taken, if_neg (by simpa using settable)]

end Collection

/-! ### Turns -/

namespace Turn

variable {State : Type} {source : Content.Source State} {runtime : Runtime State}
  {turn : Turn} {name key : String} {payload : Value} {collection : Collection}

/-- The number of nodes with a reference value after a turn's record has its place. -/
theorem Hands.countP_accept {record : Value}
    (hands : Hands runtime name payload turn collection key record) (state : State) :
    ((turn.accept runtime name collection key record state).graph.nodes name).countP
        (collection.hasKey key) =
      (runtime.graph.nodes name).countP (collection.hasKey key) +
        (if turn = .create then 1 else 0) := by
  have count_keys (nodes : List Value) : nodes.countP (collection.hasKey key) =
      (nodes.map collection.keyOf?).count (some key) := by
    rw [List.count, List.countP_map]
    exact List.countP_congr fun node _ => by simp [Collection.hasKey]
  rw [nodes_accept, if_pos rfl, count_keys, count_keys,
    hands.map_keyOf?_place hands.keyOf?_record, List.count_append]
  cases turn <;> simp

/-- A turn that hands its record to a source which stores what it is given succeeds. -/
theorem Hands.take_of_echoes {record : Value} (echoes : source.Echoes)
    (hands : Hands runtime name payload turn collection key record) :
    ∃ after, turn.take source runtime name payload = (.ok record, after) ∧
      after.graph.collection name = .ok collection ∧
      (after.graph.nodes name).countP (collection.hasKey key) =
        (runtime.graph.nodes name).countP (collection.hasKey key) +
          (if turn = .create then 1 else 0) := by
  have put : source.put runtime.state collection.entry record =
      (.ok record, (source.put runtime.state collection.entry record).2) :=
    Prod.ext (echoes _ _ _) rfl
  exact ⟨_, hands.take_of_stored put, by simpa using hands.known, hands.countP_accept _⟩

/-- An update succeeds where some node has its reference value, and adds no node. -/
theorem update_of_held (echoes : source.Echoes)
    (known : runtime.graph.collection name = .ok collection)
    (described : collection.describes key payload = true)
    (held : (runtime.graph.nodes name).any (collection.hasKey key) = true) :
    ∃ stored after, Turn.update.take source runtime name payload = (.ok stored, after) ∧
      after.graph.collection name = .ok collection ∧
      (after.graph.nodes name).countP (collection.hasKey key) =
        (runtime.graph.nodes name).countP (collection.hasKey key) := by
  obtain ⟨merged, made⟩ := Collection.updatedRecord_of_held described held
  have hands : Hands runtime name payload .update collection key merged := .update known made
  obtain ⟨after, taken, knownAfter, count⟩ := hands.take_of_echoes echoes
  exact ⟨merged, after, taken, knownAfter, by simpa using count⟩

/-- An update finds nothing where no node has its reference value, and changes nothing. -/
theorem update_of_free (source : Content.Source State)
    (known : runtime.graph.collection name = .ok collection)
    (described : collection.describes key payload = true)
    (free : (runtime.graph.nodes name).any (collection.hasKey key) = false) :
    Turn.update.take source runtime name payload =
      (.error (.notFound collection.name collection.referenceField key), runtime) := by
  simp only [take, Runtime.update, known, Collection.updatedRecord_of_free described free]

/-- A create fails where some node has its reference value, and changes nothing. -/
theorem create_of_held (source : Content.Source State)
    (known : runtime.graph.collection name = .ok collection)
    (described : collection.describes key payload = true)
    (held : (runtime.graph.nodes name).any (collection.hasKey key) = true) :
    Turn.create.take source runtime name payload =
      (.error (collection.taken key), runtime) := by
  simp only [take, Runtime.create, known, Collection.newRecord_of_held described held]

/-- A create fails where a field that it needs is set by no payload, and changes nothing. -/
theorem create_of_barred (source : Content.Source State) {field : String}
    (known : runtime.graph.collection name = .ok collection)
    (described : collection.describes key payload = true)
    (barred : collection.barrier? = some field)
    (free : (runtime.graph.nodes name).any (collection.hasKey key) = false) :
    Turn.create.take source runtime name payload =
      (.error (.missingRequiredField collection.name field), runtime) := by
  have failed := Collection.newRecord_of_free described free (runtime.idOf runtime.nextId)
  rw [barred] at failed
  simp only [take, Runtime.create, known, failed]

/-- A create succeeds where no node has its reference value, and adds one. -/
theorem create_of_free (echoes : source.Echoes)
    (known : runtime.graph.collection name = .ok collection)
    (described : collection.describes key payload = true)
    (isOpen : collection.barrier? = none)
    (free : (runtime.graph.nodes name).any (collection.hasKey key) = false) :
    ∃ stored after, Turn.create.take source runtime name payload = (.ok stored, after) ∧
      after.graph.collection name = .ok collection ∧
      (after.graph.nodes name).countP (collection.hasKey key) =
        (runtime.graph.nodes name).countP (collection.hasKey key) + 1 := by
  have created := Collection.newRecord_of_free described free (runtime.idOf runtime.nextId)
  rw [isOpen] at created
  obtain ⟨record, made, named⟩ := created
  have hands : Hands runtime name payload .create collection key (.object record) :=
    .create known made named
  obtain ⟨after, taken, knownAfter, count⟩ := hands.take_of_echoes echoes
  exact ⟨.object record, after, taken, knownAfter, by simpa using count⟩

end Turn

end ContentGraph
