import ContentGraph.Proofs.Graph.NodeLookup
import ContentGraph.Proofs.Mutation.Payload
import ContentGraph.Query.Execution

/-!
Contract: what one turn at the store can do.

Owns:
- `Turn`, the two things that a mutation does while it holds the store: a create or an update;
- the reference value that a turn is about;
- `Turn.Hands`, when a turn hands a record to the source, and which one;
- an upsert as two turns;
- `Turn.Outcome`, everything that a turn can end in.  Every later statement about mutations goes
  through its three cases and does not open `create` or `update` again.
-/

namespace ContentGraph

open ContentGraph.Json

/-- What a mutation does while it holds the store. -/
inductive Turn where
  | create
  | update
deriving DecidableEq

namespace Collection

/-- The reference value of a new record: the payload's, or a made-up id where the field is
`id`. -/
def createKey? (collection : Collection) (freshId : String) (payload : Value) : Option String :=
  match collection.payloadRecord payload with
  | .error _ => none
  | .ok record =>
      match collection.recordKey? (stripProtected record) with
      | some key => some key
      | none => if collection.referenceField = "id" then some freshId else none

/-- The reference value of the node that an update is laid over. -/
def updateKey? (collection : Collection) (payload : Value) : Option String :=
  match collection.payloadRecord payload with
  | .error _ => none
  | .ok record => collection.recordKey? record

/-- Whether a create has to make an id up. -/
def makesIdUp (collection : Collection) (payload : Value) : Bool :=
  match collection.payloadRecord payload with
  | .error _ => false
  | .ok record => (collection.recordKey? (stripProtected record)).isNone

end Collection

namespace Turn

variable {State : Type}

/-- One turn at the store. -/
def take (source : Content.Source State) (turn : Turn) (runtime : Runtime State) (name : String)
    (payload : Value) : Except Failure Value × Runtime State :=
  match turn with
  | .create => runtime.create source name payload
  | .update => runtime.update source name payload

/-- The reference value that a turn is about. -/
def key? (turn : Turn) (runtime : Runtime State) (name : String) (payload : Value) :
    Option String :=
  match runtime.graph.collection name with
  | .error _ => none
  | .ok collection =>
      match turn with
      | .create => collection.createKey? (runtime.idOf runtime.nextId) payload
      | .update => collection.updateKey? payload

/-- Where the stored record goes: to the end, or in the place of the first node with its
reference value. -/
def place (turn : Turn) (collection : Collection) (key : String) (stored : Value)
    (nodes : List Value) : List Value :=
  match turn with
  | .create => nodes ++ [stored]
  | .update => collection.replaceKey key stored nodes

/-- The id that a turn makes up, if it makes one up, is no node's.  Whoever makes the ids up
promises this; the graph does not check it. -/
def freshId (turn : Turn) (runtime : Runtime State) (name : String) (payload : Value) : Bool :=
  match turn, runtime.graph.collection name with
  | .create, .ok collection =>
      !collection.makesIdUp payload ||
        !(runtime.graph.nodes name).any (collection.hasKey (runtime.idOf runtime.nextId))
  | _, _ => true

/-- The runtime from which a turn hands its record over: a create has used up an id. -/
def ready (turn : Turn) (runtime : Runtime State) : Runtime State :=
  match turn with
  | .create => { runtime with nextId := runtime.nextId + 1 }
  | .update => runtime

/-- The runtime after the source stored the record of a turn and answered with one of its own. -/
def accept (turn : Turn) (runtime : Runtime State) (name : String) (collection : Collection)
    (key : String) (stored : Value) (state : State) : Runtime State :=
  { turn.ready runtime with state }.setNodes name
    (turn.place collection key stored (runtime.graph.nodes name))

/-- A turn hands a record of a collection with a reference value to the source. -/
inductive Hands (runtime : Runtime State) (name : String) (payload : Value) :
    Turn -> Collection -> String -> Value -> Prop where
  | create {collection : Collection} {key : String} {record : Object}
      (known : runtime.graph.collection name = .ok collection)
      (made : collection.newRecord (runtime.graph.nodes name) (runtime.idOf runtime.nextId)
        payload = .ok record)
      (named : collection.recordKey? record = some key) :
      Hands runtime name payload .create collection key (.object record)
  | update {collection : Collection} {key : String} {record : Value}
      (known : runtime.graph.collection name = .ok collection)
      (made : collection.updatedRecord (runtime.graph.nodes name) payload = .ok (key, record)) :
      Hands runtime name payload .update collection key record

end Turn

/-! ### Records for the source -/

namespace Collection

variable {collection : Collection} {nodes : List Value} {freshId key : String} {payload : Value}

/-- A record is identified by its own reference value, which is free, or by the made-up id. -/
theorem identify_ok {record identified : Object}
    (taken : collection.identify nodes freshId record = .ok identified) :
    (∃ key, collection.recordKey? record = some key ∧ identified = record ∧
      nodes.any (collection.hasKey key) = false) ∨
    (collection.recordKey? record = none ∧ collection.referenceField = "id" ∧
      collection.recordKey? identified = some freshId) := by
  unfold identify at taken
  split at taken
  · next key named =>
      split at taken
      · cases taken
      · next free =>
          cases taken
          exact .inl ⟨key, named, rfl, by simpa using free⟩
  · next unnamed =>
      split at taken
      · next isId =>
          cases taken
          refine .inr ⟨unnamed, isId, ?_⟩
          simp [recordKey?, isId, Value.referenceKey?]
      · cases taken

/-- The parts of a record that a create hands over. -/
theorem newRecord_ok {record : Object}
    (made : collection.newRecord nodes freshId payload = .ok record) :
    ∃ described, collection.payloadRecord payload = .ok described ∧
      collection.identify nodes freshId (stripProtected described) = .ok record ∧
      ∀ field ∈ collection.entry.requiredFields, isPresent record field = true := by
  unfold newRecord at made
  cases described : collection.payloadRecord payload with
  | error failure => simp [described, bind, Except.bind] at made
  | ok fields =>
      cases identified : collection.identify nodes freshId (stripProtected fields) with
      | error failure => simp [described, identified, bind, Except.bind] at made
      | ok named =>
          simp only [described, identified, bind, Except.bind] at made
          split at made
          · cases made
          · next complete =>
              cases made
              refine ⟨fields, rfl, identified, ?_⟩
              simpa using complete

/-- What a create hands over has the reference value that the create is about. -/
theorem createKey?_of_newRecord {record : Object}
    (made : collection.newRecord nodes freshId payload = .ok record) :
    ∃ key, collection.createKey? freshId payload = some key ∧
      collection.recordKey? record = some key ∧
      (nodes.any (collection.hasKey key) = false ∨
        collection.makesIdUp payload = true ∧ key = freshId) := by
  obtain ⟨described, isRecord, identified, _⟩ := newRecord_ok made
  rcases identify_ok identified with ⟨key, named, rfl, free⟩ | ⟨unnamed, isId, named⟩
  · refine ⟨key, ?_, named, .inl free⟩
    simp [createKey?, isRecord, named]
  · refine ⟨freshId, ?_, named, .inr ⟨?_, rfl⟩⟩
    · simp [createKey?, isRecord, unnamed, isId]
    · simp [makesIdUp, isRecord, unnamed]

/-- The parts of a record that an update hands over. -/
theorem updatedRecord_ok {merged : Value}
    (made : collection.updatedRecord nodes payload = .ok (key, merged)) :
    ∃ record node, collection.payloadRecord payload = .ok record ∧
      collection.recordKey? record = some key ∧
      nodes.find? (collection.hasKey key) = some node ∧
      merged = node.deepMerge (.object (collection.changes record)) := by
  unfold updatedRecord at made
  cases described : collection.payloadRecord payload with
  | error failure => simp [described, bind, Except.bind] at made
  | ok record =>
      simp only [described, bind, Except.bind] at made
      split at made
      · cases made
      · next named =>
          split at made
          · cases made
          · next node found =>
              cases made
              exact ⟨record, node, rfl, named, found, rfl⟩

theorem updatedRecord_of_found {record : Object} {node : Value}
    (described : collection.payloadRecord payload = .ok record)
    (named : collection.recordKey? record = some key)
    (found : nodes.find? (collection.hasKey key) = some node) :
    collection.updatedRecord nodes payload =
      .ok (key, node.deepMerge (.object (collection.changes record))) := by
  simp only [updatedRecord, described, bind, Except.bind, named, found]

/-- What an update hands over has the reference value that it looked for. -/
theorem keyOf?_of_updatedRecord {merged : Value}
    (made : collection.updatedRecord nodes payload = .ok (key, merged)) :
    collection.updateKey? payload = some key ∧ collection.keyOf? merged = some key ∧
      nodes.any (collection.hasKey key) = true := by
  obtain ⟨record, node, described, named, found, rfl⟩ := updatedRecord_ok made
  have held : collection.hasKey key node = true := List.find?_some found
  refine ⟨by simp [updateKey?, described, named], ?_, ?_⟩
  · exact keyOf?_deepMerge_changes held (nodup_keys_of_payloadRecord described)
  · exact List.any_eq_true.mpr ⟨node, List.mem_of_find?_eq_some found, held⟩

end Collection

namespace Turn

variable {State : Type} {source : Content.Source State} {runtime : Runtime State} {turn : Turn}
  {name key : String} {payload record : Value} {collection : Collection}

namespace Hands

theorem known (hands : Hands runtime name payload turn collection key record) :
    runtime.graph.collection name = .ok collection := by
  cases hands <;> assumption

theorem name_eq (hands : Hands runtime name payload turn collection key record) :
    collection.name = name :=
  Graph.name_of_collection hands.known

/-- The record that is handed over has the reference value of the turn. -/
theorem keyOf?_record (hands : Hands runtime name payload turn collection key record) :
    collection.keyOf? record = some key := by
  cases hands with
  | create _ _ named => exact named
  | update _ made => exact (Collection.keyOf?_of_updatedRecord made).2.1

theorem key?_eq (hands : Hands runtime name payload turn collection key record) :
    turn.key? runtime name payload = some key := by
  cases hands with
  | create known made named =>
      obtain ⟨other, asked, namedOther, _⟩ := Collection.createKey?_of_newRecord made
      rw [named] at namedOther
      cases namedOther
      simpa [key?, known] using asked
  | update known made => simp [key?, known, (Collection.keyOf?_of_updatedRecord made).1]

/-- An update hands a record over only where some node has its reference value. -/
theorem held (hands : Hands runtime name payload .update collection key record) :
    (runtime.graph.nodes name).any (collection.hasKey key) = true := by
  cases hands with
  | update _ made => exact (Collection.keyOf?_of_updatedRecord made).2.2

/-- A create hands a record over only where no node has its reference value: the value is the
payload's and was looked for, or it is a fresh id. -/
theorem free (hands : Hands runtime name payload .create collection key record)
    (fresh : Turn.create.freshId runtime name payload = true) :
    (runtime.graph.nodes name).any (collection.hasKey key) = false := by
  cases hands with
  | create known made named =>
      obtain ⟨other, _, namedOther, free⟩ := Collection.createKey?_of_newRecord made
      rw [named] at namedOther
      cases namedOther
      rcases free with free | ⟨makesUp, rfl⟩
      · exact free
      · simpa [freshId, known, makesUp] using fresh

theorem placed (hands : Hands runtime name payload turn collection key record) (stored : Value) :
    Placed stored (runtime.graph.nodes name)
      (turn.place collection key stored (runtime.graph.nodes name)) := by
  cases turn with
  | create => exact .appended _
  | update => exact Collection.placed_replaceKey stored hands.held

/-- The first node of every reference value after the turn's record has its place. -/
theorem find?_place (hands : Hands runtime name payload turn collection key record)
    (fresh : turn.freshId runtime name payload = true) {stored : Value}
    (named : collection.keyOf? stored = some key) (other : String) :
    (turn.place collection key stored (runtime.graph.nodes name)).find?
        (collection.hasKey other) =
      if other = key then some stored
      else (runtime.graph.nodes name).find? (collection.hasKey other) := by
  cases turn with
  | create => exact Collection.find?_append_free named (hands.free fresh) other
  | update => exact Collection.find?_replaceKey named hands.held other

/-- The reference values after the turn's record has its place. -/
theorem map_keyOf?_place (hands : Hands runtime name payload turn collection key record)
    {stored : Value} (named : collection.keyOf? stored = some key) :
    (turn.place collection key stored (runtime.graph.nodes name)).map collection.keyOf? =
      (runtime.graph.nodes name).map collection.keyOf? ++
        (if turn = .create then [some key] else []) := by
  cases turn with
  | create => simp [place, named]
  | update => simpa [place] using Collection.map_keyOf?_replaceKey named hands.held

end Hands

/-! ### Outcomes -/

/-- Everything that a turn can end in. -/
inductive Outcome (source : Content.Source State) (runtime : Runtime State) (name : String)
    (payload : Value) (turn : Turn) : Except Failure Value × Runtime State -> Prop where
  /-- Nothing was handed over, and nothing changed. -/
  | refused (failure : Failure) : Outcome source runtime name payload turn (.error failure, runtime)
  /-- The source failed on the record: only its own state may have changed. -/
  | failed {collection : Collection} {key : String} {record : Value} {failure : Failure}
      {state : State} (hands : Hands runtime name payload turn collection key record)
      (put : source.put runtime.state collection.entry record = (.error failure, state)) :
      Outcome source runtime name payload turn
        (.error failure, { turn.ready runtime with state })
  /-- The source stored the record, and its answer has its place among the nodes. -/
  | stored {collection : Collection} {key : String} {record stored : Value} {state : State}
      (hands : Hands runtime name payload turn collection key record)
      (put : source.put runtime.state collection.entry record = (.ok stored, state)) :
      Outcome source runtime name payload turn
        (.ok stored, turn.accept runtime name collection key stored state)

@[simp] theorem graph_ready : (turn.ready runtime).graph = runtime.graph := by
  cases turn <;> rfl

@[simp] theorem state_ready : (turn.ready runtime).state = runtime.state := by
  cases turn <;> rfl

@[simp] theorem state_accept (stored : Value) (state : State) :
    (turn.accept runtime name collection key stored state).state = state := rfl

theorem nodes_accept (stored : Value) (state : State) (other : String) :
    (turn.accept runtime name collection key stored state).graph.nodes other =
      if other = name then turn.place collection key stored (runtime.graph.nodes name)
      else runtime.graph.nodes other := by
  cases turn <;> exact Store.nodes_setNodes _ _ _ _

@[simp] theorem collection_accept (stored : Value) (state : State) (other : String) :
    (turn.accept runtime name collection key stored state).graph.collection other =
      runtime.graph.collection other := by
  cases turn <;> rfl

/-- A turn that has a record to hand over does so. -/
private theorem Hands.take_eq (hands : Hands runtime name payload turn collection key record)
    (source : Content.Source State) :
    turn.take source runtime name payload =
      Runtime.storeRecord source (turn.ready runtime) collection record
        (turn.place collection key) := by
  cases hands with
  | create known made _ => simp only [take, Runtime.create, known, made, ready]; rfl
  | update known made => simp only [take, Runtime.update, known, made, ready]; rfl

theorem Hands.take_of_failed (hands : Hands runtime name payload turn collection key record)
    {failure : Failure} {state : State}
    (put : source.put runtime.state collection.entry record = (.error failure, state)) :
    turn.take source runtime name payload =
      (.error failure, { turn.ready runtime with state }) := by
  rw [hands.take_eq source, Runtime.storeRecord, state_ready, put]

theorem Hands.take_of_stored (hands : Hands runtime name payload turn collection key record)
    {stored : Value} {state : State}
    (put : source.put runtime.state collection.entry record = (.ok stored, state)) :
    turn.take source runtime name payload =
      (.ok stored, turn.accept runtime name collection key stored state) := by
  rw [hands.take_eq source, Runtime.storeRecord, state_ready, put, hands.name_eq]
  simp only [graph_ready, accept]

theorem Hands.outcome (hands : Hands runtime name payload turn collection key record)
    (source : Content.Source State) :
    Outcome source runtime name payload turn (turn.take source runtime name payload) := by
  cases put : source.put runtime.state collection.entry record with
  | mk answer state =>
      cases answer with
      | error failure => exact hands.take_of_failed put ▸ .failed hands put
      | ok stored => exact hands.take_of_stored put ▸ .stored hands put

/-- A turn is refused, or hands over one record, which the source stores or fails on. -/
theorem take_outcome (source : Content.Source State) (turn : Turn) (runtime : Runtime State)
    (name : String) (payload : Value) :
    Outcome source runtime name payload turn (turn.take source runtime name payload) := by
  cases known : runtime.graph.collection name with
  | error failure =>
      have refused : Outcome source runtime name payload turn (.error failure, runtime) :=
        .refused failure
      cases turn <;> simpa only [take, Runtime.create, Runtime.update, known] using refused
  | ok collection =>
      cases turn with
      | create =>
          cases made : collection.newRecord (runtime.graph.nodes name)
              (runtime.idOf runtime.nextId) payload with
          | error failure =>
              simp only [take, Runtime.create, known, made]
              exact .refused failure
          | ok record =>
              obtain ⟨key, _, named, _⟩ := Collection.createKey?_of_newRecord made
              exact (Hands.create known made named).outcome source
      | update =>
          cases made : collection.updatedRecord (runtime.graph.nodes name) payload with
          | error failure =>
              simp only [take, Runtime.update, known, made]
              exact .refused failure
          | ok merged => exact (Hands.update known made).outcome source

end Turn

/-! ### Upserts -/

/-- An upsert is an update turn, and a create turn where that found no record. -/
theorem Runtime.upsert_eq_turns {State : Type} (source : Content.Source State)
    (runtime : Runtime State) (name : String) (payload : Value) :
    runtime.upsert source name payload =
      match Turn.update.take source runtime name payload with
      | (.error failure, after) =>
          if Runtime.asksForCreate failure then Turn.create.take source after name payload
          else (.error failure, after)
      | updated => updated := rfl

end ContentGraph
