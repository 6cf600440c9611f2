import ContentGraph.Proofs.Mutation.Schedule

/-!
Contract: the nodes under mutation are a partial map from reference values to records.

Owns:
- `Catalog`, the partial map, with what a create, an update and a failed turn do to it;
- `Event.Refines`, what a turn does to the nodes and to the lookup by reference value;
- every run of mutations, in any order of turns, is a run of the map.

Repeated or absent reference values at the start are allowed: the map shows the first node of a
reference value, and nodes without one are only kept.
-/

namespace ContentGraph

open ContentGraph.Json

/-- A source that keeps reference values: a record comes back with the one it was given. -/
def Content.Source.KeepsReference {State : Type} (source : Content.Source State) : Prop :=
  ∀ (state after : State) (collection : Collection) (record stored : Value),
    source.put state collection.entry record = (.ok stored, after) ->
      collection.keyOf? stored = collection.keyOf? record

/-- A source in memory answers with the record that it was given. -/
theorem Content.MemoryStore.source_keepsReference : MemoryStore.source.KeepsReference := by
  intro state after collection record stored put
  cases put
  rfl

namespace Graph

/-- Some node of a collection has a reference value. -/
def Holds (graph : Graph) (name key : String) : Prop :=
  ∃ collection, graph.collection name = .ok collection ∧
    ∃ node ∈ graph.nodes name, collection.keyOf? node = some key

/-- The reference values of a collection, of the nodes that have one, are pairwise distinct. -/
def DistinctKeys (graph : Graph) (name : String) : Prop :=
  ∀ collection, graph.collection name = .ok collection ->
    ((graph.nodes name).filterMap collection.keyOf?).Nodup

theorem holds_iff {graph : Graph} {name : String} {collection : Collection}
    (known : graph.collection name = .ok collection) (key : String) :
    graph.Holds name key ↔ (graph.nodes name).any (collection.hasKey key) = true := by
  simp [Holds, known, Collection.hasKey]

end Graph

/-! ### The map -/

/-- A partial map from the names of collections and reference values to records. -/
abbrev Catalog := String -> String -> Option Value

/-- The map that a graph shows: the record that is found by a reference value. -/
def Graph.catalog (graph : Graph) : Catalog := fun name key =>
  match graph.findByReference name key with
  | .ok found => found
  | .error _ => none

namespace Catalog

/-- Sets the record of a reference value. -/
def set (catalog : Catalog) (name key : String) (record : Value) : Catalog :=
  fun other otherKey =>
    if other = name ∧ otherKey = key then some record else catalog other otherKey

/-- What a turn does to the map. -/
inductive Step : Catalog -> Event -> Catalog -> Prop where
  | create (catalog : Catalog) {name key : String} (record : Value)
      (free : catalog name key = none) :
      Step catalog ⟨.create, name, some key, .ok record⟩ (catalog.set name key record)
  | update (catalog : Catalog) {name key : String} (old record : Value)
      (held : catalog name key = some old) :
      Step catalog ⟨.update, name, some key, .ok record⟩ (catalog.set name key record)
  | fail (catalog : Catalog) (turn : Turn) (name : String) (key? : Option String)
      (failure : Failure) : Step catalog ⟨turn, name, key?, .error failure⟩ catalog

/-- What a sequence of turns does to the map. -/
inductive Run : Catalog -> List Event -> Catalog -> Prop where
  | nil (catalog : Catalog) : Run catalog [] catalog
  | cons {before between after : Catalog} {event : Event} {later : List Event}
      (first : Step before event between) (rest : Run between later after) :
      Run before (event :: later) after

end Catalog

theorem Graph.catalog_of_known {graph : Graph} {name : String} {collection : Collection}
    (known : graph.collection name = .ok collection) (key : String) :
    graph.catalog name key = (graph.nodes name).find? (collection.hasKey key) := by
  simp [Graph.catalog, Graph.findByReference_of_known known]

/-- The map has a record for the reference values that some node has. -/
theorem Graph.isSome_catalog_iff (graph : Graph) (name key : String) :
    (graph.catalog name key).isSome = true ↔ graph.Holds name key := by
  cases known : graph.collection name with
  | error failure =>
      simp [Graph.catalog, Graph.findByReference, Graph.Holds, known]
  | ok collection =>
      rw [Graph.catalog_of_known known, Graph.holds_iff known, List.find?_isSome,
        List.any_eq_true]

/-! ### One turn -/

/-- What a turn does to the nodes and to the lookup by reference value. -/
structure Event.Refines (event : Event) (before after : Graph) : Prop where
  /-- A create succeeds only with a reference value that no node has, and its record is found. -/
  created : ∀ record, event.turn = .create -> event.answer = .ok record ->
    ∃ key, event.key? = some key ∧ ¬ before.Holds event.collection key ∧
      after.findByReference event.collection key = .ok (some record)
  /-- An update succeeds only with a reference value that some node has, and its record is
  found. -/
  updated : ∀ record, event.turn = .update -> event.answer = .ok record ->
    ∃ key, event.key? = some key ∧ before.Holds event.collection key ∧
      after.findByReference event.collection key = .ok (some record)
  /-- A turn that fails changes nothing. -/
  failed : ∀ failure, event.answer = .error failure -> after = before
  /-- What is found by every other reference value stays the same. -/
  others : ∀ name key, name ≠ event.collection ∨ event.key? ≠ some key ->
    after.findByReference name key = before.findByReference name key
  /-- One record at most comes among the nodes, at the end or in the place of a node. -/
  placed : ∀ name, after.nodes name = before.nodes name ∨
    name = event.collection ∧ ∃ record, event.answer = .ok record ∧
      Placed record (before.nodes name) (after.nodes name)
  /-- No reference value is lost or moved. -/
  kept : ∀ name collection, before.collection name = .ok collection ->
    (before.nodes name).map collection.keyOf? <+: (after.nodes name).map collection.keyOf?
  /-- Reference values that are pairwise distinct stay so. -/
  distinct : ∀ name, before.DistinctKeys name -> after.DistinctKeys name

theorem Event.Refines.of_failed (turn : Turn) (name : String) (key? : Option String)
    (failure : Failure) {before after : Graph} (same : after = before) :
    Event.Refines ⟨turn, name, key?, .error failure⟩ before after where
  created := by simp
  updated := by simp
  failed _ _ := same
  others _ _ _ := by rw [same]
  placed _ := .inl (by rw [same])
  kept _ _ _ := same ▸ List.prefix_rfl
  distinct _ held := same ▸ held

private theorem nodup_filterMap_keyOf? {collection : Collection} {key : String}
    {before after : List Value} {turn : Turn}
    (keys : after.map collection.keyOf? =
      before.map collection.keyOf? ++ (if turn = .create then [some key] else []))
    (free : turn = .create -> before.any (collection.hasKey key) = false)
    (distinct : (before.filterMap collection.keyOf?).Nodup) :
    (after.filterMap collection.keyOf?).Nodup := by
  have keysPresent := congrArg (List.filterMap id) keys
  simp only [List.filterMap_map, List.filterMap_append, Function.id_comp] at keysPresent
  rw [keysPresent]
  cases turn with
  | update => simpa using distinct
  | create =>
      rw [List.nodup_append]
      refine ⟨distinct, by simp, ?_⟩
      intro held member added isAdded
      obtain ⟨node, inNodes, keyNode⟩ := List.mem_filterMap.mp member
      have isKey : added = key := by simpa using isAdded
      have passed := List.any_eq_false.mp (free rfl) node inNodes
      rw [Collection.hasKey_iff, keyNode] at passed
      intro equal
      exact passed (by rw [equal, isKey])

namespace Turn

variable {State : Type} {source : Content.Source State} {runtime : Runtime State} {turn : Turn}
  {name key : String} {payload record stored : Value} {collection : Collection}

/-- What is found after a record came among the nodes: the record by its own reference value, and
by every other one what was found before. -/
theorem Hands.findByReference_accept
    (hands : Hands runtime name payload turn collection key record)
    (fresh : turn.freshId runtime name payload = true) (named : collection.keyOf? stored = some key)
    (state : State) (other otherKey : String) :
    (turn.accept runtime name collection key stored state).graph.findByReference other otherKey =
      if other = name ∧ otherKey = key then .ok (some stored)
      else runtime.graph.findByReference other otherKey := by
  unfold Graph.findByReference
  rw [collection_accept, nodes_accept]
  by_cases isName : other = name
  · subst isName
    simp only [hands.known, ↓reduceIte, true_and, hands.find?_place fresh named otherKey]
    split <;> rfl
  · simp [isName]

theorem Hands.distinctKeys_accept
    (hands : Hands runtime name payload turn collection key record)
    (fresh : turn.freshId runtime name payload = true) (named : collection.keyOf? stored = some key)
    (state : State) {other : String} (distinct : runtime.graph.DistinctKeys other) :
    (turn.accept runtime name collection key stored state).graph.DistinctKeys other := by
  intro otherCollection knownOther
  rw [collection_accept] at knownOther
  rw [nodes_accept]
  split
  · next isName =>
      subst isName
      cases hands.known.symm.trans knownOther
      refine nodup_filterMap_keyOf? (hands.map_keyOf?_place named) ?_
        (distinct collection knownOther)
      rintro rfl
      exact hands.free fresh
  · exact distinct otherCollection knownOther

theorem Hands.kept_accept (hands : Hands runtime name payload turn collection key record)
    (named : collection.keyOf? stored = some key) (state : State) {other : String}
    {otherCollection : Collection}
    (knownOther : runtime.graph.collection other = .ok otherCollection) :
    (runtime.graph.nodes other).map otherCollection.keyOf? <+:
      ((turn.accept runtime name collection key stored state).graph.nodes other).map
        otherCollection.keyOf? := by
  rw [nodes_accept]
  split
  · next isName =>
      subst isName
      cases hands.known.symm.trans knownOther
      rw [hands.map_keyOf?_place named]
      exact List.prefix_append _ _
  · exact List.prefix_rfl

/-- Every turn over a source that keeps reference values, with a fresh id where it makes one up,
does to the lookup what it says. -/
theorem take_refines (keeps : source.KeepsReference) (turn : Turn) (runtime : Runtime State)
    (name : String) (payload : Value) (fresh : turn.freshId runtime name payload = true) :
    Event.Refines
      ⟨turn, name, turn.key? runtime name payload, (turn.take source runtime name payload).1⟩
      runtime.graph (turn.take source runtime name payload).2.graph := by
  have outcome := take_outcome source turn runtime name payload
  generalize turn.take source runtime name payload = result at outcome ⊢
  cases outcome with
  | refused failure => exact .of_failed _ _ _ _ rfl
  | failed hands put => exact .of_failed _ _ _ _ (by simp)
  | @stored collection key record stored state hands put =>
      have asked := hands.key?_eq
      have named : collection.keyOf? stored = some key :=
        (keeps _ _ _ _ _ put).trans hands.keyOf?_record
      have found := hands.findByReference_accept fresh named state
      exact {
        created := by
          rintro record rfl answered
          cases answered
          refine ⟨key, asked, ?_, by simp [found]⟩
          simp [Graph.holds_iff hands.known, hands.free fresh]
        updated := by
          rintro record rfl answered
          cases answered
          exact ⟨key, asked, (Graph.holds_iff hands.known key).mpr hands.held, by simp [found]⟩
        failed := by simp
        others := by
          intro other otherKey different
          have passed : ¬(other = name ∧ otherKey = key) := by
            rintro ⟨rfl, rfl⟩
            simp [asked] at different
          rw [found, if_neg passed]
        placed := by
          intro other
          rw [nodes_accept]
          split
          · next isName =>
              subst isName
              exact .inr ⟨rfl, stored, rfl, hands.placed stored⟩
          · exact .inl rfl
        kept := fun _ _ knownOther => hands.kept_accept named state knownOther
        distinct := fun _ distinct => hands.distinctKeys_accept fresh named state distinct }

end Turn

/-! ### Runs -/

/-- The map after a record was found by its reference value. -/
theorem Event.Refines.catalog_eq_set {event : Event} {before after : Graph}
    (refines : event.Refines before after) {key : String} {record : Value}
    (asked : event.key? = some key)
    (found : after.findByReference event.collection key = .ok (some record)) :
    after.catalog = before.catalog.set event.collection key record := by
  funext other otherKey
  by_cases isSet : other = event.collection ∧ otherKey = key
  · obtain ⟨rfl, rfl⟩ := isSet
    simp [Graph.catalog, Catalog.set, found]
  · have different : other ≠ event.collection ∨ event.key? ≠ some otherKey := by
      rw [asked, ← not_and_or]
      exact fun both => isSet ⟨both.1, (Option.some.inj both.2).symm⟩
    simp [Graph.catalog, Catalog.set, isSet, refines.others other otherKey different]

/-- A turn is a step of the map. -/
theorem Event.Refines.step {event : Event} {before after : Graph}
    (refines : event.Refines before after) :
    Catalog.Step before.catalog event after.catalog := by
  obtain ⟨turn, name, key?, answer⟩ := event
  cases answer with
  | error failure =>
      rw [refines.failed failure rfl]
      exact .fail _ _ _ _ _
  | ok record =>
      cases turn with
      | create =>
          obtain ⟨key, asked, free, found⟩ := refines.created record rfl rfl
          rw [refines.catalog_eq_set asked found]
          cases asked
          rw [← Graph.isSome_catalog_iff] at free
          exact .create _ record (by simpa using free)
      | update =>
          obtain ⟨key, asked, held, found⟩ := refines.updated record rfl rfl
          rw [refines.catalog_eq_set asked found]
          cases asked
          obtain ⟨old, isOld⟩ :=
            Option.isSome_iff_exists.mp ((Graph.isSome_catalog_iff _ _ _).mpr held)
          exact .update _ old record isOld

namespace Session

variable {State : Type} {source : Content.Source State}

/-- What happens in a step refines the lookup. -/
theorem refines_of_event (keeps : source.KeepsReference) {session : Session State} {index : Nat}
    (fresh : session.freshAt index = true) {event : Event}
    (happens : session.event? source index = some event) :
    event.Refines session.runtime.graph (session.step source index).runtime.graph := by
  rcases step_cases source session index with ⟨_, passes⟩ | ⟨task, turn, found, next, turns⟩
  · cases passes.symm.trans happens
  · cases turns.symm.trans happens
    have freshTurn : turn.freshId session.runtime task.collection task.payload = true := by
      simpa [freshAt, found, next] using fresh
    rw [step_of_turn found next]
    exact Turn.take_refines keeps turn session.runtime task.collection task.payload freshTurn

/-- A step in which nothing happens changes nothing. -/
theorem step_of_no_event {session : Session State} {index : Nat}
    (passes : session.event? source index = none) : session.step source index = session := by
  rcases step_cases source session index with ⟨same, _⟩ | ⟨task, turn, _, _, turns⟩
  · exact same
  · cases passes.symm.trans turns

/-- Every run of turns is a run of the map. -/
theorem catalog_run (keeps : source.KeepsReference) {session : Session State}
    {schedule : List Nat} (fresh : session.freshIds source schedule = true) :
    Catalog.Run session.runtime.graph.catalog (session.history source schedule)
      (session.run source schedule).runtime.graph.catalog := by
  induction schedule generalizing session with
  | nil => exact .nil _
  | cons index later inductionHypothesis =>
      obtain ⟨freshHere, freshLater⟩ := freshIds_cons.mp fresh
      have rest := inductionHypothesis freshLater
      rw [history, run_cons]
      cases happens : session.event? source index with
      | none =>
          rw [step_of_no_event happens] at rest ⊢
          exact rest
      | some event => exact .cons (refines_of_event keeps freshHere happens).step rest

theorem step_distinctKeys (keeps : source.KeepsReference) (session : Session State)
    (index : Nat) (fresh : session.freshAt index = true) {name : String}
    (distinct : session.runtime.graph.DistinctKeys name) :
    (session.step source index).runtime.graph.DistinctKeys name := by
  cases happens : session.event? source index with
  | none => rwa [step_of_no_event happens]
  | some event => exact (refines_of_event keeps fresh happens).distinct name distinct

/-- The nodes under mutation refine a partial map from reference values to records.  For every
session over a source that keeps reference values, and every schedule in which the made-up ids are
fresh: the run is a run of the map; every turn in it does to the nodes and to the lookup what
`Event.Refines` says; and the reference values of a collection stay pairwise distinct. -/
theorem run_refines_catalog (source : Content.Source State) (keeps : source.KeepsReference)
    (session : Session State) (schedule : List Nat)
    (fresh : session.freshIds source schedule = true) :
    Catalog.Run session.runtime.graph.catalog (session.history source schedule)
        (session.run source schedule).runtime.graph.catalog ∧
      (∀ earlier index later, schedule = earlier ++ index :: later ->
        match (session.run source earlier).event? source index with
        | none => (session.run source (earlier ++ [index])) = session.run source earlier
        | some event =>
            event.Refines (session.run source earlier).runtime.graph
              (session.run source (earlier ++ [index])).runtime.graph) ∧
      ∀ name, session.runtime.graph.DistinctKeys name ->
        (session.run source schedule).runtime.graph.DistinctKeys name := by
  refine ⟨catalog_run keeps fresh, ?_, ?_⟩
  · rintro earlier index later rfl
    have freshHere := freshAt_of_freshIds fresh
    have reached : session.run source (earlier ++ [index]) =
        (session.run source earlier).step source index := by
      simp [run, List.foldl_append]
    rw [reached]
    split
    · next passes => exact step_of_no_event passes
    · next event happens => exact refines_of_event keeps freshHere happens
  · intro name distinct
    exact run_induction (motive := fun reached => reached.runtime.graph.DistinctKeys name)
      (fun reached index freshHere held => step_distinctKeys keeps reached index freshHere held)
      fresh distinct

/-- Posts of which two have one id and one has none, with an upsert of a new id, a create that
makes its id up between the two turns of the upsert, and an update. -/
def sampleMixed : Session Content.MemoryStore where
  runtime := sampleRuntime [
    samplePost "a" "First", samplePost "a" "Second", .object [("title", .string "None")]]
  tasks := [
    { kind := .upsert, collection := "Post", payload := samplePayload "b" "New" },
    { kind := .create, collection := "Post", payload := .object [("title", .string "Made up")] },
    { kind := .update, collection := "Post", payload := samplePayload "a" "Changed" }]

theorem run_refines_catalog_sampleMixed :
    Content.MemoryStore.source.KeepsReference ∧
      sampleMixed.freshIds Content.MemoryStore.source [0, 1, 0, 2] = true ∧
      Catalog.Run sampleMixed.runtime.graph.catalog
        (sampleMixed.history Content.MemoryStore.source [0, 1, 0, 2])
        (sampleMixed.run Content.MemoryStore.source [0, 1, 0, 2]).runtime.graph.catalog :=
  have fresh : sampleMixed.freshIds Content.MemoryStore.source [0, 1, 0, 2] = true := by decide
  ⟨Content.MemoryStore.source_keepsReference, fresh,
    (run_refines_catalog Content.MemoryStore.source Content.MemoryStore.source_keepsReference
      sampleMixed [0, 1, 0, 2] fresh).1⟩

end Session

end ContentGraph
