import ContentGraph.Proofs.Mutation.Turn

/-!
Contract: a mutation changes the nodes as its answer says, or not at all.

Owns:
- `Watched`, a source that also keeps the calls of its `put`; watching changes no answer;
- an upsert hands one record over at most, although it takes two turns;
- the effect of every mutation on the nodes and on the source, for every source.
-/

namespace ContentGraph

open ContentGraph.Json

/-! ### Watching a source -/

/-- A record handed to a source, with the answer. -/
structure PutCall where
  entry : CollectionEntry
  record : Value
  answer : Except Failure Value

/-- The state of a source with the calls of its `put`, in order. -/
structure Watched (State : Type) where
  state : State
  calls : List PutCall := []

/-- The source that also keeps the calls of its `put`. -/
def Content.Source.watched {State : Type} (source : Content.Source State) :
    Content.Source (Watched State) where
  check watched := source.check watched.state
  fetch watched entries records := source.fetch watched.state entries records
  put watched entry record :=
    let (answer, state) := source.put watched.state entry record
    (answer, ⟨state, watched.calls ++ [⟨entry, record, answer⟩]⟩)

theorem Content.Source.calls_of_put_watched {State : Type} {source : Content.Source State}
    {watched after : Watched State} {entry : CollectionEntry} {record : Value}
    {answer : Except Failure Value}
    (put : source.watched.put watched entry record = (answer, after)) :
    after.calls = watched.calls ++ [⟨entry, record, answer⟩] := by
  cases put
  rfl

namespace Runtime

variable {State : Type}

/-- The runtime over a watched source that has not been called yet. -/
def watch (runtime : Runtime State) : Runtime (Watched State) :=
  { runtime with state := { state := runtime.state } }

/-- The runtime without the calls of its source. -/
def unwatch (runtime : Runtime (Watched State)) : Runtime State :=
  { runtime with state := runtime.state.state }

end Runtime

namespace Turn

variable {State : Type} {source : Content.Source State} {name : String} {payload : Value}

private theorem storeRecord_watched (ready : Runtime (Watched State)) (collection : Collection)
    (record : Value) (place : Value -> List Value -> List Value) :
    ((ready.storeRecord source.watched collection record place).1,
        (ready.storeRecord source.watched collection record place).2.unwatch) =
      ready.unwatch.storeRecord source collection record place := by
  cases put : source.put ready.state.state collection.entry record with
  | mk answer state =>
      have putWatched : source.watched.put ready.state collection.entry record =
          (answer, ⟨state, ready.state.calls ++ [⟨collection.entry, record, answer⟩]⟩) := by
        simp [Content.Source.watched, put]
      have putPlain : source.put ready.unwatch.state collection.entry record = (answer, state) :=
        put
      unfold Runtime.storeRecord
      rw [putWatched, putPlain]
      cases answer <;> rfl

theorem take_watched (source : Content.Source State) (turn : Turn)
    (runtime : Runtime (Watched State)) (name : String) (payload : Value) :
    ((turn.take source.watched runtime name payload).1,
        (turn.take source.watched runtime name payload).2.unwatch) =
      turn.take source runtime.unwatch name payload := by
  cases turn with
  | create =>
      change _ = Runtime.create source runtime.unwatch name payload
      unfold take Runtime.create
      simp only [Runtime.unwatch]
      split
      · rfl
      · split
        · rfl
        · exact storeRecord_watched _ _ _ _
  | update =>
      change _ = Runtime.update source runtime.unwatch name payload
      unfold take Runtime.update
      simp only [Runtime.unwatch]
      split
      · rfl
      · split
        · rfl
        · exact storeRecord_watched _ _ _ _

end Turn

/-- Watching the source changes neither the answer of a mutation nor what it leaves behind. -/
theorem mutate_watched {State : Type} (source : Content.Source State) (kind : MutationKind)
    (runtime : Runtime (Watched State)) (name : String) (payload : Value) :
    ((Query.mutate source.watched kind runtime name payload).1,
        (Query.mutate source.watched kind runtime name payload).2.unwatch) =
      Query.mutate source kind runtime.unwatch name payload := by
  cases kind with
  | create => exact Turn.take_watched source .create runtime name payload
  | update => exact Turn.take_watched source .update runtime name payload
  | upsert =>
      have updates := Turn.take_watched source .update runtime name payload
      simp only [Query.mutate, Runtime.upsert_eq_turns]
      rw [← updates]
      cases Turn.update.take source.watched runtime name payload with
      | mk answer after =>
          cases answer with
          | ok stored => rfl
          | error failure =>
              dsimp only
              split
              · exact Turn.take_watched source .create after name payload
              · rfl

/-! ### Effects -/

/-- The effect of a mutation: nothing was handed over, or the source failed on one record, and
the nodes are as before; or the source stored one record, and its answer has its place. -/
inductive Effect (name : String) (before after : Graph) :
    List PutCall -> Except Failure Value -> Prop where
  | refused (failure : Failure) (same : after = before) :
      Effect name before after [] (.error failure)
  | failed (call : PutCall) (failure answer : Failure) (answered : call.answer = .error answer)
      (same : after = before) : Effect name before after [call] (.error failure)
  | stored (call : PutCall) (stored : Value) (named : call.entry.name = name)
      (answered : call.answer = .ok stored)
      (placed : Placed stored (before.nodes name) (after.nodes name))
      (others : ∀ other, other ≠ name -> after.nodes other = before.nodes other) :
      Effect name before after [call] (.ok stored)

namespace Turn

variable {State : Type} {source : Content.Source State} {name : String} {payload : Value}

/-- An update that handed a record over leaves nothing to create: its reference value is taken,
or stands under a key that no new record can have. -/
theorem Hands.not_create_of_update {runtime later : Runtime State} {updated created : Collection}
    {key other : String} {record made : Value} (same : later.graph = runtime.graph)
    (updates : Hands runtime name payload .update updated key record) :
    ¬ Hands later name payload .create created other made := by
  intro creates
  cases updates with
  | update known merged =>
      cases creates with
      | create knownLater new _ =>
          rw [same, known] at knownLater
          cases knownLater
          obtain ⟨described, node, isRecord, named, found, _⟩ :=
            Collection.updatedRecord_ok merged
          obtain ⟨sameRecord, isRecordToo, identified, _⟩ := Collection.newRecord_ok new
          rw [isRecord] at isRecordToo
          cases isRecordToo
          have lookup := find?_stripProtected (Collection.nodup_keys_of_payloadRecord isRecord)
            updated.referenceField
          have held := (Collection.keyOf?_of_updatedRecord merged).2.2
          rcases Collection.identify_ok identified with
            ⟨taken, namedNew, _, free⟩ | ⟨unnamed, isId, _⟩
          · rw [Collection.recordKey?, lookup] at namedNew
            split at namedNew
            · cases namedNew
            · rw [← Collection.recordKey?, named] at namedNew
              cases namedNew
              rw [same, held] at free
              cases free
          · have settable : updated.referenceField ∉ protectedKeys := by
              rw [isId]
              decide
            rw [Collection.recordKey?, lookup, if_neg settable, ← Collection.recordKey?,
              named] at unnamed
            cases unnamed

/-- The effect of one turn, with the calls that it adds to those of a watched source. -/
theorem take_effect (source : Content.Source State) (turn : Turn)
    (runtime : Runtime (Watched State)) (name : String) (payload : Value) :
    ∃ calls,
      (turn.take source.watched runtime name payload).2.state.calls =
        runtime.state.calls ++ calls ∧
      Effect name runtime.graph (turn.take source.watched runtime name payload).2.graph calls
        (turn.take source.watched runtime name payload).1 := by
  have outcome := take_outcome source.watched turn runtime name payload
  generalize turn.take source.watched runtime name payload = result at outcome ⊢
  cases outcome with
  | refused failure => exact ⟨[], by simp, .refused failure rfl⟩
  | @failed collection key record failure state hands put =>
      refine ⟨[⟨collection.entry, record, .error failure⟩], ?_, ?_⟩
      · simpa using Content.Source.calls_of_put_watched put
      · exact .failed _ failure failure rfl (by simp)
  | @stored collection key record stored state hands put =>
      refine ⟨[⟨collection.entry, record, .ok stored⟩], ?_, ?_⟩
      · simpa using Content.Source.calls_of_put_watched put
      · refine .stored _ stored hands.name_eq rfl ?_ ?_
        · simpa [Turn.nodes_accept] using hands.placed stored
        · intro other different
          simp [Turn.nodes_accept, different]

end Turn

/-- The effect of every mutation.  An upsert whose update turn failed in the source stores nothing
in its create turn, so that one record at most is handed over. -/
theorem mutate_effect {State : Type} (source : Content.Source State) (kind : MutationKind)
    (runtime : Runtime (Watched State)) (name : String) (payload : Value) :
    ∃ calls,
      (Query.mutate source.watched kind runtime name payload).2.state.calls =
        runtime.state.calls ++ calls ∧
      Effect name runtime.graph
        (Query.mutate source.watched kind runtime name payload).2.graph calls
        (Query.mutate source.watched kind runtime name payload).1 := by
  cases kind with
  | create => exact Turn.take_effect source .create runtime name payload
  | update => exact Turn.take_effect source .update runtime name payload
  | upsert =>
      have updateEffect := Turn.take_effect source .update runtime name payload
      have outcome := Turn.take_outcome source.watched .update runtime name payload
      simp only [Query.mutate, Runtime.upsert_eq_turns]
      generalize Turn.update.take source.watched runtime name payload = result
        at updateEffect outcome ⊢
      obtain ⟨answer, after⟩ := result
      cases answer with
      | ok stored => exact updateEffect
      | error failure =>
          dsimp only
          split
          · cases outcome with
            | refused => exact Turn.take_effect source .create runtime name payload
            | @failed collection key record _ state hands put =>
                have createOutcome := Turn.take_outcome source.watched .create
                  { Turn.update.ready runtime with state } name payload
                generalize Turn.create.take source.watched
                  { Turn.update.ready runtime with state } name payload = created
                  at createOutcome ⊢
                cases createOutcome with
                | refused refusal =>
                    refine ⟨[⟨collection.entry, record, .error failure⟩], ?_, ?_⟩
                    · exact Content.Source.calls_of_put_watched put
                    · exact .failed _ refusal failure rfl rfl
                | failed creates => exact (hands.not_create_of_update (by rfl) creates).elim
                | stored creates => exact (hands.not_create_of_update (by rfl) creates).elim
          · exact updateEffect

/-- Every mutation is atomic, for every source.  Watching the source shows its calls and changes
nothing else.  A mutation that fails leaves the nodes of every collection as they were, hands one
record over at most, and none unless the source failed on it.  One that succeeds hands over one
record, and the answer of the source is its own and comes among the nodes in one place. -/
theorem mutate_atomic {State : Type} (source : Content.Source State) (kind : MutationKind)
    (runtime : Runtime State) (name : String) (payload : Value) :
    let plain := Query.mutate source kind runtime name payload
    let watched := Query.mutate source.watched kind runtime.watch name payload
    let calls := watched.2.state.calls
    (watched.1 = plain.1 ∧ watched.2.unwatch = plain.2) ∧
      match plain.1 with
      | .error _ =>
          (∀ other, plain.2.graph.nodes other = runtime.graph.nodes other) ∧
            calls.length ≤ 1 ∧
            ((∀ call ∈ calls, ∃ stored, call.answer = .ok stored) -> calls = [])
      | .ok stored =>
          (∃ call, calls = [call] ∧ call.entry.name = name ∧ call.answer = .ok stored) ∧
            Placed stored (runtime.graph.nodes name) (plain.2.graph.nodes name) ∧
            ∀ other, other ≠ name ->
              plain.2.graph.nodes other = runtime.graph.nodes other := by
  intro plain watched calls
  have same : (watched.1, watched.2.unwatch) = plain :=
    mutate_watched source kind runtime.watch name payload
  have sameAnswer : watched.1 = plain.1 := congrArg Prod.fst same
  have sameRuntime : watched.2.unwatch = plain.2 := congrArg Prod.snd same
  have sameGraph : watched.2.graph = plain.2.graph := congrArg Runtime.graph sameRuntime
  obtain ⟨made, isMade, effect⟩ := mutate_effect source kind runtime.watch name payload
  have callsEq : calls = made := isMade
  change Effect name runtime.graph watched.2.graph made watched.1 at effect
  rw [sameGraph, sameAnswer, ← callsEq] at effect
  refine ⟨⟨sameAnswer, sameRuntime⟩, ?_⟩
  generalize plain.1 = answer, calls = made at effect ⊢
  cases effect with
  | refused failure unchanged => simp [unchanged]
  | failed call failure answer answered unchanged => simp [unchanged, answered]
  | stored call stored named answered placed others =>
      exact ⟨⟨call, rfl, named, answered⟩, placed, others⟩

end ContentGraph
