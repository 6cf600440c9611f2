import ContentGraph.Proofs.Mutation.Schedule

/-!
Contract: a source in memory logs what the nodes went through.

Owns:
- `Graph.replay`, logged records laid over the nodes in order;
- after every run of mutations the nodes are the first ones with the log replayed over them.

Turns that fail leave no trace in either.  The ids that are made up have to be fresh: a replayed
record takes the place of a node with its reference value, while a create adds a node.
-/

namespace ContentGraph

open ContentGraph.Json

/-- The nodes of a collection with a logged record: it takes the place of the first node with its
reference value, or comes at the end where there is none. -/
def Collection.absorb (collection : Collection) (record : Value) (nodes : List Value) :
    List Value :=
  match collection.keyOf? record with
  | none => nodes ++ [record]
  | some key =>
      if nodes.any (collection.hasKey key) then collection.replaceKey key record nodes
      else nodes ++ [record]

namespace Graph

/-- The graph with one logged record. -/
def replayWrite (graph : Graph) (write : String × Value) : Graph :=
  match graph.collection write.1 with
  | .error _ => graph
  | .ok collection =>
      { graph with
        store := graph.store.setNodes write.1
          (collection.absorb write.2 (graph.nodes write.1)) }

/-- The graph with logged records, in order. -/
def replay (graph : Graph) (writes : List (String × Value)) : Graph :=
  writes.foldl replayWrite graph

theorem replay_append (graph : Graph) (first rest : List (String × Value)) :
    graph.replay (first ++ rest) = (graph.replay first).replay rest :=
  List.foldl_append

end Graph

namespace Turn

variable {State : Type} {runtime : Runtime State} {turn : Turn} {name key : String}
  {payload record : Value} {collection : Collection}

/-- The record of a turn has the place that its log entry takes. -/
theorem Hands.absorb_eq_place (hands : Hands runtime name payload turn collection key record)
    (fresh : turn.freshId runtime name payload = true) :
    collection.absorb record (runtime.graph.nodes name) =
      turn.place collection key record (runtime.graph.nodes name) := by
  unfold Collection.absorb
  rw [hands.keyOf?_record]
  cases turn with
  | create => simp [place, hands.free fresh]
  | update => simp [place, hands.held]

theorem Hands.graph_accept (hands : Hands runtime name payload turn collection key record)
    (fresh : turn.freshId runtime name payload = true) (state : State) :
    (turn.accept runtime name collection key record state).graph =
      runtime.graph.replay [(name, record)] := by
  simp only [Graph.replay, List.foldl_cons, List.foldl_nil, Graph.replayWrite, hands.known,
    hands.absorb_eq_place fresh]
  cases turn <;> rfl

/-- A turn over a source in memory logs at most one record, and does to the nodes what replaying
it does. -/
theorem take_replays (turn : Turn) (runtime : Runtime Content.MemoryStore) (name : String)
    (payload : Value) (fresh : turn.freshId runtime name payload = true) :
    ∃ writes,
      (turn.take Content.MemoryStore.source runtime name payload).2.state.writes =
        runtime.state.writes ++ writes ∧
      (turn.take Content.MemoryStore.source runtime name payload).2.graph =
        runtime.graph.replay writes := by
  have outcome := take_outcome Content.MemoryStore.source turn runtime name payload
  generalize turn.take Content.MemoryStore.source runtime name payload = result at outcome ⊢
  cases outcome with
  | refused failure => exact ⟨[], by simp, rfl⟩
  | failed hands put => cases put
  | @stored collection key record stored state hands put =>
      cases put
      refine ⟨[(name, record)], ?_, hands.graph_accept fresh _⟩
      simp [← hands.name_eq, Collection.name]

end Turn

namespace Session

/-- The nodes and the log of a source in memory never drift apart.  After every run of mutations,
in any order of turns and with those that fail among them, replaying what the run logged over the
nodes at its start gives the nodes at its end, in every collection and in order. -/
theorem run_replays_writes (session : Session Content.MemoryStore) (schedule : List Nat)
    (fresh : session.freshIds Content.MemoryStore.source schedule = true) :
    ∃ writes,
      (session.run Content.MemoryStore.source schedule).runtime.state.writes =
        session.runtime.state.writes ++ writes ∧
      (session.run Content.MemoryStore.source schedule).runtime.graph =
        session.runtime.graph.replay writes := by
  refine run_induction (motive := fun reached => ∃ writes,
    reached.runtime.state.writes = session.runtime.state.writes ++ writes ∧
      reached.runtime.graph = session.runtime.graph.replay writes) ?_ fresh ⟨[], by simp, rfl⟩
  rintro reached index freshHere ⟨writes, logged, replayed⟩
  rcases step_cases Content.MemoryStore.source reached index with
    ⟨passes, _⟩ | ⟨task, turn, found, next, _⟩
  · rw [passes]
    exact ⟨writes, logged, replayed⟩
  · have freshTurn : turn.freshId reached.runtime task.collection task.payload = true := by
      simpa [freshAt, found, next] using freshHere
    obtain ⟨added, loggedMore, replayedMore⟩ :=
      Turn.take_replays turn reached.runtime task.collection task.payload freshTurn
    rw [step_of_turn found next]
    refine ⟨writes ++ added, ?_, ?_⟩
    · rw [loggedMore, logged, List.append_assoc]
    · rw [replayedMore, replayed, Graph.replay_append]

/-- Posts of which two have one id and one has none, with an update and a create that fail, a
create that makes its id up, and an upsert. -/
def sampleLogged : Session Content.MemoryStore where
  runtime := sampleRuntime [
    samplePost "a" "First", .object [("title", .string "None")], samplePost "a" "Second"]
  tasks := [
    { kind := .update, collection := "Post", payload := samplePayload "b" "Missing" },
    { kind := .create, collection := "Post", payload := samplePayload "a" "Taken" },
    { kind := .create, collection := "Post", payload := .object [("title", .string "Made up")] },
    { kind := .upsert, collection := "Post", payload := samplePayload "a" "Changed" }]

theorem run_replays_writes_sampleLogged :
    sampleLogged.freshIds Content.MemoryStore.source [0, 1, 2, 3] = true ∧
      ∃ writes,
        (sampleLogged.run Content.MemoryStore.source [0, 1, 2, 3]).runtime.state.writes =
          sampleLogged.runtime.state.writes ++ writes ∧
        (sampleLogged.run Content.MemoryStore.source [0, 1, 2, 3]).runtime.graph =
          sampleLogged.runtime.graph.replay writes :=
  have fresh : sampleLogged.freshIds Content.MemoryStore.source [0, 1, 2, 3] = true := by decide
  ⟨fresh, run_replays_writes sampleLogged [0, 1, 2, 3] fresh⟩

end Session

end ContentGraph
