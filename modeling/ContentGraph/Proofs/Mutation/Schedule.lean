import ContentGraph.Proofs.Mutation.Turn

/-!
Contract: mutations that run side by side.

Owns:
- `Task`, a mutation with how far it has come, and `Session`, a runtime with its tasks;
- a step, in which one task takes its next turn at the store, and a run by a schedule, which says
  whose turn comes when.  A task whose turns are over, or that is not there, lets its step pass;
- the history of a run;
- what a run makes of the stage of every task, where every step does one thing to it (`run_turns`);
- the promise that ids are fresh, which the maker of ids gives and the graph does not check.

A task that is left alone does what its mutation does (`run_alone`), so that schedules only add
the turns of others between the two turns of an upsert.
-/

namespace ContentGraph

open ContentGraph.Json

/-- How far a mutation has come. -/
inductive Stage where
  | waiting
  /-- The update turn of an upsert found no record: its create turn comes next. -/
  | creating
  | done (answer : Except Failure Value)

/-- What a number of turns make of a stage, where each of them does the same. -/
inductive Stage.Turns (turn : Stage -> Stage -> Prop) : Nat -> Stage -> Stage -> Prop where
  | none (stage : Stage) : Turns turn 0 stage stage
  | more {first second third : Stage} {count : Nat} (once : turn first second)
      (rest : Turns turn count second third) : Turns turn (count + 1) first third

/-- A mutation with how far it has come. -/
structure Task where
  kind : MutationKind
  collection : String
  payload : Value
  stage : Stage := .waiting

namespace Task

/-- The turn that a task takes next. -/
def next? (task : Task) : Option Turn :=
  match task.stage, task.kind with
  | .waiting, .create => some .create
  | .waiting, .update => some .update
  | .waiting, .upsert => some .update
  | .creating, _ => some .create
  | .done _, _ => none

/-- The task after a turn with an answer: an upsert whose update turn asks for a create goes on,
every other task is done. -/
def settle (task : Task) (answer : Except Failure Value) : Task :=
  match task.kind, task.stage, answer with
  | .upsert, .waiting, .error failure =>
      { task with
        stage := if Runtime.asksForCreate failure then .creating else .done (.error failure) }
  | _, _, _ => { task with stage := .done answer }

theorem settle_ok (task : Task) (stored : Value) :
    task.settle (.ok stored) = { task with stage := .done (.ok stored) } := by
  simp [settle]

theorem settle_of_creating {task : Task} (creates : task.stage = .creating)
    (answer : Except Failure Value) :
    task.settle answer = { task with stage := .done answer } := by
  simp [settle, creates]

end Task

/-- What happened in a turn. -/
structure Event where
  turn : Turn
  collection : String
  /-- The reference value that the turn was about. -/
  key? : Option String
  answer : Except Failure Value

/-- A runtime with the mutations that run over it. -/
structure Session (State : Type) where
  runtime : Runtime State
  tasks : List Task

namespace Session

variable {State : Type}

/-- What happens when a task takes its next turn. -/
def event? (source : Content.Source State) (session : Session State) (index : Nat) :
    Option Event := do
  let task ← session.tasks[index]?
  let turn ← task.next?
  some {
    turn
    collection := task.collection
    key? := turn.key? session.runtime task.collection task.payload
    answer := (turn.take source session.runtime task.collection task.payload).1 }

/-- One task takes its next turn. -/
def step (source : Content.Source State) (session : Session State) (index : Nat) :
    Session State :=
  match session.tasks[index]? with
  | none => session
  | some task =>
      match task.next? with
      | none => session
      | some turn =>
          let (answer, runtime) := turn.take source session.runtime task.collection task.payload
          { runtime, tasks := session.tasks.set index (task.settle answer) }

/-- The tasks take turns in the order of a schedule. -/
def run (source : Content.Source State) (session : Session State) (schedule : List Nat) :
    Session State :=
  schedule.foldl (step source) session

/-- What happened in a run. -/
def history (source : Content.Source State) (session : Session State) : List Nat -> List Event
  | [] => []
  | index :: later =>
      (session.event? source index).toList ++ history source (session.step source index) later

/-- The id that the next turn of a task makes up, if it makes one up, is no node's. -/
def freshAt (session : Session State) (index : Nat) : Bool :=
  match session.tasks[index]? with
  | none => true
  | some task =>
      match task.next? with
      | none => true
      | some turn => turn.freshId session.runtime task.collection task.payload

/-- Every id that is made up in a run is fresh. -/
def freshIds (source : Content.Source State) (session : Session State) : List Nat -> Bool
  | [] => true
  | index :: later =>
      session.freshAt index && freshIds source (session.step source index) later

/-! ### Steps -/

theorem step_of_turn {source : Content.Source State} {session : Session State} {index : Nat}
    {task : Task} {turn : Turn} (found : session.tasks[index]? = some task)
    (next : task.next? = some turn) :
    session.step source index =
      { runtime := (turn.take source session.runtime task.collection task.payload).2
        tasks := session.tasks.set index
          (task.settle (turn.take source session.runtime task.collection task.payload).1) } := by
  simp only [step, found, next]

theorem step_of_done {source : Content.Source State} {session : Session State} {index : Nat}
    {task : Task} (found : session.tasks[index]? = some task) (next : task.next? = none) :
    session.step source index = session := by
  simp only [step, found, next]

/-- The create turn of an upsert is its last. -/
theorem step_of_creating {source : Content.Source State} {session : Session State} {index : Nat}
    {task : Task} (found : session.tasks[index]? = some task) (creates : task.stage = .creating) :
    session.step source index =
      let (answer, runtime) :=
        Turn.create.take source session.runtime task.collection task.payload
      { runtime, tasks := session.tasks.set index { task with stage := .done answer } } := by
  have next : task.next? = some .create := by simp only [Task.next?, creates]
  rw [step_of_turn found next, Task.settle_of_creating creates]

/-- A step passes, or is a turn of its task. -/
theorem step_cases (source : Content.Source State) (session : Session State) (index : Nat) :
    (session.step source index = session ∧ session.event? source index = none) ∨
    ∃ task turn, session.tasks[index]? = some task ∧ task.next? = some turn ∧
      session.event? source index = some {
        turn
        collection := task.collection
        key? := turn.key? session.runtime task.collection task.payload
        answer := (turn.take source session.runtime task.collection task.payload).1 } := by
  cases found : session.tasks[index]? with
  | none => exact .inl ⟨by simp only [step, found], by simp [event?, found]⟩
  | some task =>
      cases next : task.next? with
      | none => exact .inl ⟨step_of_done found next, by simp [event?, found, next]⟩
      | some turn => exact .inr ⟨task, turn, rfl, next, by simp [event?, found, next]⟩

@[simp] theorem run_nil (source : Content.Source State) (session : Session State) :
    session.run source [] = session := rfl

@[simp] theorem run_cons (source : Content.Source State) (session : Session State) (index : Nat)
    (later : List Nat) :
    session.run source (index :: later) = (session.step source index).run source later := rfl

theorem freshIds_cons {source : Content.Source State} {session : Session State} {index : Nat}
    {later : List Nat} :
    session.freshIds source (index :: later) = true ↔
      session.freshAt index = true ∧
        (session.step source index).freshIds source later = true := by
  simp [freshIds]

/-- What holds at the start and is kept by every step with fresh ids holds after every run. -/
theorem run_induction {source : Content.Source State} {motive : Session State -> Prop}
    (step_keeps : ∀ session index, session.freshAt index = true -> motive session ->
      motive (session.step source index))
    {session : Session State} {schedule : List Nat}
    (fresh : session.freshIds source schedule = true) (start : motive session) :
    motive (session.run source schedule) := by
  induction schedule generalizing session with
  | nil => exact start
  | cons index later inductionHypothesis =>
      obtain ⟨freshHere, freshLater⟩ := freshIds_cons.mp fresh
      exact inductionHypothesis freshLater (step_keeps session index freshHere start)

/-- In a run with fresh ids the ids are fresh in every step. -/
theorem freshAt_of_freshIds {source : Content.Source State} {session : Session State}
    {earlier later : List Nat} {index : Nat}
    (fresh : session.freshIds source (earlier ++ index :: later) = true) :
    (session.run source earlier).freshAt index = true := by
  induction earlier generalizing session with
  | nil => exact (freshIds_cons.mp fresh).1
  | cons first rest inductionHypothesis =>
      exact inductionHypothesis (freshIds_cons.mp fresh).2

/-! ### Stages -/

/-- A step of a task that is done passes. -/
theorem step_of_stage_done {source : Content.Source State} {session : Session State} {index : Nat}
    {task : Task} {answer : Except Failure Value} (found : session.tasks[index]? = some task)
    (isDone : task.stage = .done answer) :
    session.step source index =
      { session with tasks := session.tasks.set index { task with stage := .done answer } } := by
  have next : task.next? = none := by simp [Task.next?, isDone]
  have same : session.tasks.set index { task with stage := .done answer } = session.tasks := by
    obtain ⟨inside, rfl⟩ := List.getElem?_eq_some_iff.mp found
    rw [← isDone]
    exact List.set_getElem_self inside
  rw [step_of_done found next, same]

theorem getElem?_step_of_ne {source : Content.Source State} {session : Session State}
    {index other : Nat} (different : other ≠ index) :
    (session.step source index).tasks[other]? = session.tasks[other]? := by
  cases found : session.tasks[index]? with
  | none => simp only [step, found]
  | some task =>
      cases next : task.next? with
      | none => rw [step_of_done found next]
      | some turn => rw [step_of_turn found next, List.getElem?_set_ne different.symm]

theorem length_tasks_step {source : Content.Source State} {session : Session State}
    {index : Nat} : (session.step source index).tasks.length = session.tasks.length := by
  cases found : session.tasks[index]? with
  | none => simp only [step, found]
  | some task =>
      cases next : task.next? with
      | none => rw [step_of_done found next]
      | some turn => rw [step_of_turn found next, List.length_set]

theorem length_tasks_run {source : Content.Source State} {session : Session State}
    {schedule : List Nat} :
    (session.run source schedule).tasks.length = session.tasks.length := by
  induction schedule generalizing session with
  | nil => rfl
  | cons index later inductionHypothesis =>
      rw [run_cons, inductionHypothesis, length_tasks_step]

/-- Where every step keeps an invariant and does one thing to the stage of its task, a run keeps
the invariant and does it as often as the task has a turn. -/
theorem run_turns (source : Content.Source State) (invariant : Session State -> Prop)
    {turn : Stage -> Stage -> Prop}
    (step_turns : ∀ session index task, invariant session -> session.tasks[index]? = some task ->
      ∃ stage, turn task.stage stage ∧
        (session.step source index).tasks = session.tasks.set index { task with stage } ∧
        invariant (session.step source index))
    {session : Session State} (start : invariant session) (schedule : List Nat) :
    invariant (session.run source schedule) ∧
      ∀ index task, session.tasks[index]? = some task ->
        ∃ stage, (session.run source schedule).tasks[index]? = some { task with stage } ∧
          Stage.Turns turn (schedule.count index) task.stage stage := by
  induction schedule generalizing session with
  | nil => exact ⟨start, fun index task found => ⟨task.stage, found, .none task.stage⟩⟩
  | cons first later inductionHypothesis =>
      rw [run_cons]
      cases foundFirst : session.tasks[first]? with
      | none =>
          have passes : session.step source first = session := by simp only [step, foundFirst]
          obtain ⟨kept, turns⟩ := inductionHypothesis start
          rw [passes]
          refine ⟨kept, ?_⟩
          intro index task found
          have different : first ≠ index := by
            rintro rfl
            cases foundFirst.symm.trans found
          rw [List.count_cons_of_ne different]
          exact turns index task found
      | some firstTask =>
          obtain ⟨stage, once, tasks, keptFirst⟩ :=
            step_turns session first firstTask start foundFirst
          obtain ⟨kept, turns⟩ := inductionHypothesis keptFirst
          refine ⟨kept, ?_⟩
          intro index task found
          by_cases isFirst : index = first
          · subst isFirst
            cases foundFirst.symm.trans found
            have inside : index < session.tasks.length := (List.getElem?_eq_some_iff.mp found).1
            obtain ⟨last, reached, rest⟩ := turns index { firstTask with stage }
              (by rw [tasks, List.getElem?_set_self inside])
            refine ⟨last, reached, ?_⟩
            rw [List.count_cons_self]
            exact .more once rest
          · rw [List.count_cons_of_ne (Ne.symm isFirst)]
            exact turns index task ((getElem?_step_of_ne isFirst).trans found)

/-- A task that is done stays as it is in every run. -/
theorem run_of_stage_done {source : Content.Source State} {session : Session State} {index : Nat}
    {task : Task} {answer : Except Failure Value} {schedule : List Nat}
    (found : session.tasks[index]? = some task) (isDone : task.stage = .done answer) :
    (session.run source schedule).tasks[index]? = some task := by
  induction schedule generalizing session with
  | nil => exact found
  | cons first later inductionHypothesis =>
      rw [run_cons]
      refine inductionHypothesis ?_
      by_cases isFirst : index = first
      · subst isFirst
        rw [step_of_done found (by simp [Task.next?, isDone]), found]
      · rw [getElem?_step_of_ne isFirst, found]

/-! ### A task alone -/

/-- A task that takes both of its turns with no other turn between them does what its mutation
does. -/
theorem run_alone (source : Content.Source State) (session : Session State) (index : Nat)
    (task : Task) (found : session.tasks[index]? = some task) (waits : task.stage = .waiting) :
    session.run source [index, index] =
      let (answer, runtime) :=
        Query.mutate source task.kind session.runtime task.collection task.payload
      { runtime, tasks := session.tasks.set index { task with stage := .done answer } } := by
  have inside : index < session.tasks.length := (List.getElem?_eq_some_iff.mp found).1
  have setFound (later : Task) : (session.tasks.set index later)[index]? = some later :=
    List.getElem?_set_self inside
  obtain ⟨kind, collection, payload, stage⟩ := task
  subst waits
  rw [run_cons, run_cons, run_nil]
  cases kind with
  | create => rw [step_of_turn found rfl, step_of_done (setFound _) rfl]; rfl
  | update => rw [step_of_turn found rfl, step_of_done (setFound _) rfl]; rfl
  | upsert =>
      rw [step_of_turn found rfl]
      simp only [Query.mutate, Runtime.upsert_eq_turns]
      cases Turn.update.take source session.runtime collection payload with
      | mk answer after =>
          cases answer with
          | ok stored => exact step_of_done (setFound _) rfl
          | error failure =>
              by_cases asks : Runtime.asksForCreate failure = true
              · simp only [Task.settle, asks, ↓reduceIte]
                rw [step_of_turn (setFound _) rfl, List.set_set]
                rfl
              · simp only [Task.settle, asks]
                exact step_of_done (setFound _) rfl

end Session

/-! ### Posts -/

/-- Posts need a title, and one of their graph names differs from its content key. -/
def samplePosts : Collection where
  entry := { name := "Post", path := "posts", requiredFields := ["title"] }
  shape := [
    .mk "id" "id" (.scalar .string),
    .mk "title" "title" (.scalar .string),
    .mk "wordCount" "word_count" (.scalar .int)]

/-- A post with an id, under graph names. -/
def samplePayload (id title : String) : Value :=
  .object [("id", .string id), ("title", .string title), ("wordCount", .ofInt 3)]

/-- A stored post. -/
def samplePost (id title : String) : Value :=
  .object [("id", .string id), ("title", .string title), ("word_count", .ofInt 3)]

/-- Posts over a source in memory, with the one made-up id `4f3c`. -/
def sampleRuntime (nodes : List Value) : Runtime Content.MemoryStore where
  graph := { collections := [samplePosts], store := [("Post", nodes)] }
  state := {}
  nextId := 0
  idOf _ := "4f3c"

end ContentGraph
