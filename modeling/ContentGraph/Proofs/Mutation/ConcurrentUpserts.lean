import ContentGraph.Proofs.Mutation.Schedule
import ContentGraph.Proofs.Mutation.UpsertTurn

/-!
Contract: upserts of one reference value that run side by side.

Owns:
- `overtaken`, the upserts whose create turn comes after another one's although their update turn
  came before it, read off the schedule;
- what a turn of such an upsert does to its stage, by whether some node has the reference value;
- the answer of every upsert of every complete schedule (`refusal?`).  Where no node has the
  reference value at the start and new records can be created, an overtaken upsert finds the value
  taken and fails, and every other one succeeds.

An upsert lets go of the store between its two turns, so that it does not always succeed
(`overtaken_upsert_fails`).
-/

namespace ContentGraph

open ContentGraph.Json

/-! ### Overtaking -/

/-- The upserts that are overtaken in a schedule, after those of `seen` took their update turns:
the first of them to have its create turn overtakes the others. -/
def overtaken (seen : List Nat) : List Nat -> List Nat
  | [] => []
  | index :: later =>
      if index ∈ seen then seen.filter fun other => other != index
      else overtaken (index :: seen) later

theorem mem_of_mem_overtaken {seen schedule : List Nat} {index : Nat}
    (member : index ∈ overtaken seen schedule) : index ∈ seen ∨ index ∈ schedule := by
  induction schedule generalizing seen with
  | nil => cases member
  | cons first later inductionHypothesis =>
      rw [overtaken] at member
      split at member
      · exact .inl (List.mem_filter.mp member).1
      · rcases inductionHypothesis member with inSeen | inLater
        · rcases List.mem_cons.mp inSeen with rfl | inSeen
          · exact .inr (by simp)
          · exact .inl inSeen
        · exact .inr (by simp [inLater])

/-- Of two upserts with their update turns over, one is overtaken as soon as a create turn
comes. -/
theorem overtaken_ne_nil {seen schedule : List Nat} {index : Nat} (distinct : seen.Nodup)
    (two : 2 ≤ seen.length) (isSeen : index ∈ seen) (creates : index ∈ schedule) :
    overtaken seen schedule ≠ [] := by
  induction schedule generalizing seen with
  | nil => cases creates
  | cons first later inductionHypothesis =>
      rw [overtaken]
      split
      · next firstSeen =>
          rw [← distinct.erase_eq_filter]
          intro none
          have length := List.length_erase_of_mem firstSeen
          rw [none, List.length_nil] at length
          omega
      · next new =>
          have different : index ≠ first := fun equal => new (equal ▸ isSeen)
          refine inductionHypothesis (List.nodup_cons.mpr ⟨new, distinct⟩) ?_ ?_ ?_
          · rw [List.length_cons]
            omega
          · exact List.mem_cons_of_mem first isSeen
          · exact (List.mem_cons.mp creates).resolve_left different

/-! ### Stages of upserts -/

namespace Stage

/-- A turn of an upsert at a time at which some node has its reference value. -/
inductive Settles (taken : Failure) : Stage -> Stage -> Prop where
  | updated (stored : Value) : Settles taken .waiting (.done (.ok stored))
  | overtaken : Settles taken .creating (.done (.error taken))
  | finished (answer : Except Failure Value) : Settles taken (.done answer) (.done answer)

/-- A turn of an upsert that no turn creates a record for. -/
inductive Misses (barred : Failure) : Stage -> Stage -> Prop where
  | notFound : Misses barred .waiting .creating
  | notCreated : Misses barred .creating (.done (.error barred))
  | finished (answer : Except Failure Value) : Misses barred (.done answer) (.done answer)

/-- Some node has the reference value: an upsert is settled after one turn. -/
theorem Turns.settles {taken : Failure} {count : Nat} {first last : Stage}
    (turns : Turns (Settles taken) count first last) (hasTurn : 0 < count) :
    first.Settles taken last := by
  induction turns with
  | none => omega
  | @more first second third count once rest inductionHypothesis =>
      cases rest with
      | none => exact once
      | more next rest =>
          have settled := inductionHypothesis (by omega)
          cases once <;> cases settled <;> constructor

private theorem Turns.misses_of_done {barred : Failure} {count : Nat} {first last : Stage}
    {answer : Except Failure Value} (turns : Turns (Misses barred) count first last)
    (isDone : first = .done answer) : last = .done answer := by
  induction turns with
  | none => exact isDone
  | more once rest inductionHypothesis =>
      subst isDone
      cases once
      exact inductionHypothesis rfl

/-- No record can be created: an upsert has failed after two turns. -/
theorem Turns.misses {barred : Failure} {count : Nat} {last : Stage}
    (turns : Turns (Misses barred) count .waiting last) (complete : 2 ≤ count) :
    last = .done (.error barred) := by
  cases turns with
  | none => omega
  | more once rest =>
      cases once
      cases rest with
      | none => omega
      | more next rest =>
          cases next
          exact rest.misses_of_done rfl

end Stage

/-- A task is an upsert of a reference value, with a payload that has all that a new record
needs. -/
structure Task.Upserts (task : Task) (collection : Collection) (name key : String) : Prop where
  kind : task.kind = .upsert
  named : task.collection = name
  described : collection.describes key task.payload = true

namespace Session

variable {State : Type} {source : Content.Source State} {session : Session State}
  {collection : Collection} {name key : String} {task : Task} {index : Nat}
  {schedule : List Nat}

/-- The number of nodes of a collection with a reference value. -/
def keyCount (session : Session State) (collection : Collection) (name key : String) : Nat :=
  (session.runtime.graph.nodes name).countP (collection.hasKey key)

/-- All tasks are upserts of one reference value. -/
structure Upserts (session : Session State) (collection : Collection) (name key : String) :
    Prop where
  known : session.runtime.graph.collection name = .ok collection
  each : ∀ task ∈ session.tasks, task.Upserts collection name key

theorem any_hasKey_iff :
    (session.runtime.graph.nodes name).any (collection.hasKey key) = true ↔
      0 < session.keyCount collection name key := by
  rw [List.any_eq_true, keyCount, List.countP_pos_iff]

theorem not_any_hasKey_iff :
    (session.runtime.graph.nodes name).any (collection.hasKey key) = false ↔
      session.keyCount collection name key = 0 := by
  rw [List.any_eq_false, keyCount, List.countP_eq_zero]

/-! ### Steps -/

namespace Upserts

/-- A turn leaves the collection and the requests of its task as they are. -/
theorem set {after : Runtime State} (upserts : session.Upserts collection name key)
    (known : after.graph.collection name = .ok collection)
    (found : session.tasks[index]? = some task) (stage : Stage) :
    Upserts { runtime := after, tasks := session.tasks.set index { task with stage } }
      collection name key := by
  have request := upserts.each task (List.mem_of_getElem? found)
  refine ⟨known, ?_⟩
  intro other isTask
  rcases List.mem_or_eq_of_mem_set isTask with old | rfl
  · exact upserts.each other old
  · exact ⟨request.kind, request.named, request.described⟩

/-- A step at a time at which some node has the reference value: the task is settled, and the
number of such nodes stays. -/
theorem step_of_held (upserts : session.Upserts collection name key)
    (echoes : source.Echoes) (held : 0 < session.keyCount collection name key)
    (found : session.tasks[index]? = some task) :
    ∃ stage, task.stage.Settles (collection.taken key) stage ∧
      (session.step source index).tasks = session.tasks.set index { task with stage } ∧
      (session.step source index).Upserts collection name key ∧
      (session.step source index).keyCount collection name key =
        session.keyCount collection name key := by
  obtain ⟨isUpsert, rfl, described⟩ := upserts.each task (List.mem_of_getElem? found)
  have heldNode := any_hasKey_iff.mpr held
  cases stage : task.stage with
  | waiting =>
      have next : task.next? = some .update := by simp [Task.next?, stage, isUpsert]
      obtain ⟨stored, after, taken, known, count⟩ :=
        Turn.update_of_held echoes upserts.known described heldNode
      rw [step_of_turn found next, taken, Task.settle_ok]
      exact ⟨_, .updated stored, rfl, upserts.set known found _, count⟩
  | creating =>
      have taken := Turn.create_of_held source upserts.known described heldNode
      rw [step_of_creating found stage, taken]
      exact ⟨_, .overtaken, rfl, upserts.set upserts.known found _, rfl⟩
  | done answer =>
      rw [step_of_stage_done found stage]
      exact ⟨_, .finished answer, rfl, upserts.set upserts.known found _, rfl⟩

/-- A step at a time at which no node has the reference value, of an upsert that waits: nothing
is found, and the create turn comes next. -/
theorem step_of_free_waiting (upserts : session.Upserts collection name key)
    (free : session.keyCount collection name key = 0)
    (found : session.tasks[index]? = some task) (waits : task.stage = .waiting) :
    session.step source index =
      { session with tasks := session.tasks.set index { task with stage := .creating } } := by
  obtain ⟨isUpsert, rfl, described⟩ := upserts.each task (List.mem_of_getElem? found)
  have next : task.next? = some .update := by simp [Task.next?, waits, isUpsert]
  have taken := Turn.update_of_free source upserts.known described
    (not_any_hasKey_iff.mpr free)
  have settled : task.settle
      (.error (.notFound collection.name collection.referenceField key)) =
        { task with stage := .creating } := by
    simp [Task.settle, waits, isUpsert, Runtime.asksForCreate]
  rw [step_of_turn found next, taken, settled]

/-- A step at a time at which no node has the reference value, of an upsert whose update turn is
over: the upsert succeeds and adds the node. -/
theorem step_of_free_creating (upserts : session.Upserts collection name key)
    (echoes : source.Echoes) (isOpen : collection.barrier? = none)
    (free : session.keyCount collection name key = 0)
    (found : session.tasks[index]? = some task) (creates : task.stage = .creating) :
    ∃ stored,
      (session.step source index).tasks =
        session.tasks.set index { task with stage := .done (.ok stored) } ∧
      (session.step source index).Upserts collection name key ∧
      (session.step source index).keyCount collection name key = 1 := by
  obtain ⟨_, rfl, described⟩ := upserts.each task (List.mem_of_getElem? found)
  obtain ⟨stored, after, taken, known, count⟩ := Turn.create_of_free echoes upserts.known
    described isOpen (not_any_hasKey_iff.mpr free)
  have one : (after.graph.nodes task.collection).countP (collection.hasKey key) = 1 := by
    rw [count]
    exact congrArg (· + 1) free
  rw [step_of_creating found creates, taken]
  exact ⟨stored, rfl, upserts.set known found _, one⟩

/-- A step at a time at which no node has the reference value, where no record can be created. -/
theorem step_of_barred (upserts : session.Upserts collection name key) {field : String}
    (barred : collection.barrier? = some field)
    (free : session.keyCount collection name key = 0)
    (found : session.tasks[index]? = some task) :
    ∃ stage, task.stage.Misses (.missingRequiredField collection.name field) stage ∧
      (session.step source index).tasks = session.tasks.set index { task with stage } ∧
      (session.step source index).Upserts collection name key ∧
      (session.step source index).keyCount collection name key = 0 := by
  cases stage : task.stage with
  | waiting =>
      rw [upserts.step_of_free_waiting free found stage]
      exact ⟨_, .notFound, rfl, upserts.set upserts.known found _, free⟩
  | creating =>
      obtain ⟨_, rfl, described⟩ := upserts.each task (List.mem_of_getElem? found)
      have taken := Turn.create_of_barred source upserts.known described barred
        (not_any_hasKey_iff.mpr free)
      rw [step_of_creating found stage, taken]
      exact ⟨_, .notCreated, rfl, upserts.set upserts.known found _, free⟩
  | done answer =>
      rw [step_of_stage_done found stage]
      exact ⟨_, .finished answer, rfl, upserts.set upserts.known found _, free⟩

/-! ### Runs -/

/-- A run that starts when some node has the reference value: the tasks that have a turn are
settled, and the number of such nodes stays. -/
theorem run_of_held (upserts : session.Upserts collection name key)
    (echoes : source.Echoes) (held : 0 < session.keyCount collection name key)
    (schedule : List Nat) :
    (session.run source schedule).keyCount collection name key =
        session.keyCount collection name key ∧
      ∀ index task, session.tasks[index]? = some task -> index ∈ schedule ->
        ∃ stage, (session.run source schedule).tasks[index]? = some { task with stage } ∧
          task.stage.Settles (collection.taken key) stage := by
  have step_turns (reached : Session State) (index : Nat) (task : Task)
      (holding : reached.Upserts collection name key ∧
        reached.keyCount collection name key = session.keyCount collection name key)
      (found : reached.tasks[index]? = some task) :
      ∃ stage, task.stage.Settles (collection.taken key) stage ∧
        (reached.step source index).tasks = reached.tasks.set index { task with stage } ∧
        (reached.step source index).Upserts collection name key ∧
        (reached.step source index).keyCount collection name key =
          session.keyCount collection name key := by
    obtain ⟨upsertsReached, same⟩ := holding
    rw [← same] at held ⊢
    exact upsertsReached.step_of_held echoes held found
  obtain ⟨⟨_, count⟩, turns⟩ := run_turns source
    (fun reached => reached.Upserts collection name key ∧
      reached.keyCount collection name key = session.keyCount collection name key)
    step_turns ⟨upserts, rfl⟩ schedule
  refine ⟨count, ?_⟩
  intro index task found hasTurn
  obtain ⟨stage, reached, settles⟩ := turns index task found
  exact ⟨stage, reached, settles.settles (List.count_pos_iff.mpr hasTurn)⟩

/-- A run that starts when no node has the reference value, where no record can be created: every
upsert with two turns fails, and no node is added. -/
theorem run_of_barred (upserts : session.Upserts collection name key)
    (source : Content.Source State) {field : String}
    (barred : collection.barrier? = some field)
    (free : session.keyCount collection name key = 0) (schedule : List Nat) :
    (session.run source schedule).keyCount collection name key = 0 ∧
      ∀ index task, session.tasks[index]? = some task -> task.stage = .waiting ->
        2 ≤ schedule.count index ->
          (session.run source schedule).tasks[index]? =
            some { task with
              stage := .done (.error (.missingRequiredField collection.name field)) } := by
  obtain ⟨⟨_, none⟩, turns⟩ := run_turns source
    (fun reached => reached.Upserts collection name key ∧
      reached.keyCount collection name key = 0)
    (fun _ _ _ holding found => holding.1.step_of_barred barred holding.2 found)
    ⟨upserts, free⟩ schedule
  refine ⟨none, ?_⟩
  intro index task found waits complete
  obtain ⟨stage, reached, misses⟩ := turns index task found
  rw [waits] at misses
  rw [reached, misses.misses complete]

end Upserts

/-- Where an upsert stands before the first create turn: the update turns found nothing. -/
def BeforeCreate (session : Session State) (seen : List Nat) : Prop :=
  ∀ index task, session.tasks[index]? = some task ->
    task.stage = if index ∈ seen then .creating else .waiting

/-- What is left of a schedule in which every task has both of its turns. -/
def Completes (session : Session State) (seen schedule : List Nat) : Prop :=
  (∀ index ∈ schedule, index < session.tasks.length) ∧
    ∀ index, index < session.tasks.length ->
      2 ≤ schedule.count index + (if index ∈ seen then 1 else 0)

/-- The answer of an upsert: one that is overtaken fails, every other one succeeds. -/
def Answers (taken : Failure) (overtaken : List Nat) (index : Nat) (stage : Stage) : Prop :=
  if index ∈ overtaken then stage = .done (.error taken)
  else ∃ stored, stage = .done (.ok stored)

/-- The task that takes its update turn before the first create turn comes to those that were
seen. -/
theorem BeforeCreate.set {seen : List Nat} (before : session.BeforeCreate seen)
    (found : session.tasks[index]? = some task) :
    BeforeCreate
      { session with tasks := session.tasks.set index { task with stage := .creating } }
      (index :: seen) := by
  intro other otherTask foundOther
  have inside : index < session.tasks.length := (List.getElem?_eq_some_iff.mp found).1
  by_cases isIndex : other = index
  · subst isIndex
    rw [List.getElem?_set_self inside] at foundOther
    cases foundOther
    simp
  · rw [List.getElem?_set_ne (Ne.symm isIndex)] at foundOther
    simpa [isIndex] using before other otherTask foundOther

theorem Completes.set {seen later : List Nat} {changed : Task} (new : index ∉ seen)
    (completes : session.Completes seen (index :: later)) :
    Completes { session with tasks := session.tasks.set index changed } (index :: seen) later := by
  refine ⟨?_, ?_⟩
  · intro other member
    rw [List.length_set]
    exact completes.1 other (List.mem_cons_of_mem _ member)
  · intro other inside
    rw [List.length_set] at inside
    have enough := completes.2 other inside
    by_cases isIndex : other = index
    · subst isIndex
      simp only [List.count_cons_self, new, ↓reduceIte] at enough
      simp only [List.mem_cons_self, ↓reduceIte]
      omega
    · simpa [List.count_cons_of_ne (Ne.symm isIndex), isIndex] using enough

/-- A task that was not the first one of what is left of a schedule still has a turn. -/
theorem Completes.mem_later {seen later : List Nat} {other : Nat}
    (completes : session.Completes seen (index :: later)) (inside : other < session.tasks.length)
    (different : other ≠ index) : other ∈ later := by
  have enough := completes.2 other inside
  rw [List.count_cons_of_ne (Ne.symm different)] at enough
  have positive : 0 < later.count other := by
    split at enough <;> omega
  exact List.count_pos_iff.mp positive

/-- In a complete schedule every task has both of its turns. -/
theorem Completes.two_le_count (completes : session.Completes [] schedule)
    (inside : index < session.tasks.length) : 2 ≤ schedule.count index := by
  simpa using completes.2 index inside

/-- The run from the first create turn on: that upsert adds the node, the others that were seen
find it there, and those that were not seen update it. -/
theorem Upserts.run_of_create (upserts : session.Upserts collection name key)
    (echoes : source.Echoes) (isOpen : collection.barrier? = none)
    (free : session.keyCount collection name key = 0)
    {seen later : List Nat} (before : session.BeforeCreate seen)
    (completes : session.Completes seen (index :: later)) (isSeen : index ∈ seen)
    (found : session.tasks[index]? = some task) :
    ((session.step source index).run source later).keyCount collection name key = 1 ∧
      ∀ other otherTask, session.tasks[other]? = some otherTask ->
        ∃ stage,
          ((session.step source index).run source later).tasks[other]? =
            some { otherTask with stage } ∧
          Answers (collection.taken key) (seen.filter fun other => other != index) other
            stage := by
  have creates : task.stage = .creating := by rw [before index task found, if_pos isSeen]
  obtain ⟨stored, tasks, upsertsNext, one⟩ :=
    upserts.step_of_free_creating echoes isOpen free found creates
  have heldNext : 0 < (session.step source index).keyCount collection name key := by omega
  obtain ⟨count, settles⟩ := upsertsNext.run_of_held echoes heldNext later
  refine ⟨count.trans one, ?_⟩
  intro other otherTask foundOther
  have inside : other < session.tasks.length := (List.getElem?_eq_some_iff.mp foundOther).1
  by_cases isIndex : other = index
  · subst isIndex
    cases found.symm.trans foundOther
    have foundNext : (session.step source other).tasks[other]? =
        some { task with stage := .done (.ok stored) } := by
      rw [tasks, List.getElem?_set_self inside]
    refine ⟨.done (.ok stored), ?_, by simp [Answers]⟩
    exact run_of_stage_done foundNext rfl
  · have hasTurn := completes.mem_later inside isIndex
    obtain ⟨last, reached, settlesLast⟩ :=
      settles other otherTask ((getElem?_step_of_ne isIndex).trans foundOther) hasTurn
    rw [before other otherTask foundOther] at settlesLast
    refine ⟨last, reached, ?_⟩
    unfold Answers
    by_cases otherSeen : other ∈ seen
    · rw [if_pos otherSeen] at settlesLast
      cases settlesLast
      simp [otherSeen, isIndex]
    · rw [if_neg otherSeen] at settlesLast
      cases settlesLast
      simp [otherSeen]

/-- A run that starts when no node has the reference value, after the upserts of `seen` took their
update turns.  The induction is on what is left of the schedule; until the first create turn it
only adds to `seen`. -/
theorem Upserts.run_of_free (upserts : session.Upserts collection name key)
    (echoes : source.Echoes) (isOpen : collection.barrier? = none)
    (free : session.keyCount collection name key = 0) {seen : List Nat}
    (before : session.BeforeCreate seen) (completes : session.Completes seen schedule)
    (nonempty : session.tasks ≠ []) :
    (session.run source schedule).keyCount collection name key = 1 ∧
      ∀ index task, session.tasks[index]? = some task ->
        ∃ stage, (session.run source schedule).tasks[index]? = some { task with stage } ∧
          Answers (collection.taken key) (overtaken seen schedule) index stage := by
  induction schedule generalizing session seen with
  | nil =>
      have enough := completes.2 0 (List.length_pos_iff.mpr nonempty)
      rw [List.count_nil] at enough
      split at enough <;> omega
  | cons first later inductionHypothesis =>
      have insideFirst : first < session.tasks.length := completes.1 first (by simp)
      have foundFirst : session.tasks[first]? = some session.tasks[first] :=
        List.getElem?_eq_getElem insideFirst
      rw [run_cons, overtaken]
      split
      · next isSeen =>
          exact upserts.run_of_create echoes isOpen free before completes isSeen foundFirst
      · next new =>
          have waits := before first _ foundFirst
          rw [if_neg new] at waits
          rw [upserts.step_of_free_waiting free foundFirst waits]
          obtain ⟨count, answers⟩ := inductionHypothesis (upserts.set upserts.known foundFirst _)
            free (before.set foundFirst) (completes.set new) (by simpa using nonempty)
          refine ⟨count, ?_⟩
          intro index task found
          by_cases isFirst : index = first
          · subst isFirst
            cases foundFirst.symm.trans found
            exact answers index { session.tasks[index] with stage := .creating }
              (List.getElem?_set_self insideFirst)
          · exact answers index task (by rw [List.getElem?_set_ne (Ne.symm isFirst), found])

/-- In a complete schedule no upsert is overtaken exactly where the first one takes both of its
turns before any other starts. -/
theorem Completes.overtaken_eq_nil_iff (completes : session.Completes [] schedule)
    (nonempty : session.tasks ≠ []) :
    overtaken [] schedule = [] ↔ ∃ first later, schedule = first :: first :: later := by
  constructor
  · intro none
    match schedule with
    | [] =>
        have enough := completes.2 0 (List.length_pos_iff.mpr nonempty)
        simp at enough
    | [first] =>
        have enough := completes.2 first (completes.1 first (by simp))
        simp at enough
    | first :: second :: later =>
        by_cases same : second = first
        · exact ⟨first, later, by rw [same]⟩
        · have enough := completes.2 first (completes.1 first (by simp))
          have again : first ∈ later := by
            rw [List.count_cons_self, List.count_cons_of_ne same] at enough
            exact List.count_pos_iff.mp (by simpa using enough)
          have distinct : [second, first].Nodup := by simpa using same
          have someone := overtaken_ne_nil distinct (by simp) (by simp) again
          rw [overtaken, if_neg (by simp), overtaken, if_neg (by simpa using same)] at none
          exact (someone none).elim
  · rintro ⟨first, later, rfl⟩
    simp [overtaken]

/-! ### Answers -/

/-- The failure that an upsert answers with after a complete schedule, if it fails. -/
def refusal? (session : Session State) (collection : Collection) (name key : String)
    (schedule : List Nat) (index : Nat) : Option Failure :=
  if 0 < session.keyCount collection name key then none
  else
    match collection.barrier? with
    | some field => some (.missingRequiredField collection.name field)
    | none =>
        if index ∈ overtaken [] schedule then
          some (.referenceAlreadyExists collection.name collection.referenceField key)
        else none

/-- The number of nodes that have the reference value after a complete schedule. -/
def finalCount (session : Session State) (collection : Collection) (name key : String) : Nat :=
  if 0 < session.keyCount collection name key then session.keyCount collection name key
  else if collection.barrier? = none then 1
  else 0

/-- A task that is done with a failure, or with a record. -/
def Answered (refusal? : Option Failure) (stage : Stage) : Prop :=
  match refusal? with
  | some failure => stage = .done (.error failure)
  | none => ∃ stored, stage = .done (.ok stored)

theorem Upserts.run_answers (upserts : session.Upserts collection name key)
    (echoes : source.Echoes) (nonempty : session.tasks ≠ [])
    (waits : ∀ task ∈ session.tasks, task.stage = .waiting)
    (completes : session.Completes [] schedule) :
    (session.run source schedule).keyCount collection name key =
        session.finalCount collection name key ∧
      ∀ index task, session.tasks[index]? = some task ->
        ∃ stage, (session.run source schedule).tasks[index]? = some { task with stage } ∧
          Answered (session.refusal? collection name key schedule index) stage := by
  unfold refusal? finalCount
  by_cases held : 0 < session.keyCount collection name key
  · obtain ⟨count, settles⟩ := upserts.run_of_held echoes held schedule
    simp only [held, ↓reduceIte]
    refine ⟨count, ?_⟩
    intro index task found
    have twice := completes.two_le_count (List.getElem?_eq_some_iff.mp found).1
    obtain ⟨stage, reached, settled⟩ :=
      settles index task found (List.count_pos_iff.mp (by omega))
    rw [waits task (List.mem_of_getElem? found)] at settled
    cases settled with
    | updated stored => exact ⟨_, reached, stored, rfl⟩
  · have free : session.keyCount collection name key = 0 := by omega
    simp only [held, ↓reduceIte]
    cases barrier : collection.barrier? with
    | some field =>
        obtain ⟨count, fails⟩ := upserts.run_of_barred source barrier free schedule
        refine ⟨by simpa using count, ?_⟩
        intro index task found
        have twice := completes.two_le_count (List.getElem?_eq_some_iff.mp found).1
        exact ⟨_, fails index task found (waits task (List.mem_of_getElem? found)) twice, rfl⟩
    | none =>
        have before : session.BeforeCreate [] := fun index task found => by
          simpa using waits task (List.mem_of_getElem? found)
        obtain ⟨count, answers⟩ :=
          upserts.run_of_free echoes barrier free before completes nonempty
        refine ⟨by simpa using count, ?_⟩
        intro index task found
        obtain ⟨stage, reached, answer⟩ := answers index task found
        refine ⟨stage, reached, ?_⟩
        rw [Answers, Collection.taken_of_open barrier] at answer
        split at answer
        · next isOvertaken => simpa [Answered, isOvertaken] using answer
        · next notOvertaken => simpa [Answered, notOvertaken] using answer

/-- No upsert of a complete schedule fails exactly where some node has the reference value at the
start, or records can be created and the first upsert takes both of its turns before any other
starts. -/
theorem Completes.refusal?_eq_none_iff (completes : session.Completes [] schedule)
    (nonempty : session.tasks ≠ []) :
    (∀ index, index < session.tasks.length ->
        session.refusal? collection name key schedule index = none) ↔
      0 < session.keyCount collection name key ∨
        collection.barrier? = none ∧ ∃ first later, schedule = first :: first :: later := by
  unfold refusal?
  by_cases held : 0 < session.keyCount collection name key
  · simp [held]
  · simp only [held, ↓reduceIte, false_or]
    cases barrier : collection.barrier? with
    | some field =>
        have inside := List.length_pos_iff.mpr nonempty
        simp only [reduceCtorEq, false_and, iff_false, imp_false, not_forall, not_not]
        exact ⟨0, inside⟩
    | none =>
        rw [← completes.overtaken_eq_nil_iff nonempty, List.eq_nil_iff_forall_not_mem]
        constructor
        · intro noneFails
          refine ⟨rfl, ?_⟩
          intro index isOvertaken
          have inside : index < session.tasks.length :=
            (mem_of_mem_overtaken isOvertaken).elim (fun seen => nomatch seen)
              (completes.1 index)
          simpa [isOvertaken] using noneFails index inside
        · rintro ⟨_, notOvertaken⟩ index _
          simp [notOvertaken index]

/-- The answers of concurrent upserts of one reference value.  For every number of them, over a
source that stores what it is given, and every schedule that gives each of them its two turns,
`refusal?` says which of them fail and how.  So all of them succeed exactly where some node has the
reference value at the start, or records can be created and the first upsert takes both of its
turns before another one starts. -/
theorem upserts_succeed_unless_overtaken (source : Content.Source State)
    (echoes : source.Echoes) (session : Session State) (collection : Collection)
    (name key : String) (upserts : session.Upserts collection name key)
    (nonempty : session.tasks ≠ []) (waits : ∀ task ∈ session.tasks, task.stage = .waiting)
    (schedule : List Nat) (completes : session.Completes [] schedule) :
    (∀ index task, session.tasks[index]? = some task ->
        ∃ stage, (session.run source schedule).tasks[index]? = some { task with stage } ∧
          Answered (session.refusal? collection name key schedule index) stage) ∧
      ((∀ task ∈ (session.run source schedule).tasks,
          ∃ stored, task.stage = .done (.ok stored)) ↔
        0 < session.keyCount collection name key ∨
          collection.barrier? = none ∧ ∃ first later, schedule = first :: first :: later) ∧
      (session.run source schedule).keyCount collection name key =
        session.finalCount collection name key := by
  obtain ⟨count, answers⟩ := upserts.run_answers echoes nonempty waits completes
  refine ⟨answers, ?_, count⟩
  rw [← completes.refusal?_eq_none_iff nonempty]
  constructor
  · intro succeed index inside
    obtain ⟨stage, reached, answer⟩ := answers index _ (List.getElem?_eq_getElem inside)
    obtain ⟨stored, isStored⟩ := succeed _ (List.mem_of_getElem? reached)
    cases refusal : session.refusal? collection name key schedule index with
    | none => rfl
    | some failure =>
        rw [refusal] at answer
        cases answer.symm.trans isStored
  · intro noneFails task member
    obtain ⟨index, reachedInside, isTask⟩ := List.getElem_of_mem member
    have inside : index < session.tasks.length := length_tasks_run ▸ reachedInside
    obtain ⟨stage, reached, answer⟩ := answers index _ (List.getElem?_eq_getElem inside)
    rw [noneFails index inside] at answer
    rw [List.getElem?_eq_getElem reachedInside, isTask] at reached
    cases reached
    exact answer

/-- Three upserts of one new id. -/
def sampleUpserts : Session Content.MemoryStore where
  runtime := sampleRuntime [samplePost "a" "Other"]
  tasks := [
    { kind := .upsert, collection := "Post", payload := samplePayload "b" "First" },
    { kind := .upsert, collection := "Post", payload := samplePayload "b" "Second" },
    { kind := .upsert, collection := "Post", payload := samplePayload "b" "Third" }]

theorem sampleUpserts_upserts : sampleUpserts.Upserts samplePosts "Post" "b" where
  known := rfl
  each := by
    intro task member
    simp only [sampleUpserts, List.mem_cons, List.not_mem_nil, or_false] at member
    rcases member with rfl | rfl | rfl <;> exact ⟨rfl, rfl, by decide⟩

theorem sampleUpserts_completes : sampleUpserts.Completes [] [0, 1, 0, 1, 2, 2] := by
  constructor <;> decide

theorem upserts_succeed_unless_overtaken_sampleUpserts :
    Content.MemoryStore.source.Echoes ∧ sampleUpserts.Upserts samplePosts "Post" "b" ∧
      sampleUpserts.tasks ≠ [] ∧ (∀ task ∈ sampleUpserts.tasks, task.stage = .waiting) ∧
      sampleUpserts.Completes [] [0, 1, 0, 1, 2, 2] ∧
      (sampleUpserts.run Content.MemoryStore.source [0, 1, 0, 1, 2, 2]).keyCount samplePosts
        "Post" "b" = sampleUpserts.finalCount samplePosts "Post" "b" :=
  have nonempty : sampleUpserts.tasks ≠ [] := by simp [sampleUpserts]
  have waits : ∀ task ∈ sampleUpserts.tasks, task.stage = .waiting := by simp [sampleUpserts]
  ⟨Content.MemoryStore.source_echoes, sampleUpserts_upserts, nonempty, waits,
    sampleUpserts_completes,
    (upserts_succeed_unless_overtaken Content.MemoryStore.source
      Content.MemoryStore.source_echoes sampleUpserts samplePosts "Post" "b"
      sampleUpserts_upserts nonempty waits [0, 1, 0, 1, 2, 2] sampleUpserts_completes).2.2⟩

/-- The second upsert took its update turn before the create turn of the first one: it finds the
new reference value taken. -/
theorem overtaken_upsert_fails :
    Content.MemoryStore.source.Echoes ∧ sampleUpserts.Upserts samplePosts "Post" "b" ∧
      sampleUpserts.Completes [] [0, 1, 0, 1, 2, 2] ∧
      (sampleUpserts.run Content.MemoryStore.source [0, 1, 0, 1, 2, 2]).tasks[1]? =
        some {
          kind := .upsert
          collection := "Post"
          payload := samplePayload "b" "Second"
          stage := .done (.error (.referenceAlreadyExists "Post" "id" "b")) } :=
  ⟨Content.MemoryStore.source_echoes, sampleUpserts_upserts, sampleUpserts_completes, rfl⟩

end Session

end ContentGraph
