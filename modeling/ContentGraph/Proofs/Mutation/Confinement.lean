import ContentGraph.Proofs.Content.FileStem
import ContentGraph.Proofs.Files.Confinement
import ContentGraph.Proofs.Mutation.FileFrame
import ContentGraph.Proofs.Mutation.Schedule

/-!
Contract: a directory writes below its root only.

Owns:
- `recordPath_stays`: the path of every record stays inside, and so does that of its temporary file;
- `ContentDirectory.Confined`, two states of a directory that differ below its root alone;
- `put_confined`, for one record, `Session.run_confined`, for runs of mutations, and
  `put_stays_inside`, which has both.

Does not own: collections whose configured paths lead upwards.
-/

namespace ContentGraph

open ContentGraph.Json ContentGraph.Content ContentGraph.Files

namespace Content.ContentDirectory

open Files.Tree

/-- A collection whose path is relative and has no components but names. -/
def PlainPath (entry : CollectionEntry) : Prop :=
  ∀ component ∈ components entry.path, ∃ name, component = .normal name

/-! ### Paths of records -/

/-- The file of a new record has a name without separators, and long enough to be no step. -/
theorem newName_ends {value : Value} {stem : String} (isStem : stem? value = some stem)
    (record : Object) :
    '/' ∉ (stem ++ newExtension record).toList ∧ 3 ≤ (stem ++ newExtension record).length := by
  obtain ⟨noSeparator, isLong⟩ := newExtension_ends record
  rw [String.toList_append, List.mem_append, not_or, String.length_append]
  exact ⟨⟨separator_not_mem_stem isStem, noSeparator⟩, by omega⟩

/-- The path of every record stays inside, whether the record states it or is named for its
reference value. -/
theorem recordPath_stays {entry : CollectionEntry} {record : Object} {path : String}
    (plain : PlainPath entry) (placed : recordPath entry record = .ok path) : StaysInside path := by
  unfold recordPath at placed
  split at placed
  · exact (insideRoot_eq_ok_iff.mp placed).2
  · split at placed
    · next stem isStem =>
        obtain ⟨value, _, isStemOf⟩ := Option.bind_eq_some_iff.mp isStem
        obtain ⟨noSeparator, isLong⟩ := newName_ends isStemOf record
        cases placed
        exact staysInside_join plain noSeparator isLong
    · cases placed

/-- The temporary file of a path that stays inside has such a path too, below every root. -/
theorem temporary_stays {path : String} (stays : StaysInside path) (root : String) :
    StaysInside (path ++ ".tmp") ∧ join root path ++ ".tmp" = join root (path ++ ".tmp") :=
  ⟨stays.append (by decide) (by decide), join_append stays.ne_empty root ".tmp"⟩

/-! ### What a directory changes -/

/-- What is at a location of one tree and not of another lies below a root, or is a directory that
was missing while the root was none. -/
def ChangesBelow (before after : Tree) (root : String) : Prop :=
  ∀ location, after.entry? location ≠ before.entry? location ->
    before.Contains root location ∨
      before.isDirectoryPath root = false ∧ before.entry? location = none ∧
        after.entry? location = some .directory

namespace ChangesBelow

variable {before middle after : Tree} {root : String} {location : Location}

theorem refl (tree : Tree) (root : String) : ChangesBelow tree tree root :=
  fun _ differs => absurd rfl differs

/-- One more change at a location below the root. -/
private theorem of_changed (changes : ChangesBelow before middle root)
    (contains : before.Contains root location)
    (others : ∀ other, other ≠ location -> after.entry? other = middle.entry? other) :
    ChangesBelow before after root := by
  intro other differs
  by_cases isLocation : other = location
  · exact .inl (isLocation ▸ contains)
  · rw [others other isLocation] at differs ⊢
    exact changes other differs

theorem set (changes : ChangesBelow before middle root) (contains : before.Contains root location)
    (below : location ≠ []) (entry : Entry) :
    ChangesBelow before (middle.set location entry) root :=
  changes.of_changed contains fun other isOther => by rw [get_set middle below, if_neg isOther]

theorem remove (changes : ChangesBelow before middle root)
    (contains : before.Contains root location) (below : location ≠ []) :
    ChangesBelow before (middle.remove location) root :=
  changes.of_changed contains fun other isOther => by rw [get_remove middle below, if_neg isOther]

end ChangesBelow

/-- Storing a text at a path that stays inside, also where that fails. -/
theorem storeText_changesBelow {path : String} (stays : StaysInside path) (tree : Tree)
    (root text : String) : ChangesBelow tree (storeText tree (join root path) text).2 root := by
  obtain ⟨rest, goesOn, someRest, descend⟩ := stays.components_join root
  obtain ⟨staysTemporary, isTemporary⟩ := temporary_stays stays root
  have made {steps : List Component} (below : tree.belowHome? (join root path) = some steps) :
      ChangesBelow tree (tree.makeDirectories [] steps.dropLast).2 root :=
    fun location differs => makeDirectories_confined goesOn someRest descend below differs
  -- The file is looked for in the tree with the directories, which has the same home.
  have contains {steps : List Component} {inner : String} {location : Location}
      (staysInner : StaysInside inner)
      (located : (tree.makeDirectories [] steps).2.locate? (join root inner) = some location) :
      tree.Contains root location :=
    (contains_of_stays staysInner located).congr (makeDirectories_adds tree [] steps).home
  have storing := storeText_storing tree (join root path) text
  generalize storeText tree (join root path) text = result at storing
  cases storing with
  | refused => exact .refl tree root
  | unwritten below => exact made below
  | unmoved below wrote =>
      obtain ⟨temporary, located, free, rfl⟩ := writeText_ok wrote
      rw [isTemporary] at located
      exact (made below).set (contains staysTemporary located) (ne_nil_of_not_directory free) _
  | moved below wrote moved =>
      obtain ⟨temporary, target, locatedTemporary, freeTemporary, located, free, rfl, -⟩ :=
        written_and_moved wrote moved
      rw [isTemporary] at locatedTemporary
      have containsTemporary := contains staysTemporary locatedTemporary
      have belowTemporary := ne_nil_of_not_directory freeTemporary
      have written := (made below).set containsTemporary belowTemporary (.file (.text text))
      have removed := written.remove containsTemporary belowTemporary
      exact removed.set (contains stays located) (ne_nil_of_not_directory free) _

/-- What a directory does with a record, whether it can store it or not. -/
theorem store_changesBelow {entry : CollectionEntry} (plain : PlainPath entry)
    (directory : ContentDirectory) (record : Value) :
    ChangesBelow directory.tree (directory.store entry record).2.tree directory.root := by
  unfold store
  split
  · next fields =>
      split
      · exact .refl _ _
      · next path placed =>
          exact storeText_changesBelow (recordPath_stays plain placed) directory.tree _ _
  · exact .refl _ _

/-- Two states of a directory: the root is the same, directories stay, and what differs lies below
the root, or is a directory that was missing while the root was none. -/
structure Confined (start now : ContentDirectory) : Prop where
  root : now.root = start.root
  grows : GrowsDirectories start.tree now.tree
  changes : ChangesBelow start.tree now.tree start.root

/-- Putting a record, whatever it holds and whether it can be stored or not. -/
theorem put_confined {entry : CollectionEntry} (plain : PlainPath entry)
    (directory : ContentDirectory) (record : Value) :
    Confined directory (source.put directory entry record).2 := by
  obtain ⟨sameRoot, grows⟩ := store_keeps directory entry record
  exact ⟨sameRoot, grows, store_changesBelow plain directory record⟩

/-! ### Runs of mutations -/

namespace Confined

variable {start middle now : ContentDirectory}

theorem refl (directory : ContentDirectory) : Confined directory directory :=
  ⟨rfl, .refl _, .refl _ _⟩

/-- A root that is a directory remains one. -/
private theorem isDirectoryPath_of_later (first : Confined start middle)
    (gone : middle.tree.isDirectoryPath middle.root = false) :
    start.tree.isDirectoryPath start.root = false := by
  rw [first.root] at gone
  cases isThere : start.tree.isDirectoryPath start.root with
  | false => rfl
  | true =>
      rw [first.grows.isDirectoryPath isThere] at gone
      cases gone

theorem trans (first : Confined start middle) (second : Confined middle now) :
    Confined start now where
  root := second.root.trans first.root
  grows := first.grows.trans second.grows
  changes := by
    intro location differs
    have contains (below : middle.tree.Contains middle.root location) :
        start.tree.Contains start.root location :=
      (first.root ▸ below).congr first.grows.home
    by_cases changedFirst : middle.tree.entry? location = start.tree.entry? location
    · rcases second.changes location (changedFirst ▸ differs) with below | ⟨noRoot, free, isMade⟩
      · exact .inl (contains below)
      · exact .inr ⟨first.isDirectoryPath_of_later noRoot, changedFirst ▸ free, isMade⟩
    · rcases first.changes location changedFirst with below | ⟨noRoot, free, isMade⟩
      · exact .inl below
      · by_cases changedLater : now.tree.entry? location = middle.tree.entry? location
        · exact .inr ⟨noRoot, free, changedLater.trans isMade⟩
        · rcases second.changes location changedLater with below | ⟨_, freeLater, _⟩
          · exact .inl (contains below)
          · cases isMade.symm.trans freeLater

end Confined

end Content.ContentDirectory

open Content.ContentDirectory

/-- All collections of a graph have plain paths. -/
def Graph.PlainPaths (graph : Graph) : Prop :=
  ∀ name collection, graph.collection name = .ok collection -> PlainPath collection.entry

variable {runtime : Runtime ContentDirectory}

/-- One turn at the store changes nothing outside of the root, and no collection. -/
theorem Turn.take_confined (turn : Turn) (plain : runtime.graph.PlainPaths) (name : String)
    (payload : Value) :
    Confined runtime.state
        (turn.take ContentDirectory.source runtime name payload).2.state ∧
      (turn.take ContentDirectory.source runtime name payload).2.graph.PlainPaths := by
  have outcome := Turn.take_outcome ContentDirectory.source turn runtime name payload
  generalize turn.take ContentDirectory.source runtime name payload = result at outcome
  have confined {collection : Collection} {key : String} {record : Value}
      {answer : Except Failure Value} {state : ContentDirectory}
      (hands : Hands runtime name payload turn collection key record)
      (put : ContentDirectory.source.put runtime.state collection.entry record = (answer, state)) :
      Confined runtime.state state := by
    have confined := put_confined (plain name collection hands.known) runtime.state record
    rwa [put] at confined
  cases outcome with
  | refused failure => exact ⟨.refl _, plain⟩
  | failed hands put => exact ⟨confined hands put, by simpa using plain⟩
  | stored hands put =>
      refine ⟨confined hands put, fun other collection known => plain other collection ?_⟩
      rwa [Turn.collection_accept] at known

/-- A step of one task. -/
theorem Session.step_confined (session : Session ContentDirectory)
    (plain : session.runtime.graph.PlainPaths) (index : Nat) :
    Confined session.runtime.state
        (session.step ContentDirectory.source index).runtime.state ∧
      (session.step ContentDirectory.source index).runtime.graph.PlainPaths := by
  rcases Session.step_cases ContentDirectory.source session index with
    ⟨passes, _⟩ | ⟨task, turn, found, next, _⟩
  · rw [passes]
    exact ⟨.refl _, plain⟩
  · rw [Session.step_of_turn found next]
    exact turn.take_confined plain task.collection task.payload

/-- Any mutations with any payloads, by any schedule, change nothing outside of the root of a
directory whose collections have plain paths. -/
theorem Session.run_confined (session : Session ContentDirectory)
    (plain : session.runtime.graph.PlainPaths) (schedule : List Nat) :
    Confined session.runtime.state
      (session.run ContentDirectory.source schedule).runtime.state := by
  induction schedule generalizing session with
  | nil => exact .refl _
  | cons index later inductionHypothesis =>
      obtain ⟨confined, plainNext⟩ := session.step_confined plain index
      rw [Session.run_cons]
      exact confined.trans (inductionHypothesis _ plainNext)

/-- Records are stored below the root.  The path of every record of a collection with a plain path
stays inside, and so does that of the temporary file beside it.  So whatever the record holds, and
whether it can be stored or not, nothing changes outside of the root, and so in any run of mutations
with any payloads; where the root is no directory, directories that are missing on the way may be
made. -/
theorem Content.ContentDirectory.put_stays_inside (entry : CollectionEntry)
    (plain : PlainPath entry) :
    (∀ record path, recordPath entry record = .ok path ->
      StaysInside path ∧ StaysInside (path ++ ".tmp") ∧
        ∀ root, join root path ++ ".tmp" = join root (path ++ ".tmp")) ∧
      (∀ directory record, Confined directory (source.put directory entry record).2) ∧
      ∀ session : Session ContentDirectory, session.runtime.graph.PlainPaths -> ∀ schedule,
        Confined session.runtime.state (session.run source schedule).runtime.state := by
  refine ⟨fun record path placed => ?_, put_confined plain, Session.run_confined⟩
  have stays := recordPath_stays plain placed
  exact ⟨stays, (temporary_stays stays "").1, fun root => (temporary_stays stays root).2⟩

/-- Posts that state a path with a point in it, and one that states a path upwards. -/
theorem Content.ContentDirectory.put_stays_inside_samplePosts :
    PlainPath sampleFolderPosts.entry ∧
      recordPath sampleFolderPosts.entry [("_path", .string "posts/./eva.yaml")] =
        .ok "posts/./eva.yaml" ∧
      StaysInside "posts/./eva.yaml" ∧ StaysInside "posts/./eva.yaml.tmp" ∧
      Confined (sampleFolder [] [] 0).state
        (source.put (sampleFolder [] [] 0).state sampleFolderPosts.entry
          (.object [("_path", .string "posts/../../eva.yaml")])).2 := by
  have plain : PlainPath sampleFolderPosts.entry := by
    have isName : components sampleFolderPosts.entry.path = [.normal "posts"] := by
      with_unfolding_all rfl
    intro component member
    rw [isName] at member
    exact ⟨"posts", List.mem_singleton.mp member⟩
  have placed : recordPath sampleFolderPosts.entry [("_path", .string "posts/./eva.yaml")] =
      .ok "posts/./eva.yaml" := by
    with_unfolding_all rfl
  obtain ⟨paths, puts, -⟩ := put_stays_inside sampleFolderPosts.entry plain
  obtain ⟨stays, staysTemporary, -⟩ := paths _ _ placed
  exact ⟨plain, placed, stays, staysTemporary, puts _ _⟩

end ContentGraph
