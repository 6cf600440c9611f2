import ContentGraph.Proofs.Files.Confinement
import ContentGraph.Proofs.Mutation.Turn

/-!
Contract: which files a create over a directory touches.

Owns:
- `Stores`, what storing a text at a path does to every file of a tree, and what a directory stores
  of a record;
- the file of a new record, whose path the record cannot choose;
- `Runtime.create_keeps_files_iff`, when a create leaves all earlier files as they were.

Does not own: what is in the files (`Content.documentText`), and records that are updated.
-/

namespace ContentGraph

open ContentGraph.Json ContentGraph.Content

namespace Files.Tree

variable {before after : Tree} {path text : String} {target temporary : Location}

/-- Every file is still there with the same body. -/
def KeepsFiles (before after : Tree) : Prop :=
  ∀ location body,
    before.entry? location = some (.file body) -> after.entry? location = some (.file body)

/-- A text was stored at a path: its file holds the text, the temporary file beside it is gone,
and every other file is as before. -/
structure Stores (before after : Tree) (path text : String) (target temporary : Location) :
    Prop where
  isTarget : after.locate? path = some target
  isTemporary : after.locate? (path ++ ".tmp") = some temporary
  apart : temporary ≠ target
  written : after.entry? target = some (.file (.text text))
  cleared : after.entry? temporary = none
  others (location : Location) (body : Body) (notTarget : location ≠ target)
    (notTemporary : location ≠ temporary) :
    before.entry? location = some (.file body) ↔ after.entry? location = some (.file body)

/-- What storing a text can destroy: an earlier file in the place of the target that held
another text, and any file in the place of the temporary one. -/
theorem Stores.keepsFiles_iff (stores : Stores before after path text target temporary) :
    KeepsFiles before after ↔
      (∀ body, before.entry? target = some (.file body) -> body = .text text) ∧
        ∀ body, before.entry? temporary ≠ some (.file body) := by
  constructor
  · intro kept
    constructor
    · intro body held
      have still := kept target body held
      rw [stores.written] at still
      cases still
      rfl
    · intro body held
      have still := kept temporary body held
      rw [stores.cleared] at still
      cases still
  · rintro ⟨sameText, noTemporary⟩ location body held
    by_cases isTarget : location = target
    · subst isTarget
      rw [stores.written, sameText body held]
    · by_cases isTemporary : location = temporary
      · subst isTemporary
        exact absurd held (noTemporary body)
      · exact (stores.others location body isTarget isTemporary).mp held

/-- No file but the one at a location changes, comes or goes. -/
def ChangesOnly (before after : Tree) (target : Location) : Prop :=
  ∀ location body, location ≠ target ->
    (before.entry? location = some (.file body) ↔ after.entry? location = some (.file body))

/-- Storing a text changes its own file alone, where no file stands in the temporary one's
place. -/
theorem Stores.changesOnly (stores : Stores before after path text target temporary)
    (free : ∀ body, before.entry? temporary ≠ some (.file body)) :
    ChangesOnly before after target := by
  intro location body notTarget
  by_cases isTemporary : location = temporary
  · subst isTemporary
    simp [free body, stores.cleared]
  · exact stores.others location body notTarget isTemporary

private theorem append_tmp_ne (name : String) : name ++ ".tmp" ≠ name := by
  intro same
  have sameLength := congrArg String.length same
  rw [String.length_append] at sameLength
  have isFour : ".tmp".length = 4 := rfl
  omega

/-- A file and the file that is written beside it lie at different places. -/
private theorem temporary_apart {tree : Tree} {name : String} {free : Location}
    (targetName : fileName? path = some name)
    (located : tree.locate? path = some target) (freeTarget : tree.isDirectory target = false)
    (locatedTemporary : tree.locate? (path ++ ".tmp") = some free)
    (freeTemporary : tree.isDirectory free = false) : free ≠ target := by
  rintro rfl
  have noSeparator : '/' ∉ ".tmp".toList := by decide
  rcases fileName?_append_or targetName noSeparator (by decide) with temporaryName | ⟨_, inside⟩
  · have below := ne_nil_of_not_directory freeTemporary
    have endsOld := getLast?_of_locate? temporaryName locatedTemporary below
    have endsTarget := getLast?_of_locate? targetName located below
    exact append_tmp_ne name (Option.some.inj (endsOld.symm.trans endsTarget))
  · -- The path is closed by a separator: the file would lie inside of its target.
    have isDirectory := isDirectory_of_locate?_inner inside locatedTemporary located
    rw [isDirectory] at freeTarget
    cases freeTarget

/-- Moving a file that was just written beside its target takes it from the one place to the
other, and leaves the directories as they are. -/
theorem written_and_moved {made written : Tree}
    (wrote : made.writeText (path ++ ".tmp") text = .ok written)
    (moved : written.rename (path ++ ".tmp") path = .ok after) :
    ∃ temporary target, made.locate? (path ++ ".tmp") = some temporary ∧
      made.isDirectory temporary = false ∧ made.locate? path = some target ∧
      made.isDirectory target = false ∧
      after = ((made.set temporary (.file (.text text))).remove temporary).set target
        (.file (.text text)) ∧
      SameDirectories made after := by
  obtain ⟨temporary, locatedTemporary, freeTemporary, rfl⟩ := writeText_ok wrote
  obtain ⟨old, target, entry, locatedOld, locatedTarget, held, freeTarget, rfl⟩ := rename_ok moved
  have sameWritten := SameDirectories.set_file (.text text) freeTemporary
  rw [sameWritten.locate?] at locatedOld locatedTarget
  rw [sameWritten.directory] at freeTarget
  cases locatedTemporary.symm.trans locatedOld
  rw [get_set made (ne_nil_of_not_directory freeTemporary), if_pos rfl] at held
  cases held
  have sameRemoved := sameWritten.trans
    (SameDirectories.remove_file ((sameWritten.directory temporary).trans freeTemporary))
  have same := sameRemoved.trans
    (SameDirectories.set_file (.text text) ((sameRemoved.directory target).trans freeTarget))
  exact ⟨temporary, target, locatedTemporary, freeTemporary, locatedTarget, freeTarget, rfl, same⟩

private theorem stores_of_moved {made written : Tree} (kept : SameFiles before made)
    {name : String} (targetName : fileName? path = some name)
    (wrote : made.writeText (path ++ ".tmp") text = .ok written)
    (moved : written.rename (path ++ ".tmp") path = .ok after) :
    ∃ target temporary, Stores before after path text target temporary := by
  obtain ⟨temporary, target, locatedTemporary, freeTemporary, locatedTarget, freeTarget, rfl,
    same⟩ := written_and_moved wrote moved
  have belowTemporary := ne_nil_of_not_directory freeTemporary
  have belowTarget := ne_nil_of_not_directory freeTarget
  have apart : temporary ≠ target :=
    temporary_apart targetName locatedTarget freeTarget locatedTemporary freeTemporary
  refine ⟨target, temporary, ?_⟩
  exact {
    isTarget := (same.locate? path).trans locatedTarget
    isTemporary := (same.locate? _).trans locatedTemporary
    apart := apart
    written := by rw [get_set _ belowTarget, if_pos rfl]
    cleared := by
      rw [get_set _ belowTarget, if_neg apart, get_remove _ belowTemporary, if_pos rfl]
    others := by
      intro location body notTarget notTemporary
      rw [get_set _ belowTarget, if_neg notTarget, get_remove _ belowTemporary,
        if_neg notTemporary, get_set _ belowTemporary, if_neg notTemporary]
      exact kept location body }

end Files.Tree

namespace Content.ContentDirectory

open Files Files.Tree

variable {tree after : Tree} {path text : String}

/-- How storing a text can end: with the tree as it was, with the directories that could be made,
with the temporary file written, or with that file moved to the target. -/
inductive Storing (tree : Tree) (path text : String) : Except Failure Unit × Tree -> Prop where
  | refused (failure : Failure) : Storing tree path text (.error failure, tree)
  | unwritten {steps : List Component} (below : tree.belowHome? path = some steps)
      (failure : Failure) :
      Storing tree path text (.error failure, (tree.makeDirectories [] steps.dropLast).2)
  | unmoved {steps : List Component} {written : Tree} (below : tree.belowHome? path = some steps)
      (wrote : (tree.makeDirectories [] steps.dropLast).2.writeText (path ++ ".tmp") text =
        .ok written) (failure : Failure) :
      Storing tree path text (.error failure, written)
  | moved {steps : List Component} {written renamed : Tree}
      (below : tree.belowHome? path = some steps)
      (wrote : (tree.makeDirectories [] steps.dropLast).2.writeText (path ++ ".tmp") text =
        .ok written)
      (moved : written.rename (path ++ ".tmp") path = .ok renamed) :
      Storing tree path text (.ok (), renamed)

theorem storeText_storing (tree : Tree) (path text : String) :
    Storing tree path text (storeText tree path text) := by
  unfold storeText
  split
  · exact .refused _
  · next steps below =>
      split
      · exact .refused _
      · split
        · next failure withDirectories made =>
            rw [show withDirectories = (tree.makeDirectories [] steps.dropLast).2 by rw [made]]
            exact .unwritten below failure
        · next withDirectories made =>
            have isMade : withDirectories = (tree.makeDirectories [] steps.dropLast).2 := by
              rw [made]
            subst isMade
            dsimp only
            split
            · exact .unwritten below _
            · next written wrote =>
                split
                · exact .unmoved below wrote _
                · next renamed moved => exact .moved below wrote moved

/-- Storing a text at a path with a file name. -/
theorem storeText_ok {name : String} (targetName : fileName? path = some name)
    (stored : storeText tree path text = (.ok (), after)) :
    ∃ target temporary, Stores tree after path text target temporary := by
  have storing := storeText_storing tree path text
  rw [stored] at storing
  cases storing with
  | moved below wrote moved =>
      exact stores_of_moved (makeDirectories_adds tree [] _).sameFiles targetName wrote moved

/-- Storing a text, also where that fails, only adds directories. -/
theorem grows_storeText (tree : Tree) (path text : String) :
    GrowsDirectories tree (storeText tree path text).2 := by
  have storing := storeText_storing tree path text
  generalize storeText tree path text = result at storing
  have grows (components : List Component) := (makeDirectories_adds tree [] components).grows
  cases storing with
  | refused => exact .refl _
  | unwritten => exact grows _
  | unmoved _ wrote =>
      obtain ⟨location, _, free, rfl⟩ := writeText_ok wrote
      exact (grows _).trans (SameDirectories.set_file _ free).grows
  | moved _ wrote moved =>
      obtain ⟨_, _, _, _, _, _, _, same⟩ := written_and_moved wrote moved
      exact (grows _).trans same.grows

/-- A record's own path is taken only if it stays inside. -/
theorem insideRoot_eq_ok_iff {stated path : String} :
    insideRoot stated = .ok path ↔ stated = path ∧ StaysInside path := by
  constructor
  · intro placed
    unfold insideRoot at placed
    dsimp only at placed
    split at placed
    · next isInside =>
        cases placed
        obtain ⟨stays, named⟩ := Bool.and_eq_true_iff.mp isInside
        obtain ⟨name, isName⟩ := Option.isSome_iff_exists.mp named
        refine ⟨rfl, StaysInside.of_steps (fun component member => ?_) isName⟩
        have isStep := List.all_eq_true.mp stays component member
        cases component with
        | current => exact .inl rfl
        | normal name => exact .inr ⟨name, rfl⟩
        | root => cases isStep
        | parent => cases isStep
    · cases placed
  · rintro ⟨rfl, stays⟩
    obtain ⟨name, isName⟩ := stays.named
    refine if_pos (Bool.and_eq_true_iff.mpr ⟨List.all_eq_true.mpr fun component member => ?_, ?_⟩)
    · rcases stays.steps component member with rfl | ⟨_, rfl⟩ <;> rfl
    · exact Option.isSome_iff_exists.mpr ⟨name, isName⟩

/-- The extension of a new record's file. -/
def newExtension (record : Object) : String :=
  if (rawBody? record).isSome then ".md" else ".yaml"

/-- The path of a record that states none: below the collection's path, named for the reference
value. -/
theorem recordPath_ok {entry : CollectionEntry} {record : Object}
    (unplaced : Object.find? record "_path" = none) (placed : recordPath entry record = .ok path) :
    ∃ stem, (Object.find? record entry.referenceField).bind stem? = some stem ∧
      path = join entry.path (stem ++ newExtension record) := by
  unfold recordPath at placed
  simp only [unplaced] at placed
  split at placed
  · next stem found =>
      cases placed
      exact ⟨stem, found, rfl⟩
  · cases placed

theorem newExtension_ends (record : Object) :
    '/' ∉ (newExtension record).toList ∧ 3 ≤ (newExtension record).length := by
  unfold newExtension
  split <;> decide

/-- The path of a new record has a file name. -/
private theorem fileName?_of_new (root : String) (entry : CollectionEntry) (record : Object)
    (stem : String) :
    ∃ name, fileName? (join root (join entry.path (stem ++ newExtension record))) = some name := by
  obtain ⟨noSeparator, isLong⟩ := newExtension_ends record
  obtain ⟨above, isBelowCollection⟩ := join_eq_append entry.path (stem ++ newExtension record)
  obtain ⟨top, isBelowRoot⟩ := join_eq_append root (join entry.path (stem ++ newExtension record))
  have cut : join root (join entry.path (stem ++ newExtension record)) =
      (top ++ (above ++ stem)) ++ newExtension record := by
    rw [isBelowRoot, isBelowCollection]
    simp [String.append_assoc]
  exact ⟨_, cut ▸ fileName?_append _ noSeparator isLong⟩

/-- Wherever a record goes, its path has a file name. -/
private theorem fileName?_of_recordPath {entry : CollectionEntry} {record : Object} (root : String)
    (placed : recordPath entry record = .ok path) :
    ∃ name, fileName? (join root path) = some name := by
  unfold recordPath at placed
  split at placed
  · next stated _ =>
      obtain ⟨rfl, stays⟩ := insideRoot_eq_ok_iff.mp placed
      obtain ⟨name, isName⟩ := stays.named
      exact ⟨name, fileName?_join root isName stays.relative⟩
  · split at placed
    · cases placed
      exact fileName?_of_new root entry record _
    · cases placed

/-- A directory stores a record in the file that the record's path names. -/
theorem store_writes {directory next : ContentDirectory} {entry : CollectionEntry}
    {record : Object} {answer : Value}
    (stored : directory.store entry (.object record) = (.ok answer, next)) :
    ∃ path target temporary, recordPath entry record = .ok path ∧
      answer = .object (Object.insertAll record (fileMetadata path)) ∧
      Stores directory.tree next.tree (join directory.root path) (documentText record path)
        target temporary := by
  unfold store at stored
  cases placed : recordPath entry record with
  | error failure => simp [placed] at stored
  | ok path =>
      obtain ⟨name, targetName⟩ := fileName?_of_recordPath directory.root placed
      simp only [placed] at stored
      generalize wrote : storeText directory.tree (join directory.root path)
        (documentText record path) = result at stored
      obtain ⟨outcome, tree⟩ := result
      cases outcome with
      | error failure => simp [Except.map] at stored
      | ok done =>
          cases stored
          obtain ⟨target, temporary, stores⟩ := storeText_ok targetName wrote
          exact ⟨path, target, temporary, rfl, rfl, stores⟩

/-- What a directory does with a record that states no path. -/
theorem store_ok {directory next : ContentDirectory} {entry : CollectionEntry} {record : Object}
    {answer : Value} (unplaced : Object.find? record "_path" = none)
    (stored : directory.store entry (.object record) = (.ok answer, next)) :
    ∃ stem path target temporary,
      (Object.find? record entry.referenceField).bind stem? = some stem ∧
        path = join entry.path (stem ++ newExtension record) ∧
        Stores directory.tree next.tree (join directory.root path) (documentText record path)
          target temporary := by
  obtain ⟨path, target, temporary, placed, _, stores⟩ := store_writes stored
  obtain ⟨stem, isStem, isPath⟩ := recordPath_ok unplaced placed
  exact ⟨stem, path, target, temporary, isStem, isPath, stores⟩

/-- A directory keeps its root and its directories, whether it stores a record or not. -/
theorem store_keeps (directory : ContentDirectory) (entry : CollectionEntry) (record : Value) :
    (directory.store entry record).2.root = directory.root ∧
      GrowsDirectories directory.tree (directory.store entry record).2.tree := by
  unfold store
  split
  · split
    · exact ⟨rfl, .refl _⟩
    · exact ⟨rfl, grows_storeText _ _ _⟩
  · exact ⟨rfl, .refl _⟩

end Content.ContentDirectory

/-- A new record states no path of its own: that key is taken out of the payload. -/
theorem Collection.find?_path_of_newRecord {collection : Collection} {nodes : List Value}
    {freshId : String} {payload : Value} {record : Object}
    (made : collection.newRecord nodes freshId payload = .ok record) :
    Object.find? record "_path" = none := by
  obtain ⟨described, isRecord, identified, _⟩ := newRecord_ok made
  have distinct := nodup_keys_of_payloadRecord isRecord
  have stripped : Object.find? (stripProtected described) "_path" = none := by
    rw [find?_stripProtected distinct, if_pos (by decide)]
  unfold identify at identified
  split at identified
  · split at identified
    · cases identified
    · cases identified
      exact stripped
  · split at identified
    · cases identified
      rw [Object.find?_insert_other (by decide), stripped]
    · cases identified

open Files Files.Tree ContentDirectory in
/-- A successful create over a directory, whatever was built and mutated before it, writes one
file: the one that is named for the slug of the reference value.  All earlier files keep their
texts exactly when that place was free, or already held the same text, and no file had the name
of the temporary one. -/
theorem Runtime.create_keeps_files_iff {runtime after : Runtime ContentDirectory}
    {name : String} {payload stored : Value}
    (created : runtime.create ContentDirectory.source name payload = (.ok stored, after)) :
    ∃ collection record stem path target temporary,
      runtime.graph.collection name = .ok collection ∧
        collection.newRecord (runtime.graph.nodes name) (runtime.idOf runtime.nextId) payload =
          .ok record ∧
        (Object.find? record collection.referenceField).bind stem? = some stem ∧
        path = join collection.entry.path (stem ++ newExtension record) ∧
        Stores runtime.state.tree after.state.tree (join runtime.state.root path)
          (documentText record path) target temporary ∧
        (KeepsFiles runtime.state.tree after.state.tree ↔
          (∀ body, runtime.state.tree.entry? target = some (.file body) ->
              body = .text (documentText record path)) ∧
            ∀ body, runtime.state.tree.entry? temporary ≠ some (.file body)) := by
  have outcome := Turn.take_outcome ContentDirectory.source .create runtime name payload
  rw [show Turn.create.take ContentDirectory.source runtime name payload = (.ok stored, after)
    from created] at outcome
  cases outcome with
  | stored hands put =>
      cases hands with
      | create known made named =>
          have unplaced := Collection.find?_path_of_newRecord made
          obtain ⟨stem, path, target, temporary, isStem, isPath, stores⟩ :=
            ContentDirectory.store_ok unplaced put
          exact ⟨_, _, stem, path, target, temporary, known, made, isStem, isPath, stores,
            stores.keepsFiles_iff⟩

/-! ### Two reference values with one slug -/

/-- A post with an id and no other field. -/
def sampleIdentified (id : String) : Value :=
  .object [("id", .string id)]

/-- The same post as it is stored in the file for the slug `hello-world`. -/
def sampleHelloNode (id : String) : Value :=
  .object [("id", .string id), ("_filename", .string "hello-world.yaml"),
    ("_path", .string "posts/hello-world.yaml"), ("_slug", .string "hello-world")]

/-- Posts in the directory `posts`. -/
def sampleFolderPosts : Collection where
  entry := { name := "Post", path := "posts" }
  shape := [.mk "id" "id" (.scalar .string)]

/-- A site with posts, their nodes and their files. -/
def sampleFolder (nodes : List Value) (files : List (Files.Location × Files.Entry))
    (nextId : Nat) : Runtime ContentDirectory where
  graph := { collections := [sampleFolderPosts], store := [("Post", nodes)] }
  state := {
    tree := { home := "/site", entries := (["posts"], .directory) :: files }
    root := "/site" }
  nextId
  idOf _ := "4f3c"

/-- The file of a post with the slug `hello-world`. -/
def sampleHelloFile (text : String) : Files.Location × Files.Entry :=
  (["posts", "hello-world.yaml"], .file (.text text))

/-- Storing a post in the sample folder, when its path and the text of its file are known: one
step at a time, since evaluated as a whole the path is computed anew in every place. -/
theorem sampleFolder_store {nodes : List Value}
    {files changed : List (Files.Location × Files.Entry)} {nextId : Nat} {record : Object}
    {path target text : String}
    (placed : ContentDirectory.recordPath sampleFolderPosts.entry record = .ok path)
    (shown : documentText record path = text) (joined : Files.join "/site" path = target)
    (wrote : ContentDirectory.storeText (sampleFolder nodes files nextId).state.tree target text =
      (.ok (), (sampleFolder nodes changed nextId).state.tree)) :
    (sampleFolder nodes files nextId).state.store sampleFolderPosts.entry (.object record) =
      (.ok (.object (Object.insertAll record (fileMetadata path))),
        (sampleFolder nodes changed nextId).state) := by
  have isTarget : Files.join (sampleFolder nodes files nextId).state.root path = target := joined
  simp only [ContentDirectory.store, placed, shown, isTarget, wrote]
  rfl

/-- A create over the sample site, when its record and the text of its file are known. -/
private theorem sampleFolder_create {nodes : List Value}
    {files changed : List (Files.Location × Files.Entry)} {nextId : Nat} {id text : String}
    (made : sampleFolderPosts.newRecord nodes "4f3c" (sampleIdentified id) =
      .ok [("id", .string id)])
    (placed : ContentDirectory.recordPath sampleFolderPosts.entry [("id", .string id)] =
      .ok "posts/hello-world.yaml")
    (shown : documentText [("id", .string id)] "posts/hello-world.yaml" = text)
    (wrote : ContentDirectory.storeText (sampleFolder nodes files nextId).state.tree
      "/site/posts/hello-world.yaml" text =
        (.ok (), (sampleFolder nodes changed nextId).state.tree)) :
    (sampleFolder nodes files nextId).create ContentDirectory.source "Post"
        (sampleIdentified id) =
      (.ok (sampleHelloNode id),
        sampleFolder (nodes ++ [sampleHelloNode id]) changed (nextId + 1)) := by
  have described : fileMetadata "posts/hello-world.yaml" =
      [("_filename", .string "hello-world.yaml"), ("_path", .string "posts/hello-world.yaml"),
        ("_slug", .string "hello-world")] := by
    with_unfolding_all rfl
  have put : ContentDirectory.source.put (sampleFolder nodes files nextId).state
      sampleFolderPosts.entry (.object [("id", .string id)]) =
        (.ok (sampleHelloNode id), (sampleFolder nodes changed nextId).state) := by
    have joined : Files.join "/site" "posts/hello-world.yaml" = "/site/posts/hello-world.yaml" := by
      decide
    have stored := sampleFolder_store placed shown joined wrote
    rw [described] at stored
    exact stored
  have known : (sampleFolder nodes files nextId).graph.collection "Post" =
      .ok sampleFolderPosts := rfl
  have held : (sampleFolder nodes files nextId).graph.nodes "Post" = nodes := rfl
  have fresh : (sampleFolder nodes files nextId).idOf nextId = "4f3c" := rfl
  have counted : (sampleFolder nodes files nextId).nextId = nextId := rfl
  simp only [Runtime.create, known, held, counted, fresh, made, Runtime.storeRecord, put]
  rfl

theorem sampleFolder_create_hello :
    (sampleFolder [] [] 0).create ContentDirectory.source "Post"
        (sampleIdentified "Hello World") =
      (.ok (sampleHelloNode "Hello World"),
        sampleFolder [sampleHelloNode "Hello World"] [sampleHelloFile "id: Hello World\n"] 1) := by
  apply sampleFolder_create <;> with_unfolding_all rfl

theorem sampleFolder_create_twin :
    (sampleFolder [sampleHelloNode "Hello World"] [sampleHelloFile "id: Hello World\n"] 1).create
        ContentDirectory.source "Post" (sampleIdentified "hello-world") =
      (.ok (sampleHelloNode "hello-world"),
        sampleFolder [sampleHelloNode "Hello World", sampleHelloNode "hello-world"]
          [sampleHelloFile "id: hello-world\n"] 2) := by
  apply sampleFolder_create <;> with_unfolding_all rfl

open Files.Tree in
theorem Runtime.create_keeps_files_iff_sampleFolder :
    (sampleFolder [] [] 0).create ContentDirectory.source "Post"
        (sampleIdentified "Hello World") =
      (.ok (sampleHelloNode "Hello World"),
        sampleFolder [sampleHelloNode "Hello World"] [sampleHelloFile "id: Hello World\n"] 1) ∧
      KeepsFiles (sampleFolder [] [] 0).state.tree
        (sampleFolder [sampleHelloNode "Hello World"]
          [sampleHelloFile "id: Hello World\n"] 1).state.tree := by
  have noFiles : ∀ location body,
      Files.Tree.entry? (sampleFolder [] [] 0).state.tree location ≠ some (.file body) := by
    intro location body held
    simp only [sampleFolder, entry?, List.lookup_cons, List.lookup_nil] at held
    repeat' split at held
    all_goals cases held
  obtain ⟨_, _, _, _, target, temporary, _, _, _, _, _, keeps⟩ :=
    Runtime.create_keeps_files_iff sampleFolder_create_hello
  exact ⟨sampleFolder_create_hello,
    keeps.mpr ⟨fun body held => absurd held (noFiles target body), noFiles temporary⟩⟩

open Files.Tree in
/-- Two reference values with one slug: the second record is stored over the file of the first. -/
theorem Runtime.create_overwrites_slug_twin :
    (sampleFolder [] [] 0).create ContentDirectory.source "Post"
        (sampleIdentified "Hello World") =
      (.ok (sampleHelloNode "Hello World"),
        sampleFolder [sampleHelloNode "Hello World"] [sampleHelloFile "id: Hello World\n"] 1) ∧
      (sampleFolder [sampleHelloNode "Hello World"]
          [sampleHelloFile "id: Hello World\n"] 1).create
        ContentDirectory.source "Post" (sampleIdentified "hello-world") =
      (.ok (sampleHelloNode "hello-world"),
        sampleFolder [sampleHelloNode "Hello World", sampleHelloNode "hello-world"]
          [sampleHelloFile "id: hello-world\n"] 2) ∧
      ¬ KeepsFiles
        (sampleFolder [sampleHelloNode "Hello World"]
          [sampleHelloFile "id: Hello World\n"] 1).state.tree
        (sampleFolder [sampleHelloNode "Hello World", sampleHelloNode "hello-world"]
          [sampleHelloFile "id: hello-world\n"] 2).state.tree := by
  refine ⟨sampleFolder_create_hello, sampleFolder_create_twin, ?_⟩
  intro kept
  have still := kept ["posts", "hello-world.yaml"] (.text "id: Hello World\n") rfl
  exact absurd still (by decide +kernel)

end ContentGraph
