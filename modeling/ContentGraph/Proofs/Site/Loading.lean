import ContentGraph.Proofs.Content.FileMetadata
import ContentGraph.Proofs.Files.PathText
import ContentGraph.Proofs.Files.Tree
import ContentGraph.Proofs.Site.Build

/-!
Contract: the files that the nodes of a site come from.

Owns:
- `LoadedFile`, a content file of a directory with the node that it states;
- `Site.exists_loadedFile`: every node of a site over a directory is loaded from a file;
- the path of such a node: the one that the file states, else the path of the file.

Does not own: which files of a directory count as content (`Files.IgnoreRules`).
-/

namespace ContentGraph

open ContentGraph.Json ContentGraph.Content ContentGraph.Files

namespace Content

/-- A content file below a collection's path in a directory, and the node that its text states. -/
structure LoadedFile (directory : ContentDirectory) (registry : Registry)
    (entry : CollectionEntry) where
  /-- The names from the collection's directory down to the file. -/
  names : List String
  /-- Where the file stands. -/
  location : Location
  text : String
  own : Value
  listed : names ∈ directory.tree.contentBelow
    ((directory.tree.locate? (join directory.root entry.path)).getD [])
  located : directory.tree.locate? (names.foldl join (join directory.root entry.path)) =
    some location
  held : directory.tree.entry? location = some (.file (.text text))
  parsed : registry.parse
    ⟨some (below directory.root (names.foldl join (join directory.root entry.path))),
      .text text⟩ = .ok own

namespace LoadedFile

variable {directory : ContentDirectory} {registry : Registry} {entry : CollectionEntry}
  (file : LoadedFile directory registry entry)

/-- The path of the file relative to the content root. -/
def path : String :=
  below directory.root (file.names.foldl join (join directory.root entry.path))

/-- The node of the file. -/
def node : Value :=
  withFileMetadata (some file.path) file.own

/-- The relative path leads from the content root to the file. -/
theorem locate?_path :
    directory.tree.locate? (join directory.root file.path) = some file.location := by
  have same := components_join_below_of_joined directory.root entry.path file.names
  exact (Tree.locate?_congr same).trans file.located

theorem object_of_node {fields : Object} (isNode : file.node = .object fields) :
    ∃ own, file.own = .object own ∧ fields = Value.fillMissing own (fileMetadata file.path) := by
  unfold node withFileMetadata at isNode
  cases isOwn : file.own with
  | object own =>
      simp only [isOwn, Value.object.injEq] at isNode
      exact ⟨own, rfl, isNode.symm⟩
  | _ => simp [isOwn] at isNode

/-- A file that states no path gives its own to its node. -/
theorem path_of_unstated {fields : Object} (isNode : file.node = .object fields)
    (unstated : file.own.field? "_path" = none) :
    Object.find? fields "_path" = some (.string (forwardPath file.path)) := by
  obtain ⟨own, isOwn, rfl⟩ := file.object_of_node isNode
  have missing : Object.find? own "_path" = none := by
    simpa [isOwn, Value.field?, Value.fields?] using unstated
  rw [Value.find?_fillMissing (nodup_keys_fileMetadata _), find?_path_fileMetadata, missing]

/-- A path that a file states is the path of its node. -/
theorem path_of_stated {fields : Object} {stated : String} (isNode : file.node = .object fields)
    (states : file.own.field? "_path" = some (.string stated)) :
    Object.find? fields "_path" = some (.string stated) := by
  obtain ⟨own, isOwn, rfl⟩ := file.object_of_node isNode
  have isHeld : Object.find? own "_path" = some (.string stated) := by
    simpa [isOwn, Value.field?, Value.fields?] using states
  rw [Value.find?_fillMissing (nodup_keys_fileMetadata _), find?_path_fileMetadata, isHeld]
  rfl

end LoadedFile

/-! ### Records of a directory -/

namespace Records

variable {records : Records} {raw record : RawRecord} {name other : String}

theorem mem_lookup_add (member : raw ∈ ((records.add other record).lookup name).getD []) :
    raw ∈ (records.lookup name).getD [] ∨ other = name ∧ raw = record := by
  induction records with
  | nil =>
      by_cases isOther : name = other
      · subst isOther
        right
        simpa [add, append] using member
      · have passed : (name == other) = false := by simpa using isOther
        simp [add, append, List.lookup_cons, passed] at member
  | cons group rest inductionHypothesis =>
      obtain ⟨held, old⟩ := group
      by_cases isHeld : name = held
      · subst isHeld
        by_cases isOther : name = other
        · subst isOther
          have isAdded : raw ∈ old ∨ raw = record := by simpa [add, append] using member
          simpa using isAdded
        · left
          simpa [add, append, isOther] using member
      · have passed : (name == held) = false := by simpa using isHeld
        by_cases isOther : held = other
        · left
          simpa only [add, append, if_pos isOther, List.lookup_cons, passed] using member
        · simp only [add, append, if_neg isOther, List.lookup_cons, passed] at member ⊢
          exact inductionHypothesis member

/-- Records that are added one after another to one collection. -/
theorem mem_lookup_foldl_add {added : List RawRecord}
    (member : raw ∈ ((added.foldl (fun records record => records.add other record)
      records).lookup name).getD []) :
    raw ∈ (records.lookup name).getD [] ∨ other = name ∧ raw ∈ added := by
  induction added generalizing records with
  | nil => exact .inl member
  | cons first rest inductionHypothesis =>
      rcases inductionHypothesis member with before | ⟨isName, inRest⟩
      · rcases mem_lookup_add before with old | ⟨isName, rfl⟩
        · exact .inl old
        · exact .inr ⟨isName, List.mem_cons_self⟩
      · exact .inr ⟨isName, List.mem_cons_of_mem _ inRest⟩

theorem lookup_take_of_ne (different : name ≠ other) :
    (records.take other).2.lookup name = records.lookup name := by
  induction records with
  | nil => rfl
  | cons group rest inductionHypothesis =>
      obtain ⟨held, old⟩ := group
      simp only [take] at inductionHypothesis ⊢
      by_cases isTaken : held = other
      · have passed : (name == held) = false := by simpa [isTaken] using different
        rw [List.filter_cons_of_neg (by simpa using isTaken), inductionHypothesis,
          List.lookup_cons, passed]
      · rw [List.filter_cons_of_pos (by simpa using isTaken), List.lookup_cons, List.lookup_cons,
          inductionHypothesis]

end Records

/-- Every record that a directory fetches is read from a file of its collection. -/
theorem ContentDirectory.exists_read {directory : ContentDirectory} {name : String}
    {raw : RawRecord} {entries : List CollectionEntry} {before records : Records}
    (fetched : directory.fetchAll entries before = .ok records)
    (member : raw ∈ (records.lookup name).getD []) :
    raw ∈ (before.lookup name).getD [] ∨ ∃ entry ∈ entries, entry.name = name ∧
      ∃ read, directory.readCollection entry = .ok read ∧ raw ∈ read := by
  induction entries generalizing before with
  | nil =>
      cases fetched
      exact .inl member
  | cons entry rest inductionHypothesis =>
      obtain ⟨read, isRead, fetchedRest⟩ := bind_eq_ok.mp fetched
      rcases inductionHypothesis fetchedRest with inBefore | ⟨later, isLater, isName, reads⟩
      · rcases Records.mem_lookup_foldl_add inBefore with old | ⟨isName, inRead⟩
        · exact .inl old
        · exact .inr ⟨entry, List.mem_cons_self, isName, read, isRead, inRead⟩
      · exact .inr ⟨later, List.mem_cons_of_mem _ isLater, isName, reads⟩

/-- Every loaded node is the node of a record of its collection. -/
theorem exists_raw {registry : Registry} {name : String} {node : Value}
    {entries : List CollectionEntry} {records : Records} {store : Store}
    (loaded : loadAll registry entries records = .ok store) (member : node ∈ store.nodes name) :
    ∃ raw ∈ (records.lookup name).getD [], loadRecord registry raw = .ok node := by
  induction entries generalizing records store with
  | nil =>
      cases loaded
      cases member
  | cons entry rest inductionHypothesis =>
      obtain ⟨nodes, areNodes, others, loadedOthers, isStore⟩ := by
        simpa only [loadAll, bind_eq_ok] using loaded
      cases isStore
      rw [Store.nodes] at member
      by_cases isName : entry.name = name
      · subst isName
        rw [if_pos rfl] at member
        exact exists_source_of_mem (mapM_eq_ok.mp areNodes) member
      · rw [if_neg isName] at member
        obtain ⟨raw, isRaw, isLoaded⟩ := inductionHypothesis loadedOthers member
        exact ⟨raw, Records.lookup_take_of_ne (Ne.symm isName) ▸ isRaw, isLoaded⟩

/-- What is read for a collection and loaded is the node of one of its files. -/
theorem ContentDirectory.loadedFile_of_read {directory : ContentDirectory} {registry : Registry}
    {entry : CollectionEntry} {read : List RawRecord} {raw : RawRecord} {node : Value}
    (isRead : directory.readCollection entry = .ok read) (member : raw ∈ read)
    (loaded : loadRecord registry raw = .ok node) :
    ∃ file : LoadedFile directory registry entry, file.node = node := by
  unfold readCollection at isRead
  dsimp only at isRead
  split at isRead
  · obtain ⟨names, listed, isRaw⟩ := exists_source_of_mem (mapM_eq_ok.mp isRead) member
    obtain ⟨text, hasText, isRecord⟩ := bind_eq_ok.mp isRaw
    cases isRecord
    unfold Tree.readText Tree.find? at hasText
    split at hasText
    · next found =>
        cases hasText
        obtain ⟨location, located, held⟩ := Option.bind_eq_some_iff.mp found
        unfold loadRecord at loaded
        cases parsed : registry.parse ⟨some (below directory.root
            (names.foldl join (join directory.root entry.path))), .text text⟩ with
        | error failure => simp [parsed, Except.map] at loaded
        | ok own =>
            rw [parsed] at loaded
            cases loaded
            exact ⟨⟨names, location, text, own, listed, located, held, parsed⟩, rfl⟩
    · cases hasText
  · cases isRead
    cases member

end Content

/-- Every node of a site that was built over a directory is the node of a file of its
collection. -/
theorem Site.exists_loadedFile {config : Config} {directory : ContentDirectory}
    {registry : Registry} {firstId : Nat} {site : Site ContentDirectory} {name : String}
    {node : Value}
    (built : Site.build config ContentDirectory.source directory registry firstId = .ok site)
    (member : node ∈ site.graph.nodes name) :
    ∃ entry ∈ config.collections, entry.name = name ∧
      ∃ file : LoadedFile directory registry entry, file.node = node := by
  obtain ⟨store, isStore, collections, _, isGraph⟩ := by
    simpa only [graphOf, bind_eq_ok] using graphOf_of_build built
  obtain ⟨_, _, _, _, records, fetched, loaded⟩ := by
    simpa only [load, bind_eq_ok] using isStore
  rw [← Except.ok.inj isGraph] at member
  obtain ⟨raw, isRaw, isNode⟩ := exists_raw loaded member
  rcases ContentDirectory.exists_read fetched isRaw with none | ⟨entry, isEntry, isName, read,
    isRead, inRead⟩
  · cases none
  · exact ⟨entry, isEntry, isName, ContentDirectory.loadedFile_of_read isRead inRead isNode⟩

end ContentGraph
