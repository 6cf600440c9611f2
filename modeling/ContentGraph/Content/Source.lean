import ContentGraph.Config
import ContentGraph.Content.Document
import ContentGraph.Files.IgnoreRules

/-!
Contract: where records come from and where they are stored.

Owns:
- `Source`, the operations of a source over its state;
- a source in memory, which logs what is stored in it;
- a source over a directory: it reads the content files below each collection's path, and
  stores a record as the text of a file, first under a temporary name and then in its place;
- the file of a record, which always lies below the content root.
-/

namespace ContentGraph.Content

open ContentGraph.Json

/-- The operations of a source with a state. -/
structure Source (State : Type) where
  /-- Checks the source before the first fetch. -/
  check : State -> Except Failure Unit
  /-- Adds the raw records of collections to those that are there. -/
  fetch : State -> List CollectionEntry -> Records -> Except Failure Records
  /-- Stores a record; the answer is the record as stored. -/
  put : State -> CollectionEntry -> Value -> Except Failure Value × State

/-- A source in memory. -/
structure MemoryStore where
  collections : List (String × List Value) := []
  /-- What was stored, with the names of the collections, in order. -/
  writes : List (String × Value) := []

/-- The operations of a source in memory. -/
def MemoryStore.source : Source MemoryStore where
  check _ := .ok ()
  fetch store entries records :=
    .ok (entries.foldl
      (fun records entry =>
        ((store.collections.lookup entry.name).getD []).foldl
          (fun records value => records.add entry.name ⟨none, .parsed value⟩) records)
      records)
  put store entry record :=
    (.ok record, { store with writes := store.writes ++ [(entry.name, record)] })

/-- A source over a directory. -/
structure ContentDirectory where
  tree : Files.Tree
  /-- The directory that collection paths are relative to. -/
  root : String

namespace ContentDirectory

/-- A record path that stays below the content root and names a file. -/
def insideRoot (path : String) : Except Failure String :=
  let stays := (Files.components path).all fun component =>
    match component with
    | .normal _ | .current => true
    | _ => false
  if stays && (Files.fileName? path).isSome then .ok path
  else .error (.source (.outsideRoot path))

/-- The stem of the file of a new record: the slug of a text, the text of a number. -/
def stem? (value : Value) : Option String :=
  let stem :=
    match value with
    | .string text => Text.slugify text
    | .number number => number.text
    | _ => ""
  if stem.isEmpty then none else some stem

/-- The path of a record's file below the root: the one it has, else one named for its
reference value. -/
def recordPath (entry : CollectionEntry) (record : Object) : Except Failure String :=
  match Object.find? record "_path" with
  | some (.string path) => insideRoot path
  | _ =>
      match (Object.find? record entry.referenceField).bind stem? with
      | some stem =>
          let extension := if (rawBody? record).isSome then ".md" else ".yaml"
          .ok (Files.join entry.path (stem ++ extension))
      | none => .error (.source (.noFileName entry.name entry.referenceField))

/-- The raw records of the content files below a collection's path; none when there is no such
directory. -/
def readCollection (store : ContentDirectory) (entry : CollectionEntry) :
    Except Failure (List RawRecord) :=
  let directory := Files.join store.root entry.path
  if store.tree.isDirectoryPath directory then
    let below := store.tree.contentBelow ((store.tree.locate? directory).getD [])
    below.mapM fun names => do
      let path := names.foldl Files.join directory
      let text ← store.tree.readText path
      .ok ⟨some (Files.below store.root path), .text text⟩
  else .ok []

/-- Adds the raw records of collections in order. -/
def fetchAll (store : ContentDirectory) :
    List CollectionEntry -> Records -> Except Failure Records
  | [], records => .ok records
  | entry :: rest, records => do
      let read ← store.readCollection entry
      fetchAll store rest (read.foldl (fun records record => records.add entry.name record) records)

/-- The tree after the text of a file was stored, and whether that succeeded.  The text goes to
a temporary file beside the target, which then takes the target's place. -/
def storeText (tree : Files.Tree) (target text : String) : Except Failure Unit × Files.Tree :=
  match tree.belowHome? target with
  | none => (.error .io, tree)
  | some components =>
      if !Files.Tree.isUsablePath components.dropLast then (.error .io, tree)
      else
        match tree.makeDirectories [] components.dropLast with
        | (.error failure, withDirectories) => (.error failure, withDirectories)
        | (.ok _, withDirectories) =>
            let temporary := target ++ ".tmp"
            match withDirectories.writeText temporary text with
            | .error failure => (.error failure, withDirectories)
            | .ok written =>
                match written.rename temporary target with
                | .error failure => (.error failure, written)
                | .ok renamed => (.ok (), renamed)

/-- Stores a record as a file; the stored record has the metadata of the file. -/
def store (directory : ContentDirectory) (entry : CollectionEntry) (record : Value) :
    Except Failure Value × ContentDirectory :=
  match record with
  | .object fields =>
      match recordPath entry fields with
      | .error failure => (.error failure, directory)
      | .ok path =>
          let (outcome, tree) :=
            storeText directory.tree (Files.join directory.root path) (documentText fields path)
          (outcome.map fun _ => .object (Object.insertAll fields (fileMetadata path)),
            { directory with tree })
  | _ => (.error (.source (.recordNotObject entry.name)), directory)

/-- The operations of a source over a directory. -/
def source : Source ContentDirectory where
  check directory :=
    if directory.tree.isDirectoryPath directory.root then .ok ()
    else .error (.source (.rootNotDirectory directory.root))
  fetch directory entries records := directory.fetchAll entries records
  put directory entry record := directory.store entry record

end ContentDirectory

end ContentGraph.Content
