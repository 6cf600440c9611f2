import ContentGraph.Files.PathText
import ContentGraph.Json.Object
import ContentGraph.Text.LetterCase
import ContentGraph.Text.Naming

/-!
Contract: records before they become nodes.

Owns:
- `RawRecord`, a file's text or a value that is already parsed;
- `Records`, raw records grouped by collection in the order in which collections first appear;
- the metadata that a file path gives to its record.
-/

namespace ContentGraph.Content

open ContentGraph.Json

/-- The body of a raw record. -/
inductive RawBody where
  /-- Text that a transformer has to parse. -/
  | text (content : String)
  | parsed (value : Value)
deriving DecidableEq

/-- A record as a source hands it over. -/
structure RawRecord where
  /-- The path relative to the content root, for records from files. -/
  path : Option String
  body : RawBody
deriving DecidableEq

/-- The extension of a path in lower case. -/
def loweredExtension? (path : String) : Option String :=
  (Files.extension? path).map Text.lower

/-- The extension of a record's file in lower case. -/
def RawRecord.extension? (record : RawRecord) : Option String :=
  record.path.bind loweredExtension?

/-- Raw records by collection. -/
abbrev Records := List (String × List RawRecord)

namespace Records

/-- Adds records to a collection. -/
def append (records : Records) (collection : String) (added : List RawRecord) : Records :=
  match records with
  | [] => [(collection, added)]
  | (name, group) :: rest =>
      if name = collection then (name, group ++ added) :: rest
      else (name, group) :: append rest collection added

/-- Adds one record to a collection. -/
def add (records : Records) (collection : String) (record : RawRecord) : Records :=
  records.append collection [record]

/-- Adds the records of several collections in order. -/
def extend (records : Records) (groups : List (String × List RawRecord)) : Records :=
  groups.foldl (fun records group => records.append group.1 group.2) records

/-- The records of a collection, and the records without them. -/
def take (records : Records) (collection : String) : List RawRecord × Records :=
  ((records.lookup collection).getD [], records.filter fun group => group.1 ≠ collection)

/-- The number of records. -/
def count (records : Records) : Nat :=
  records.foldr (fun group total => group.2.length + total) 0

end Records

/-- A path with forward separators. -/
def forwardPath (path : String) : String :=
  String.ofList (path.toList.map fun c => if c = '\\' then '/' else c)

/-- The metadata of a file: its name, its path with forward separators, and the slug of its
stem. -/
def fileMetadata (path : String) : Object :=
  let name := (Files.fileName? path).map fun name => ("_filename", Value.string name)
  let slug := (Files.fileStem? path).map fun stem => ("_slug", Value.string (Text.slugify stem))
  name.toList ++ [("_path", .string (forwardPath path))] ++ slug.toList

end ContentGraph.Content
