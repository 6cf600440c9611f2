import ContentGraph.Digest.Blake3
import ContentGraph.Files.Tree
import ContentGraph.Json.Printer
import ContentGraph.Shape.Override
import ContentGraph.Shape.Transform
import ContentGraph.Text.Blank
import ContentGraph.Toml.Reader

/-!
Contract: the configuration of a content site.

Owns:
- collections with their paths, references, required fields and plurals;
- the plural of a name;
- what makes a configuration valid;
- reading a configuration from TOML, and finding its file in a directory;
- the identity of a configuration: the hash of its declarative parts.
-/

namespace ContentGraph

open ContentGraph.Json

/-- One named collection of content. -/
structure CollectionEntry where
  /-- The collection's name, from which its graph type is named. -/
  name : String
  /-- Where the collection's files lie. -/
  path : String
  /-- The collection that a field refers to, in the order of the field names. -/
  refs : List (String × String) := []
  /-- The field that identifies a record. -/
  referenceField : String := "id"
  /-- The fields that a new record has to bring. -/
  requiredFields : List String := []
  /-- The configured plural. -/
  plural : Option String := none
  overrides : List Override := []

/-- Whether a text ends with a word. -/
def endsWith (text : List Char) (word : String) : Bool :=
  word.toList.isSuffixOf text

/-- The plural of a name: `Author` becomes `Authors`, `Category` becomes `Categories`. -/
def pluralize (name : String) : String :=
  let lower := (Text.lower name).toList
  if ["s", "x", "ch", "sh"].any (endsWith lower) then name ++ "es"
  else if endsWith lower "y" && ! ["ay", "ey", "oy", "uy"].any (endsWith lower) then
    String.ofList name.toList.dropLast ++ "ies"
  else name ++ "s"

/-- The plural of a collection: the configured one, or the plural of its name. -/
def CollectionEntry.pluralName (entry : CollectionEntry) : String :=
  entry.plural.getD (pluralize entry.name)

/-- A configuration. -/
structure Config where
  collections : List CollectionEntry := []
  transform : FieldTransform := .camelCase
  /-- The directory that paths are relative to. -/
  root : String := ""

namespace Config

/-- The collection with a name. -/
def collection? (config : Config) (name : String) : Option CollectionEntry :=
  config.collections.find? fun entry => entry.name = name

/-- Checks collections in order, given the names before them. -/
def validateFrom (seen : List String) : List CollectionEntry -> Except ConfigProblem Unit
  | [] => .ok ()
  | entry :: rest =>
      if (Text.trim entry.name).isEmpty then .error .emptyName
      else if (Text.trim entry.path).isEmpty then .error (.noPath entry.name)
      else if seen.contains entry.name then .error (.duplicateName entry.name)
      else validateFrom (entry.name :: seen) rest

/-- Checks a configuration: it has collections, each with a name of its own and a path. -/
def validate (config : Config) : Except Failure Unit :=
  if config.collections.isEmpty then .error (.config .noCollections)
  else
    match validateFrom [] config.collections with
    | .ok () => .ok ()
    | .error problem => .error (.config problem)

/-! ### Identity -/

/-- The declarative parts of a collection. -/
def entryJson (entry : CollectionEntry) : Value :=
  .object [
    ("name", .string entry.name),
    ("path", .string entry.path),
    ("refs", .object (entry.refs.map fun (field, target) => (field, .string target))),
    ("reference_field", .string entry.referenceField),
    ("creation_required_fields", .array (entry.requiredFields.map .string)),
    ("plural", (entry.plural.map Value.string).getD .null)]

/-- The declarative parts of a configuration. -/
def identityJson (config : Config) : Value :=
  .object [
    ("field_transform", .string config.transform.label),
    ("collections", .array (config.collections.map entryJson)),
    ("overrides", .array (config.collections.flatMap fun entry =>
      entry.overrides.map fun override =>
        .array [.string entry.name, .string override.field, .string override.typeName]))]

/-- The identity of a configuration. -/
def hash (config : Config) : String :=
  Digest.Blake3.hashText config.identityJson.compact

/-! ### Reading -/

/-- The single value under a key; a key that comes twice is refused. -/
def field? (fields : Toml.Table) (key : String) : Except Failure (Option Toml.Value) :=
  match fields.filter fun field => field.1 = key with
  | [] => .ok none
  | [field] => .ok (some field.2)
  | _ => .error .configText

/-- A text, if the key is there. -/
def text? (fields : Toml.Table) (key : String) : Except Failure (Option String) := do
  match ← field? fields key with
  | none => .ok none
  | some (.string text) => .ok (some text)
  | some _ => .error .configText

/-- A list of texts, empty if the key is not there. -/
def texts (fields : Toml.Table) (key : String) : Except Failure (List String) := do
  match ← field? fields key with
  | none => .ok []
  | some (.array items) =>
      items.mapM fun
        | .string text => .ok text
        | _ => .error .configText
  | some _ => .error .configText

/-- Sets a key of a map that is ordered by its keys. -/
def insertSorted (key value : String) : List (String × String) -> List (String × String)
  | [] => [(key, value)]
  | (name, old) :: rest =>
      if key = name then (key, value) :: rest
      else if key < name then (key, value) :: (name, old) :: rest
      else (name, old) :: insertSorted key value rest

/-- The fields of a table value. -/
def tableFields? : Toml.Value -> Option Toml.Table
  | .table _ fields => some fields
  | _ => none

/-- The references of a collection. -/
def refs (fields : Toml.Table) : Except Failure (List (String × String)) := do
  match ← field? fields "refs" with
  | none => .ok []
  | some value =>
      match tableFields? value with
      | none => .error .configText
      | some entries =>
          entries.foldlM
            (fun map (key, value) =>
              match value with
              | .string target => .ok (insertSorted key target map)
              | _ => .error .configText)
            []

/-- One collection of a document. -/
def entryOfTable (fields : Toml.Table) : Except Failure CollectionEntry := do
  let some name ← text? fields "name" | .error .configText
  let some path ← text? fields "path" | .error .configText
  let refs ← refs fields
  let referenceField ← text? fields "reference_field"
  let requiredFields ← texts fields "creation_required_fields"
  let plural ← text? fields "plural"
  .ok { name, path, refs, referenceField := referenceField.getD "id", requiredFields, plural }

/-- The collections of a document. -/
def entriesOfTable (fields : Toml.Table) : Except Failure (List CollectionEntry) := do
  match ← field? fields "collections" with
  | none => .ok []
  | some (.tables items) => items.mapM entryOfTable
  | some (.array items) =>
      items.mapM fun item =>
        match tableFields? item with
        | some fields => entryOfTable fields
        | none => .error .configText
  | some _ => .error .configText

/-- Reads and checks a configuration. -/
def ofToml (text root : String) : Except Failure Config := do
  let some fields := Toml.parse? text | .error .configText
  let name ← text? fields "field_transform"
  let collections ← entriesOfTable fields
  let transform ←
    match name with
    | some name => FieldTransform.ofName name
    | none => .ok .camelCase
  let config : Config := { collections, transform, root }
  config.validate
  .ok config

/-- The names that a configuration file may have. -/
def fileNames : List String := ["contentql.toml", ".contentql.toml"]

/-- Finds the one configuration file in a directory, and reads it. -/
def discover (tree : Files.Tree) (directory : String) : Except Failure Config := do
  let found := (fileNames.map (Files.join directory)).filter tree.isFilePath
  match found with
  | [] => .error (.configNotFound directory)
  | [path] =>
      let text ← tree.readText path
      ofToml text directory
  | files => .error (.multipleConfigs directory files)

end Config

end ContentGraph
