/-!
Contract: every way in which loading, building, querying and writing can fail.

Owns:
- `Failure`, one constructor for each cause, and its parts for causes within a theme;
- `Failure.message`, the wording.  What a reader of a text format found wrong is not kept: the
  wording has `<detail>` in its place.

Does not own: when a failure arises.
-/

namespace ContentGraph

/-- What is wrong with a configuration. -/
inductive ConfigProblem where
  | unknownTransform (name : String)
  | noCollections
  | emptyName
  | noPath (collection : String)
  | duplicateName (collection : String)
deriving DecidableEq

/-- What is wrong with the path of an override. -/
inductive OverridePathProblem where
  | emptySegment
  | strayBracket
  | elementMarkerAtEnd
  | textAfterMarker
deriving DecidableEq

/-- What a filter operation asks of its value or of the field it is applied to. -/
inductive Requirement where
  | arrayValue
  | arrayField
  | patternString
  | booleanValue
deriving DecidableEq

/-- What is wrong with the type graph or with a request to it. -/
inductive GraphProblem where
  | typeReference (text : String)
  | unknownOrder (name : String)
  | payloadNotObject (typeName : String)
  | missingArgument (name : String)
  /-- The graph engine refuses the type graph. -/
  | engine
deriving DecidableEq

/-- Why content cannot be read or written. -/
inductive SourceProblem where
  | noFileName (collection referenceField : String)
  | outsideRoot (path : String)
  | rootNotDirectory (root : String)
  | recordNotObject (collection : String)
  | frontMatterNotMapping (path : String)
  | documentNotMapping (path : String)
  /-- A reason that a source or a resolver gives in its own words. -/
  | stated (reason : String)
deriving DecidableEq

/-- The causes of failure. -/
inductive Failure where
  | io
  | json
  | yaml (path : String)
  | configText
  | config (problem : ConfigProblem)
  | configNotFound (directory : String)
  | multipleConfigs (directory : String) (files : List String)
  | illegalFieldName (field : String)
  | noTransformer (extension path : String)
  | overridePath (field : String) (problem : OverridePathProblem)
  | unsupportedOperation (operation : String)
  | filterType (operation : String) (requirement : Requirement)
  | invalidRegex (pattern : String)
  | unknownField (typeName field : String)
  | referenceAlreadyExists (collection field value : String)
  | missingRequiredField (collection field : String)
  | notFound (collection field value : String)
  | unknownCollection (collection : String)
  | graph (problem : GraphProblem)
  | source (problem : SourceProblem)
deriving DecidableEq

/-- The wording of a configuration problem. -/
def ConfigProblem.message : ConfigProblem -> String
  | .unknownTransform name =>
      "unknown field_transform `" ++ name ++ "` (expected none, camel_case or snake_case)"
  | .noCollections => "no collections configured"
  | .emptyName => "collection with an empty name"
  | .noPath collection => "collection `" ++ collection ++ "` has no path"
  | .duplicateName collection => "duplicate collection `" ++ collection ++ "`"

/-- The wording of a problem with an override's path. -/
def OverridePathProblem.message : OverridePathProblem -> String
  | .emptySegment => "empty segment"
  | .strayBracket => "only `[]` and `[]obj` list markers are supported"
  | .elementMarkerAtEnd => "`[]obj` must be followed by a property"
  | .textAfterMarker => "unexpected characters after `[]`"

/-- The wording of a requirement. -/
def Requirement.message : Requirement -> String
  | .arrayValue => "an array value"
  | .arrayField => "the field to be an array"
  | .patternString => "a pattern string"
  | .booleanValue => "a boolean value"

/-- The wording of a graph problem. -/
def GraphProblem.message : GraphProblem -> String
  | .typeReference text => "invalid type reference `" ++ text ++ "`"
  | .unknownOrder name => "unknown order `" ++ name ++ "`"
  | .payloadNotObject typeName => typeName ++ " payload must be an object"
  | .missingArgument name => "missing `" ++ name ++ "` argument"
  | .engine => "<detail>"

/-- The wording of a source problem. -/
def SourceProblem.message : SourceProblem -> String
  | .noFileName collection referenceField =>
      "cannot derive a file name for " ++ collection ++ " without `" ++ referenceField ++ "`"
  | .outsideRoot path => "record path `" ++ path ++ "` must stay inside the content root"
  | .rootNotDirectory root => "content root " ++ root ++ " is not a directory"
  | .recordNotObject collection => collection ++ " record must be an object"
  | .frontMatterNotMapping path => "front matter of " ++ path ++ " is not a mapping"
  | .documentNotMapping path => path ++ " must contain a mapping at the top level"
  | .stated reason => reason

/-- A text in double quotes, with the escapes of quotes, backslashes and control characters
that lists of file names use. -/
def quotedName (text : String) : String :=
  let escape (c : Char) : List Char :=
    if c = '"' then ['\\', '"']
    else if c = '\\' then ['\\', '\\']
    else if c = '\n' then ['\\', 'n']
    else if c = '\r' then ['\\', 'r']
    else if c = '\t' then ['\\', 't']
    else [c]
  String.ofList ('"' :: text.toList.flatMap escape ++ ['"'])

/-- The wording of a failure. -/
def Failure.message : Failure -> String
  | .io => "IO error: <detail>"
  | .json => "JSON error: <detail>"
  | .yaml path => "YAML error in " ++ path ++ ": <detail>"
  | .configText => "Config file parsing error: <detail>"
  | .config problem => "Config validation error: " ++ problem.message
  | .configNotFound directory =>
      "No config file found in " ++ directory ++ " (expected contentql.toml)"
  | .multipleConfigs directory files =>
      "Multiple config files found in " ++ directory ++ ": ["
        ++ ", ".intercalate (files.map quotedName) ++ "]"
  | .illegalFieldName field =>
      "Illegal field name `" ++ field ++ "`: it still contains `[]` after transformation. "
        ++ "Rename the field in your content, or adjust the field transform so it strips `[]`"
  | .noTransformer extension path =>
      "No transformer registered for extension `" ++ extension ++ "` (" ++ path ++ ")"
  | .overridePath field problem =>
      "Invalid override path `" ++ field ++ "`: " ++ problem.message
  | .unsupportedOperation operation => "Unsupported filter operation `" ++ operation ++ "`"
  | .filterType operation requirement =>
      "Filter operation `" ++ operation ++ "` requires " ++ requirement.message
  | .invalidRegex pattern => "Invalid regex `" ++ pattern ++ "`: <detail>"
  | .unknownField typeName field =>
      "Cannot query field `" ++ field ++ "` on type `" ++ typeName ++ "`"
  | .referenceAlreadyExists collection field value =>
      collection ++ " with " ++ field ++ " `" ++ value ++ "` already exists"
  | .missingRequiredField collection field =>
      "Missing required field `" ++ field ++ "` for " ++ collection
  | .notFound collection field value =>
      collection ++ " with " ++ field ++ " `" ++ value ++ "` not found"
  | .unknownCollection collection => "Unknown collection `" ++ collection ++ "`"
  | .graph problem => "Schema build failed: " ++ problem.message
  | .source problem => "Source error: " ++ problem.message

end ContentGraph
