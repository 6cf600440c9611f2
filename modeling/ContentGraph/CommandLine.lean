import ContentGraph.Site

/-!
Contract: the command line of a site.

Owns:
- the arguments: a root directory, and one of the commands that print the schema, run a query,
  and show the collections;
- the plan of a command, which may ask for one file to be written, and the report that follows;
- running a command inside a directory tree.

Does not own: input and output (`Main`), and help texts.
-/

namespace ContentGraph.CommandLine

open ContentGraph.Json

/-- What is asked for. -/
inductive Command where
  /-- Print the schema, or write it to a file. -/
  | schema (file : Option String)
  | query (text : String) (values : Option String)
  | stats
deriving DecidableEq

/-- A command and the root directory that it works on. -/
structure Invocation where
  root : String
  command : Command
deriving DecidableEq

/-! ### Arguments -/

/-- An argument as it is read. -/
inductive Token where
  /-- An option by its letter, with its value. -/
  | option (letter : Char) (value : String)
  | plain (text : String)

/-- The value of an option, which cannot look like an option itself, and the arguments after
it. -/
def separateValue? : List String -> Option (String × List String)
  | [] => none
  | value :: rest =>
      if value.toList.head? = some '-' && value ≠ "-" then none else some (value, rest)

/-- An option with its value at the start of arguments, and the arguments after it.  `options`
has the letters of the options with their long names. -/
def option? (options : List (Char × String)) (text : List Char) (rest : List String) :
    Option ((Char × String) × List String) :=
  match text with
  | '-' :: '-' :: long =>
      let name := String.ofList (long.takeWhile (· ≠ '='))
      match options.find? fun entry => entry.2 = name with
      | none => none
      | some (letter, _) =>
          match long.dropWhile (· ≠ '=') with
          | [] => (separateValue? rest).map fun (value, rest) => ((letter, value), rest)
          | _ :: value => some ((letter, String.ofList value), rest)
  | '-' :: letter :: short =>
      if (options.lookup letter).isNone then none
      else
        match short with
        | [] => (separateValue? rest).map fun (value, rest) => ((letter, value), rest)
        | '=' :: value => some ((letter, String.ofList value), rest)
        | value => some ((letter, String.ofList value), rest)
  | _ => none

/-- Reads arguments into options and plain texts; after two hyphens all are plain. -/
def tokens? (options : List (Char × String)) : Nat -> List String -> Option (List Token)
  | _, [] => some []
  | 0, _ => none
  | fuel + 1, first :: rest =>
      if first = "--" then some (rest.map .plain)
      else if first.toList.head? = some '-' && first ≠ "-" then
        match option? options first.toList rest with
        | none => none
        | some ((letter, value), rest) =>
            (tokens? options fuel rest).map (.option letter value :: ·)
      else (tokens? options fuel rest).map (.plain first :: ·)

/-- The values of an option. -/
def valuesOf (letter : Char) (tokens : List Token) : List String :=
  tokens.filterMap fun token =>
    match token with
    | .option other value => if other = letter then some value else none
    | .plain _ => none

/-- The plain texts. -/
def plainOf (tokens : List Token) : List String :=
  tokens.filterMap fun token =>
    match token with
    | .plain text => some text
    | .option _ _ => none

/-- The value of an option that is given at most once. -/
def atMostOnce? (letter : Char) (tokens : List Token) : Option (Option String) :=
  match valuesOf letter tokens with
  | [] => some none
  | [value] => some (some value)
  | _ => none

/-- A path is not empty. -/
def isPath (value : Option String) : Bool :=
  value.all fun path => !path.isEmpty

/-- The command of a name with its arguments. -/
def command? (name : String) (args : List String) : Option Command :=
  match name with
  | "schema" => do
      let tokens ← tokens? [('o', "out")] args.length args
      let file ← atMostOnce? 'o' tokens
      if (plainOf tokens).isEmpty && isPath file then some (.schema file) else none
  | "query" => do
      let tokens ← tokens? [('v', "variables")] args.length args
      let values ← atMostOnce? 'v' tokens
      match plainOf tokens with
      | [text] => some (.query text values)
      | _ => none
  | "stats" => if args.isEmpty then some .stats else none
  | _ => none

/-- Reads the options before the name of a command. -/
def readFrom (root : Option String) : Nat -> List String -> Option Invocation
  | _, [] => none
  | 0, _ => none
  | fuel + 1, first :: rest =>
      if first.toList.head? = some '-' && first ≠ "-" then
        match option? [('r', "root")] first.toList rest with
        | some ((_, value), rest) =>
            if root.isSome || value.isEmpty then none else readFrom (some value) fuel rest
        | none => none
      else (command? first rest).map fun command => { root := root.getD ".", command }

/-- Reads arguments; `none` for wrong usage. -/
def Invocation.read? (args : List String) : Option Invocation :=
  readFrom none args.length args

/-! ### Reports -/

/-- What a command leaves. -/
structure Report where
  exit : Nat
  output : String := ""
  /-- What is said beside the output. -/
  messages : List String := []
deriving DecidableEq

/-- The report of a failure. -/
def Report.failure (reason : String) : Report :=
  { exit := 1, messages := ["Error: " ++ reason] }

/-- The report of wrong usage. -/
def Report.usage : Report :=
  { exit := 2 }

/-- The report when one type gets two fields of one name. -/
def Report.clash : Report :=
  { exit := 101 }

/-- What a command does after it has read the content. -/
inductive Plan where
  | done (report : Report) (content : Content.ContentDirectory)
  /-- Write a text to a file; what follows depends on whether that succeeds. -/
  | write (file text : String) (next : Bool -> Report) (content : Content.ContentDirectory)

/-- The report of writing the schema to a file. -/
def reportOfWrite (file : String) (written : Bool) : Report :=
  if written then { exit := 0, messages := ["Schema written to " ++ file] }
  else .failure ("writing " ++ file)

/-- The line of a relation. -/
def relationLine (relation : Relation) : String :=
  let cardinality :=
    match relation.cardinality with
    | .one => "One"
    | .many => "Many"
  "    " ++ relation.field ++ " -> " ++ relation.target ++ " (" ++ cardinality ++ ")\n"

/-- The lines of a collection. -/
def collectionLines (graph : Graph) (collection : Collection) : String :=
  "  " ++ collection.typeName ++ " (" ++ toString (graph.nodes collection.name).length
    ++ " nodes, " ++ toString collection.shape.length ++ " fields)\n"
    ++ String.join (collection.relations.map relationLine)

/-- The overview of a site. -/
def overview {State : Type} (site : Site State) : String :=
  "Schema " ++ String.ofList (site.hash.toList.take 12) ++ "\n"
    ++ String.join (site.graph.collections.map (collectionLines site.graph))

/-- The variables given as a text, if any. -/
def variables? (text : Option String) : Option (Option Value) :=
  match text with
  | none => some none
  | some text => (parse? text).map some

/-- The plan of a command on a built site. -/
def planOn (site : Site Content.ContentDirectory) : Command -> Plan
  | .schema none =>
      .done { exit := 0, output := site.definitions ++ "\n" } site.runtime.state
  | .schema (some file) =>
      .write file site.definitions (reportOfWrite file) site.runtime.state
  | .query text values =>
      match variables? values with
      | none => .done (.failure "--variables must be a JSON object") site.runtime.state
      | some given =>
          let (response, after) := site.answer text given
          let answer := response.toJson
          .done
            { exit := if (answer.field? "errors").isSome then 2 else 0
              output := answer.pretty ++ "\n" }
            after.runtime.state
  | .stats => .done { exit := 0, output := overview site } site.runtime.state

/-- The plan of a command on a root directory. -/
def plan (tree : Files.Tree) (root : String) (command : Command) (firstId : Nat) : Plan :=
  let directory : Content.ContentDirectory := { tree, root }
  match Config.discover tree root with
  | .error failure => .done (.failure failure.message) directory
  | .ok config =>
      match Site.build config Content.ContentDirectory.source { tree, root := config.root }
          Content.Registry.withDefaults firstId with
      | .error (.failed failure) => .done (.failure failure.message) directory
      | .error (.fieldClash _ _) => .done .clash directory
      | .ok site => planOn site command

/-- Runs a command with a working directory inside of a tree: its report and the tree after
it. -/
def run (tree : Files.Tree) (directory : String) (args : List String) (firstId : Nat) :
    Report × Files.Tree :=
  match Invocation.read? args with
  | none => (.usage, tree)
  | some invocation =>
      let root := (tree.absolute? (Files.join directory invocation.root)).getD invocation.root
      match plan tree root invocation.command firstId with
      | .done report content => (report, content.tree)
      | .write file text next content =>
          match content.tree.writeText (Files.join directory file) text with
          | .ok written => (next true, written)
          | .error _ => (next false, content.tree)

end ContentGraph.CommandLine
