import ContentGraph.Graph.Mutation
import ContentGraph.Graph.Output
import ContentGraph.Query.Reader
import ContentGraph.Query.Validation

/-!
Contract: the execution of a request.

Owns:
- the arguments of a field: given ones with the values of variables, then defaults;
- the selections that stay after `@skip` and `@include`;
- `execute`: every field in order, each with the value that it is completed to.  A field that
  fails is left out and recorded; an object without any field left is null; fields of one key
  merge;
- the answer to a request, with its errors in the order of their places.

Does not own: which requests are valid (`Query.Validation`).
-/

namespace ContentGraph.Query

open ContentGraph.Json ContentGraph.Schema

/-! ### Requests -/

/-- The truth of a directive's condition; what has no value is false. -/
def conditionHolds (given : Object) (directive : Directive) : Bool :=
  match (directive.arguments.lookup "if").bind (Literal.fill? given) with
  | some (.bool truth) => truth
  | _ => false

/-- Whether directives take a selection out. -/
def isSkipped (given : Object) (directives : List Directive) : Bool :=
  directives.any fun directive =>
    (directive.arguments.lookup "if").isSome &&
      match directive.name with
      | "skip" => conditionHolds given directive
      | "include" => !conditionHolds given directive
      | _ => false

mutual

/-- A selection without what its directives take out; nothing where they take it out itself. -/
def unlessSkipped? (given : Object) : Selection -> Option Selection
  | .field head below =>
      if isSkipped given head.directives then none
      else some (.field head (withoutSkipped given below))
  | .inline condition directives below =>
      if isSkipped given directives then none
      else some (.inline condition directives (withoutSkipped given below))
  | .spread name directives => some (.spread name directives)

/-- The selections that stay. -/
def withoutSkipped (given : Object) : List Selection -> List Selection
  | [] => []
  | selection :: rest =>
      (unlessSkipped? given selection).toList ++ withoutSkipped given rest

end

/-- The value of a variable: the given one, else its default, else null where that is
admitted. -/
def variableValue? (given : Object) (variableDefs : List VariableDef) (name : String) :
    Option Value := do
  let declared ← variableDefs.find? fun declared => declared.name = name
  match given.find? name with
  | some value => some value
  | none =>
      match declared.default with
      | some literal => some (literal.toJson fun _ => .null)
      | none => if declared.type.isNonNull then none else some .null

/-- The arguments of a field: the given ones in their order, then the defaults of absent ones;
`none` when a variable has no value. -/
def fieldArguments? (value? : String -> Option Value) (declared : List Argument)
    (arguments : Arguments) : Option Object :=
  if arguments.all fun (_, literal) => literal.variableNames.all fun name => (value? name).isSome then
    let given : Object := arguments.foldl
      (fun args (name, literal) =>
        Object.insert args name (literal.toJson fun name => (value? name).getD .null)) []
    some (declared.foldl
      (fun args argument =>
        match argument.default with
        | some literal =>
            if Object.hasKey args argument.name then args
            else Object.insert args argument.name (literal.toJson fun _ => .null)
        | none => args)
      given)
  else none

/-! ### Fields -/

/-- Why a field has no value. -/
inductive FieldProblem where
  /-- The value does not fit the field's type, or a variable has no value. -/
  | engine
  | failed (failure : Failure)
deriving DecidableEq

/-- A problem and the place of its field. -/
structure RecordedProblem where
  position : Position
  problem : FieldProblem
deriving DecidableEq

/-- What fields are resolved with. -/
structure Setting (State : Type) where
  table : TypeTable
  source : Content.Source State
  value? : String -> Option Value

/-- What execution changes: the runtime and the problems recorded so far. -/
structure Progress (State : Type) where
  runtime : Runtime State
  problems : List RecordedProblem := []

/-- Runs a mutation of a collection. -/
def mutate {State : Type} (source : Content.Source State) (kind : MutationKind)
    (runtime : Runtime State) (collection : String) (payload : Value) :
    Except Failure Value × Runtime State :=
  match kind with
  | .create => runtime.create source collection payload
  | .update => runtime.update source collection payload
  | .upsert => runtime.upsert source collection payload

/-- What reads from a parent needs a node. -/
def withNode (parent : Output) (read : Value -> Except Failure (Option Output)) :
    Except FieldProblem (Option Output) :=
  match parent with
  | .node value => (read value).mapError .failed
  | _ => .error .engine

/-- The output of a field of a parent, and the runtime after it. -/
def resolve {State : Type} (source : Content.Source State) (runtime : Runtime State)
    (origin : FieldOrigin) (parent : Output) (args : Object) :
    Except FieldProblem (Option Output) × Runtime State :=
  match origin with
  | .collectionName name => (.ok (some (.leaf (.string name))), runtime)
  | .data sourceKey kind =>
      (withNode parent fun value => Output.ofData sourceKey kind value args, runtime)
  | .relation relation =>
      (withNode parent fun value => Output.ofRelation runtime.graph relation value args, runtime)
  | .find collection argument =>
      ((Output.ofFind runtime.graph collection argument args).mapError .failed, runtime)
  | .listing collection =>
      ((Output.ofListing runtime.graph collection args).mapError .failed, runtime)
  | .mutation kind collection argument =>
      match args.find? argument with
      | none | some .null =>
          (.error (.failed (.graph (.missingArgument argument))), runtime)
      | some payload =>
          match mutate source kind runtime collection payload with
          | (.ok stored, after) => (.ok (some (.node stored)), after)
          | (.error failure, after) => (.error (.failed failure), after)

/-- A value that an enumeration admits. -/
def enumerationValue? (names : List String) : Output -> Option Value
  | .leaf (.string name) => if names.contains name then some (.string name) else none
  | _ => none

/-- The value of a field of a type from its output; `select` gives the value of a node of an
object type.  `none` when the output does not fit the type. -/
def complete {M : Type -> Type} [Monad M] (table : TypeTable)
    (select : String -> Output -> M Value) : TypeRef -> Option Output -> M (Option Value)
  | .named _, none => pure (some .null)
  | .named name, some output =>
      match table.find? name, output with
      | some (.object _), output => some <$> select name output
      | some .scalar, .leaf value => pure (some value)
      | some (.enumeration names), output => pure (enumerationValue? names output)
      | _, _ => pure none
  | .nonNull _, none => pure none
  | .nonNull inner, some output => complete table select inner (some output)
  | .list _, none => pure (some .null)
  | .list element, some (.list items) => do
      let values ← items.mapM fun item => complete table select element (some item)
      pure ((values.mapM id).map .array)
  | .list element, some (.leaf (.array items)) => do
      let values ← items.mapM fun item => complete table select element (some (.leaf item))
      pure ((values.mapM id).map .array)
  | .list _, some _ => pure none

/-! ### Answers -/

mutual

/-- A value merged into an earlier one of its key: objects take the new fields in, lists do so
item by item, anything else stays as it is. -/
def mergeValue (old : Value) : Value -> Value
  | .object fields =>
      match old with
      | .object target => .object (mergeFields target fields)
      | other => other
  | .array items =>
      match old with
      | .array target => .array (mergeItems target items)
      | other => other
  | _ => old

/-- Fields merged into an object one after another. -/
def mergeFields (target : Object) : List (String × Value) -> Object
  | [] => target
  | (key, value) :: rest =>
      let merged :=
        match Object.find? target key with
        | some old => mergeValue old value
        | none => value
      mergeFields (Object.insert target key merged) rest

/-- The objects among items merged into those at the same places. -/
def mergeItems (target : List Value) : List Value -> List Value
  | [] => target
  | item :: rest =>
      match target with
      | [] => []
      | old :: others =>
          (if old.isObject && item.isObject then mergeValue old item else old)
            :: mergeItems others rest

end

/-- The object of the values of fields; null when there is none. -/
def objectOf (fields : Object) : Value :=
  if fields.isEmpty then .null else .object (mergeFields [] fields)

namespace Progress

variable {State : Type}

/-- Records the problem of a field. -/
def record (position : Position) (problem : FieldProblem) :
    StateM (Progress State) (Option (String × Value)) := do
  modify fun progress =>
    { progress with problems := progress.problems ++ [⟨position, problem⟩] }
  pure none

/-- Runs one field of an object: its key and value, or nothing when it fails. -/
def runField (setting : Setting State) (typeName : String) (parent : Output) (head : FieldHead)
    (select : String -> Output -> StateM (Progress State) Value) :
    StateM (Progress State) (Option (String × Value)) := do
  if head.name = typenameField then pure (some (head.key, .string typeName))
  else
    match (setting.table.objectFields? typeName).bind
        (·.find? fun field => field.name = head.name) with
    | none => pure none
    | some field =>
        match fieldArguments? setting.value? field.arguments head.arguments with
        | none => record head.position .engine
        | some args => do
            let progress ← get
            let (outcome, runtime) := resolve setting.source progress.runtime field.origin parent args
            set { progress with runtime }
            match outcome with
            | .error problem => record head.position problem
            | .ok output => do
                match ← complete setting.table select field.type output with
                | some value => pure (some (head.key, value))
                | none => record head.position .engine

/-- Runs selections on an object, whose fragments hold where they name its type. -/
def runSelections (setting : Setting State) (typeName : String) (parent : Output) :
    List Selection -> StateM (Progress State) Object
  | [] => pure []
  | .field head below :: rest => do
      let select (inner : String) (output : Output) : StateM (Progress State) Value := do
        let fields ← runSelections setting inner output below
        pure (objectOf fields)
      let field ← runField setting typeName parent head select
      let others ← runSelections setting typeName parent rest
      pure (field.toList ++ others)
  | .inline condition _ below :: rest => do
      let own ←
        if condition.all (· = typeName) then runSelections setting typeName parent below
        else pure []
      let others ← runSelections setting typeName parent rest
      pure (own ++ others)
  | .spread _ _ :: rest => runSelections setting typeName parent rest

end Progress

/-- The answer to a request. -/
structure Response where
  data : Value
  /-- Problems with the place of their field, and one without a place for the engine's own. -/
  problems : List RecordedProblem := []
  refused : Bool := false

/-- The answer to a request that is not run. -/
def Response.refusal : Response :=
  { data := .null, refused := true }

/-- Runs an operation of a valid document. -/
def execute {State : Type} (table : TypeTable) (source : Content.Source State)
    (runtime : Runtime State) (given : Object) (operation : Operation) (root : String)
    (selections : List Selection) : Response × Runtime State :=
  let setting : Setting State :=
    { table, source, value? := variableValue? given operation.variableDefs }
  let (fields, progress) :=
    (Progress.runSelections setting root Output.nothing (withoutSkipped given selections)).run
      { runtime }
  ({ data := objectOf fields, problems := progress.problems }, progress.runtime)

/-- The given values of variables: the fields of an object, and none of anything else. -/
def givenVariables (values : Option Value) : Object :=
  (values.bind Value.fields?).getD []

/-- Answers a request: its text has to be a valid document with one operation. -/
def answer {State : Type} (table : TypeTable) (source : Content.Source State)
    (runtime : Runtime State) (text : String) (values : Option Value) :
    Response × Runtime State :=
  let given := givenVariables values
  match Document.parse? text with
  | none => (.refusal, runtime)
  | some document =>
      if document.isValid table given then
        match document.operations with
        | [operation] =>
            match operation.kind.root?, operation.expanded? document with
            | some root, some selections =>
                execute table source runtime given operation root selections
            | _, _ => (.refusal, runtime)
        | _ => (.refusal, runtime)
      else (.refusal, runtime)

namespace Response

/-- Whether one problem comes before another: by line, by column, then by its quoted text. -/
def before (first second : RecordedProblem × String) : Bool :=
  match compare first.1.position.line second.1.position.line with
  | .lt => true
  | .gt => false
  | .eq =>
      match compare first.1.position.column second.1.position.column with
      | .lt => true
      | .gt => false
      | .eq => quote first.2 ≤ quote second.2

/-- The problems that content and payloads raise, with their messages, in order. -/
def stated (response : Response) : List (RecordedProblem × String) :=
  let found := response.problems.filterMap fun recorded =>
    match recorded.problem with
    | .failed failure => some (recorded, failure.message)
    | .engine => none
  found.mergeSort before

/-- Whether the engine itself finds fault with the request. -/
def hasEngineProblem (response : Response) : Bool :=
  response.refused || response.problems.any fun recorded => recorded.problem = .engine

/-- The text that stands for every problem of the engine. -/
def engineMessage : String := "<engine>"

/-- The errors of an answer as JSON.  The problems of the engine are one error without a place,
which comes first. -/
def errorsJson (response : Response) : List Value :=
  let engine :=
    if response.hasEngineProblem then [Value.object [("message", .string engineMessage)]] else []
  engine ++ response.stated.map fun (recorded, message) =>
    .object [
      ("message", .string message),
      ("locations", .array [.object [
        ("line", .ofInt recorded.position.line),
        ("column", .ofInt recorded.position.column)]])]

/-- An answer as JSON. -/
def toJson (response : Response) : Value :=
  let errors := response.errorsJson
  .object (("data", response.data)
    :: if errors.isEmpty then [] else [("errors", .array errors)])

end Response

end ContentGraph.Query
