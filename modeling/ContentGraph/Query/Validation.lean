import ContentGraph.Query.Document
import ContentGraph.Schema.TypeTable

/-!
Contract: which documents are valid for a schema.

Owns:
- the values that a type admits for an argument, given values for variables;
- the checks of fields, arguments, directives, fragments and variables;
- `Document.isValid`, which needs every operation of a document to pass all of them.

Does not own: why a document is invalid; a refusal gives no reason.
-/

namespace ContentGraph.Query

open ContentGraph.Json ContentGraph.Schema

/-! ### Values of arguments -/

namespace Literal

mutual

/-- A literal with given values for its variables; `none` when one is not given. -/
def fill? (given : Object) : Literal -> Option Literal
  | .var name => (given.find? name).map Literal.ofJson
  | .list items => (fillItems? given items).map .list
  | .object fields => (fillFields? given fields).map .object
  | other => some other

/-- Items with given values for their variables. -/
def fillItems? (given : Object) : List Literal -> Option (List Literal)
  | [] => some []
  | item :: rest => do
      let item ← fill? given item
      let rest ← fillItems? given rest
      some (item :: rest)

/-- Fields with given values for their variables. -/
def fillFields? (given : Object) : List (String × Literal) -> Option (List (String × Literal))
  | [] => some []
  | (key, value) :: rest => do
      let value ← fill? given value
      let rest ← fillFields? given rest
      some ((key, value) :: rest)

end

/-- Whether a literal is an integer in the signed 64-bit range. -/
def isInteger : Literal -> Bool
  | .number (.int value) => -(Nat.pow 2 63) ≤ value && value < Nat.pow 2 63
  | _ => false

/-- Whether a scalar admits a literal. -/
def fitsScalar (name : String) (literal : Literal) : Bool :=
  match name, literal with
  | "Int", literal => literal.isInteger
  | "Float", .number _ => true
  | "Float", _ => false
  | "String", .string _ => true
  | "String", _ => false
  | "Boolean", .bool _ => true
  | "Boolean", _ => false
  | "ID", .string _ => true
  | "ID", literal => literal.isInteger
  | _, _ => true

/-- Whether an enumeration admits a literal, which may be a text. -/
def fitsEnumeration (names : List String) : Literal -> Bool
  | .enum name => names.contains name
  | .string name => names.contains name
  | _ => false

/-- Whether the required fields of an input type are there. -/
def hasRequired (fields : List (String × Literal)) (inputs : List (String × TypeRef)) : Bool :=
  inputs.all fun (name, type) => !type.isNonNull || (fields.lookup name).isSome

mutual

/-- Whether a type admits a literal without variables.  A single value is admitted for a list,
and what is no object for an input type. -/
def fits (table : TypeTable) (type : TypeRef) (literal : Literal) : Bool :=
  match type with
  | .nonNull inner =>
      match literal with
      | .null => false
      | other => fits table inner other
  | .list element =>
      match literal with
      | .null => true
      | .list items => fitsItems table element items
      | other => fits table element other
  | .named name =>
      match literal with
      | .null => true
      | .object fields =>
          match table.find? name with
          | some (.input inputs) => hasRequired fields inputs && fitsFields table inputs fields
          | some (.enumeration _) => false
          | some .scalar => fitsScalar name (.object fields)
          | _ => true
      | other =>
          match table.find? name with
          | some (.enumeration names) => fitsEnumeration names other
          | some .scalar => fitsScalar name other
          | _ => true
termination_by (sizeOf literal, sizeOf type)

/-- Whether a type admits all items. -/
def fitsItems (table : TypeTable) (type : TypeRef) (items : List Literal) : Bool :=
  match items with
  | [] => true
  | item :: rest => fits table type item && fitsItems table type rest
termination_by (sizeOf items, sizeOf type)

/-- Whether all fields are known to an input type and admitted by their types. -/
def fitsFields (table : TypeTable) (inputs : List (String × TypeRef))
    (fields : List (String × Literal)) : Bool :=
  match fields with
  | [] => true
  | (key, value) :: rest =>
      (match inputs.lookup key with
        | some type => fits table type value
        | none => false) && fitsFields table inputs rest
termination_by (sizeOf fields, 0)

end

end Literal

/-! ### Uses of variables -/

/-- A variable where a value is expected, with the type there if that is known. -/
abbrev VariableUse := String × Option TypeRef

/-- The type inside of one that admits no null. -/
def TypeRef.unwrapped : TypeRef -> TypeRef
  | .nonNull inner => inner
  | other => other

/-- The type of the elements of a list type. -/
def elementType? (expected : Option TypeRef) : Option TypeRef :=
  match expected.map TypeRef.unwrapped with
  | some (.list element) => some element
  | _ => none

/-- The type of a field of an input type. -/
def inputFieldType? (table : TypeTable) (expected : Option TypeRef) (field : String) :
    Option TypeRef :=
  match expected.map TypeRef.unwrapped with
  | some (.named name) =>
      match table.find? name with
      | some (.input fields) => fields.lookup field
      | _ => none
  | _ => none

namespace Literal

mutual

/-- The uses of variables in a literal. -/
def uses (table : TypeTable) (expected : Option TypeRef) : Literal -> List VariableUse
  | .var name => [(name, expected)]
  | .list items => itemUses table (elementType? expected) items
  | .object fields => fieldUses table expected fields
  | _ => []

/-- The uses of variables in items. -/
def itemUses (table : TypeTable) (expected : Option TypeRef) : List Literal -> List VariableUse
  | [] => []
  | item :: rest => uses table expected item ++ itemUses table expected rest

/-- The uses of variables in the fields of an object. -/
def fieldUses (table : TypeTable) (expected : Option TypeRef) :
    List (String × Literal) -> List VariableUse
  | [] => []
  | (key, value) :: rest =>
      uses table (inputFieldType? table expected key) value ++ fieldUses table expected rest

end

end Literal

/-- Whether a value of the second type can stand where the first is expected. -/
def admitsType : TypeRef -> TypeRef -> Bool
  | .nonNull expected, .nonNull given => admitsType expected given
  | .named expected, .nonNull given => admitsType (.named expected) given
  | .named expected, .named given => expected == given
  | .list expected, .list given => admitsType expected given
  | _, _ => false

/-! ### Arguments and directives -/

/-- Whether given arguments are right for declared ones: known, not repeated, of their types,
and all that need a value are there. -/
def argumentsFit (table : TypeTable) (given : Object) (declared : List Argument)
    (arguments : Arguments) : Bool :=
  decide (arguments.map Prod.fst).Nodup
    && (arguments.all fun (name, literal) =>
      match declared.find? fun argument => argument.name = name with
      | none => false
      | some argument => (literal.fill? given).all (Literal.fits table argument.type))
    && declared.all fun argument =>
      !argument.type.isNonNull || argument.default.isSome
        || (arguments.map Prod.fst).contains argument.name

/-- The uses of variables in arguments. -/
def argumentUses (table : TypeTable) (declared : List Argument) (arguments : Arguments) :
    List VariableUse :=
  arguments.flatMap fun (name, literal) =>
    literal.uses table ((declared.find? fun argument => argument.name = name).map Argument.type)

/-- The names of the directives that a selection may have. -/
def selectionDirectives : List String := ["include", "skip"]

/-- The argument of the directives of selections. -/
def conditionArguments : List Argument := [⟨"if", .nonNull (.named "Boolean"), none⟩]

/-- Whether the directives of a selection are right. -/
def directivesFit (table : TypeTable) (given : Object) (directives : List Directive) : Bool :=
  decide (directives.map Directive.name).Nodup && directives.all fun directive =>
    selectionDirectives.contains directive.name
      && argumentsFit table given conditionArguments directive.arguments

/-- The uses of variables in directives. -/
def directiveUses (table : TypeTable) (directives : List Directive) : List VariableUse :=
  directives.flatMap fun directive => argumentUses table conditionArguments directive.arguments

/-! ### Selections -/

/-- The name of the field that every type has. -/
def typenameField : String := "__typename"

/-- The fields of selections, with the type that the nearest fragment holds for. -/
def outputs (condition : Option String) : List Selection -> List (Option String × FieldHead)
  | [] => []
  | .field head _ :: rest => (condition, head) :: outputs condition rest
  | .inline inner _ below :: rest => outputs inner below ++ outputs condition rest
  | .spread _ _ :: rest => outputs condition rest

/-- Whether two fields of one key ask for the same. -/
def sameField (first second : FieldHead) : Bool :=
  first.name = second.name && first.arguments.length = second.arguments.length
    && first.arguments.all fun (name, literal) =>
      (second.arguments.lookup name).any literal.alike

/-- Whether fields that get one key under one condition ask for the same. -/
def outputsAgree (found : List (Option String × FieldHead)) : Bool :=
  found.all fun (condition, head) =>
    (found.find? fun other => other.1 = condition && other.2.key = head.key).all fun first =>
      sameField first.2 head

/-- Whether the type of a field fits what is selected below it: something below an object, and
nothing below any other type. -/
def leavesFit (table : TypeTable) (type : TypeRef) (below : List Selection) : Bool :=
  (table.objectFields? type.core).isNone == below.isEmpty

/-- Whether selections without spreads are right on an object type. -/
def selectionsFit (table : TypeTable) (given : Object) (parent : String) :
    List Selection -> Bool
  | [] => true
  | .field head below :: rest =>
      (head.name = typenameField ||
        match (table.objectFields? parent).bind (·.find? fun field => field.name = head.name) with
        | none => false
        | some field =>
            argumentsFit table given field.arguments head.arguments
              && directivesFit table given head.directives
              && leavesFit table field.type below
              && outputsAgree (outputs none below)
              && selectionsFit table given field.type.core below)
        && selectionsFit table given parent rest
  | .inline condition directives below :: rest =>
      condition.all (· = parent)
        && directivesFit table given directives
        && outputsAgree (outputs none below)
        && selectionsFit table given parent below
        && selectionsFit table given parent rest
  | .spread _ _ :: _ => false

/-- The uses of variables in selections on an object type. -/
def selectionUses (table : TypeTable) (parent : String) : List Selection -> List VariableUse
  | [] => []
  | .field head below :: rest =>
      (if head.name = typenameField then []
        else
          match (table.objectFields? parent).bind (·.find? fun field => field.name = head.name) with
          | none => []
          | some field =>
              argumentUses table field.arguments head.arguments
                ++ directiveUses table head.directives
                ++ selectionUses table field.type.core below)
        ++ selectionUses table parent rest
  | .inline _ directives below :: rest =>
      directiveUses table directives ++ selectionUses table parent below
        ++ selectionUses table parent rest
  | .spread _ _ :: rest => selectionUses table parent rest

/-! ### Operations -/

/-- The root type of a kind of operation; there are no subscriptions. -/
def OperationKind.root? : OperationKind -> Option String
  | .query => some queryRoot
  | .mutation => some mutationRoot
  | .subscription => none

/-- Whether a variable is declared with a type for inputs, and its default is admitted; a type
that admits no null has no default. -/
def variableFits (table : TypeTable) (declared : VariableDef) : Bool :=
  table.isInput declared.type &&
    declared.default.all fun literal =>
      !declared.type.isNonNull && Literal.fits table declared.type literal

/-- The type of a variable's values: a default stands in for null. -/
def VariableDef.valueType (declared : VariableDef) : TypeRef :=
  if declared.default.isSome && !declared.type.isNonNull then .nonNull declared.type
  else declared.type

/-- Whether variables are declared once, all used, and used where their types can stand. -/
def variablesFit (table : TypeTable) (variableDefs : List VariableDef)
    (found : List VariableUse) : Bool :=
  decide (variableDefs.map VariableDef.name).Nodup
    && variableDefs.all (variableFits table)
    && (variableDefs.all fun declared => found.any fun use => use.1 = declared.name)
    && found.all fun (name, expected) =>
      (variableDefs.find? fun declared => declared.name = name).any fun declared =>
        expected.all fun type => admitsType type declared.valueType

/-- How deep selections may nest. -/
def depthLimit : Nat := 33

/-- The selections of an operation without spreads. -/
def Operation.expanded? (document : Document) (operation : Operation) : Option (List Selection) :=
  Selections.expand document depthLimit operation.selections

/-- Whether an operation is right, given values for variables. -/
def Operation.fits (table : TypeTable) (given : Object) (document : Document)
    (operation : Operation) : Bool :=
  match operation.kind.root?, operation.expanded? document with
  | some root, some selections =>
      operation.directives.isEmpty
        && outputsAgree (outputs none selections)
        && selectionsFit table given root selections
        && variablesFit table operation.variableDefs (selectionUses table root selections)
  | _, _ => false

/-- The names of the fragments that selections reach. -/
def reached (document : Document) : Nat -> List Selection -> List String
  | 0, _ => []
  | depth + 1, selections =>
      selections.flatMap fun selection =>
        match selection with
        | .field _ below => reached document depth below
        | .inline _ _ below => reached document depth below
        | .spread name _ =>
            name :: ((document.fragment? name).map fun fragment =>
              reached document depth fragment.selections).getD []

/-- Whether a document is valid, given values for variables: its operations are right, its
fragments hold for object types, and every one of them is reached. -/
def Document.isValid (table : TypeTable) (given : Object) (document : Document) : Bool :=
  document.operations.all (Operation.fits table given document)
    && document.fragments.all fun fragment =>
      fragment.directives.isEmpty
        && (table.objectFields? fragment.condition).isSome
        && document.operations.any fun operation =>
          (reached document depthLimit operation.selections).contains fragment.name

end ContentGraph.Query
