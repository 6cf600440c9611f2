import ContentGraph.Shape.Resolver

/-!
Contract: the kinds of fields, inferred from content.

Owns:
- `Kind`, `Field` and `Shape`: a shape lists fields, each with its graph name, the content key
  it is read from, and its kind;
- `infer`, the kind of one value;
- `merge`, two observations of one field: computed fields win, integers widen to floats, a
  value and a list of such values to the list, anything else incompatible to free JSON;
- `overlay`, a node laid over the fields that transformers declare;
- `Fits`, which values a kind admits.
-/

namespace ContentGraph

open ContentGraph.Json

/-- The kinds of single values. -/
inductive Scalar where
  | string
  | int
  | float
  | boolean
  /-- Mixed or free-form values. -/
  | json
deriving DecidableEq

/-- The graph type of a scalar. -/
def Scalar.typeName : Scalar -> String
  | .string => "String"
  | .int => "Int"
  | .float => "Float"
  | .boolean => "Boolean"
  | .json => "JSON"

mutual

/-- The kind of a field. -/
inductive Kind where
  /-- Only nulls or empty lists were seen. -/
  | unknown
  | scalar (scalar : Scalar)
  | list (element : Kind)
  | object (fields : List Field)
  /-- Computed by an override or a transformer's fragment. -/
  | resolved (resolver : Resolver)

/-- A field: its graph name, the content key it is read from, and its kind. -/
inductive Field where
  | mk (name sourceKey : String) (kind : Kind)

end

/-- The fields of an object, in order. -/
abbrev Shape := List Field

namespace Field

/-- The graph name of a field. -/
def name : Field -> String
  | .mk name _ _ => name

/-- The content key that a field is read from. -/
def sourceKey : Field -> String
  | .mk _ sourceKey _ => sourceKey

/-- The kind of a field. -/
def kind : Field -> Kind
  | .mk _ _ kind => kind

/-- A field that has not been named yet: it stands under its content key. -/
def unnamed (key : String) (kind : Kind) : Field :=
  .mk key key kind

end Field

namespace Kind

/-- Whether a kind is that of a list. -/
def isList : Kind -> Bool
  | .list _ => true
  | .resolved resolver =>
      (resolver.typeRef.toList.reverse.dropWhile (· = '!')).getLast? = some '['
  | _ => false

end Kind

namespace Shape

/-- The field with a graph name. -/
def field? (shape : Shape) (name : String) : Option Field :=
  match shape with
  | [] => none
  | field :: rest => if field.name = name then some field else field? rest name

/-- The first field that is read from a content key. -/
def fieldBySource? (shape : Shape) (key : String) : Option Field :=
  shape.find? fun field => field.sourceKey = key

/-- Sets the field under its name, which keeps its place if it is there. -/
def setField (shape : Shape) (field : Field) : Shape :=
  match shape with
  | [] => [field]
  | old :: rest => if old.name = field.name then field :: rest else old :: setField rest field

/-- A field of a shape is smaller than the shape. -/
theorem sizeOf_kind_lt {shape : Shape} {name : String} {field : Field}
    (found : shape.field? name = some field) : sizeOf field.kind < sizeOf shape := by
  induction shape with
  | nil => simp [field?] at found
  | cons first rest inductionHypothesis =>
      unfold field? at found
      split at found
      · cases first
        cases found
        simp [Field.kind]
        omega
      · have := inductionHypothesis found
        simp
        omega

end Shape

namespace Kind

mutual

/-- Two observations of one field. -/
def merge : Kind -> Kind -> Kind
  | .resolved resolver, _ => .resolved resolver
  | _, .resolved resolver => .resolved resolver
  | .unknown, other => other
  | other, .unknown => other
  | .scalar .json, _ => .scalar .json
  | _, .scalar .json => .scalar .json
  | .scalar x, .scalar y =>
      if x = y then .scalar x
      else if (x = .int ∧ y = .float) ∨ (x = .float ∧ y = .int) then .scalar .float
      else .scalar .json
  | .list x, .list y => .list (merge x y)
  | .list x, other => .list (merge x other)
  | other, .list x => .list (merge x other)
  | .object x, .object y =>
      .object (mergeShared x y ++ y.filter fun field => (Shape.field? x field.name).isNone)
  | _, _ => .scalar .json
termination_by left right => sizeOf left + sizeOf right

/-- The fields of the first shape, each merged with the one of its name in the second. -/
def mergeShared : Shape -> Shape -> Shape
  | [], _ => []
  | .mk name sourceKey kind :: rest, other =>
      (match _found : Shape.field? other name with
        | some field => .mk name sourceKey (merge kind field.kind)
        | none => .mk name sourceKey kind) :: mergeShared rest other
termination_by left right => sizeOf left + sizeOf right
decreasing_by
  · have := Shape.sizeOf_kind_lt _found
    simp
    omega
  · simp only [List.cons.sizeOf_spec]
    omega

end

mutual

/-- A node laid over declared fields: the node wins where it says anything, objects merge. -/
def overlay (defaults : Kind) : Kind -> Kind
  | .object fields =>
      match defaults with
      | .object declared => .object (overlayFields declared fields)
      | _ => .object fields
  | .unknown => defaults
  | other => other

/-- The fields of a node laid over declared ones, one after another. -/
def overlayFields (declared : Shape) : List Field -> Shape
  | [] => declared
  | .mk name _ kind :: rest =>
      let laid :=
        match declared.field? name with
        | some existing => overlay existing.kind kind
        | none => kind
      overlayFields (declared.setField (.unnamed name laid)) rest

end

mutual

/-- The kind of a node of computed fields. -/
def ofNode : ResolverNode -> Kind
  | .resolver resolver => .resolved resolver
  | .object fields => .object (ofTree fields)
  | .list element => .list (ofNode element)

/-- The shape of a tree of computed fields. -/
def ofTree : List (String × ResolverNode) -> Shape
  | [] => []
  | (key, node) :: rest => Field.unnamed key (ofNode node) :: ofTree rest

end

end Kind

/-- The union of two shapes; fields of one name are merged in the place of the first. -/
def Shape.merge (left right : Shape) : Shape :=
  Kind.mergeShared left right ++ right.filter fun field => (left.field? field.name).isNone

/-- The values that a scalar kind admits. -/
def FitsScalar (value : Value) : Scalar -> Prop
  | .json => True
  | .string => value = .null ∨ ∃ text, value = .string text
  | .int =>
      value = .null ∨
        ∃ number : Int, value = .ofInt number ∧ -(Nat.pow 2 31) ≤ number ∧ number < Nat.pow 2 31
  | .float => value = .null ∨ ∃ number, value = .number number
  | .boolean => value = .null ∨ ∃ truth, value = .bool truth

namespace Kind

mutual

/-- The kind of a value. -/
def infer : Value -> Kind
  | .null => .unknown
  | .bool _ => .scalar .boolean
  | .number (.int value) =>
      if -(Nat.pow 2 31) ≤ value ∧ value < Nat.pow 2 31 then .scalar .int else .scalar .float
  | .number (.double _) => .scalar .float
  | .string _ => .scalar .string
  | .array items => .list (inferItems .unknown items)
  | .object fields => .object (inferFields fields)

/-- The common kind of further items. -/
def inferItems (seen : Kind) : List Value -> Kind
  | [] => seen
  | item :: rest => inferItems (merge seen (infer item)) rest

/-- The fields of an object, under their content keys. -/
def inferFields : List (String × Value) -> Shape
  | [] => []
  | (key, value) :: rest => Field.unnamed key (infer value) :: inferFields rest

end

mutual

/-- The values that a kind admits.  Null fits every kind, and a single value fits a list of its
kind. -/
def Fits (value : Value) : Kind -> Prop
  | .unknown => value = .null
  | .scalar form => FitsScalar value form
  | .list element =>
      value = .null ∨
        match value with
        | .array items => ∀ item ∈ items, Fits item element
        | _ => Fits value element
  | .object fields => value = .null ∨ (value.isObject = true ∧ FitsFields value fields)
  | .resolved _ => True

/-- Every field admits what an object holds under its key. -/
def FitsFields (value : Value) : List Field -> Prop
  | [] => True
  | .mk _ sourceKey kind :: rest =>
      Fits ((value.field? sourceKey).getD .null) kind ∧ FitsFields value rest

end

end Kind

end ContentGraph
