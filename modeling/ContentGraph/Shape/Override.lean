import ContentGraph.Shape.Resolver
import ContentGraph.Text.Split

/-!
Contract: overrides of fields and the trees they compile to.

Owns:
- the paths of overrides: `a.b` for a field of an object, `list[]` for a whole list, and
  `list[]obj.c` for a property of every element;
- `compile`, which lays overrides into one tree of computed fields, the last one winning.
-/

namespace ContentGraph

/-- A declared override. -/
structure Override where
  field : String
  typeName : String
  resolve : ResolveFunction

namespace Override

/-- A step of an override's path. -/
inductive Segment where
  | key (name : String)
  | eachElement
deriving DecidableEq

/-- The segments of one part of a path, between points; `isLast` for the last part. -/
def segmentsOfPart (isLast : Bool) (part : List Char) :
    Except OverridePathProblem (List Segment) :=
  let (key, marker) :=
    match Text.splitAtWord? ['[', ']'] part with
    | some (key, marker) => (key, some marker)
    | none => (part, none)
  if key.isEmpty then .error .emptySegment
  else if key.contains '[' || key.contains ']' then .error .strayBracket
  else
    let named := Segment.key (String.ofList key)
    match marker with
    | none => .ok [named]
    | some [] => .ok [named, .eachElement]
    | some ['o', 'b', 'j'] =>
        if isLast then .error .elementMarkerAtEnd else .ok [named, .eachElement]
    | some _ => .error .textAfterMarker

/-- The segments of the parts of a path, the first faulty part deciding the problem. -/
def segmentsOfParts : List (List Char) -> Except OverridePathProblem (List Segment)
  | [] => .ok []
  | part :: rest =>
      match segmentsOfPart rest.isEmpty part with
      | .error problem => .error problem
      | .ok segments =>
          match segmentsOfParts rest with
          | .error problem => .error problem
          | .ok more => .ok (segments ++ more)

/-- Reads the path of an override. -/
def parsePath (field : String) : Except Failure (List Segment) :=
  match segmentsOfParts (Text.splitAt '.' field.toList) with
  | .ok segments => .ok segments
  | .error problem => .error (.overridePath field problem)

/-- The node after laying a resolver at the given segments below it. -/
def layNode (resolver : Resolver) : List Segment -> Option ResolverNode -> ResolverNode
  | [], _ => .resolver resolver
  | .eachElement :: rest, existing =>
      let inner :=
        match existing with
        | some (.list element) => some element
        | _ => none
      .list (layNode resolver rest inner)
  | .key name :: rest, existing =>
      let fields : ResolverTree :=
        match existing with
        | some (.object fields) => fields
        | _ => []
      .object (fields.setNode name (layNode resolver rest (fields.node? name)))

/-- The tree after laying a resolver at the given segments, which start with a key. -/
def lay (tree : ResolverTree) (segments : List Segment) (resolver : Resolver) : ResolverTree :=
  match segments with
  | .key name :: rest => tree.setNode name (layNode resolver rest (tree.node? name))
  | _ => tree

/-- The tree after laying an override at its parsed path.  A final element marker makes the
type a list, and the resolver receives the whole list. -/
def layParsed (tree : ResolverTree) (override : Override) (segments : List Segment) :
    ResolverTree :=
  if segments.getLast? = some .eachElement then
    lay tree segments.dropLast
      { typeRef := "[" ++ override.typeName ++ "]", resolve := override.resolve }
  else
    lay tree segments { typeRef := override.typeName, resolve := override.resolve }

/-- The tree after laying overrides into it in order. -/
def compileInto (tree : ResolverTree) : List Override -> Except Failure ResolverTree
  | [] => .ok tree
  | override :: rest =>
      match parsePath override.field with
      | .error failure => .error failure
      | .ok segments => compileInto (layParsed tree override segments) rest

/-- Compiles overrides into a tree of computed fields. -/
def compile (overrides : List Override) : Except Failure ResolverTree :=
  compileInto [] overrides

end Override

end ContentGraph
