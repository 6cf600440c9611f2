import ContentGraph.Failure
import ContentGraph.Json.Object

/-!
Contract: computed fields and the trees they are declared in.

Owns:
- `Resolver`: the declared type, the arguments and the function of a computed field;
- `ResolverNode` and `ResolverTree`: computed fields by content key, through objects and lists;
- lookup by a path of keys, and the union of two trees in which the second wins.
-/

namespace ContentGraph

open ContentGraph.Json

/-- An argument of a computed field. -/
structure ArgumentSpec where
  name : String
  typeRef : String
  default : Option Value
deriving DecidableEq

/-- What a computed field computes: from the field's own value, the object it belongs to, and
the arguments. -/
abbrev ResolveFunction := Value -> Value -> Object -> Except Failure Value

/-- A computed field. -/
structure Resolver where
  /-- The declared graph type, such as `String` or `[String]`. -/
  typeRef : String
  arguments : List ArgumentSpec := []
  resolve : ResolveFunction

/-- The given arguments, with the defaults of absent ones after them. -/
def Resolver.withDefaults (resolver : Resolver) (given : Object) : Object :=
  resolver.arguments.foldl
    (fun args spec =>
      match spec.default with
      | some value => if Object.hasKey args spec.name then args else args.insert spec.name value
      | none => args)
    given

/-- A node of a tree of computed fields. -/
inductive ResolverNode where
  | resolver (resolver : Resolver)
  | object (fields : List (String × ResolverNode))
  /-- The form of a single list element. -/
  | list (element : ResolverNode)

/-- Computed fields by content key, in order. -/
abbrev ResolverTree := List (String × ResolverNode)

namespace ResolverTree

/-- The node under a key. -/
def node? (tree : ResolverTree) (key : String) : Option ResolverNode :=
  match tree with
  | [] => none
  | (name, node) :: rest => if name = key then some node else node? rest key

/-- Sets the node under a key, which keeps its place if it is there. -/
def setNode (tree : ResolverTree) (key : String) (node : ResolverNode) : ResolverTree :=
  match tree with
  | [] => [(key, node)]
  | (name, old) :: rest =>
      if name = key then (name, node) :: rest else (name, old) :: setNode rest key node

/-- The node at a path of keys, which leads through objects and through lists of objects. -/
def get? (tree : ResolverTree) : List String -> Option ResolverNode
  | [] => none
  | [key] => tree.node? key
  | key :: rest =>
      match tree.node? key with
      | some (.object fields) => get? fields rest
      | some (.list (.object fields)) => get? fields rest
      | _ => none

mutual

/-- A node laid over the one of the same key: two objects are united, else the new one wins. -/
def mergeNode (mine : Option ResolverNode) : ResolverNode -> ResolverNode
  | .object theirs =>
      match mine with
      | some (.object fields) => .object (merge fields theirs)
      | _ => .object theirs
  | .resolver resolver => .resolver resolver
  | .list element => .list element

/-- The union of two trees; where they clash the second wins. -/
def merge (tree : ResolverTree) : List (String × ResolverNode) -> ResolverTree
  | [] => tree
  | (key, node) :: rest => merge (tree.setNode key (mergeNode (tree.node? key) node)) rest

end

end ResolverTree

end ContentGraph
