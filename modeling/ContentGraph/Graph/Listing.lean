import ContentGraph.Graph.Projection
import ContentGraph.Json.Reader
import ContentGraph.Text.Split

/-!
Contract: listings of a collection.

Owns:
- `Listing`: what the arguments of a listing ask for, and how they are read;
- the order of values: missing and null first, then booleans, numbers, strings and the rest;
- `Graph.list`: the filter first, then the stable sort, then the reversal, then skip and limit.
-/

namespace ContentGraph

open ContentGraph.Json

/-- The direction of a listing. -/
inductive Direction where
  | ascending
  | descending
deriving DecidableEq

/-- The direction with a given name. -/
def Direction.ofName (name : String) : Except Failure Direction :=
  match name with
  | "ASC" => .ok .ascending
  | "DESC" => .ok .descending
  | other => .error (.graph (.unknownOrder other))

/-- What a listing asks for. -/
structure Listing where
  skip : Option Int := none
  limit : Option Int := none
  direction : Direction := .ascending
  sortBy : Option String := none
  filter : Option Value := none
deriving DecidableEq

namespace Listing

/-- The filter among arguments; a text is read as JSON. -/
def filterOfArguments (args : Object) : Except Failure (Option Value) :=
  match args.find? "filter" with
  | none | some .null => .ok none
  | some (.string text) =>
      match parse? text with
      | some value => .ok (some value)
      | none => .error .json
  | some other => .ok (some other)

/-- Reads the arguments of a listing; the direction is checked before the filter. -/
def ofArguments (args : Object) : Except Failure Listing := do
  let direction ←
    match (args.find? "order").bind Value.text? with
    | some name => Direction.ofName name
    | none => .ok .ascending
  let filter ← filterOfArguments args
  .ok {
    skip := (args.find? "skip").bind Value.int64?
    limit := (args.find? "limit").bind Value.int64?
    direction
    sortBy := (args.find? "sortBy").bind Value.text?
    filter }

end Listing

/-- The rank of a value's type in the order of listings. -/
def sortRank : Option Value -> Nat
  | none | some .null => 0
  | some (.bool _) => 1
  | some (.number _) => 2
  | some (.string _) => 3
  | some _ => 4

/-- The order of numbers by their doubles. -/
def orderNumbers (left right : Number) : Ordering :=
  let double (number : Number) := number.toDouble?.getD (.zero false)
  (double left).order (double right)

/-- The order of values in listings: by rank, then within booleans, numbers and strings. -/
def sortOrder (left right : Option Value) : Ordering :=
  match compare (sortRank left) (sortRank right) with
  | .eq =>
      match left, right with
      | some (.bool x), some (.bool y) => compare x y
      | some (.number x), some (.number y) => orderNumbers x y
      | some (.string x), some (.string y) => compare x y
      | _, _ => .eq
  | different => different

/-- The path of the content key that a sort refers to: of the field with that graph name, or
the name itself. -/
def Collection.sortPath (collection : Collection) (sortBy : String) : Value.Path :=
  let key :=
    match collection.shape.field? sortBy with
    | some field => field.sourceKey
    | none => sortBy
  Text.parts '.' key

namespace Graph

/-- The nodes without the first of a reference value, and that node. -/
def takeKey (collection : Collection) (key : String) :
    List Value -> Option (Value × List Value)
  | [] => none
  | node :: rest =>
      if collection.hasKey key node then some (node, rest)
      else (takeKey collection key rest).map fun (found, others) => (found, node :: others)

/-- For each key in turn the first remaining node that has it. -/
def takeKeys (collection : Collection) : List String -> List Value -> List Value
  | [], _ => []
  | key :: keys, nodes =>
      match takeKey collection key nodes with
      | some (node, others) => node :: takeKeys collection keys others
      | none => takeKeys collection keys nodes

/-- The filter stage: the nodes whose reference value survives the filter, in the order in
which the filter returns them.  A filter without comparators keeps all. -/
def filterNodes (graph : Graph) (collection : Collection) (name : String)
    (filter : Option Value) (nodes : List Value) : Except Failure (List Value) :=
  match filter with
  | none => .ok nodes
  | some filter =>
      if (Filter.manifest filter).isEmpty then .ok nodes
      else (graph.passing filter name).map fun keys => takeKeys collection keys nodes

/-- The sort stage. -/
def sortNodes (collection : Collection) (sortBy : Option String) (nodes : List Value) :
    List Value :=
  match sortBy with
  | none => nodes
  | some sortBy =>
      let path := collection.sortPath sortBy
      nodes.mergeSort fun a b => sortOrder (a.follow? path) (b.follow? path) != .gt

/-- The paging stage; negative numbers count as zero. -/
def page (skip limit : Option Int) (nodes : List Value) : List Value :=
  let rest := nodes.drop ((skip.getD 0).toNat)
  match limit with
  | some limit => rest.take limit.toNat
  | none => rest

/-- A listing of nodes of a collection. -/
def list (graph : Graph) (name : String) (listing : Listing) (nodes : List Value) :
    Except Failure (List Value) := do
  let collection ← graph.collection name
  let kept ← graph.filterNodes collection name listing.filter nodes
  let sorted := sortNodes collection listing.sortBy kept
  let directed :=
    match listing.direction with
    | .ascending => sorted
    | .descending => sorted.reverse
  .ok (page listing.skip listing.limit directed)

end Graph

end ContentGraph
