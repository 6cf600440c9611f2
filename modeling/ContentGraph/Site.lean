import ContentGraph.Content.MarkdownTransformer
import ContentGraph.Content.Source
import ContentGraph.Query.Execution
import ContentGraph.Schema.Build
import ContentGraph.Schema.Definitions

/-!
Contract: a site, built from a configuration and the content of a source.

Owns:
- loading content into nodes, and inferring the collections with their relations from it;
- `Site`, which keeps its collections and types while mutations change its nodes;
- the cache of built sites by the identity of their configurations.
-/

namespace ContentGraph

open ContentGraph.Json

namespace Content

/-- A node with the metadata of its file filled in. -/
def withFileMetadata (path : Option String) (node : Value) : Value :=
  match path, node with
  | some path, .object fields => .object (Value.fillMissing fields (fileMetadata path))
  | _, node => node

/-- The node of a raw record. -/
def loadRecord (registry : Registry) (record : RawRecord) : Except Failure Value :=
  (registry.parse record).map (withFileMetadata record.path)

/-- The nodes of collections in order, taken from raw records. -/
def loadAll (registry : Registry) : List CollectionEntry -> Records -> Except Failure Store
  | [], _ => .ok []
  | entry :: rest, records => do
      let (raw, others) := records.take entry.name
      let nodes ← raw.mapM (loadRecord registry)
      let store ← loadAll registry rest others
      .ok ((entry.name, nodes) :: store)

end Content

namespace Collection

/-- The collection with the shape of its nodes. -/
def infer (fragments : ResolverTree) (transform : FieldTransform) (store : Store)
    (entry : CollectionEntry) : Except Failure Collection := do
  let overrides ← Override.compile entry.overrides
  let shape ← Shape.reduce overrides fragments entry.referenceField transform
    (store.nodes entry.name)
  .ok { entry, shape }

/-- The collections of a configuration, with their references wired. -/
def inferAll (config : Config) (fragments : ResolverTree) (store : Store) :
    Except Failure (List Collection) := do
  let collections ← config.collections.mapM (infer fragments config.transform store)
  .ok (collections.map (wire (collections.map name)))

end Collection

/-- A built site. -/
structure Site (State : Type) where
  /-- The identity of the configuration that it was built from. -/
  hash : String
  table : Schema.TypeTable
  source : Content.Source State
  runtime : Runtime State

namespace Site

variable {State : Type}

/-- Loads the content of a source. -/
def load (config : Config) (source : Content.Source State) (state : State)
    (registry : Content.Registry) : Except Failure Store := do
  config.validate
  source.check state
  let records ← source.fetch state config.collections []
  Content.loadAll registry config.collections records

/-- The content and the collections of a configuration. -/
def graphOf (config : Config) (source : Content.Source State) (state : State)
    (registry : Content.Registry) : Except Failure Graph := do
  let store ← load config source state registry
  let collections ← Collection.inferAll config registry.fragments store
  .ok { collections, store }

/-- Builds a site. -/
def build (config : Config) (source : Content.Source State) (state : State)
    (registry : Content.Registry) (firstId : Nat) : Except Schema.BuildProblem (Site State) :=
  match graphOf config source state registry with
  | .error failure => .error (.failed failure)
  | .ok graph => do
      let table ← Schema.build graph.collections
      .ok { hash := config.hash, table, source, runtime := { graph, state, nextId := firstId } }

/-- The graph of a site. -/
def graph (site : Site State) : Graph :=
  site.runtime.graph

/-- The schema of a site as text. -/
def definitions (site : Site State) : String :=
  site.table.render

/-- Answers a query or a mutation. -/
def answer (site : Site State) (text : String) (values : Option Value) :
    Query.Response × Site State :=
  let (response, runtime) := Query.answer site.table site.source site.runtime text values
  (response, { site with runtime })

/-- Mutates a collection. -/
def mutate (site : Site State) (kind : MutationKind) (collection : String) (payload : Value) :
    Except Failure Value × Site State :=
  let (outcome, runtime) := Query.mutate site.source kind site.runtime collection payload
  (outcome, { site with runtime })

end Site

/-- Built sites by the identity of their configurations. -/
abbrev SiteCache (State : Type) := List (String × Site State)

namespace SiteCache

variable {State : Type}

/-- Puts a site under the identity of its configuration. -/
def put (cache : SiteCache State) (site : Site State) : SiteCache State :=
  match cache with
  | [] => [(site.hash, site)]
  | (hash, old) :: rest =>
      if hash = site.hash then (hash, site) :: rest else (hash, old) :: put rest site

/-- The site of a configuration: one of the same identity that is there, else one that is built
and kept.  What cannot be built is not kept. -/
def provide (cache : SiteCache State) (config : Config) (source : Content.Source State)
    (state : State) (registry : Content.Registry) (firstId : Nat) :
    Except Schema.BuildProblem (Site State × SiteCache State) :=
  match cache.lookup config.hash with
  | some site => .ok (site, cache)
  | none => do
      let site ← Site.build config source state registry firstId
      .ok (site, cache.put site)

end SiteCache

end ContentGraph
