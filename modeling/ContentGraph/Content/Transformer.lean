import ContentGraph.Content.Document
import ContentGraph.Shape.Resolver

/-!
Contract: transformers, which turn the text of files into nodes.

Owns:
- `Transformer`: the extensions it serves, its parser, and the computed fields that it adds to
  every node;
- `Registry`: the transformers in the order of their registration, the latest of an extension
  serving it;
- parsing a raw record, and the computed fields of all transformers together;
- the transformer for YAML and JSON files.
-/

namespace ContentGraph.Content

open ContentGraph.Json

/-- A transformer. -/
structure Transformer where
  /-- The extensions served, in lower case and without the point. -/
  extensions : List String
  /-- The node of a file, from its path and text. -/
  parse : String -> String -> Except Failure Value
  /-- Computed fields for the nodes of every collection. -/
  fragments : ResolverTree

/-- Transformers in the order of their registration. -/
abbrev Registry := List Transformer

namespace Registry

/-- The transformer that serves an extension. -/
def forExtension? (registry : Registry) (extension : String) : Option Transformer :=
  registry.reverse.find? fun transformer =>
    transformer.extensions.contains (Text.lower extension)

/-- The node of a raw record.  A parsed value is its own node. -/
def parse (registry : Registry) (record : RawRecord) : Except Failure Value :=
  match record.body with
  | .parsed value => .ok value
  | .text text =>
      let path := record.path.getD ""
      let extension := (loweredExtension? path).getD ""
      match registry.forExtension? extension with
      | some transformer => transformer.parse path text
      | none => .error (.noTransformer extension path)

/-- The computed fields of all transformers; where they clash the latest wins. -/
def fragments (registry : Registry) : ResolverTree :=
  registry.foldl (fun tree transformer => ResolverTree.merge tree transformer.fragments) []

end Registry

/-- The YAML value of a text. -/
def yamlValue (path text : String) : Except Failure Value :=
  match Yaml.parse? text with
  | some value => .ok value
  | none => .error (.yaml path)

/-- The transformer for YAML files, which also reads JSON: a file is one mapping. -/
def yamlTransformer : Transformer where
  extensions := ["yaml", "yml", "json"]
  parse path text := do
    match ← yamlValue path text with
    | .object fields => .ok (.object fields)
    | _ => .error (.source (.documentNotMapping path))
  fragments := []

end ContentGraph.Content
