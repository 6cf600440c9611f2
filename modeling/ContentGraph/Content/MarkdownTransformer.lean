import ContentGraph.Content.Transformer
import ContentGraph.Markdown.Page

/-!
Contract: the transformer for markdown files.

Owns:
- the node of a markdown file: the fields of its front matter, and the body under `_content.raw`;
- the computed fields `_content.html`, `_content.excerpt` and `_content.timeToRead`.
-/

namespace ContentGraph.Content

open ContentGraph.Json

/-- The fields of front matter; blank front matter and null have none. -/
def frontFields (path : String) (front : Option String) : Except Failure Object :=
  match front with
  | none => .ok []
  | some text =>
      if text.toList.all Text.isBlank then .ok []
      else do
        match ← yamlValue path text with
        | .object fields => .ok fields
        | .null => .ok []
        | _ => .error (.source (.frontMatterNotMapping path))

/-- Fields with the raw body under `_content`, unless that is there and no object. -/
def withRawBody (fields : Object) (body : String) : Object :=
  match Object.find? fields "_content" with
  | some (.object content) =>
      Object.insert fields "_content" (.object (Object.insert content "raw" (.string body)))
  | some _ => fields
  | none => Object.insert fields "_content" (.object [("raw", .string body)])

/-- The node of a markdown file. -/
def markdownNode (path text : String) : Except Failure Value := do
  let (front, body) := splitFrontMatter text
  let fields ← frontFields path front
  .ok (.object (withRawBody fields body))

/-- The raw body in the content object of a node. -/
def rawOf (source : Value) : String :=
  ((source.field? "raw").bind Value.text?).getD ""

/-- The integer argument of a name, or a default where there is none. -/
def integerArgument (args : Object) (name : String) (default : Int) : Int :=
  ((Object.find? args name).bind Value.int64?).getD default

/-- The length of an excerpt unless an argument gives one. -/
def defaultExcerptLength : Int := 200

/-- The reading speed, in words a minute, unless an argument gives one. -/
def defaultSpeed : Int := 230

/-- The page of a body, unless the field has a text already. -/
def htmlResolver (extensions : Markdown.Extensions) : Resolver where
  typeRef := "String"
  resolve value source _ :=
    match value with
    | .string existing => .ok (.string existing)
    | _ => .ok (.string (Markdown.renderHtml extensions (rawOf source)))

/-- The excerpt of a body. -/
def excerptResolver : Resolver where
  typeRef := "String"
  arguments := [⟨"length", "Int", some (.ofInt defaultExcerptLength)⟩]
  resolve _ source args :=
    let length := (integerArgument args "length" defaultExcerptLength).toNat
    .ok (.string (Markdown.excerpt (rawOf source) length))

/-- The minutes to read a body. -/
def timeToReadResolver : Resolver where
  typeRef := "Int"
  arguments := [⟨"speed", "Int", some (.ofInt defaultSpeed)⟩]
  resolve _ source args :=
    .ok (.ofInt (Markdown.timeToRead (rawOf source) (integerArgument args "speed" defaultSpeed)))

/-- The transformer for markdown files. -/
def markdownTransformer : Transformer where
  extensions := ["md", "markdown"]
  parse := markdownNode
  fragments :=
    [("_content", .object [
      ("html", .resolver (htmlResolver ⟨true, true, true⟩)),
      ("excerpt", .resolver excerptResolver),
      ("timeToRead", .resolver timeToReadResolver)])]

/-- The transformers for markdown and for YAML. -/
def Registry.withDefaults : Registry := [markdownTransformer, yamlTransformer]

end ContentGraph.Content
