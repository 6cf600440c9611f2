import ContentGraph.Content.Record
import ContentGraph.Text.Blank
import ContentGraph.Yaml.Writer

/-!
Contract: the text of content files.

Owns:
- front matter: the lines between a first line of three hyphens and the next such line;
- `documentText`, the text of a record: its own fields as YAML, as front matter before the raw
  body in a markdown file.

Does not own: what the text of a file means as a node (`Content.Transformer`).
-/

namespace ContentGraph.Content

open ContentGraph.Json

/-- The first line of a text with its line feed, and what follows it. -/
def splitLine : List Char -> List Char × List Char
  | [] => ([], [])
  | '\n' :: rest => (['\n'], rest)
  | c :: rest =>
      let (line, after) := splitLine rest
      (c :: line, after)

/-- What follows the first line is no longer than the text without its first character. -/
theorem length_splitLine (c : Char) (rest : List Char) :
    (splitLine (c :: rest)).2.length ≤ rest.length := by
  induction rest generalizing c with
  | nil =>
      by_cases lineFeed : c = '\n'
      · subst lineFeed; simp [splitLine]
      · simp [splitLine]
  | cons next rest hypothesis =>
      by_cases lineFeed : c = '\n'
      · subst lineFeed; simp [splitLine]
      · have step := hypothesis next
        simp only [splitLine, List.length_cons] at step ⊢
        omega

/-- Whether a line is a fence: three hyphens, and blanks after them. -/
def isFence (line : List Char) : Bool :=
  Text.dropEndWhile Text.isBlank line = "---".toList

/-- The text before the first fence, and the text after its line. -/
def untilFence? (text : List Char) : Option (List Char × List Char) :=
  match text with
  | [] => none
  | c :: rest =>
      let cut := splitLine (c :: rest)
      if isFence cut.1 then some ([], cut.2)
      else (untilFence? cut.2).map fun (front, body) => (cut.1 ++ front, body)
termination_by text.length
decreasing_by
  have := length_splitLine c rest
  simp only [List.length_cons]
  omega

/-- What follows the opening fence of a text, if it has one. -/
def afterOpening? (text : List Char) : Option (List Char) :=
  match text with
  | '-' :: '-' :: '-' :: '\n' :: rest => some rest
  | '-' :: '-' :: '-' :: '\r' :: '\n' :: rest => some rest
  | _ => none

/-- The front matter of a text, if it has both fences, and the body. -/
def splitFrontMatter (text : String) : Option String × String :=
  match (afterOpening? text.toList).bind untilFence? with
  | some (front, body) => (some (String.ofList front), String.ofList body)
  | none => (none, text)

/-- The raw body of a record. -/
def rawBody? (record : Object) : Option String :=
  ((Object.find? record "_content").bind (·.field? "raw")).bind Value.text?

/-- Whether a key is reserved for metadata and computed fields. -/
def isReserved (key : String) : Bool :=
  key.toList.head? = some '_'

/-- The fields of a record that its file states. -/
def ownFields (record : Object) : Object :=
  record.filter fun field => !isReserved field.1

/-- Whether a file holds markdown. -/
def isMarkdownPath (path : String) : Bool :=
  match Files.extension? path with
  | some "md" | some "markdown" => true
  | _ => false

/-- The text of a record in the file at a path. -/
def documentText (record : Object) (path : String) : String :=
  let yaml := Yaml.render (ownFields record)
  if isMarkdownPath path then
    "---\n" ++ yaml ++ "---\n" ++ (rawBody? record).getD ""
  else yaml

end ContentGraph.Content
