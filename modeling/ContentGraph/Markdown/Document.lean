import ContentGraph.Markdown.Block
import ContentGraph.Markdown.InlineReader

/-!
Contract: markdown documents, and what can be told of their text.

Owns:
- `Document`, the blocks of a markdown text with their inline content;
- the plain text of a document, its excerpts, and the time to read it.

Does not own: the page that a document makes (`Markdown.Page`).
-/

namespace ContentGraph.Markdown

namespace Block

variable {Content Result : Type}

mutual

/-- Reads the text of all leaves; cells of tables are read in their own way. -/
def read (readText readCell : Content -> Result) : Block Content -> Block Result
  | .paragraph content => .paragraph (readText content)
  | .heading level content => .heading level (readText content)
  | .rule => .rule
  | .indentedCode text => .indentedCode text
  | .fencedCode info text => .fencedCode info text
  | .html text => .html text
  | .quote blocks => .quote (readAll readText readCell blocks)
  | .list tight start items => .list tight start (readAll readText readCell items)
  | .item blocks => .item (readAll readText readCell blocks)
  | .note label blocks => .note label (readAll readText readCell blocks)
  | .table alignments head rows =>
      .table alignments (head.map readCell) (rows.map (·.map readCell))

/-- Reads the text of the leaves of blocks in a row. -/
def readAll (readText readCell : Content -> Result) : List (Block Content) -> List (Block Result)
  | [] => []
  | block :: rest => read readText readCell block :: readAll readText readCell rest

end

end Block

/-- The blocks of a markdown text with their inline content. -/
abbrev Document := List (Block (List Inline))

namespace Document

/-- The document of a text. -/
def parse (extensions : Extensions) (text : String) : Document :=
  let outline := Outline.parse extensions text
  let context : InlineContext :=
    { strikethrough := extensions.strikethrough
      footnotes := extensions.footnotes
      targets := outline.targets
      notes := outline.notes }
  Block.readAll (Inline.parse context) (Inline.parse { context with inTable := true })
    outline.blocks.reverse

mutual

/-- The text of inline content without markup; breaks are spaces, and HTML is left out. -/
def inlineText : Inline -> List Char
  | .text content => content
  | .code content => content
  | .html _ => []
  | .softBreak => [' ']
  | .hardBreak => [' ']
  | .emphasis content => inlinesText content
  | .strong content => inlinesText content
  | .strikethrough content => inlinesText content
  | .link _ _ content => inlinesText content
  | .image _ _ content => inlinesText content
  | .noteReference _ => []

/-- The text of inline content in a row. -/
def inlinesText : List Inline -> List Char
  | [] => []
  | inline :: rest => inlineText inline ++ inlinesText rest

end

mutual

/-- The text of a block; a space follows a paragraph, except directly in an item of a tight
list, and a heading, an item and code. -/
def blockText (inTightItem : Bool) : Block (List Inline) -> List Char
  | .paragraph content => inlinesText content ++ if inTightItem then [] else [' ']
  | .heading _ content => inlinesText content ++ [' ']
  | .rule => []
  | .indentedCode text => text ++ [' ']
  | .fencedCode _ text => text ++ [' ']
  | .html _ => []
  | .quote blocks => blocksText false blocks
  | .list tight _ items => blocksText tight items
  | .item blocks => blocksText inTightItem blocks ++ [' ']
  | .note _ blocks => blocksText false blocks
  | .table _ head rows => (head ++ rows.flatten).flatMap inlinesText

/-- The text of blocks in a row. -/
def blocksText (inTightItem : Bool) : List (Block (List Inline)) -> List Char
  | [] => []
  | block :: rest => blockText inTightItem block ++ blocksText inTightItem rest

end

/-- The words of a document. -/
def words (document : Document) : List (List Char) :=
  Text.words (blocksText false document)

end Document

/-- The words of a markdown text without extensions. -/
def wordsOf (text : String) : List (List Char) :=
  (Document.parse {} text).words

/-- The text of a markdown document without markup: its words with single spaces between. -/
def plainText (text : String) : String :=
  " ".intercalate ((wordsOf text).map String.ofList)

/-- The start of a document's plain text: all of it if it has at most `length` characters,
else that many without blanks at the end, and an ellipsis. -/
def excerpt (text : String) (length : Nat) : String :=
  let plain := (plainText text).toList
  if plain.length ≤ length then String.ofList plain
  else String.ofList (Text.dropEndWhile Text.isBlank (plain.take length) ++ ['…'])

/-- The integer of 64 bits that agrees with a given one modulo `2 ^ 64`. -/
def word64 (value : Int) : Int :=
  value.bmod (Nat.pow 2 64)

/-- The minutes to read a document at a number of words a minute, rounded up; speeds below one
count as one.  The sums are taken in words of 64 bits. -/
def timeToRead (text : String) (speed : Int) : Int :=
  let speed := max speed 1
  (word64 (word64 ((wordsOf text).length + speed) - 1)).tdiv speed

end ContentGraph.Markdown
