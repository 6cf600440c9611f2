import ContentGraph.Markdown.Document
import ContentGraph.Text.Utf8

/-!
Contract: the HTML of a markdown document.

Owns:
- escapes of text, attributes and addresses;
- the elements of blocks and inline content, and the line ends between them;
- the numbers of notes, in the order in which they are first met.
-/

namespace ContentGraph.Markdown

/-- A character in the text of an element. -/
def escapeText (c : Char) : List Char :=
  if c = '&' then "&amp;".toList
  else if c = '<' then "&lt;".toList
  else if c = '>' then "&gt;".toList
  else [c]

/-- A character in an attribute. -/
def escapeAttribute (c : Char) : List Char :=
  if c = '"' then "&quot;".toList else escapeText c

/-- An octet of an address as `%XX`. -/
def percentEncoded (octet : UInt8) : List Char :=
  let digit (value : Nat) : Char :=
    if value < 10 then Char.ofNat (48 + value) else Char.ofNat (55 + value)
  ['%', digit (octet.toNat / 16), digit (octet.toNat % 16)]

/-- A character in an address. -/
def escapeAddress (c : Char) : List Char :=
  if c = '&' then "&amp;".toList
  else if c = '\x27' then "&#x27;".toList
  else if c.isAlphanum || "!#$%()*+,-./:;=?@_~".toList.contains c then [c]
  else (Text.Utf8.encodeChar c).flatMap percentEncoded

/-- A page that is being written. -/
structure Page where
  text : String := ""
  /-- Whether the page is at the start of a line. -/
  atLineStart : Bool := true
  /-- The labels of notes in the order of their numbers. -/
  notes : List String := []

namespace Page

/-- Writes text as it is. -/
def write (page : Page) (text : String) : Page :=
  if text.isEmpty then page
  else { page with text := page.text ++ text, atLineStart := text.toList.getLast? = some '\n' }

/-- Writes escaped characters. -/
def writeEscaped (page : Page) (escape : Char -> List Char) (text : List Char) : Page :=
  { page with text := page.text ++ String.ofList (text.flatMap escape) }

/-- Writes the text of an element; the page is at the start of a line if the text ends one. -/
def writeText (page : Page) (text : List Char) : Page :=
  { page.writeEscaped escapeText text with atLineStart := text.getLast? = some '\n' }

/-- Starts a line, unless the page is at the start of one. -/
def startLine (page : Page) : Page :=
  if page.atLineStart then page else page.write "\n"

/-- The number of a note, and the page that remembers it. -/
def noteNumber (page : Page) (label : String) : Nat × Page :=
  match page.notes.findIdx? (· = label) with
  | some index => (index + 1, page)
  | none => (page.notes.length + 1, { page with notes := page.notes ++ [label] })

/-- Writes a title attribute unless the title is empty. -/
def writeTitle (page : Page) (title : String) : Page :=
  if title.isEmpty then page
  else (page.write "\" title=\"").writeEscaped escapeAttribute title.toList

mutual

/-- Writes inline content as the alternative text of an image. -/
def writeAlternative (page : Page) : Inline -> Page
  | .text content =>
      { page.writeEscaped escapeAttribute content with
        atLineStart := content.getLast? = some '\n' }
  | .code content => page.writeEscaped escapeAttribute content
  | .html content => page.writeEscaped escapeAttribute content
  | .softBreak => page.write " "
  | .hardBreak => page.write " "
  | .emphasis content => page.writeAlternatives content
  | .strong content => page.writeAlternatives content
  | .strikethrough content => page.writeAlternatives content
  | .link _ _ content => page.writeAlternatives content
  | .image _ _ content => page.writeAlternatives content
  | .noteReference label =>
      let (number, page) := page.noteNumber label
      page.write ("[" ++ toString number ++ "]")

/-- Writes inline content in a row as the alternative text of an image. -/
def writeAlternatives (page : Page) : List Inline -> Page
  | [] => page
  | inline :: rest => (page.writeAlternative inline).writeAlternatives rest

end

mutual

/-- Writes inline content. -/
def writeInline (page : Page) : Inline -> Page
  | .text content => page.writeText content
  | .code content => ((page.write "<code>").writeText content).write "</code>"
  | .html content => page.write (String.ofList content)
  | .softBreak => page.write "\n"
  | .hardBreak => page.write "<br />\n"
  | .emphasis content => ((page.write "<em>").writeInlines content).write "</em>"
  | .strong content => ((page.write "<strong>").writeInlines content).write "</strong>"
  | .strikethrough content => ((page.write "<del>").writeInlines content).write "</del>"
  | .link destination title content =>
      let opened := (page.write "<a href=\"").writeEscaped escapeAddress destination.toList
      (((opened.writeTitle title).write "\">").writeInlines content).write "</a>"
  | .image destination title content =>
      let opened := (page.write "<img src=\"").writeEscaped escapeAddress destination.toList
      (((opened.write "\" alt=\"").writeAlternatives content).writeTitle title).write "\" />"
  | .noteReference label =>
      let (number, page) := page.noteNumber label
      (((page.write "<sup class=\"footnote-reference\"><a href=\"#").writeEscaped
        escapeAttribute label.toList).write "\">").write (toString number ++ "</a></sup>")

/-- Writes inline content in a row. -/
def writeInlines (page : Page) : List Inline -> Page
  | [] => page
  | inline :: rest => (page.writeInline inline).writeInlines rest

end

/-- Writes a cell of a table. -/
def writeCell (element : String) (page : Page) (cell : Alignment × List Inline) : Page :=
  let style :=
    match cell.1 with
    | .unset => ""
    | .left => " style=\"text-align: left\""
    | .center => " style=\"text-align: center\""
    | .right => " style=\"text-align: right\""
  ((page.write ("<" ++ element ++ style ++ ">")).writeInlines cell.2).write
    ("</" ++ element ++ ">")

/-- Writes the cells of a row, one for each column. -/
def writeCells (element : String) (alignments : List Alignment) (page : Page)
    (cells : List (List Inline)) : Page :=
  let filled := cells ++ List.replicate (alignments.length - cells.length) []
  (alignments.zip filled).foldl (writeCell element) page

/-- The opening tag of code with an info text, whose first word names the language. -/
def codeTag (page : Page) (info : List Char) : Page :=
  let language := info.takeWhile (· ≠ ' ')
  if language.isEmpty then page.write "<pre><code>"
  else
    ((page.write "<pre><code class=\"language-").writeEscaped escapeAttribute language).write "\">"

mutual

/-- Writes a block.  A paragraph directly in an item of a tight list has no element. -/
def writeBlock (inTightItem : Bool) (page : Page) : Block (List Inline) -> Page
  | .paragraph content =>
      if inTightItem then page.writeInlines content
      else ((page.startLine.write "<p>").writeInlines content).write "</p>\n"
  | .heading level content =>
      let element := "h" ++ toString level
      ((page.startLine.write ("<" ++ element ++ ">")).writeInlines content).write
        ("</" ++ element ++ ">\n")
  | .rule => page.startLine.write "<hr />\n"
  | .indentedCode text =>
      ((page.startLine.write "<pre><code>").writeText text).write "</code></pre>\n"
  | .fencedCode info text =>
      ((page.startLine.codeTag info).writeText text).write "</code></pre>\n"
  | .html text => page.write (String.ofList text)
  | .quote blocks =>
      ((page.startLine.write "<blockquote>\n").writeBlocks false blocks).write "</blockquote>\n"
  | .list tight start items =>
      let (element, opening) :=
        match start with
        | none => ("ul", "<ul>\n")
        | some 1 => ("ol", "<ol>\n")
        | some number => ("ol", "<ol start=\"" ++ toString number ++ "\">\n")
      ((page.startLine.write opening).writeBlocks tight items).write ("</" ++ element ++ ">\n")
  | .item blocks =>
      ((page.startLine.write "<li>").writeBlocks inTightItem blocks).write "</li>\n"
  | .note label blocks =>
      let opened := ((page.startLine.write "<div class=\"footnote-definition\" id=\"").writeEscaped
        escapeAttribute label.toList).write "\"><sup class=\"footnote-definition-label\">"
      let (number, numbered) := opened.noteNumber label
      ((numbered.write (toString number ++ "</sup>")).writeBlocks false blocks).write "</div>\n"
  | .table alignments head rows =>
      let opened := writeCells "th" alignments (page.write "<table><thead><tr>") head
      let body := rows.foldl
        (fun page row => (writeCells "td" alignments (page.write "<tr>") row).write "</tr>\n")
        (opened.write "</tr></thead><tbody>\n")
      body.write "</tbody></table>\n"

/-- Writes blocks in a row. -/
def writeBlocks (inTightItem : Bool) (page : Page) : List (Block (List Inline)) -> Page
  | [] => page
  | block :: rest => (page.writeBlock inTightItem block).writeBlocks inTightItem rest

end

end Page

/-- The HTML of a markdown text. -/
def renderHtml (extensions : Extensions) (text : String) : String :=
  (Page.writeBlocks false {} (Document.parse extensions text)).text

end ContentGraph.Markdown
