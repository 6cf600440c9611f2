import ContentGraph.Markdown.Tag
import ContentGraph.Markdown.Target
import ContentGraph.Text.Blank

/-!
Contract: the block structure of a markdown text.

Owns:
- `Block`, whose leaves hold text or inline content;
- the containers that are open at a line, and which of them the line continues;
- paragraphs with the lines that end them, headings, code, HTML, tables, lists with their
  tightness, and definitions of link targets and notes;
- `Outline.parse`.

Does not own: inline content (`Markdown.InlineReader`).
-/

namespace ContentGraph.Markdown

/-- Where the cells of a column stand. -/
inductive Alignment where
  | unset
  | left
  | center
  | right
deriving DecidableEq

/-- A block whose text has some form.  Items stand in lists only. -/
inductive Block (Content : Type) where
  | paragraph (content : Content)
  | heading (level : Nat) (content : Content)
  | rule
  | indentedCode (text : List Char)
  | fencedCode (info text : List Char)
  | html (text : List Char)
  | quote (blocks : List (Block Content))
  /-- `start` is the number of the first item of an ordered list. -/
  | list (tight : Bool) (start : Option Nat) (items : List (Block Content))
  | item (blocks : List (Block Content))
  | note (label : String) (blocks : List (Block Content))
  | table (alignments : List Alignment) (head : List Content) (rows : List (List Content))

/-- Which extensions of markdown are read. -/
structure Extensions where
  tables : Bool := false
  strikethrough : Bool := false
  footnotes : Bool := false
deriving DecidableEq

/-- A block whose text is not read yet. -/
abbrev TextBlock := Block (List Char)

/-- A block that other blocks stand in. -/
inductive Container where
  | quote
  | list (tight : Bool) (mark : Char) (start : Nat)
  /-- An item whose content is indented by a number of columns. -/
  | item (indent : Nat)
  | note (label : String)
deriving DecidableEq

/-- An open container and its blocks so far, reversed. -/
structure OpenContainer where
  container : Container
  blocks : List TextBlock

/-- What has been read of a text. -/
structure Outline where
  extensions : Extensions
  /-- Open containers from the innermost outwards. -/
  opened : List OpenContainer := []
  /-- Blocks outside of open containers, reversed. -/
  blocks : List TextBlock := []
  /-- Whether a blank line came before. -/
  afterBlank : Bool := false
  /-- Whether an item has just begun with a blank line. -/
  freshItem : Bool := false
  /-- Targets by the keys of their labels. -/
  targets : List (List Char × Target) := []
  /-- The keys of the labels of notes. -/
  notes : List (List Char) := []

namespace Outline

/-- Adds a block to the innermost open container. -/
def add (outline : Outline) (block : TextBlock) : Outline :=
  match outline.opened with
  | [] => { outline with blocks := block :: outline.blocks }
  | inner :: outer =>
      { outline with opened := { inner with blocks := block :: inner.blocks } :: outer }

/-- Opens a container. -/
def push (outline : Outline) (container : Container) : Outline :=
  { outline with opened := ⟨container, []⟩ :: outline.opened }

/-- The block of a container. -/
def blockOf (opened : OpenContainer) : TextBlock :=
  let blocks := opened.blocks.reverse
  match opened.container with
  | .quote => .quote blocks
  | .list tight mark start =>
      .list tight (if mark = '.' || mark = ')' then some start else none) blocks
  | .item _ => .item blocks
  | .note label => .note label blocks

/-- Closes the innermost container. -/
def pop (outline : Outline) : Outline :=
  match outline.opened with
  | [] => outline
  | inner :: outer =>
      let closed := ({ outline with opened := outer }).add (blockOf inner)
      match inner.container with
      | .list true _ _ => { closed with freshItem := false }
      | _ => closed

/-- Closes containers until a number of them are open. -/
def popTo (outline : Outline) (count : Nat) : Outline :=
  (List.range (outline.opened.length - count)).foldl (fun outline _ => outline.pop) outline

/-- A container with the list that it is made loose. -/
def loosened (opened : OpenContainer) : OpenContainer :=
  match opened.container with
  | .list _ mark start => { opened with container := .list false mark start }
  | _ => opened

/-- Closes an item that has nothing but a blank line. -/
def finishFreshItem (outline : Outline) : Outline :=
  let closed :=
    match outline.opened with
    | ⟨.item _, _⟩ :: _ =>
        if outline.freshItem && outline.afterBlank then outline.pop else outline
    | _ => outline
  { closed with freshItem := false }

/-- Closes a list whose next line is no item.  A blank line before a block in an item makes the
item's list loose. -/
def finishList (outline : Outline) : Outline :=
  let outline := outline.finishFreshItem
  let outline :=
    match outline.opened with
    | ⟨.list _ _ _, _⟩ :: _ => outline.pop
    | _ => outline
  if outline.afterBlank then
    match outline.opened with
    | inner :: around :: outer =>
        { outline with opened := inner :: loosened around :: outer, afterBlank := false }
    | _ => { outline with afterBlank := false }
  else outline

/-- Continues the open list if its mark is the same, else starts a list. -/
def continueList (outline : Outline) (mark : Char) (start : Nat) : Outline :=
  let outline := outline.finishFreshItem
  let fresh (outline : Outline) : Outline :=
    { outline.push (.list true mark start) with afterBlank := false }
  match outline.opened with
  | [] => fresh outline
  | inner :: outer =>
      match inner.container with
      | .list _ existing _ =>
          if existing = mark then
            if outline.afterBlank then
              { outline with opened := loosened inner :: outer, afterBlank := false }
            else outline
          else fresh outline.finishList
      | _ => fresh outline.finishList

/-- How many containers, from the outermost inwards, a line continues, and the cursor after
their marks. -/
def continued (cursor : Cursor) : List Container -> Nat × Cursor
  | [] => (0, cursor)
  | container :: inner =>
      let step (cursor : Cursor) : Nat × Cursor :=
        let (count, after) := continued cursor inner
        (count + 1, after)
      let indented (columns : Nat) : Nat × Cursor :=
        let (missing, after) := cursor.takeColumns columns
        if 0 < missing && !after.rest.isEmpty then (0, cursor) else step after
      match container with
      | .quote =>
          match cursor.takeQuoteMark? with
          | some after => step after
          | none => (0, cursor)
      | .list _ _ _ => step cursor
      | .item indent => indented indent
      | .note _ => indented 4

/-- The open containers from the outermost inwards. -/
def containers (outline : Outline) : List Container :=
  outline.opened.reverse.map (·.container)

/-- The cursor after the marks of all open containers, if a line continues all. -/
def inside? (outline : Outline) (line : Line) : Option Cursor :=
  let (count, cursor) := continued ⟨line.text, 0, 0⟩ outline.containers
  if count = outline.opened.length then some cursor else none

/-- The label of a note that a text starts to define, and what follows its colon. -/
def noteStart? (text : List Char) : Option (List Char × List Char) :=
  match text with
  | '[' :: '^' :: rest =>
      match label? rest with
      | some (label, ':' :: after) => some (label, after)
      | _ => none
  | _ => none

/-- Whether the next line of a text is blank, or there is none. -/
def startsBlank (lines : List Line) : Bool :=
  match lines with
  | [] => true
  | line :: _ => isBlankRest line.text

/-- Whether a line ends the paragraph before it, tables aside. -/
def interrupts (outline : Outline) (inContainers : Bool) (text : List Char)
    (following : List Line) : Bool :=
  text.isEmpty || isRule text || (headingLevel? text).isSome || (fence? text).isSome
    || text.head? = some '>' || itemInterrupts inContainers (startsBlank following) text
    || Tag.interrupts text || (outline.extensions.footnotes && (noteStart? text).isSome)

/-- The alignments that a row under the head of a table gives. -/
def tableAlignments? (text : List Char) : Option (List Alignment) :=
  let (missing, cursor) := (Cursor.mk text 0 0).takeColumns 4
  let row := cursor.rest
  let body :=
    match row with
    | '|' :: rest => rest
    | rest => rest
  let cells := Text.splitAt '|' body
  let cells := if (cells.getLast?.map isBlankRest).getD false then cells.dropLast else cells
  let alignmentOf? (cell : List Char) : Option Alignment :=
    let marks := cell.filter (· ≠ ' ')
    if marks.all (fun c => c = '-' || c = ':') && marks.contains '-' then
      let colons := marks.count ':'
      if colons = 0 then some .unset
      else if marks.head? ≠ some ':' then some .right
      else if colons = 1 then some .left
      else some .center
    else none
  if missing = 0 || !row.contains '|' || cells.isEmpty then none else cells.mapM alignmentOf?

/-- The parts of a row between the bars that no backslash escapes. -/
def rowParts (part : List Char) : List Char -> List (List Char)
  | [] => [part.reverse]
  | '\\' :: c :: rest =>
      if isMarkPunctuation c then rowParts (c :: '\\' :: part) rest
      else rowParts ('\\' :: part) (c :: rest)
  | '|' :: rest => part.reverse :: rowParts [] rest
  | c :: rest => rowParts (c :: part) rest

/-- The cells of a row. -/
def rowCells (text : List Char) : List (List Char) :=
  let body :=
    match text.dropWhile isSpace with
    | '|' :: rest => rest
    | rest => rest
  let parts := rowParts [] body
  if (parts.getLast?.map isBlankRest).getD false then parts.dropLast else parts

/-- Whether a line ends in an odd number of backslashes. -/
def endsInEscape (text : List Char) : Bool :=
  runLength '\\' text.reverse % 2 = 1

/-- The alignments of the table that a line and the next start, if they do. -/
def tableStart? (outline : Outline) (text : List Char) (following : List Line) :
    Option (List Alignment) :=
  match following with
  | [] => none
  | next :: _ =>
      if !outline.extensions.tables || (rowParts [] text).length ≤ 1 || endsInEscape text then none
      else
        match (outline.inside? next).bind fun cursor => tableAlignments? cursor.text with
        | some alignments =>
            if alignments.length = (rowCells text).length then some alignments else none
        | none => none

/-- The lines that continue a paragraph as they stand after the marks of their containers, the
level of the heading that an underline makes of the paragraph, and the lines that follow. -/
def paragraphLines (outline : Outline) : List Line -> List (List Char) × Option Nat × List Line
  | [] => ([], none, [])
  | line :: rest =>
      let (count, cursor) := continued ⟨line.text, 0, 0⟩ outline.containers
      let inContainers := count = outline.opened.length
      let (missing, after) := cursor.takeColumns 4
      let stop := ([], none, line :: rest)
      let continueParagraph := fun _ : Unit =>
        if isBlankRest after.rest then stop
        else
          let (lines, level, following) := paragraphLines outline rest
          (cursor.rest :: lines, level, following)
      if missing = 0 then continueParagraph ()
      else
        match if inContainers then underlineLevel? after.rest else none with
        | some level => ([], some level, rest)
        | none =>
            let startsTable := outline.extensions.tables && after.rest.head? = some '|'
              && (outline.tableStart? after.rest rest).isSome
            if outline.interrupts inContainers after.rest rest || startsTable then stop
            else continueParagraph ()

/-- Reads a definition of a link target at the start of lines, of which the first is given
from its content on.  The result has the lines after the definition. -/
def takeDefinition? (outline : Outline) (text : List Char) (following : List Line) :
    Option (Outline × List Line) :=
  match text with
  | '[' :: _ =>
      let (lines, _, _) := outline.paragraphLines following
      let whole := lines.foldl (fun whole line => whole ++ '\n' :: line) text
      match definition? whole with
      | some (label, target, after) =>
          let consumed := (whole.take (whole.length - after.length)).count '\n'
          let used := if after.isEmpty then lines.length else consumed - 1
          let key := labelKey label
          let targets :=
            if (outline.targets.lookup key).isSome then outline.targets
            else outline.targets ++ [(key, target)]
          some ({ outline with targets }, following.drop used)
      | none => none
  | _ => none

/-- The rows of a table and the lines that follow it. -/
def tableRows (outline : Outline) : List Line -> List (List (List Char)) × List Line
  | [] => ([], [])
  | line :: rest =>
      match outline.inside? line with
      | none => ([], line :: rest)
      | some cursor =>
          let text := cursor.rest.dropWhile fun c => c = ' ' || c = '\t'
          if outline.interrupts true text rest then ([], line :: rest)
          else
            let cells := rowCells text
            let (rows, following) := tableRows outline rest
            (if cells.isEmpty then rows else cells :: rows, following)

/-- The text of fenced code from a line on, and the lines that follow it. -/
def fencedLines (outline : Outline) (indent : Nat) (mark : Char) (length : Nat) :
    List Line -> List Char × List Line
  | [] => ([], [])
  | line :: rest =>
      match outline.inside? line with
      | none => ([], line :: rest)
      | some cursor =>
          let content := (cursor.takeColumns indent).2
          let (missing, inner) := content.takeColumns (4 - indent)
          if 0 < missing && closesFence mark length inner.rest then ([], rest)
          else
            let (text, following) := fencedLines outline indent mark length rest
            (content.text ++ line.ending ++ text, following)

/-- The lines of indented code from a line on, and the lines that follow it. -/
def indentedLines (outline : Outline) : List Line -> List (List Char) × List Line
  | [] => ([], [])
  | line :: rest =>
      match outline.inside? line with
      | none => ([], line :: rest)
      | some cursor =>
          let (missing, content) := cursor.takeColumns 4
          if 0 < missing && !content.rest.isEmpty then ([], line :: rest)
          else
            let (lines, following) := indentedLines outline rest
            ((content.text ++ line.ending) :: lines, following)

/-- Whether a word stands in a text. -/
def holds (word : String) (text : List Char) : Bool :=
  (Text.splitAtWord? word.toList text).isSome

/-- The text of an HTML block from a line after its first on, and the lines that follow it.
The block ends with the line that holds `closing`, or, without one, before a blank line. -/
def htmlLines (outline : Outline) (closing : Option String) (closed : Bool) :
    List Line -> List Char × List Line
  | [] => ([], [])
  | line :: rest =>
      if closed then ([], line :: rest)
      else
        match outline.inside? line with
        | none => ([], line :: rest)
        | some cursor =>
            if closing.isNone && isBlankRest cursor.rest then ([], line :: rest)
            else
              let (text, following) :=
                htmlLines outline closing ((closing.map (holds · line.text)).getD false) rest
              (cursor.text ++ line.ending ++ text, following)

/-- An HTML block whose first line is given from its angle bracket on, after a number of
columns. -/
def takeHtml (outline : Outline) (closing : Option String) (columns : Nat) (text ending : List Char)
    (following : List Line) : Outline × List Line :=
  let (more, rest) :=
    outline.htmlLines closing ((closing.map (holds · text)).getD false) following
  (outline.add (.html (List.replicate columns ' ' ++ text ++ ending ++ more)), rest)

/-- Opens the containers that start in a line; the second component is the cursor after their
marks, unless the line is over.  The fuel bounds the steps. -/
def openContainers (fuel : Nat) (outline : Outline) (cursor : Cursor) :
    Outline × Option Cursor :=
  match fuel with
  | 0 => (outline, some cursor)
  | fuel + 1 =>
      let (missing, after) := cursor.takeColumns 4
      if missing = 0 then (outline, some cursor)
      else
        let indent := 4 - missing
        match if outline.extensions.footnotes then noteStart? after.rest else none with
        | some (label, rest) =>
            let outline := outline.finishList
            let outline :=
              match outline.opened with
              | ⟨.note _, _⟩ :: _ => outline.pop
              | _ => outline
            let outline := { outline with notes := labelKey label :: outline.notes }
            openContainers fuel (outline.push (.note (String.ofList label)))
              ⟨rest.dropWhile isSpace, 0, 0⟩
        | none =>
            match after.takeItemMark? indent with
            | some (mark, number, indent, content) =>
                let outline := (outline.continueList mark number).push (.item indent)
                if isBlankRest content.rest then ({ outline with freshItem := true }, none)
                else openContainers fuel outline content
            | none =>
                match after.takeQuoteMark? with
                | some content => openContainers fuel (outline.finishList.push .quote) content
                | none => (outline, some cursor)

/-- Remembers a blank line, unless the innermost container is a quote. -/
def noteBlank (outline : Outline) : Outline :=
  match outline.opened with
  | ⟨.quote, _⟩ :: _ => outline
  | ⟨.item indent, blocks⟩ :: outer =>
      { outline with
        opened := ⟨.item (if outline.freshItem then 0 else indent), blocks⟩ :: outer
        afterBlank := true }
  | _ => { outline with afterBlank := true }

/-- Drops the lines at the end that are blank. -/
def dropBlankEnd (lines : List (List Char)) : List (List Char) :=
  (lines.reverse.dropWhile (·.all isWhite)).reverse

/-- Reads the block at a cursor in a line that is not blank, whose end and following lines are
given; all lists that end before it are closed.  The result has the lines after the block. -/
def takeLeaf (outline : Outline) (cursor : Cursor) (ending : List Char)
    (following : List Line) : Outline × List Line :=
  let (missing, after) := cursor.takeColumns 4
  if missing = 0 then
    let (more, rest) := outline.indentedLines following
    let lines := (after.text ++ ending) :: more
    let afterBlank := (lines.getLast?.map (·.all isWhite)).getD false
    ({ outline.add (.indentedCode (dropBlankEnd lines).flatten) with afterBlank }, rest)
  else
    let indent := 4 - missing
    let text := after.rest
    let html : Option (Option String) :=
      match text with
      | '<' :: tag =>
          match Tag.verbatimEnd? tag with
          | some closing => some (some closing)
          | none =>
              if Tag.startsBlockElement tag || Tag.isLoneTag tag then some none else none
      | _ => none
    match html with
    | some closing => outline.takeHtml closing indent text ending following
    | none =>
        if isRule text then (outline.add .rule, following)
        else
          match headingLevel? text with
          | some level => (outline.add (.heading level (headingText (text.drop level))), following)
          | none =>
              match fence? text with
              | some (mark, length) =>
                  let info := Text.dropEndWhile isSpace ((text.drop length).dropWhile isSpace)
                  let (code, rest) := outline.fencedLines indent mark length following
                  (outline.add (.fencedCode (resolve info) code), rest)
              | none =>
                  match outline.takeDefinition? text following with
                  | some result => result
                  | none =>
                      match outline.tableStart? text following with
                      | some alignments =>
                          let (rows, rest) := outline.tableRows (following.drop 1)
                          (outline.add (.table alignments (rowCells text) rows), rest)
                      | none =>
                          let (lines, level, rest) := outline.paragraphLines following
                          let content := lines.foldl (fun content line => content ++ '\n' :: line) text
                          match level with
                          | some level => (outline.add (.heading level content), rest)
                          | none => (outline.add (.paragraph content), rest)

/-- Reads one block or one line, given the lines after it. -/
def takeBlock (outline : Outline) (line : Line) (following : List Line) : Outline × List Line :=
  let (count, cursor) := continued ⟨line.text, 0, 0⟩ outline.containers
  let outline := outline.popTo count
  match openContainers (line.text.length + 1) outline cursor with
  | (outline, none) => (outline, following)
  | (outline, some cursor) =>
      if isBlankRest cursor.rest then (outline.noteBlank, following)
      else outline.finishList.takeLeaf cursor line.ending following

/-- Reads lines; the fuel bounds their number. -/
def readLines (fuel : Nat) (outline : Outline) (lines : List Line) : Outline :=
  match fuel, lines with
  | 0, _ => outline
  | _, [] => outline
  | fuel + 1, line :: rest =>
      let (outline, following) := outline.takeBlock line rest
      readLines fuel outline following

/-- The outline of a text, with all containers closed. -/
def parse (extensions : Extensions) (text : String) : Outline :=
  let lines := linesOf text.toList
  (readLines lines.length { extensions } lines).popTo 0

end Outline

end ContentGraph.Markdown
