import ContentGraph.Text.Split

/-!
Contract: the lines of a markdown text and what they may start with.

Owns:
- `Line`, and `Cursor`, a place in a line that knows the columns of tabs;
- the marks of block quotes, list items, headings, rules and code fences.

Does not own: HTML at the start of a line (`Markdown.Tag`), and how blocks nest
(`Markdown.Block`).
-/

namespace ContentGraph.Markdown

/-- A line and its end: a line feed, a carriage return, or nothing at the end of the text. -/
structure Line where
  text : List Char
  ending : List Char
deriving DecidableEq

/-- The lines of a text, given the reversed line so far. -/
def linesFrom (line : List Char) : List Char -> List Line
  | [] => if line.isEmpty then [] else [⟨line.reverse, []⟩]
  | '\r' :: '\n' :: rest => ⟨line.reverse, ['\n']⟩ :: linesFrom [] rest
  | '\n' :: rest => ⟨line.reverse, ['\n']⟩ :: linesFrom [] rest
  | '\r' :: rest => ⟨line.reverse, ['\r']⟩ :: linesFrom [] rest
  | c :: rest => linesFrom (c :: line) rest

/-- The lines of a text. -/
def linesOf (text : List Char) : List Line :=
  linesFrom [] text

/-- White space within a line. -/
def isSpace (c : Char) : Bool :=
  c = ' ' || c = '\t' || c.toNat = 0x0B || c.toNat = 0x0C

/-- White space of the first 128 characters, line ends included. -/
def isWhite (c : Char) : Bool :=
  isSpace c || c = '\n' || c = '\r'

/-- Punctuation among the first 128 characters. -/
def isMarkPunctuation (c : Char) : Bool :=
  let point := c.toNat
  (33 ≤ point && point ≤ 47) || (58 ≤ point && point ≤ 64) || (91 ≤ point && point ≤ 96)
    || (123 ≤ point && point ≤ 126)

/-- Whether nothing but white space is left of a line. -/
def isBlankRest (text : List Char) : Bool :=
  text.all isSpace

/-- How often a character stands at the start of a text. -/
def runLength (c : Char) (text : List Char) : Nat :=
  (text.takeWhile (· = c)).length

/-- A place in a line. -/
structure Cursor where
  rest : List Char
  /-- Columns since the last tab stop that a tab ended at, or since the start. -/
  column : Nat := 0
  /-- Columns of the last tab that are not yet used. -/
  pending : Nat := 0
deriving DecidableEq

namespace Cursor

/-- Takes columns of white space.  The first component is how many are missing. -/
def takeFrom (wanted column : Nat) : List Char -> Nat × Cursor
  | [] => (wanted, ⟨[], column, 0⟩)
  | c :: rest =>
      if wanted = 0 then (0, ⟨c :: rest, column, 0⟩)
      else if c = ' ' then takeFrom (wanted - 1) (column + 1) rest
      else if c = '\t' then
        let width := 4 - column % 4
        if width ≤ wanted then takeFrom (wanted - width) 0 rest
        else (0, ⟨rest, 0, width - wanted⟩)
      else (wanted, ⟨c :: rest, column, 0⟩)

/-- Takes up to a number of columns of white space.  The first component is how many are
missing. -/
def takeColumns (cursor : Cursor) (wanted : Nat) : Nat × Cursor :=
  if wanted ≤ cursor.pending then (0, { cursor with pending := cursor.pending - wanted })
  else takeFrom (wanted - cursor.pending) cursor.column cursor.rest

/-- Takes a character if it stands at the cursor. -/
def takeChar? (cursor : Cursor) (c : Char) : Option Cursor :=
  match cursor.rest with
  | first :: rest => if first = c then some ⟨rest, cursor.column + 1, cursor.pending⟩ else none
  | [] => none

/-- Takes the mark of a block quote, up to three columns before it and one after it. -/
def takeQuoteMark? (cursor : Cursor) : Option Cursor :=
  ((cursor.takeColumns 3).2.takeChar? '>').map fun after => (after.takeColumns 1).2

/-- The unused columns of a tab as spaces, and the rest of the line. -/
def text (cursor : Cursor) : List Char :=
  List.replicate cursor.pending ' ' ++ cursor.rest

end Cursor

/-- Whether a line is a thematic break: three or more of one mark, with blanks between. -/
def isRule (text : List Char) : Bool :=
  match text with
  | [] => false
  | mark :: _ =>
      (mark = '*' || mark = '-' || mark = '_')
        && text.all (fun c => c = mark || c = ' ' || c = '\t') && 3 ≤ text.count mark

/-- The level of a heading that starts with number signs. -/
def headingLevel? (text : List Char) : Option Nat :=
  let level := runLength '#' text
  let closed :=
    match text.drop level with
    | [] => true
    | c :: _ => isWhite c
  if 1 ≤ level && level ≤ 6 && closed then some level else none

/-- The content of such a heading without the closing number signs. -/
def headingText (text : List Char) : List Char :=
  let dropEnd (test : Char -> Bool) (text : List Char) := (text.reverse.dropWhile test).reverse
  let trimmed := dropEnd isSpace (text.dropWhile isSpace)
  let opened := dropEnd (· = '#') trimmed
  match opened.getLast? with
  | none => []
  | some last => if opened.length < trimmed.length && isSpace last then dropEnd isSpace opened
      else trimmed

/-- The level of the heading that a line under a paragraph makes of it. -/
def underlineLevel? (text : List Char) : Option Nat :=
  match text with
  | '=' :: _ => if isBlankRest (text.dropWhile (· = '=')) then some 1 else none
  | '-' :: _ => if isBlankRest (text.dropWhile (· = '-')) then some 2 else none
  | _ => none

/-- The mark of a code fence and its length. -/
def fence? (text : List Char) : Option (Char × Nat) :=
  match text with
  | mark :: _ =>
      let length := runLength mark text
      if (mark = '\x60' || mark = '~') && 3 ≤ length
          && !(mark = '\x60' && (text.drop length).contains '\x60') then
        some (mark, length)
      else none
  | [] => none

/-- Whether a line closes a fence. -/
def closesFence (mark : Char) (length : Nat) (text : List Char) : Bool :=
  length ≤ runLength mark text && isBlankRest (text.dropWhile (· = mark))

/-- The mark of a list item at the start of a text: its character, its number, and its length;
numbers have up to nine digits. -/
def itemMark? (text : List Char) : Option (Char × Nat × Nat) :=
  match text with
  | [] => none
  | first :: _ =>
      if first = '-' || first = '+' || first = '*' then some (first, 0, 1)
      else
        let digits := text.takeWhile Char.isDigit
        let number := digits.foldl (fun total c => total * 10 + (c.toNat - 48)) 0
        if digits.isEmpty || 9 < digits.length then none
        else
          match text.drop digits.length with
          | c :: _ => if c = '.' || c = ')' then some (c, number, digits.length + 1) else none
          | [] => none

/-- A list item that starts at a cursor which follows a number of columns: its mark, its number,
the indentation of its content, and the cursor at the content. -/
def Cursor.takeItemMark? (cursor : Cursor) (before : Nat) : Option (Char × Nat × Nat × Cursor) :=
  match itemMark? cursor.rest with
  | none => none
  | some (mark, number, length) =>
      if length = 1 && isRule cursor.rest then none
      else
        let after : Cursor := ⟨cursor.rest.drop length, cursor.column + length, 0⟩
        let (missing, spaced) := after.takeColumns 1
        let indent := before + length + 1
        if missing = 1 && !after.rest.isEmpty then none
        else if isBlankRest spaced.rest then some (mark, number, indent, spaced)
        else
          let (missing, content) := spaced.takeColumns 4
          if missing = 0 then some (mark, number, indent, spaced)
          else some (mark, number, indent + (4 - missing), content)

/-- Whether a list item that starts a line ends the paragraph before it.  Within the containers
of the paragraph, an empty item before a blank line does not, nor a number other than one. -/
def itemInterrupts (inContainers nextIsBlank : Bool) (text : List Char) : Bool :=
  match itemMark? text with
  | none => false
  | some (mark, number, length) =>
      let after := text.drop length
      let spaced :=
        match after with
        | [] => true
        | c :: _ => c = ' ' || c = '\t'
      let ordered := mark = '.' || mark = ')'
      spaced && (!inContainers
        || ((!ordered || number = 1) && !(isBlankRest after && nextIsBlank)))

end ContentGraph.Markdown
