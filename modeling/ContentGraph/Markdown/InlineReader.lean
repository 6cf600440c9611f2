import ContentGraph.Markdown.Emphasis
import ContentGraph.Markdown.Tag
import ContentGraph.Markdown.Target

/-!
Contract: the inline content of a text.

Owns:
- code spans, autolinks, inline HTML, escapes, character references and line breaks;
- links and images, inline or by the definitions of the document, and references to notes;
- `Inline.parse`.

Does not own: the pairing of emphasis delimiters (`Markdown.Emphasis`).
-/

namespace ContentGraph.Markdown

/-- What inline content depends on. -/
structure InlineContext where
  strikethrough : Bool
  footnotes : Bool
  /-- Whether the text is a table cell, where an escaped bar is a bar in code too. -/
  inTable : Bool := false
  /-- Targets by the keys of their labels. -/
  targets : List (List Char × Target)
  /-- The keys of the labels of notes. -/
  notes : List (List Char)

/-- What follows the next run of a number of backticks, and the text before that run; `held` is
the length of the run being passed. -/
def codeEnd? (count held : Nat) : List Char -> Option (List Char × List Char)
  | [] => if held = count then some ([], []) else none
  | c :: rest =>
      if c = '\x60' then
        (codeEnd? count (held + 1) rest).map fun (before, after) =>
          (c :: before, after)
      else if held = count then some ([], c :: rest)
      else (codeEnd? count 0 rest).map fun (before, after) => (c :: before, after)

/-- The content of a code span from the text between its delimiters: line ends are spaces, and
one space is dropped at both ends unless there are only spaces. -/
def codeContent (inTable : Bool) (text : List Char) : List Char :=
  let rec plain : List Char -> List Char
    | [] => []
    | '\\' :: '|' :: rest => (if inTable then ['|'] else ['\\', '|']) ++ plain rest
    | c :: rest => (if c = '\n' || c = '\r' then ' ' else c) :: plain rest
  let content := plain text
  match content with
  | ' ' :: inner =>
      if inner.getLast? = some ' ' && !content.all (· = ' ') then inner.dropLast else content
  | _ => content

/-- The address in an autolink whose angle bracket was read, and what follows it. -/
def autolink? (text : List Char) : Option (List Char × List Char) :=
  match text with
  | first :: _ =>
      let scheme := text.takeWhile fun c => c.isAlphanum || c = '.' || c = '-' || c = '+'
      match text.drop scheme.length with
      | ':' :: rest =>
          let body := rest.takeWhile fun c => !(c = '>' || c = '<' || c.toNat ≤ 32)
          match rest.drop body.length with
          | '>' :: after =>
              if first.isAlpha && 2 ≤ scheme.length && scheme.length ≤ 32 then
                some (scheme ++ ':' :: body, after)
              else none
          | _ => none
      | _ => none
  | [] => none

/-- Whether a text is the host of a mail address: labels of letters, digits and inner hyphens. -/
def isMailHost (text : List Char) : Bool :=
  (Text.splitAt '.' text).all fun label =>
    !label.isEmpty && label.length ≤ 63 && label.all (fun c => c.isAlphanum || c = '-')
      && label.head? ≠ some '-' && label.getLast? ≠ some '-'

/-- The mail address in an autolink whose angle bracket was read, and what follows it. -/
def mailLink? (text : List Char) : Option (List Char × List Char) :=
  let name := text.takeWhile fun c =>
    c.isAlphanum || ".!#$%&\x27*+/=?^_\x60\x7b|\x7d~-".toList.contains c
  match text.drop name.length with
  | '@' :: rest =>
      let host := rest.takeWhile fun c => c.isAlphanum || c = '-' || c = '.'
      match rest.drop host.length with
      | '>' :: after =>
          if !name.isEmpty && isMailHost host then some (name ++ '@' :: host, after) else none
      | _ => none
  | _ => none

/-- A bracket that waits for its partner. -/
structure Bracket where
  isImage : Bool
  /-- Whether it can still start a link: not inside another link. -/
  active : Bool
  /-- The text after the bracket. -/
  source : List Char
  /-- The pieces before it, reversed, down to the bracket around it. -/
  before : List Piece

/-- What has been read of a text. -/
structure InlineProgress where
  /-- Brackets from the innermost outwards. -/
  brackets : List Bracket := []
  /-- The pieces after the innermost bracket, reversed. -/
  pieces : List Piece := []
  /-- Plain text after the last piece, reversed. -/
  pending : List Char := []

namespace InlineProgress

/-- Makes a piece of the plain text. -/
def flush (progress : InlineProgress) : InlineProgress :=
  match progress.pending with
  | [] => progress
  | pending =>
      { progress with
        pieces := .finished (.text pending.reverse) :: progress.pieces, pending := [] }

/-- Adds a piece. -/
def add (progress : InlineProgress) (piece : Piece) : InlineProgress :=
  let progress := progress.flush
  { progress with pieces := piece :: progress.pieces }

/-- Adds finished content. -/
def addInline (progress : InlineProgress) (inline : Inline) : InlineProgress :=
  progress.add (.finished inline)

/-- Adds a character of plain text. -/
def addChar (progress : InlineProgress) (c : Char) : InlineProgress :=
  { progress with pending := c :: progress.pending }

/-- Adds characters of plain text. -/
def addChars (progress : InlineProgress) (chars : List Char) : InlineProgress :=
  { progress with pending := chars.reverse ++ progress.pending }

/-- Drops white space at the end of the plain text; the second component is how much. -/
def trimEnd (progress : InlineProgress) : InlineProgress × Nat :=
  let trimmed := progress.pending.dropWhile isSpace
  ({ progress with pending := trimmed }, progress.pending.length - trimmed.length)

/-- Opens a bracket before a text. -/
def openBracket (progress : InlineProgress) (isImage : Bool) (source : List Char) :
    InlineProgress :=
  let progress := progress.flush
  ⟨⟨isImage, true, source, progress.pieces⟩ :: progress.brackets, [], []⟩

/-- A bracket as plain text. -/
def bracketText (bracket : Bracket) : Piece :=
  .finished (.text (if bracket.isImage then ['!', '['] else ['[']))

/-- Makes plain text of the innermost bracket. -/
def dropBracket (progress : InlineProgress) : InlineProgress :=
  let progress := progress.flush
  match progress.brackets with
  | [] => progress
  | bracket :: outer =>
      ⟨outer, progress.pieces ++ bracketText bracket :: bracket.before, []⟩

/-- Makes plain text of all brackets. -/
def dropAllBrackets (progress : InlineProgress) : InlineProgress :=
  progress.brackets.foldl (fun progress _ => progress.dropBracket) progress

/-- Makes a link or an image of what follows the innermost bracket.  The brackets around a link
can start no other link. -/
def closeBracket (progress : InlineProgress) (target : Target) : InlineProgress :=
  let progress := progress.flush
  match progress.brackets with
  | [] => progress
  | bracket :: outer =>
      let content := Emphasis.resolve progress.pieces.reverse
      if bracket.isImage then
        ⟨outer, .finished (.image target.destination target.title content) :: bracket.before, []⟩
      else
        ⟨outer.map fun around => if around.isImage then around else { around with active := false },
          .finished (.link target.destination target.title content) :: bracket.before, []⟩

/-- Makes a reference to a note of what follows the innermost bracket, and plain text of the
brackets around it. -/
def closeNote (progress : InlineProgress) (label : List Char) : InlineProgress :=
  match progress.flush.brackets with
  | [] => progress
  | bracket :: outer =>
      let before :=
        if bracket.isImage then .finished (.text ['!']) :: bracket.before else bracket.before
      (InlineProgress.mk outer before []).dropAllBrackets.addInline
        (.noteReference (String.ofList label))

end InlineProgress

/-- What a closing bracket does. -/
inductive Closing where
  | nothing
  | target (target : Target) (after : List Char)
  | note (label : List Char)

/-- The label of a note after an opening bracket: a caret and a text on one line. -/
def noteLabel? (text : List Char) : Option (List Char × List Char) :=
  match text with
  | '^' :: ']' :: _ => none
  | '^' :: rest =>
      match label? rest with
      | some (label, after) =>
          if (rest.take (rest.length - after.length)).any (fun c => c = '\n' || c = '\r') then none
          else some (label, after)
      | none => none
  | _ => none

/-- What a closing bracket does: `source` is the text after its opening bracket, `after` the
text after itself. -/
def closing (context : InlineContext) (source after : List Char) : Closing :=
  let defined (label after : List Char) : Closing :=
    match context.targets.lookup (labelKey label) with
    | some target => .target target after
    | none => .nothing
  let own (next : List Char) : Closing :=
    match if context.footnotes then noteLabel? source else none with
    | some (label, rest) =>
        if rest.length = after.length && context.notes.contains (labelKey label) then .note label
        else .nothing
    | none =>
        match label? source with
        | some (label, rest) => if rest.length = after.length then defined label next else .nothing
        | none => .nothing
  let inlineTarget :=
    match after with
    | '(' :: rest => inlineTarget? rest
    | _ => none
  match inlineTarget with
  | some (target, rest) => .target target rest
  | none =>
      match after with
      | '[' :: ']' :: next => own next
      | '[' :: rest =>
          if context.footnotes && (noteLabel? rest).isSome then own after
          else
            match label? rest with
            | some (label, next) => defined label next
            | none => own after
      | _ => own after

/-- Reads a text; the fuel bounds the steps, and `previous` is the character before. -/
def readInlines (context : InlineContext) (fuel : Nat) (progress : InlineProgress)
    (previous : Option Char) (text : List Char) : InlineProgress :=
  match fuel, text with
  | 0, _ => progress
  | _, [] => progress
  | fuel + 1, c :: rest =>
      let plain := fun _ : Unit =>
        readInlines context fuel (progress.addChar c) (some c) rest
      match c with
      | '\n' =>
          let (trimmed, count) := progress.trimEnd
          let lineBreak : Inline := if 2 ≤ count then .hardBreak else .softBreak
          readInlines context fuel (trimmed.addInline lineBreak) (some c)
            (rest.dropWhile fun c => c = ' ' || c = '\t')
      | '\\' =>
          match rest with
          | '\n' :: next =>
              readInlines context fuel (progress.addInline .hardBreak) (some '\n')
                (next.dropWhile fun c => c = ' ' || c = '\t')
          | escaped :: next =>
              if isMarkPunctuation escaped then
                readInlines context fuel (progress.addChar escaped) (some escaped) next
              else plain ()
          | [] => plain ()
      | '&' =>
          match reference? rest with
          | some (chars, next) =>
              readInlines context fuel (progress.addInline (.text chars)) (some ';') next
          | none => plain ()
      | '\x60' =>
          let count := runLength c text
          let body := text.drop count
          match codeEnd? count 0 body with
          | some (content, next) =>
              let content := content.take (content.length - count)
              readInlines context fuel
                (progress.addInline (.code (codeContent context.inTable content))) (some c) next
          | none =>
              readInlines context fuel (progress.addChars (text.take count)) (some c) body
      | '<' =>
          match autolink? rest with
          | some (address, next) =>
              readInlines context fuel
                (progress.addInline (.link (String.ofList address) "" [.text address])) (some '>')
                next
          | none =>
              match mailLink? rest with
              | some (address, next) =>
                  readInlines context fuel
                    (progress.addInline
                      (.link ("mailto:" ++ String.ofList address) "" [.text address]))
                    (some '>') next
              | none =>
                  match Tag.afterInline? rest with
                  | some next =>
                      let html := c :: rest.take (rest.length - next.length)
                      readInlines context fuel (progress.addInline (.html html)) (some '>') next
                  | none => plain ()
      | '!' =>
          match rest with
          | '[' :: next =>
              readInlines context fuel (progress.openBracket true next) (some '[') next
          | _ => plain ()
      | '[' => readInlines context fuel (progress.openBracket false rest) (some c) rest
      | ']' =>
          match progress.brackets with
          | [] => plain ()
          | bracket :: _ =>
              match if bracket.active then closing context bracket.source rest else .nothing with
              | .nothing =>
                  readInlines context fuel (progress.dropBracket.addChar c) (some c) rest
              | .target target next =>
                  readInlines context fuel (progress.closeBracket target)
                    (some (if next.length = rest.length then ']' else ')')) next
              | .note label =>
                  readInlines context fuel (progress.closeNote label) (some c) rest
      | c =>
          if c = '*' || c = '_' || (c = '~' && context.strikethrough) then
            let count := runLength c text
            let next := text.drop count
            let progress :=
              match Run.of? c count previous next.head? with
              | some run => progress.add (.run run)
              | none => progress.addChars (text.take count)
            readInlines context fuel progress (some c) next
          else plain ()

/-- The inline content of a text. -/
def Inline.parse (context : InlineContext) (text : List Char) : List Inline :=
  let text := text.dropWhile isSpace
  let progress := (readInlines context text.length {} none text).trimEnd.1
  Emphasis.resolve progress.flush.dropAllBrackets.flush.pieces.reverse

end ContentGraph.Markdown
