import ContentGraph.Markdown.Line
import ContentGraph.Text.Blank
import ContentGraph.Text.GeneralCategory

/-!
Contract: emphasis in a row of inline content.

Owns:
- `Inline`, the inline content of a paragraph;
- delimiter runs, and which of them can open and close emphasis;
- the pairing of runs: a closing run takes the nearest opening run of its mark, runs that can do
  both are held to the rule of three, and tildes pair only with runs of their length.
-/

namespace ContentGraph.Markdown

/-- Inline content. -/
inductive Inline where
  | text (content : List Char)
  | code (content : List Char)
  | html (content : List Char)
  | softBreak
  | hardBreak
  | emphasis (content : List Inline)
  | strong (content : List Inline)
  | strikethrough (content : List Inline)
  | link (destination title : String) (content : List Inline)
  | image (destination title : String) (content : List Inline)
  | noteReference (label : String)
deriving Inhabited

/-- A run of one delimiter. -/
structure Run where
  mark : Char
  length : Nat
  opens : Bool
  closes : Bool
deriving DecidableEq

namespace Run

/-- Whether a character counts as punctuation beside a delimiter. -/
def isPunctuation (c : Char) : Bool :=
  if c.toNat < 128 then isMarkPunctuation c else Text.isPunctuation c

/-- Whether a run between two characters can open emphasis.  Underscores and single tildes do
not open it inside a word. -/
def canOpen (mark : Char) (length : Nat) (previous next : Option Char) : Bool :=
  match next with
  | none => false
  | some next =>
      if Text.isBlank next then false
      else
        match previous with
        | none => true
        | some previous =>
            (mark = '*' && !isPunctuation next) || (mark = '~' && 1 < length)
              || (mark = '~' && previous = '~' && !isPunctuation next)
              || Text.isBlank previous || isPunctuation previous

/-- Whether a run between two characters can close emphasis. -/
def canClose (mark : Char) (length : Nat) (previous next : Option Char) : Bool :=
  match previous with
  | none => false
  | some previous =>
      if Text.isBlank previous then false
      else
        match next with
        | none => true
        | some next =>
            ((mark = '*' || (mark = '~' && 1 < length)) && !isPunctuation previous)
              || (mark = '~' && previous = '~') || Text.isBlank next || isPunctuation next

/-- The run of a mark between two characters, if it can open or close; more than two tildes are
none. -/
def of? (mark : Char) (length : Nat) (previous next : Option Char) : Option Run :=
  let opens := canOpen mark length previous next
  let closes := canClose mark length previous next
  if (opens || closes) && (mark ≠ '~' || length ≤ 2) then some ⟨mark, length, opens, closes⟩
  else none

end Run

/-- A piece of a row of inline content: finished, or a delimiter run. -/
inductive Piece where
  | finished (inline : Inline)
  | run (run : Run)

namespace Emphasis

/-- An opening run that waits for its partner. -/
structure Opener where
  mark : Char
  /-- How many delimiters are left of the run. -/
  left : Nat
  /-- How many delimiters the run had. -/
  length : Nat
  both : Bool
  /-- The content before the run, reversed, down to the opener below. -/
  before : List Inline

/-- Openers from the nearest outwards, and below which height no partner of a kind of run is to
be found. -/
structure Openers where
  stack : List Opener
  floors : List Nat

/-- The kind of a run whose failed searches are remembered together. -/
def ownFloor (mark : Char) (length : Nat) : Nat :=
  if mark = '_' then 6 + length % 3 else if mark = '*' then 2 + length % 3 else 5

/-- The height below which no partner of a run is to be found. -/
def floorOf (floors : List Nat) (mark : Char) (length : Nat) (both : Bool) : Nat :=
  let own := (floors[ownFloor mark length]?).getD 0
  let shared := (floors[if mark = '_' then 0 else 1]?).getD 0
  if both || (mark ≠ '_' && mark ≠ '*') then own else min own shared

/-- Remembers that a run found no partner among the openers of a height. -/
def raiseFloor (floors : List Nat) (mark : Char) (length : Nat) (both : Bool) (height : Nat) :
    List Nat :=
  if mark = '_' then
    if both then floors.set (ownFloor mark length) height else floors.set 0 height
  else if mark = '*' then
    let raised := floors.set (ownFloor mark length) height
    if both then raised else raised.set 1 height
  else floors.set (ownFloor mark length) height

/-- The text of an opener that found no partner. -/
def Opener.text (opener : Opener) : Inline :=
  .text (List.replicate opener.left opener.mark)

/-- Whether a closing run and an opener pair. -/
def pairs (mark : Char) (length : Nat) (both : Bool) (opener : Opener) : Bool :=
  opener.mark = mark && (mark ≠ '~' || length = opener.length)
    && ((!both && !opener.both) || (length + opener.length) % 3 ≠ 0 || length % 3 = 0)

/-- The nearest of the first openers that pairs, the content after it once the openers above it
are text, and the openers below it. -/
def findPartner? (test : Opener -> Bool) (content : List Inline) :
    Nat -> List Opener -> Option (Opener × List Inline × List Opener)
  | 0, _ => none
  | _, [] => none
  | within + 1, opener :: below =>
      if test opener then some (opener, content, below)
      else findPartner? test (content ++ opener.text :: opener.before) within below

/-- The emphasis of a number of delimiters of a mark around content: pairs of delimiters are
inside a single one. -/
def wrap (mark : Char) (count : Nat) (content : List Inline) : List Inline :=
  match count with
  | 0 => content
  | 1 => if mark = '~' then [.strikethrough content] else [.emphasis content]
  | count + 2 =>
      wrap mark count (if mark = '~' then [.strikethrough content] else [.strong content])

/-- Pairs a closing run of which some delimiters are left with openers.  The content is that
after the nearest opener, reversed.  The result has the delimiters still left. -/
def close (run : Run) (fuel left : Nat) (openers : Openers) (content : List Inline) :
    Nat × Openers × List Inline :=
  let both := run.opens && run.closes
  match fuel with
  | 0 => (left, openers, content)
  | fuel + 1 =>
      if left = 0 then (left, openers, content)
      else
        let height := openers.stack.length
        let floor := min height (floorOf openers.floors run.mark run.length both)
        match findPartner? (pairs run.mark run.length both) content (height - floor)
            openers.stack with
        | none =>
            (left,
              { openers with floors := raiseFloor openers.floors run.mark run.length both height },
              content)
        | some (opener, inner, below) =>
            let taken := min left opener.left
            let wrapped := wrap run.mark taken inner.reverse
            let floors := openers.floors.map (min · below.length)
            if taken < opener.left then
              close run fuel (left - taken)
                ⟨{ opener with left := opener.left - taken } :: below, floors⟩ wrapped.reverse
            else
              close run fuel (left - taken) ⟨below, floors⟩ (wrapped.reverse ++ opener.before)

/-- Reads the pieces of a row; the content is that after the nearest opener, reversed. -/
def resolveFrom (openers : Openers) (content : List Inline) : List Piece -> List Inline
  | [] =>
      openers.stack.foldl (fun content opener => content ++ opener.text :: opener.before) content
  | .finished inline :: rest => resolveFrom openers (inline :: content) rest
  | .run run :: rest =>
      let (left, openers, content) :=
        if run.closes then close run run.length run.length openers content
        else (run.length, openers, content)
      if left = 0 then resolveFrom openers content rest
      else if run.opens then
        let opener : Opener := ⟨run.mark, left, run.length, run.opens && run.closes, content⟩
        resolveFrom { openers with stack := opener :: openers.stack } [] rest
      else resolveFrom openers (.text (List.replicate left run.mark) :: content) rest

/-- The inline content of a row of pieces. -/
def resolve (pieces : List Piece) : List Inline :=
  (resolveFrom ⟨[], List.replicate 9 0⟩ [] pieces).reverse

end Emphasis

end ContentGraph.Markdown
