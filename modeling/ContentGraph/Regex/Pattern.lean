import ContentGraph.Regex.CharClass

/-!
Contract: regular patterns and what texts they match.

Owns:
- `Pattern`, the abstract form of a pattern;
- `Pattern.Spans`, the relation "the pattern matches the text from one position to another";
- `Pattern.reach`, which computes the positions where a match can end;
- `Pattern.matchesIn`, whether some part of the text matches;
- `Pattern.weight`, the room that an automaton for the pattern takes.

Does not own: the written form of patterns (`Regex.Reader`).
-/

namespace ContentGraph.Regex

/-- A condition on a position between two characters. -/
inductive Assertion where
  | textStart
  | textEnd
  | lineStart
  | lineEnd
  | windowsLineStart
  | windowsLineEnd
  | wordBoundary (unicode : Bool)
  | noWordBoundary (unicode : Bool)
  | wordStart (unicode : Bool)
  | wordEnd (unicode : Bool)
  | wordStartHalf (unicode : Bool)
  | wordEndHalf (unicode : Bool)
deriving DecidableEq

/-- A regular pattern. -/
inductive Pattern where
  /-- The empty text. -/
  | empty
  /-- One character of a set. -/
  | char (set : CharClass)
  /-- The empty text, where a condition holds. -/
  | assertion (condition : Assertion)
  /-- One pattern after another. -/
  | seq (first second : Pattern)
  /-- One pattern or another. -/
  | alt (left right : Pattern)
  /-- A pattern `least` times, and then at most `more` times again; any number of times more
  when that is absent. -/
  | repeated (body : Pattern) (least : Nat) (more : Option Nat)
deriving DecidableEq

namespace Assertion

/-- Whether the character at a position, if there is one, satisfies a test. -/
def charAt (text : Array Char) (position : Nat) (test : Char -> Bool) : Bool :=
  (text[position]?.map test).getD false

/-- Whether the character before a position, if there is one, satisfies a test. -/
def charBefore (text : Array Char) (position : Nat) (test : Char -> Bool) : Bool :=
  match position with
  | 0 => false
  | before + 1 => charAt text before test

/-- Whether the condition holds at a position of a text. -/
def holds (text : Array Char) (position : Nat) : Assertion -> Bool
  | .textStart => position == 0
  | .textEnd => position == text.size
  | .lineStart => position == 0 || charBefore text position (· = '\n')
  | .lineEnd => position == text.size || charAt text position (· = '\n')
  | .windowsLineStart =>
      position == 0 || charBefore text position (· = '\n')
        || (charBefore text position (· = '\r') && !charAt text position (· = '\n'))
  | .windowsLineEnd =>
      position == text.size || charAt text position (· = '\r')
        || (charAt text position (· = '\n') && !charBefore text position (· = '\r'))
  | .wordBoundary unicode => before unicode != after unicode
  | .noWordBoundary unicode => before unicode == after unicode
  | .wordStart unicode => !before unicode && after unicode
  | .wordEnd unicode => before unicode && !after unicode
  | .wordStartHalf unicode => !before unicode
  | .wordEndHalf unicode => !after unicode
where
  before (unicode : Bool) : Bool :=
    charBefore text position fun c => (CharClass.word unicode).holds c.toNat
  after (unicode : Bool) : Bool :=
    charAt text position fun c => (CharClass.word unicode).holds c.toNat

end Assertion

/-- Increasing lists of positions, as sets. -/
abbrev Positions := List Nat

namespace Positions

/-- The union of two increasing lists. -/
def union : Positions -> Positions -> Positions
  | [], right => right
  | left, [] => left
  | a :: left, b :: right =>
      if a < b then a :: union left (b :: right)
      else if b < a then b :: union (a :: left) right
      else a :: union left right

/-- The members of the first increasing list that are not in the second. -/
def without : Positions -> Positions -> Positions
  | [], _ => []
  | left, [] => left
  | a :: left, b :: right =>
      if a < b then a :: without left (b :: right)
      else if b < a then without (a :: left) right
      else without left right

/-- Everything that is reached from `frontier` by steps, at most `rounds` of them, added to
what was `seen` before. -/
def closure (step : Positions -> Positions) : Nat -> Positions -> Positions -> Positions
  | 0, seen, _ => seen
  | rounds + 1, seen, frontier =>
      let fresh := without (step frontier) seen
      if fresh.isEmpty then seen else closure step rounds (union seen fresh) fresh

/-- The result of a number of steps. -/
def iterate (step : Positions -> Positions) : Nat -> Positions -> Positions
  | 0, current => current
  | rounds + 1, current =>
      if current.isEmpty then [] else iterate step rounds (step current)

end Positions

namespace Pattern

/-- The positions where a match that starts at one of the given positions can end. -/
def reach (text : Array Char) : Pattern -> Positions -> Positions
  | .empty, starts => starts
  | .char set, starts =>
      starts.filterMap fun position =>
        match text[position]? with
        | some c => if set.holds c.toNat then some (position + 1) else none
        | none => none
  | .assertion condition, starts => starts.filter (condition.holds text ·)
  | .seq first second, starts => reach text second (reach text first starts)
  | .alt left right, starts => Positions.union (reach text left starts) (reach text right starts)
  | .repeated body least more, starts =>
      let after := Positions.iterate (reach text body) least starts
      Positions.closure (reach text body) (more.getD (text.size + 1)) after after

/-- Whether some part of the text matches. -/
def matchesIn (pattern : Pattern) (text : String) : Bool :=
  let chars := text.toList.toArray
  !(pattern.reach chars (List.range (chars.size + 1))).isEmpty

/-- The bytes that an automaton for the pattern takes, a repeated part counting as often as it
is written out. -/
def weight : Pattern -> Nat
  | .empty => 0
  | .char set => set.weight
  | .assertion _ => 32
  | .seq first second => first.weight + second.weight
  | .alt left right => left.weight + right.weight + 32
  | .repeated body least none => max least 1 * body.weight + 32
  | .repeated body least (some more) => (least + more) * body.weight + more * 32

/-- One pattern after another, for any number of patterns. -/
def sequence : List Pattern -> Pattern
  | [] => .empty
  | [only] => only
  | first :: rest => .seq first (sequence rest)

/-- One of several patterns. -/
def alternatives : List Pattern -> Pattern
  | [] => .empty
  | [only] => only
  | first :: rest => .alt first (alternatives rest)

mutual

/-- The pattern matches the text from the first position to the second. -/
inductive Spans (text : Array Char) : Pattern -> Nat -> Nat -> Prop where
  | empty (position : Nat) : Spans text .empty position position
  | char {set : CharClass} {position : Nat} {c : Char}
      (found : text[position]? = some c) (member : set.holds c.toNat = true) :
      Spans text (.char set) position (position + 1)
  | assertion {condition : Assertion} {position : Nat}
      (met : condition.holds text position = true) :
      Spans text (.assertion condition) position position
  | seq {first second : Pattern} {start middle stop : Nat}
      (before : Spans text first start middle) (after : Spans text second middle stop) :
      Spans text (.seq first second) start stop
  | altLeft {left right : Pattern} {start stop : Nat} (taken : Spans text left start stop) :
      Spans text (.alt left right) start stop
  | altRight {left right : Pattern} {start stop : Nat} (taken : Spans text right start stop) :
      Spans text (.alt left right) start stop
  | repeated {body : Pattern} {least : Nat} {more : Option Nat} {count start stop : Nat}
      (enough : least ≤ count) (few : ∀ most, more = some most -> count ≤ least + most)
      (times : SpansTimes text body count start stop) :
      Spans text (.repeated body least more) start stop

/-- The pattern matches the text a number of times in a row. -/
inductive SpansTimes (text : Array Char) : Pattern -> Nat -> Nat -> Nat -> Prop where
  | zero {body : Pattern} (position : Nat) : SpansTimes text body 0 position position
  | next {body : Pattern} {count start middle stop : Nat}
      (once : Spans text body start middle) (rest : SpansTimes text body count middle stop) :
      SpansTimes text body (count + 1) start stop

end

end Pattern

end ContentGraph.Regex
