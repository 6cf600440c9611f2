/-!
Contract: cutting texts at marks.

Owns:
- the parts between occurrences of one character, empty parts included;
- the first and the last place where a word stands.
-/

namespace ContentGraph.Text

/-- The parts between occurrences of a character: always at least one, possibly empty. -/
def splitAt (mark : Char) : List Char -> List (List Char)
  | [] => [[]]
  | c :: rest =>
      if c = mark then [] :: splitAt mark rest
      else
        match splitAt mark rest with
        | part :: parts => (c :: part) :: parts
        | [] => [[c]]

/-- The text before the first place where a word stands, and the text after the word. -/
def splitAtWord? (word : List Char) : List Char -> Option (List Char × List Char)
  | [] => if word.isEmpty then some ([], []) else none
  | c :: rest =>
      if word.isPrefixOf (c :: rest) then some ([], (c :: rest).drop word.length)
      else (splitAtWord? word rest).map fun (before, after) => (c :: before, after)

/-- The text before the last occurrence of a character, and the text after it. -/
def splitAtLast? (mark : Char) (text : List Char) : Option (List Char × List Char) :=
  match text.reverse.dropWhile (· ≠ mark) with
  | [] => none
  | _ :: before => some (before.reverse, (text.reverse.takeWhile (· ≠ mark)).reverse)

/-- The parts of a text between occurrences of a character. -/
def parts (mark : Char) (text : String) : List String :=
  (splitAt mark text.toList).map String.ofList

/-- The lines of a text without their ends; a carriage return before a line feed belongs to
the end, and a last empty line is none. -/
def lines (text : List Char) : List (List Char) :=
  let cut := splitAt '\n' text
  let cut := if cut.getLast? = some [] then cut.dropLast else cut
  cut.map fun line => if line.getLast? = some '\r' then line.dropLast else line

end ContentGraph.Text
