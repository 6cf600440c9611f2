/-!
Contract: white space of all scripts, and trimming.

Owns: `isBlank`, the characters with the property White_Space, trimming by it, and the words
between it.
-/

namespace ContentGraph.Text

/-- Whether a character is white space. -/
def isBlank (c : Char) : Bool :=
  let point := c.toNat
  (9 ≤ point && point ≤ 13) || point == 32 || point == 0x85 || point == 0xA0
    || point == 0x1680 || (0x2000 ≤ point && point ≤ 0x200A) || point == 0x2028
    || point == 0x2029 || point == 0x202F || point == 0x205F || point == 0x3000

/-- Drops the characters at the end that satisfy a test. -/
def dropEndWhile (test : Char -> Bool) (text : List Char) : List Char :=
  (text.reverse.dropWhile test).reverse

/-- A text without the white space around it. -/
def trimChars (text : List Char) : List Char :=
  dropEndWhile isBlank (text.dropWhile isBlank)

/-- A text without the white space around it. -/
def trim (text : String) : String :=
  String.ofList (trimChars text.toList)

/-- The maximal runs of characters that fail a test, given the reversed run read so far. -/
def splitRuns (separates : Char -> Bool) (run : List Char) : List Char -> List (List Char)
  | [] => if run.isEmpty then [] else [run.reverse]
  | c :: rest =>
      if separates c then
        if run.isEmpty then splitRuns separates [] rest
        else run.reverse :: splitRuns separates [] rest
      else splitRuns separates (c :: run) rest

/-- The words of a text: the runs between white space. -/
def words (text : List Char) : List (List Char) :=
  splitRuns isBlank [] text

end ContentGraph.Text
