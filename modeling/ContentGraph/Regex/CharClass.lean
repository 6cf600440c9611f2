import ContentGraph.Text.Alphanumeric
import ContentGraph.Text.Blank
import ContentGraph.Text.LetterCase
import ContentGraph.Text.Script

/-!
Contract: sets of characters as patterns write them.

Owns:
- `CharClass`, closed under union, intersection, difference, complement and case folding, with
  its membership test;
- digits, white space and word characters, in all scripts or in ASCII alone;
- the named classes of bracket expressions and of `\p`;
- the room that an automaton for a set takes.
-/

namespace ContentGraph.Regex

open ContentGraph.Text

/-- A set of characters. -/
inductive CharClass where
  /-- No character. -/
  | none
  /-- The code points from `first` to `last`. -/
  | range (first last : Nat)
  /-- A table of code points. -/
  | table (runs : CharRuns)
  | union (left right : CharClass)
  | inter (left right : CharClass)
  | without (left right : CharClass)
  | exactlyOne (left right : CharClass)
  | complement (body : CharClass)
  /-- The characters that agree with a member up to case. -/
  | folded (body : CharClass)
deriving DecidableEq

namespace CharClass

/-- Whether a code point belongs to the set. -/
def holds : CharClass -> Nat -> Bool
  | .none, _ => false
  | .range first last, point => first ≤ point && point ≤ last
  | .table runs, point => runs.holds point
  | .union left right, point => left.holds point || right.holds point
  | .inter left right, point => left.holds point && right.holds point
  | .without left right, point => left.holds point && !right.holds point
  | .exactlyOne left right, point => left.holds point != right.holds point
  | .complement body, point => !body.holds point
  | .folded body, point => (caseVariants point).any body.holds

/-- The set of one character. -/
def single (c : Char) : CharClass :=
  .range c.toNat c.toNat

/-- Every character. -/
def any : CharClass :=
  .range 0 0x10FFFF

/-- The union of several sets. -/
def unions : List CharClass -> CharClass
  | [] => .none
  | [only] => only
  | first :: rest => .union first (unions rest)

/-- The union of ranges given by their ends. -/
def ofRanges (ranges : List (Char × Char)) : CharClass :=
  unions (ranges.map fun (first, last) => .range first.toNat last.toNat)

/-- Decimal digits. -/
def digit (unicode : Bool) : CharClass :=
  if unicode then .table decimalNumberRuns else ofRanges [('0', '9')]

/-- White space. -/
def space (unicode : Bool) : CharClass :=
  if unicode then
    .table [(9, 13, 1), (32, 32, 1), (0x85, 0x85, 1), (0xA0, 0xA0, 1), (0x1680, 0x1680, 1),
      (0x2000, 0x200A, 1), (0x2028, 0x2029, 1), (0x202F, 0x202F, 1), (0x205F, 0x205F, 1),
      (0x3000, 0x3000, 1)]
  else .table [(9, 13, 1), (32, 32, 1)]

/-- Word characters: letters, marks, decimal digits, connectors and joiners. -/
def word (unicode : Bool) : CharClass :=
  if unicode then
    unions [ofRanges [('a', 'z'), ('A', 'Z'), ('0', '9'), ('_', '_')], .table alphabeticRuns,
      .table decimalNumberRuns, .table nonspacingMarkRuns, .table spacingMarkRuns,
      .table enclosingMarkRuns, .table connectorPunctuationRuns, .range 0x200C 0x200D]
  else ofRanges [('a', 'z'), ('A', 'Z'), ('0', '9'), ('_', '_')]

/-- The class that a bracket expression names between colons. -/
def ofBracketName? : String -> Option CharClass
  | "alnum" => some (ofRanges [('0', '9'), ('A', 'Z'), ('a', 'z')])
  | "alpha" => some (ofRanges [('A', 'Z'), ('a', 'z')])
  | "ascii" => some (.range 0 127)
  | "blank" => some (ofRanges [('\t', '\t'), (' ', ' ')])
  | "cntrl" => some (.union (.range 0 31) (.range 127 127))
  | "digit" => some (ofRanges [('0', '9')])
  | "graph" => some (ofRanges [('!', '~')])
  | "lower" => some (ofRanges [('a', 'z')])
  | "print" => some (ofRanges [(' ', '~')])
  | "punct" => some (ofRanges [('!', '/'), (':', '@'), ('[', '\x60'), ('\x7b', '~')])
  | "space" => some (.table [(9, 13, 1), (32, 32, 1)])
  | "upper" => some (ofRanges [('A', 'Z')])
  | "word" => some (word false)
  | "xdigit" => some (ofRanges [('0', '9'), ('A', 'F'), ('a', 'f')])
  | _ => Option.none

/-- A property name without case, blanks, hyphens, underscores and a leading `is`. -/
def plainName (name : String) : String :=
  let letters := (name.toList.filter fun c => !(c = ' ' || c = '_' || c = '-')).map Char.toLower
  match letters with
  | 'i' :: 's' :: rest => if rest = ['c'] then "isc" else String.ofList rest
  | _ => String.ofList letters

/-- The categories that a short name of one letter stands for. -/
def majorCategory? (name : String) : Option Char :=
  match name with
  | "l" | "letter" => some 'L'
  | "m" | "mark" | "combiningmark" => some 'M'
  | "n" | "number" => some 'N'
  | "p" | "punctuation" | "punct" => some 'P'
  | "s" | "symbol" => some 'S'
  | "z" | "separator" => some 'Z'
  | _ => Option.none

/-- The union of all assigned categories. -/
def assigned : CharClass :=
  unions (generalCategories.map fun category => .table category.2.2)

/-- The set that a general category names. -/
def ofCategory? (name : String) : Option CharClass :=
  let name :=
    match name with
    | "digit" => "nd"
    | "cntrl" => "cc"
    | name => name
  match majorCategory? name with
  | some initial =>
      some (unions (generalCategories.filterMap fun category =>
        if category.1.toList.head? = some initial then some (.table category.2.2)
        else Option.none))
  | Option.none =>
      match name with
      | "any" => some any
      | "assigned" => some assigned
      | "ascii" => some (.range 0 127)
      | "cn" | "unassigned" => some (.complement assigned)
      | "c" | "other" =>
          some (unions [.complement assigned, .table controlRuns, .table formatRuns,
            .table privateUseRuns])
      | "lc" | "casedletter" =>
          some (unions [.table uppercaseLetterRuns, .table lowercaseLetterRuns,
            .table titlecaseLetterRuns])
      | _ =>
          (generalCategories.find? fun category =>
            plainName category.1 = name || plainName category.2.1 = name).map
              fun category => .table category.2.2

/-- The set that a property without a value names. -/
def ofProperty? (name : String) : Option CharClass :=
  match name with
  | "alphabetic" | "alpha" => some (.table alphabeticRuns)
  | "uppercase" | "upper" => some (.table uppercaseRuns)
  | "lowercase" | "lower" => some (.table lowercaseRuns)
  | "cased" => some (.table casedRuns)
  | "caseignorable" | "ci" => some (.table caseIgnorableRuns)
  | "whitespace" | "wspace" | "space" => some (space true)
  | name => ofCategory? name <|> (scriptRuns? name).map .table

/-- The set that a property with a value names. -/
def ofValuedProperty? (name value : String) : Option CharClass :=
  match name with
  | "gc" | "generalcategory" => ofCategory? value
  | "sc" | "script" => (scriptRuns? value).map .table
  | _ => Option.none

/-- Whether a set has members beyond ASCII. -/
def exceedsAscii : CharClass -> Bool
  | .none => false
  | .range _ last => 128 ≤ last
  | .table runs => runs.any fun run => 128 ≤ run.2.1
  | .union left right | .exactlyOne left right => left.exceedsAscii || right.exceedsAscii
  | .inter left right => left.exceedsAscii && right.exceedsAscii
  | .without left _ => left.exceedsAscii
  | .complement _ => true
  | .folded body => body.exceedsAscii

/-- How many ranges it takes to write a set down. -/
def rangeCount : CharClass -> Nat
  | .none => 0
  | .range _ _ => 1
  | .table runs =>
      runs.foldl (fun total (first, last, stride) =>
        total + (if stride = 1 then 1 else (last - first) / stride + 1)) 0
  | .union left right | .inter left right | .without left right | .exactlyOne left right =>
      left.rangeCount + right.rangeCount
  | .complement body | .folded body => body.rangeCount

/-- The bytes that an automaton over UTF-8 takes for a set: a state for ASCII alone, and some
states for each range otherwise. -/
def weight (set : CharClass) : Nat :=
  if set.exceedsAscii then 400 + 60 * set.rangeCount else 32 + 8 * set.rangeCount

end CharClass

end ContentGraph.Regex
