import ContentGraph.Regex.Pattern
import ContentGraph.Text.Split

/-!
Contract: the written form of regular patterns.

Owns:
- literals, escapes, character classes with nesting and set operations, groups, alternatives,
  repetitions and inline flags;
- the flags: `i` ignores case, `m` lets `^` and `$` match at lines, `s` lets `.` match a line
  break, `R` counts carriage returns as line breaks, `x` skips white space and comments, `u`
  selects classes of all scripts, `U` has no effect on whether a text matches.

Look-around and back-references are refused, and so are sets of bytes that are no characters and
patterns whose automata would take too much room.  Reading answers `none` for a text that is no
pattern.
-/

namespace ContentGraph.Regex

open ContentGraph.Text

/-- The flags in force at a place of a pattern. -/
structure Flags where
  caseless : Bool := false
  multiline : Bool := false
  dotAll : Bool := false
  windowsLines : Bool := false
  spaced : Bool := false
  unicode : Bool := true
deriving DecidableEq

namespace Reader

/-- Drops a comment up to the end of its line. -/
def dropLine : List Char -> List Char
  | [] => []
  | '\n' :: rest => rest
  | _ :: rest => dropLine rest

/-- Skips white space and comments, when the flags say so, by at most `fuel` steps. -/
def skipSpaced (flags : Flags) : Nat -> List Char -> List Char
  | 0, input => input
  | fuel + 1, input =>
      if !flags.spaced then input
      else
        match input with
        | '#' :: rest => skipSpaced flags fuel (dropLine rest)
        | c :: rest => if isBlank c then skipSpaced flags fuel rest else input
        | [] => []

/-- Skips white space and comments, when the flags say so. -/
def skip (flags : Flags) (input : List Char) : List Char :=
  skipSpaced flags input.length input

/-- A piece of a pattern that a backslash introduces. -/
inductive Escaped where
  | literal (c : Char)
  | set (members : CharClass)
  | assertion (condition : Assertion)

/-- The value of a hexadecimal digit. -/
def hexValue? (c : Char) : Option Nat :=
  if c.isDigit then some (c.toNat - 48)
  else if 'a' ≤ c ∧ c ≤ 'f' then some (c.toNat - 87)
  else if 'A' ≤ c ∧ c ≤ 'F' then some (c.toNat - 55)
  else none

/-- The character with the code point that hexadecimal digits give. -/
def charOfHex? (digits : List Char) : Option Char := do
  let values ← digits.mapM hexValue?
  if values.isEmpty then none
  else
    let point := values.foldl (fun total value => total * 16 + value) 0
    if point < 0xD800 ∨ (0xE000 ≤ point ∧ point ≤ 0x10FFFF) then some (Char.ofNat point)
    else none

/-- The text before a closing brace, and the rest after it. -/
def untilBrace? (input : List Char) : Option (List Char × List Char) :=
  match input.dropWhile (· ≠ '\x7d') with
  | _ :: rest => some (input.takeWhile (· ≠ '\x7d'), rest)
  | [] => none

/-- A character given in hexadecimal, with a fixed count of digits or in braces. -/
def hexEscape? (count : Nat) (input : List Char) : Option (Char × List Char) :=
  match input with
  | '\x7b' :: rest => do
      let (digits, rest) ← untilBrace? rest
      let c ← charOfHex? digits
      some (c, rest)
  | _ =>
      if (input.take count).length < count then none
      else (charOfHex? (input.take count)).map (·, input.drop count)

/-- The set of a property, as it stands in braces. -/
def propertySet? (text : List Char) : Option CharClass :=
  let split := fun (mark : List Char) => splitAtWord? mark text
  let valued (name value : List Char) : Option CharClass :=
    CharClass.ofValuedProperty? (CharClass.plainName (String.ofList name))
      (CharClass.plainName (String.ofList value))
  match split ['!', '='] with
  | some (name, value) => (valued name value).map .complement
  | none =>
      match split [':'] with
      | some (name, value) => valued name value
      | none =>
          match split ['='] with
          | some (name, value) => valued name value
          | none => CharClass.ofProperty? (CharClass.plainName (String.ofList text))

/-- A set given by a property: one letter, or a name in braces. -/
def propertyEscape? (input : List Char) : Option (CharClass × List Char) :=
  match input with
  | '\x7b' :: rest => do
      let (name, rest) ← untilBrace? rest
      let set ← propertySet? name
      some (set, rest)
  | c :: rest =>
      if c = '\\' then none
      else (CharClass.ofCategory? (String.ofList [c.toLower])).map (·, rest)
  | [] => none

/-- Whether a character may follow a backslash to stand for itself. -/
def isEscapable (c : Char) : Bool :=
  decide (c.toNat < 128) && !c.isAlphanum && c != '<' && c != '>'

/-- A word boundary, which may name its side in braces. -/
def boundary (flags : Flags) (input : List Char) : Option (Escaped × List Char) :=
  let plain := (Escaped.assertion (.wordBoundary flags.unicode), input)
  match input with
  | '\x7b' :: rest =>
      match untilBrace? rest with
      | some (name, rest) =>
          match String.ofList name with
          | "start" => some (.assertion (.wordStart flags.unicode), rest)
          | "end" => some (.assertion (.wordEnd flags.unicode), rest)
          | "start-half" => some (.assertion (.wordStartHalf flags.unicode), rest)
          | "end-half" => some (.assertion (.wordEndHalf flags.unicode), rest)
          | text =>
              if text.toList.all fun c => c.isAlpha || c = '-' then none else some plain
      | none => some plain
  | _ => some plain

/-- Complements a set when asked to. -/
def negatedIf (negated : Bool) (set : CharClass) : CharClass :=
  if negated then .complement set else set

/-- What follows a backslash. -/
def escape? (flags : Flags) (input : List Char) : Option (Escaped × List Char) :=
  match input with
  | [] => none
  | c :: rest =>
      let named (negated : Bool) (set : CharClass) : Option (Escaped × List Char) :=
        if negated && !flags.unicode then none else some (.set (negatedIf negated set), rest)
      match c with
      | 'd' => named false (.digit flags.unicode)
      | 'D' => named true (.digit flags.unicode)
      | 's' => named false (.space flags.unicode)
      | 'S' => named true (.space flags.unicode)
      | 'w' => named false (.word flags.unicode)
      | 'W' => named true (.word flags.unicode)
      | 'p' =>
          if !flags.unicode then none
          else (propertyEscape? rest).map fun (set, rest) => (.set set, rest)
      | 'P' =>
          if !flags.unicode then none
          else (propertyEscape? rest).map fun (set, rest) => (.set (.complement set), rest)
      | 'x' => do
          let (c, after) ← hexEscape? 2 rest
          if !flags.unicode && 128 ≤ c.toNat && rest.head? ≠ some '\x7b' then none
          else some (.literal c, after)
      | 'u' => (hexEscape? 4 rest).map fun (c, rest) => (.literal c, rest)
      | 'U' => (hexEscape? 8 rest).map fun (c, rest) => (.literal c, rest)
      | 'a' => some (.literal '\x07', rest)
      | 'f' => some (.literal '\x0c', rest)
      | 't' => some (.literal '\t', rest)
      | 'n' => some (.literal '\n', rest)
      | 'r' => some (.literal '\r', rest)
      | 'v' => some (.literal '\x0b', rest)
      | 'A' => some (.assertion .textStart, rest)
      | 'z' => some (.assertion .textEnd, rest)
      | 'b' => boundary flags rest
      | 'B' => some (.assertion (.noWordBoundary flags.unicode), rest)
      | '<' => some (.assertion (.wordStart flags.unicode), rest)
      | '>' => some (.assertion (.wordEnd flags.unicode), rest)
      | c => if isEscapable c then some (.literal c, rest) else none

/-- Folds a set when case is ignored. -/
def foldedIf (flags : Flags) (set : CharClass) : CharClass :=
  if flags.caseless then .folded set else set

/-! ### Bracket expressions -/

/-- An operation between two parts of a bracket expression. -/
inductive SetOperation where
  | inter
  | without
  | exactlyOne
deriving DecidableEq

/-- Applies an operation to sets, folded first when case is ignored. -/
def SetOperation.apply (operation : SetOperation) (flags : Flags) (left right : CharClass) :
    CharClass :=
  let left := foldedIf flags left
  let right := foldedIf flags right
  match operation with
  | .inter => .inter left right
  | .without => .without left right
  | .exactlyOne => .exactlyOne left right

/-- One character or set inside brackets. -/
def bracketItem? (flags : Flags) (input : List Char) : Option (Escaped × List Char) :=
  match input with
  | [] => none
  | '\\' :: rest => do
      let (escaped, rest) ← escape? flags rest
      match escaped with
      | .assertion _ => none
      | escaped => some (escaped, rest)
  | c :: rest => some (.literal c, rest)

/-- One character, set or range inside brackets. -/
def bracketRange? (flags : Flags) (input : List Char) : Option (CharClass × List Char) := do
  let (first, rest) ← bracketItem? flags input
  let rest := skip flags rest
  let alone : Option (CharClass × List Char) :=
    match first with
    | .literal c => some (.single c, rest)
    | .set members => some (members, rest)
    | .assertion _ => none
  match rest with
  | [] => none
  | '-' :: after =>
      match skip flags after with
      | ']' :: _ => alone
      | '-' :: _ => alone
      | after => do
          let (last, rest) ← bracketItem? flags after
          match first, last with
          | .literal low, .literal high =>
              if low ≤ high then some (.range low.toNat high.toNat, rest) else none
          | _, _ => none
  | _ => alone

/-- A named class `[:name:]`, after its opening bracket. -/
def bracketName? (input : List Char) : Option (CharClass × List Char) :=
  match input with
  | ':' :: rest =>
      let (negated, rest) :=
        match rest with
        | '^' :: rest => (true, rest)
        | rest => (false, rest)
      match rest.dropWhile (· ≠ ':') with
      | ':' :: ']' :: after =>
          (CharClass.ofBracketName? (String.ofList (rest.takeWhile (· ≠ ':')))).map
            fun set => (negatedIf negated set, after)
      | _ => none
  | _ => none

/-- The literal hyphens and the closing bracket that may open a bracket expression. -/
def bracketStart (flags : Flags) : Nat -> List CharClass -> List Char ->
    List CharClass × List Char
  | 0, items, input => (items, input)
  | fuel + 1, items, input =>
      match input with
      | '-' :: rest => bracketStart flags fuel (.single '-' :: items) (skip flags rest)
      | ']' :: rest =>
          if items.isEmpty then ([.single ']'], skip flags rest) else (items, input)
      | _ => (items, input)

/-- A bracket expression after its opening bracket, its body read by at most `fuel` steps. -/
def bracket? (flags : Flags) : Nat -> List Char -> Option (CharClass × List Char)
  | 0, _ => none
  | fuel + 1, input =>
      let input := skip flags input
      let (negated, input) :=
        match input with
        | '^' :: rest => (true, skip flags rest)
        | rest => (false, rest)
      let (items, input) := bracketStart flags input.length [] input
      let rec body : Nat -> Option (CharClass × SetOperation) -> List CharClass ->
          List Char -> Option (CharClass × List Char)
        | 0, _, _, _ => none
        | steps + 1, pending, items, input =>
            let current := CharClass.unions items.reverse
            let combined : CharClass :=
              match pending with
              | some (left, operation) => operation.apply flags left current
              | none => current
            match skip flags input with
            | [] => none
            | '[' :: rest =>
                match bracketName? rest with
                | some (set, rest) =>
                    body steps pending (foldedIf flags set :: items) rest
                | none => do
                    let (set, rest) ← bracket? flags fuel rest
                    body steps pending (set :: items) rest
            | ']' :: rest =>
                if negated && !flags.unicode then none
                else some (negatedIf negated (foldedIf flags combined), rest)
            | '&' :: '&' :: rest => body steps (some (combined, .inter)) [] rest
            | '-' :: '-' :: rest => body steps (some (combined, .without)) [] rest
            | '~' :: '~' :: rest => body steps (some (combined, .exactlyOne)) [] rest
            | input => do
                let (set, rest) ← bracketRange? flags input
                body steps pending (set :: items) rest
      body (input.length + 1) none items input

/-! ### Groups and repetitions -/

/-- Flags as a group may set them, up to a colon or a closing parenthesis: the flags, whether
any was named, and the rest from that mark on. -/
def flagList? (flags : Flags) (negated named : Bool) (seen : List Char) :
    List Char -> Option (Flags × Bool × List Char)
  | [] => none
  | c :: rest =>
      if c = ':' ∨ c = ')' then
        if negated && !named then none else some (flags, named || !seen.isEmpty, c :: rest)
      else if c = '-' then
        if negated then none else flagList? flags true false seen rest
      else if seen.contains c then none
      else
        let value := !negated
        let next := fun (flags : Flags) => flagList? flags negated true (c :: seen) rest
        match c with
        | 'i' => next { flags with caseless := value }
        | 'm' => next { flags with multiline := value }
        | 's' => next { flags with dotAll := value }
        | 'R' => next { flags with windowsLines := value }
        | 'x' => next { flags with spaced := value }
        | 'u' => next { flags with unicode := value }
        | 'U' => next flags
        | _ => none

/-- A group's name up to its closing bracket. -/
def groupName? (input : List Char) : Option (String × List Char) :=
  let name := input.takeWhile (· ≠ '>')
  let legal : Bool :=
    match name with
    | [] => false
    | first :: rest =>
        (first = '_' || isAlphabetic first)
          && rest.all fun c =>
            c = '_' || c = '.' || c = '[' || c = ']' || isNumeric c || isAlphabetic c
  match input.dropWhile (· ≠ '>') with
  | _ :: rest => if legal then some (String.ofList name, rest) else none
  | [] => none

/-- How a group opens. -/
inductive GroupStart where
  /-- A group whose body is read under the given flags. -/
  | body (flags : Flags) (name : Option String)
  /-- Flags for the rest of the enclosing group. -/
  | flags (flags : Flags)

/-- What follows an opening parenthesis. -/
def groupStart? (flags : Flags) (input : List Char) : Option (GroupStart × List Char) :=
  match skip flags input with
  | '?' :: '=' :: _ => none
  | '?' :: '!' :: _ => none
  | '?' :: '<' :: '=' :: _ => none
  | '?' :: '<' :: '!' :: _ => none
  | '?' :: 'P' :: '<' :: rest =>
      (groupName? rest).map fun (name, rest) => (.body flags (some name), rest)
  | '?' :: '<' :: rest =>
      (groupName? rest).map fun (name, rest) => (.body flags (some name), rest)
  | '?' :: rest => do
      let (inner, named, rest) ← flagList? flags false false [] rest
      match rest with
      | ')' :: rest => if named then some (.flags inner, rest) else none
      | _ :: rest => some (.body inner none, rest)
      | [] => none
  | rest => some (.body flags none, rest)

/-- A count, with white space allowed around it. -/
def count? (input : List Char) : Option Nat × List Char :=
  let input := input.dropWhile isBlank
  let digits := input.takeWhile Char.isDigit
  let rest := (input.dropWhile Char.isDigit).dropWhile isBlank
  let value := digits.foldl (fun total digit => total * 10 + (digit.toNat - 48)) 0
  (if digits.isEmpty ∨ Nat.pow 2 32 ≤ value then none else some value, rest)

/-- A counted repetition after its opening brace: the least count, and how many more. -/
def counts? (input : List Char) : Option (Nat × Option Nat × List Char) :=
  let (least, rest) := count? input
  match least, rest with
  | some least, '\x7d' :: rest => some (least, some 0, rest)
  | some least, ',' :: rest =>
      match rest.dropWhile isBlank with
      | '\x7d' :: rest => some (least, none, rest)
      | rest =>
          match count? rest with
          | (some most, '\x7d' :: rest) =>
              if least ≤ most then some (least, some (most - least), rest) else none
          | _ => none
  | _, _ => none

/-- Passes over the mark of a lazy repetition. -/
def skipLazy (flags : Flags) (input : List Char) : List Char :=
  match skip flags input with
  | '?' :: rest => rest
  | rest => rest

/-- The greatest nesting of groups. -/
def nestingLimit : Nat := 250

/-- What has been read of a group: finished branches, the items of the current branch (nothing
for a place where flags were set), both reversed, and the group names in use. -/
structure Progress where
  branches : List Pattern := []
  items : List (Option Pattern) := []
  names : List String := []

/-- The pattern of the items of a branch. -/
def Progress.branch (progress : Progress) : Pattern :=
  Pattern.sequence (progress.items.reverse.filterMap id)

/-- The pattern of all branches. -/
def Progress.pattern (progress : Progress) : Pattern :=
  Pattern.alternatives (progress.branch :: progress.branches).reverse

/-- Adds an item. -/
def Progress.push (progress : Progress) (item : Pattern) : Progress :=
  { progress with items := some item :: progress.items }

/-- Repeats the last item. -/
def Progress.repeatLast? (progress : Progress) (least : Nat) (more : Option Nat) :
    Option Progress :=
  match progress.items with
  | some item :: rest =>
      some { progress with items := some (.repeated item least more) :: rest }
  | _ => none

/-- The pattern of a character. -/
def literal (flags : Flags) (c : Char) : Pattern :=
  .char (foldedIf flags (.single c))

/-- The characters that a point matches. -/
def point (flags : Flags) : CharClass :=
  if flags.dotAll then .any
  else if flags.windowsLines then .complement (.union (.single '\n') (.single '\r'))
  else .complement (.single '\n')

/-- The body of a group, up to its closing parenthesis when `depth` is positive and up to the
end otherwise, by at most `fuel` steps: the pattern, the group names in use, and the rest. -/
def group? (fuel depth : Nat) (flags : Flags) (progress : Progress) (input : List Char) :
    Option (Pattern × List String × List Char) :=
  match fuel with
  | 0 => none
  | fuel + 1 =>
      let onwards := fun (progress : Progress) (rest : List Char) =>
        group? fuel depth flags progress rest
      let again := fun (least : Nat) (more : Option Nat) (rest : List Char) =>
        match progress.repeatLast? least more with
        | some progress => group? fuel depth flags progress (skipLazy flags rest)
        | none => none
      match skip flags input with
      | [] => if depth = 0 then some (progress.pattern, progress.names, []) else none
      | ')' :: rest =>
          if depth = 0 then none else some (progress.pattern, progress.names, rest)
      | '|' :: rest =>
          onwards { progress with
            branches := progress.branch :: progress.branches, items := [] } rest
      | '(' :: rest =>
          match groupStart? flags rest with
          | none => none
          | some (.flags flags, rest) =>
              group? fuel depth flags { progress with items := none :: progress.items } rest
          | some (.body inner name, rest) =>
              let taken := name.elim false progress.names.contains
              if taken ∨ nestingLimit ≤ depth then none
              else
                let names := name.toList ++ progress.names
                match group? fuel (depth + 1) inner { names := names } rest with
                | none => none
                | some (pattern, names, rest) =>
                    onwards { progress.push pattern with names := names } rest
      | '[' :: rest =>
          match bracket? flags (rest.length + 1) rest with
          | some (set, rest) =>
              onwards (progress.push (.char set)) rest
          | none => none
      | '?' :: rest => again 0 (some 1) rest
      | '*' :: rest => again 0 none rest
      | '+' :: rest => again 1 none rest
      | '\x7b' :: rest =>
          match counts? rest with
          | some (least, more, rest) => again least more rest
          | none => none
      | '.' :: rest =>
          if flags.unicode then onwards (progress.push (.char (point flags))) rest else none
      | '^' :: rest =>
          onwards (progress.push (.assertion
            (if !flags.multiline then .textStart
              else if flags.windowsLines then .windowsLineStart else .lineStart))) rest
      | '$' :: rest =>
          onwards (progress.push (.assertion
            (if !flags.multiline then .textEnd
              else if flags.windowsLines then .windowsLineEnd else .lineEnd))) rest
      | '\\' :: rest =>
          match escape? flags rest with
          | none => none
          | some (.literal c, rest) => onwards (progress.push (literal flags c)) rest
          | some (.set set, rest) => onwards (progress.push (.char (foldedIf flags set))) rest
          | some (.assertion condition, rest) =>
              onwards (progress.push (.assertion condition)) rest
      | c :: rest => onwards (progress.push (literal flags c)) rest

end Reader

/-- The most bytes that the automaton of a pattern may take. -/
def weightLimit : Nat := 10 * Nat.pow 2 20

/-- The pattern that a text writes down, under flags given from outside. -/
def Pattern.parse? (flags : Flags) (text : String) : Option Pattern := do
  let chars := text.toList
  let (pattern, _) ← Reader.group? (2 * chars.length + 2) 0 flags {} chars
  if weightLimit < pattern.weight then none else some pattern

end ContentGraph.Regex
