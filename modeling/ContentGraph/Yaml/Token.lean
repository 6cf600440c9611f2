/-!
Contract: the lexical form of YAML streams.

Owns:
- `Token` and the scanner that turns a stream of characters into tokens;
- block structure from indentation: starts of block collections are put in when a deeper column
  is met, and ends when it is left;
- simple keys: a key without a mark of its own is known as a key only when its colon is met, so
  the place where it started is remembered;
- the five forms of scalars and their line folding.

Does not own: the structure of nodes (`Yaml.Node`) and the meaning of plain scalars.
Scanning answers `none` for a stream that breaks the lexical rules.
-/

namespace ContentGraph.Yaml

/-- A lexical token. -/
inductive Token where
  | streamEnd
  | versionDirective
  | tagDirective (handle tagPrefix : String)
  | documentStart
  | documentEnd
  | blockSequenceStart
  | blockMappingStart
  | blockEnd
  | flowSequenceStart
  | flowSequenceEnd
  | flowMappingStart
  | flowMappingEnd
  | blockEntry
  | flowEntry
  | key
  | value
  | alias (name : String)
  | anchor (name : String)
  | tag (handle suffix : String)
  /-- A scalar, plain or in one of the forms with marks. -/
  | scalar (isPlain : Bool) (text : String)
deriving DecidableEq, Inhabited

/-- A place where a simple key may have started. -/
structure SimpleKey where
  possible : Bool := false
  required : Bool := false
  /-- The number of tokens before the key. -/
  place : Nat := 0
  line : Nat := 0
  column : Nat := 0
  index : Nat := 0
deriving Inhabited

/-- The state of the scanner. -/
structure Scanner where
  input : List Char
  index : Nat := 0
  line : Nat := 0
  column : Nat := 0
  tokens : Array Token := #[]
  indent : Int := -1
  indents : List Int := []
  simpleKeyAllowed : Bool := true
  /-- One place for the block context and one for each open flow collection, innermost first. -/
  simpleKeys : List SimpleKey := [{}]

/-! ### Characters -/

/-- A space or a tab. -/
def isBlank (c : Char) : Bool :=
  c = ' ' || c = '\t'

/-- A line break. -/
def isBreak (c : Char) : Bool :=
  c = '\n' || c = '\r' || c.toNat = 0x85 || c.toNat = 0x2028 || c.toNat = 0x2029

/-- Whether a character may stand in a stream. -/
def isAllowed (c : Char) : Bool :=
  let point := c.toNat
  point == 9 || point == 10 || point == 13 || (0x20 ≤ point && point ≤ 0x7E) || point == 0x85
    || (0xA0 ≤ point && point ≤ 0xD7FF) || (0xE000 ≤ point && point ≤ 0xFFFD)
    || 0x10000 ≤ point

/-- Whether a character may stand in the name of an anchor. -/
def isNameChar (c : Char) : Bool :=
  c.isAlphanum || c = '_' || c = '-'

/-- Whether the input is at its end or at a character that satisfies a test. -/
def atEndOr (test : Char -> Bool) : List Char -> Bool
  | [] => true
  | c :: _ => test c

/-- Whether the input is at a blank, a break or its end. -/
def atSpace (input : List Char) : Bool :=
  atEndOr (fun c => isBlank c || isBreak c) input

/-- Whether the input is at a break or its end. -/
def atLineEnd (input : List Char) : Bool :=
  atEndOr isBreak input

/-- Whether the input starts with a document mark made of one character. -/
def atMark (mark : Char) (input : List Char) : Bool :=
  match input with
  | a :: b :: c :: rest => a = mark && b = mark && c = mark && atSpace rest
  | _ => false

/-- Whether the input starts with a document mark. -/
def atDocumentMark (input : List Char) : Bool :=
  atMark '-' input || atMark '.' input

namespace Scanner

/-- Whether the scanner stands inside a flow collection. -/
def inFlow (scanner : Scanner) : Bool :=
  1 < scanner.simpleKeys.length

/-- Whether the next character satisfies a test. -/
def next (scanner : Scanner) (test : Char -> Bool) : Bool :=
  (scanner.input.head?.map test).getD false

/-- Passes over one character. -/
def skip (scanner : Scanner) : Scanner :=
  { scanner with
    input := scanner.input.drop 1, index := scanner.index + 1, column := scanner.column + 1 }

/-- Passes over a number of characters. -/
def skipMany (scanner : Scanner) (count : Nat) : Scanner :=
  { scanner with
    input := scanner.input.drop count
    index := scanner.index + count
    column := scanner.column + count }

/-- Passes over the characters that satisfy a test. -/
def skipWhile (scanner : Scanner) (test : Char -> Bool) : Scanner :=
  scanner.skipMany (scanner.input.takeWhile test).length

/-- Passes over one line break and gives it in normal form: a line feed, or one of the two
separators that stay as they are. -/
def takeBreak (scanner : Scanner) : List Char × Scanner :=
  let after (count : Nat) : Scanner :=
    { scanner with
      input := scanner.input.drop count
      index := scanner.index + count
      column := 0
      line := scanner.line + 1 }
  match scanner.input with
  | '\r' :: '\n' :: _ => (['\n'], after 2)
  | c :: _ =>
      if c.toNat = 0x2028 ∨ c.toNat = 0x2029 then ([c], after 1)
      else if isBreak c then (['\n'], after 1)
      else ([], scanner)
  | [] => ([], scanner)

/-- Passes over one line break. -/
def skipBreak (scanner : Scanner) : Scanner :=
  scanner.takeBreak.2

/-- Adds a token. -/
def push (scanner : Scanner) (token : Token) : Scanner :=
  { scanner with tokens := scanner.tokens.push token }

/-! ### Indentation and simple keys -/

/-- Opens a block collection at a column deeper than the current one; its start is put at a
place among the tokens, or at their end. -/
def rollIndent (scanner : Scanner) (column : Nat) (place : Option Nat) (token : Token) :
    Scanner :=
  if scanner.inFlow || (column : Int) ≤ scanner.indent then scanner
  else
    let place := place.getD scanner.tokens.size
    { scanner with
      indents := scanner.indent :: scanner.indents
      indent := column
      tokens := scanner.tokens.insertIdxIfInBounds place token }

/-- Closes the block collections that are deeper than a column. -/
def unrollIndent (scanner : Scanner) (column : Int) : Scanner :=
  if scanner.inFlow then scanner
  else
    let rec close (indent : Int) (closed : Nat) : List Int -> Int × List Int × Nat
      | [] => (indent, [], closed)
      | outer :: rest =>
          if column < indent then close outer (closed + 1) rest
          else (indent, outer :: rest, closed)
    let (indent, indents, closed) := close scanner.indent 0 scanner.indents
    { scanner with
      indent, indents, tokens := scanner.tokens ++ Array.replicate closed Token.blockEnd }

/-- Gives up the simple keys that are on an earlier line or too far back; one that was required
makes the stream faulty. -/
def dropStaleKeys? (scanner : Scanner) : Option Scanner := do
  let keys ← scanner.simpleKeys.mapM fun key =>
    if key.possible
        && (decide (key.line < scanner.line) || decide (key.index + 1024 < scanner.index)) then
      if key.required then none else some { key with possible := false }
    else some key
  some { scanner with simpleKeys := keys }

/-- Gives up the simple key of the current level. -/
def removeKey? (scanner : Scanner) : Option Scanner :=
  match scanner.simpleKeys with
  | key :: rest =>
      if key.possible && key.required then none
      else some { scanner with simpleKeys := { key with possible := false } :: rest }
  | [] => some scanner

/-- Remembers that a simple key may start here. -/
def saveKey? (scanner : Scanner) : Option Scanner := do
  if !scanner.simpleKeyAllowed then some scanner
  else
    let scanner ← scanner.removeKey?
    let key : SimpleKey :=
      { possible := true
        required := !scanner.inFlow && scanner.indent == (scanner.column : Int)
        place := scanner.tokens.size
        line := scanner.line
        column := scanner.column
        index := scanner.index }
    some { scanner with simpleKeys := key :: scanner.simpleKeys.drop 1 }

/-! ### Structure -/

/-- Passes over blanks, comments and breaks, by at most `fuel` lines. -/
def skipToToken : Nat -> Scanner -> Scanner
  | 0, scanner => scanner
  | fuel + 1, scanner =>
      let scanner :=
        if scanner.index = 0 && scanner.next (·.toNat = 0xFEFF) then scanner.skip else scanner
      let tabs := scanner.inFlow || !scanner.simpleKeyAllowed
      let scanner := scanner.skipWhile fun c => c = ' ' || (tabs && c = '\t')
      let scanner :=
        if scanner.next (· = '#') then scanner.skipWhile (!isBreak ·) else scanner
      if scanner.next isBreak then
        let scanner := scanner.skipBreak
        skipToToken fuel
          (if scanner.inFlow then scanner else { scanner with simpleKeyAllowed := true })
      else scanner

/-- A collection in brackets opens. -/
def flowStart? (scanner : Scanner) (token : Token) : Option Scanner := do
  let scanner ← scanner.saveKey?
  some ({ scanner with
    simpleKeys := {} :: scanner.simpleKeys, simpleKeyAllowed := true }.skip.push token)

/-- A collection in brackets closes. -/
def flowEnd? (scanner : Scanner) (token : Token) : Option Scanner := do
  let scanner ← scanner.removeKey?
  let keys := if scanner.inFlow then scanner.simpleKeys.drop 1 else scanner.simpleKeys
  some ({ scanner with simpleKeys := keys, simpleKeyAllowed := false }.skip.push token)

/-- A comma between the entries of a flow collection. -/
def flowEntry? (scanner : Scanner) : Option Scanner := do
  let scanner ← scanner.removeKey?
  some ({ scanner with simpleKeyAllowed := true }.skip.push .flowEntry)

/-- A hyphen before an entry of a block sequence. -/
def blockEntry? (scanner : Scanner) : Option Scanner := do
  if !scanner.inFlow && !scanner.simpleKeyAllowed then none
  let scanner := scanner.rollIndent scanner.column none .blockSequenceStart
  let scanner ← scanner.removeKey?
  some ({ scanner with simpleKeyAllowed := true }.skip.push .blockEntry)

/-- A question mark before a key. -/
def explicitKey? (scanner : Scanner) : Option Scanner := do
  if !scanner.inFlow && !scanner.simpleKeyAllowed then none
  let scanner := scanner.rollIndent scanner.column none .blockMappingStart
  let scanner ← scanner.removeKey?
  some ({ scanner with simpleKeyAllowed := !scanner.inFlow }.skip.push .key)

/-- A colon before a value: the simple key that started before it, if there is one, becomes a
key. -/
def value? (scanner : Scanner) : Option Scanner :=
  match scanner.simpleKeys with
  | [] => none
  | key :: rest =>
      if key.possible then
        let scanner :=
          { scanner with tokens := scanner.tokens.insertIdxIfInBounds key.place .key }
        let scanner := scanner.rollIndent key.column (some key.place) .blockMappingStart
        some ({ scanner with
          simpleKeys := { key with possible := false } :: rest
          simpleKeyAllowed := false }.skip.push .value)
      else if !scanner.inFlow && !scanner.simpleKeyAllowed then none
      else
        let scanner := scanner.rollIndent scanner.column none .blockMappingStart
        some ({ scanner with simpleKeyAllowed := !scanner.inFlow }.skip.push .value)

/-- Ends the blocks before a mark at the start of a line. -/
def leaveBlocks? (scanner : Scanner) : Option Scanner := do
  let scanner ← (scanner.unrollIndent (-1)).removeKey?
  some { scanner with simpleKeyAllowed := false }

/-! ### Names and tags -/

/-- An anchor or an alias. -/
def reference? (scanner : Scanner) (token : String -> Token) : Option Scanner := do
  let scanner ← scanner.saveKey?
  let scanner := { scanner with simpleKeyAllowed := false }.skip
  let name := scanner.input.takeWhile isNameChar
  let scanner := scanner.skipMany name.length
  let ends := atSpace scanner.input || scanner.next ("?:,]\x7d%@\x60".toList.contains ·)
  if name.isEmpty || !ends then none
  else some (scanner.push (token (String.ofList name)))

/-- Whether a character may stand in a tag. -/
def isTagChar (verbatim : Bool) (c : Char) : Bool :=
  isNameChar c || ";/?:@&=+$.%!~*\x27()".toList.contains c
    || (verbatim && ",[]".toList.contains c)

/-- The value of a hexadecimal digit. -/
def hexValue? (c : Char) : Option Nat :=
  if c.isDigit then some (c.toNat - 48)
  else if 'a' ≤ c ∧ c ≤ 'f' then some (c.toNat - 87)
  else if 'A' ≤ c ∧ c ≤ 'F' then some (c.toNat - 55)
  else none

/-- A tag's text with its percent escapes of ASCII characters resolved. -/
def unescapeTag? : List Char -> Option (List Char)
  | [] => some []
  | '%' :: a :: b :: rest => do
      let high ← hexValue? a
      let low ← hexValue? b
      let rest ← unescapeTag? rest
      some (Char.ofNat (high * 16 + low) :: rest)
  | '%' :: _ => none
  | c :: rest => (unescapeTag? rest).map (c :: ·)

/-- The text of a tag up to where it ends. -/
def tagText? (scanner : Scanner) (verbatim : Bool) : Option (List Char × Scanner) := do
  let raw := scanner.input.takeWhile (isTagChar verbatim)
  let text ← unescapeTag? raw
  some (text, scanner.skipMany raw.length)

/-- A tag. -/
def tag? (scanner : Scanner) : Option Scanner := do
  let scanner ← scanner.saveKey?
  let scanner := { scanner with simpleKeyAllowed := false }
  let (token, scanner) ←
    match scanner.input with
    | '!' :: '<' :: _ => do
        let (text, scanner) ← (scanner.skipMany 2).tagText? true
        if text.isEmpty || !scanner.next (· = '>') then none
        some (Token.tag "" (String.ofList text), scanner.skip)
    | _ => do
        let scanner := scanner.skip
        let name := scanner.input.takeWhile isNameChar
        let scanner := scanner.skipMany name.length
        if scanner.next (· = '!') then
          let (text, scanner) ← scanner.skip.tagText? false
          if text.isEmpty then none
          some (Token.tag (String.ofList ('!' :: name ++ ['!'])) (String.ofList text), scanner)
        else
          let (text, scanner) ← scanner.tagText? false
          let suffix := name ++ text
          if suffix.isEmpty then some (Token.tag "" "!", scanner)
          else some (Token.tag "!" (String.ofList suffix), scanner)
  let ends := atSpace scanner.input || (scanner.inFlow && scanner.next (· = ','))
  if ends then some (scanner.push token) else none

/-- A directive at the start of a line. -/
def directive? (scanner : Scanner) : Option Scanner := do
  let scanner ← scanner.leaveBlocks?
  let scanner := scanner.skip
  let name := scanner.input.takeWhile isNameChar
  let scanner := (scanner.skipMany name.length).skipWhile isBlank
  let (token, scanner) ←
    match String.ofList name with
    | "YAML" =>
        let major := scanner.input.takeWhile Char.isDigit
        let scanner := scanner.skipMany major.length
        let minor := (scanner.input.drop 1).takeWhile Char.isDigit
        if scanner.next (· = '.') && major = ['1'] && (minor = ['1'] || minor = ['2']) then
          some (Token.versionDirective, scanner.skipMany (1 + minor.length))
        else none
    | "TAG" => do
        let handle := (scanner.input.drop 1).takeWhile isNameChar
        if !scanner.next (· = '!') then none
        let scanner := scanner.skipMany (1 + handle.length)
        let closed := scanner.next (· = '!')
        if !closed && !handle.isEmpty then none
        let scanner := if closed then scanner.skip else scanner
        if !scanner.next isBlank then none
        let (text, scanner) ← (scanner.skipWhile isBlank).tagText? true
        if text.isEmpty || !atSpace scanner.input then none
        let handle := if closed then '!' :: handle ++ ['!'] else ['!']
        some (Token.tagDirective (String.ofList handle) (String.ofList text), scanner)
    | _ => none
  let scanner := scanner.skipWhile isBlank
  let scanner := if scanner.next (· = '#') then scanner.skipWhile (!isBreak ·) else scanner
  if atLineEnd scanner.input then some (scanner.skipBreak.push token) else none

/-! ### Scalars -/

/-- The white space met between two parts of a scalar. -/
structure Gap where
  blanks : List Char := []
  /-- Whether a line was ended. -/
  broken : Bool := false
  firstBreak : List Char := []
  furtherBreaks : List Char := []

/-- What a gap contributes to a flow scalar: blanks stay, a single line feed becomes a space,
further breaks stay. -/
def Gap.text (gap : Gap) : List Char :=
  if !gap.broken then gap.blanks
  else if gap.firstBreak = ['\n'] then
    if gap.furtherBreaks.isEmpty then [' '] else gap.furtherBreaks
  else gap.firstBreak ++ gap.furtherBreaks

/-- Reads the white space of a gap, by at most `fuel` steps.  A tab before `indent` on a fresh
line is refused when `strict`. -/
def gap? (strict : Bool) (indent : Int) : Nat -> Gap -> Scanner -> Option (Gap × Scanner)
  | 0, gap, scanner => some (gap, scanner)
  | fuel + 1, gap, scanner =>
      match scanner.input with
      | [] => some (gap, scanner)
      | c :: _ =>
          if isBlank c then
            if strict && gap.broken && decide ((scanner.column : Int) < indent) && c = '\t' then
              none
            else
              let gap := if gap.broken then gap else { gap with blanks := gap.blanks ++ [c] }
              gap? strict indent fuel gap scanner.skip
          else if isBreak c then
            let (text, scanner) := scanner.takeBreak
            let gap :=
              if gap.broken then { gap with furtherBreaks := gap.furtherBreaks ++ text }
              else { gap with blanks := [], broken := true, firstBreak := text }
            gap? strict indent fuel gap scanner
          else some (gap, scanner)

/-- A character given by a number of hexadecimal digits. -/
def hexChar? (count : Nat) (input : List Char) : Option Char := do
  if (input.take count).length < count then none
  let digits ← (input.take count).mapM hexValue?
  let point := digits.foldl (fun total digit => total * 16 + digit) 0
  if point < 0xD800 ∨ (0xE000 ≤ point ∧ point ≤ 0x10FFFF) then some (Char.ofNat point) else none

/-- The character after a backslash, and how many characters give it. -/
def escape? (input : List Char) : Option (Char × Nat) :=
  match input with
  | [] => none
  | c :: rest =>
      let single (point : Nat) : Option (Char × Nat) := some (Char.ofNat point, 1)
      match c with
      | '0' => single 0
      | 'a' => single 7
      | 'b' => single 8
      | 't' => single 9
      | '\t' => single 9
      | 'n' => single 10
      | 'v' => single 11
      | 'f' => single 12
      | 'r' => single 13
      | 'e' => single 27
      | ' ' => single 32
      | '"' => single 34
      | '\x27' => single 39
      | '/' => single 47
      | '\\' => single 92
      | 'N' => single 0x85
      | '_' => single 0xA0
      | 'L' => single 0x2028
      | 'P' => single 0x2029
      | 'x' => (hexChar? 2 rest).map (·, 3)
      | 'u' => (hexChar? 4 rest).map (·, 5)
      | 'U' => (hexChar? 8 rest).map (·, 9)
      | _ => none

/-- The body of a quoted scalar up to its closing quote, by at most `fuel` steps; `read` is
reversed. -/
def quotedBody? (quote : Char) : Nat -> List Char -> Scanner -> Option (List Char × Scanner)
  | 0, _, _ => none
  | fuel + 1, read, scanner =>
      if scanner.column = 0 && atDocumentMark scanner.input then none
      else
        match scanner.input with
        | [] => none
        | c :: rest =>
            if isBlank c || isBreak c then
              match gap? false 0 scanner.input.length {} scanner with
              | some (gap, scanner) => quotedBody? quote fuel (gap.text.reverse ++ read) scanner
              | none => none
            else if c = quote then
              if quote = '\x27' ∧ rest.head? = some '\x27' then
                quotedBody? quote fuel ('\x27' :: read) (scanner.skipMany 2)
              else some (read.reverse, scanner.skip)
            else if c = '\\' ∧ quote = '"' then
              if (rest.head?.map isBreak).getD false then
                let gap : Gap := { broken := true }
                match gap? false 0 scanner.input.length gap scanner.skip.skipBreak with
                | some (gap, scanner) =>
                    quotedBody? quote fuel (gap.text.reverse ++ read) scanner
                | none => none
              else
                match escape? rest with
                | some (c, count) =>
                    quotedBody? quote fuel (c :: read) (scanner.skipMany (1 + count))
                | none => none
            else quotedBody? quote fuel (c :: read) scanner.skip

/-- A quoted scalar. -/
def quoted? (scanner : Scanner) (quote : Char) : Option Scanner := do
  let scanner ← scanner.saveKey?
  let scanner := { scanner with simpleKeyAllowed := false }.skip
  let (text, scanner) ← quotedBody? quote (scanner.input.length + 1) [] scanner
  some (scanner.push (.scalar false (String.ofList text)))

/-- Whether a plain scalar ends before the next character. -/
def plainEnds (inFlow : Bool) (input : List Char) : Bool :=
  match input with
  | [] => true
  | ':' :: rest => atSpace rest
  | c :: _ => inFlow && ",[]\x7b\x7d".toList.contains c

/-- Whether a colon in a flow collection is followed by a mark that makes it faulty. -/
def faultyColon (inFlow : Bool) (input : List Char) : Bool :=
  match input with
  | ':' :: c :: _ => inFlow && ",?[]\x7b\x7d".toList.contains c
  | _ => false

/-- The parts of a plain scalar and the gaps between them, by at most `fuel` steps; `read` is
reversed.  Also answers whether the last gap ended a line. -/
def plainBody? (indent : Int) : Nat -> List Char -> Gap -> Scanner ->
    Option (List Char × Bool × Scanner)
  | 0, _, _, _ => none
  | fuel + 1, read, gap, scanner =>
      let finish := some (read.reverse, gap.broken, scanner)
      match scanner.input with
      | [] => finish
      | c :: _ =>
          if isBlank c || isBreak c then
            match gap? true indent scanner.input.length {} scanner with
            | none => none
            | some (gap, scanner) =>
                if (!scanner.inFlow && decide ((scanner.column : Int) < indent))
                    || (scanner.column = 0 && atDocumentMark scanner.input)
                    || scanner.next (· = '#') then
                  some (read.reverse, gap.broken, scanner)
                else plainBody? indent fuel read gap scanner
          else if faultyColon scanner.inFlow scanner.input then none
          else if plainEnds scanner.inFlow scanner.input then finish
          else plainBody? indent fuel (c :: (gap.text.reverse ++ read)) {} scanner.skip

/-- A plain scalar. -/
def plain? (scanner : Scanner) : Option Scanner := do
  let scanner ← scanner.saveKey?
  let scanner := { scanner with simpleKeyAllowed := false }
  let (text, broken, scanner) ←
    plainBody? (scanner.indent + 1) (2 * scanner.input.length + 2) [] {} scanner
  let scanner := if broken then { scanner with simpleKeyAllowed := true } else scanner
  some (scanner.push (.scalar true (String.ofList text)))

/-- What to do with the line breaks at the end of a block scalar. -/
inductive Chomping where
  | strip
  | clip
  | keep
deriving DecidableEq

/-- The header of a block scalar: its chomping and its indentation, in either order. -/
def blockHeader? (scanner : Scanner) : Option (Chomping × Option Nat × Scanner) :=
  let chomping? (scanner : Scanner) : Option Chomping :=
    if scanner.next (· = '+') then some .keep
    else if scanner.next (· = '-') then some .strip
    else none
  let digit? (scanner : Scanner) : Option Nat :=
    if scanner.next Char.isDigit then scanner.input.head?.map fun c => c.toNat - 48 else none
  let checked (chomping : Chomping) (indent : Option Nat) (scanner : Scanner) :=
    if indent = some 0 then none else some (chomping, indent, scanner)
  match chomping? scanner with
  | some chomping =>
      let scanner := scanner.skip
      match digit? scanner with
      | some indent => checked chomping (some indent) scanner.skip
      | none => checked chomping none scanner
  | none =>
      match digit? scanner with
      | some indent =>
          let scanner := scanner.skip
          match chomping? scanner with
          | some chomping => checked chomping (some indent) scanner.skip
          | none => checked .clip (some indent) scanner
      | none => checked .clip none scanner

/-- The breaks before a line of a block scalar and the indentation of the lines, by at most
`fuel` lines.  An indentation of zero is still to be found: the deepest column met. -/
def blockBreaks? (least : Int) : Nat -> Nat -> Nat -> List Char -> Scanner ->
    Option (Nat × List Char × Scanner)
  | 0, _, _, _, _ => none
  | fuel + 1, indent, deepest, breaks, scanner =>
      let spaces := (scanner.input.takeWhile (· = ' ')).length
      let scanner :=
        scanner.skipMany
          (if indent = 0 then spaces else min spaces (indent - scanner.column))
      let deepest := max deepest scanner.column
      if (indent = 0 || scanner.column < indent) && scanner.next (· = '\t') then none
      else if scanner.next isBreak then
        let (text, scanner) := scanner.takeBreak
        blockBreaks? least fuel indent deepest (breaks ++ text) scanner
      else
        let found := max (max (deepest : Int) (least + 1)) 1
        some (if indent = 0 then found.toNat else indent, breaks, scanner)

/-- The lines of a block scalar, by at most `fuel` of them. -/
def blockLines? (literal : Bool) (indent : Nat) :
    Nat -> List Char -> List Char -> List Char -> Bool -> Scanner ->
    Option (List Char × List Char × List Char × Scanner)
  | 0, _, _, _, _, _ => none
  | fuel + 1, text, lead, trailing, leadBlank, scanner =>
      if scanner.column ≠ indent || scanner.input.isEmpty then
        some (text, lead, trailing, scanner)
      else
        let startsBlank := scanner.next isBlank
        let joined :=
          if !literal && lead.head? = some '\n' && !leadBlank && !startsBlank then
            if trailing.isEmpty then [' '] else []
          else lead
        let body := scanner.input.takeWhile (!isBreak ·)
        let (lead, scanner) := (scanner.skipMany body.length).takeBreak
        match blockBreaks? 0 (scanner.input.length + 1) indent 0 [] scanner with
        | none => none
        | some (_, further, scanner) =>
            blockLines? literal indent fuel (text ++ joined ++ trailing ++ body) lead further
              startsBlank scanner

/-- A block scalar. -/
def block? (scanner : Scanner) (literal : Bool) : Option Scanner := do
  let scanner ← scanner.removeKey?
  let scanner := { scanner with simpleKeyAllowed := true }.skip
  let (chomping, increment, scanner) ← scanner.blockHeader?
  let scanner := scanner.skipWhile isBlank
  let scanner := if scanner.next (· = '#') then scanner.skipWhile (!isBreak ·) else scanner
  if !atLineEnd scanner.input then none
  let scanner := scanner.skipBreak
  let indent :=
    match increment with
    | some count => (max scanner.indent 0).toNat + count
    | none => 0
  let size := scanner.input.length + 1
  let (indent, breaks, scanner) ← blockBreaks? scanner.indent size indent 0 [] scanner
  let (text, lead, trailing, scanner) ← blockLines? literal indent size [] [] breaks false scanner
  let text := if chomping = .strip then text else text ++ lead
  let text := if chomping = .keep then text ++ trailing else text
  some (scanner.push (.scalar false (String.ofList text)))

/-! ### The stream -/

/-- Whether a plain scalar may start with the next characters. -/
def plainStarts (inFlow : Bool) (input : List Char) : Bool :=
  match input with
  | [] => false
  | '-' :: rest => !atEndOr isBlank rest || rest.isEmpty
  | '?' :: rest => !inFlow && !atSpace rest
  | ':' :: rest => !inFlow && !atSpace rest
  | c :: _ =>
      !isBlank c && !isBreak c && !",[]\x7b\x7d#&*!|>\x27\"%@\x60".toList.contains c

/-- One more token; `none` for a fault.  At the end of the stream the end is added. -/
def step? (scanner : Scanner) : Option Scanner := do
  let scanner := skipToToken (scanner.input.length + 1) scanner
  let scanner ← scanner.dropStaleKeys?
  let scanner := scanner.unrollIndent scanner.column
  let input := scanner.input
  match input with
  | [] =>
      let scanner ← scanner.leaveBlocks?
      some (scanner.push .streamEnd)
  | c :: rest =>
      if scanner.column = 0 && c = '%' then scanner.directive?
      else if scanner.column = 0 && atMark '-' input then
        let scanner ← scanner.leaveBlocks?
        some ((scanner.skipMany 3).push .documentStart)
      else if scanner.column = 0 && atMark '.' input then
        let scanner ← scanner.leaveBlocks?
        some ((scanner.skipMany 3).push .documentEnd)
      else if c = '[' then scanner.flowStart? .flowSequenceStart
      else if c = '\x7b' then scanner.flowStart? .flowMappingStart
      else if c = ']' then scanner.flowEnd? .flowSequenceEnd
      else if c = '\x7d' then scanner.flowEnd? .flowMappingEnd
      else if c = ',' then scanner.flowEntry?
      else if c = '-' && atSpace rest then scanner.blockEntry?
      else if c = '?' && (scanner.inFlow || atSpace rest) then scanner.explicitKey?
      else if c = ':' && (scanner.inFlow || atSpace rest) then scanner.value?
      else if c = '*' then scanner.reference? .alias
      else if c = '&' then scanner.reference? .anchor
      else if c = '!' then scanner.tag?
      else if c = '|' && !scanner.inFlow then scanner.block? true
      else if c = '>' && !scanner.inFlow then scanner.block? false
      else if c = '\x27' || c = '"' then scanner.quoted? c
      else if plainStarts scanner.inFlow input then scanner.plain?
      else none

/-- All tokens, by at most `fuel` steps. -/
def run? : Nat -> Scanner -> Option (List Token)
  | 0, _ => none
  | fuel + 1, scanner =>
      match scanner.step? with
      | none => none
      | some scanner =>
          if scanner.tokens.back? = some .streamEnd then some scanner.tokens.toList
          else run? fuel scanner

end Scanner

/-- The tokens of a stream. -/
def tokens? (text : String) : Option (List Token) :=
  let chars := text.toList
  if !chars.all isAllowed then none
  else
    let chars :=
      match chars with
      | c :: rest => if c.toNat = 0xFEFF then rest else c :: rest
      | [] => []
    Scanner.run? (chars.length + 2) { input := chars }

end ContentGraph.Yaml
