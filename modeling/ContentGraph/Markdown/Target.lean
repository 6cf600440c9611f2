import ContentGraph.Markdown.Line
import ContentGraph.Markdown.NamedCharacter
import ContentGraph.Text.LetterCase

/-!
Contract: where links lead.

Owns:
- character references and backslash escapes;
- the label, the destination and the title of a link;
- definitions, which give a label its target, and the comparison of labels.
-/

namespace ContentGraph.Markdown

/-- The value of digits in a base. -/
def digitsValue (base : Nat) (digits : List Char) : Nat :=
  digits.foldl (fun total c => total * base + hexValue c.toLower) 0

/-- Whether a character is a hexadecimal digit. -/
def isHexDigit (c : Char) : Bool :=
  c.isDigit || ('a' ≤ c.toLower && c.toLower ≤ 'f')

/-- The character of a numeric reference; zero gives the replacement character. -/
def numberedCharacter? (point : Nat) : Option (List Char) :=
  if point = 0 then some [Char.ofNat 0xFFFD]
  else if point < 0xD800 ∨ (0xE000 ≤ point ∧ point < 0x110000) then some [Char.ofNat point]
  else none

/-- The characters of a reference whose ampersand was read, and what follows it. -/
def reference? (text : List Char) : Option (List Char × List Char) :=
  let numbered (base most : Nat) (isDigit : Char -> Bool) (text : List Char) :
      Option (List Char × List Char) :=
    let digits := (text.take most).takeWhile isDigit
    match text.drop digits.length with
    | ';' :: after =>
        if digits.isEmpty then none
        else (numberedCharacter? (digitsValue base digits)).map (·, after)
    | _ => none
  match text with
  | '#' :: 'x' :: rest => numbered 16 6 isHexDigit rest
  | '#' :: 'X' :: rest => numbered 16 6 isHexDigit rest
  | '#' :: rest => numbered 10 7 Char.isDigit rest
  | text =>
      let name := text.takeWhile Char.isAlphanum
      match text.drop name.length with
      | ';' :: after => (namedCharacter? name).map (·, after)
      | _ => none

/-- A text with its escapes and character references resolved; the fuel bounds its length. -/
def resolveFrom (fuel : Nat) (text : List Char) : List Char :=
  match fuel, text with
  | 0, _ => []
  | _, [] => []
  | fuel + 1, '\\' :: c :: rest =>
      if isMarkPunctuation c then c :: resolveFrom fuel rest
      else '\\' :: resolveFrom fuel (c :: rest)
  | fuel + 1, '&' :: rest =>
      match reference? rest with
      | some (chars, after) => chars ++ resolveFrom fuel after
      | none => '&' :: resolveFrom fuel rest
  | fuel + 1, '\r' :: rest => resolveFrom fuel rest
  | fuel + 1, c :: rest => c :: resolveFrom fuel rest

/-- A text with its escapes and character references resolved. -/
def resolve (text : List Char) : List Char :=
  resolveFrom text.length text

/-- The text of a label with runs of white space as single spaces, given the reversed text so
far, and what follows its closing bracket.  A blank line, an opening bracket and more than a
thousand characters are refused. -/
def labelFrom (read : List Char) (breaks room : Nat) : List Char -> Option (List Char × List Char)
  | [] => none
  | c :: rest =>
      match room with
      | 0 => none
      | room + 1 =>
          if c = ']' then some (read.reverse, rest)
          else if c = '[' then none
          else if isWhite c then
            let breaks := if c = '\n' || c = '\r' then breaks + 1 else breaks
            if 1 < breaks then none
            else if read.head? = some ' ' then labelFrom read breaks room rest
            else labelFrom (' ' :: read) breaks room rest
          else if c = '\\' then
            match rest with
            | escaped :: after =>
                if isMarkPunctuation escaped then
                  labelFrom (escaped :: '\\' :: read) 0 room after
                else labelFrom ('\\' :: read) 0 room rest
            | [] => none
          else labelFrom (c :: read) 0 room rest

/-- The text of a label whose opening bracket was read, and what follows its closing bracket. -/
def label? (text : List Char) : Option (List Char × List Char) :=
  match labelFrom [] 0 1000 text with
  | some (label, after) =>
      let trimmed := ((label.dropWhile isWhite).reverse.dropWhile isWhite).reverse
      if trimmed.isEmpty then none else some (trimmed, after)
  | none => none

/-- A label in the form in which labels are compared: without letter case. -/
def labelKey (label : List Char) : List Char :=
  label.flatMap fun c =>
    let folded := Char.ofNat (Text.foldPoint c.toNat)
    match Text.upperChars folded with
    | [_] => [folded]
    | expanded => expanded.map fun c => Char.ofNat (Text.foldPoint c.toNat)

/-- The nesting of parentheses that a destination may have. -/
def parenthesesLimit : Nat := 32

/-- A destination without angle brackets, and what follows it. -/
def bareDestination? (nesting : Nat) : List Char -> Option (List Char × List Char)
  | [] => if nesting = 0 then some ([], []) else none
  | c :: rest =>
      let continueWith (nesting : Nat) :=
        (bareDestination? nesting rest).map fun (read, after) => (c :: read, after)
      if c.toNat ≤ 32 then if nesting = 0 then some ([], c :: rest) else none
      else if c = '(' then
        if parenthesesLimit < nesting then none else continueWith (nesting + 1)
      else if c = ')' then
        if nesting = 0 then some ([], c :: rest) else continueWith (nesting - 1)
      else if c = '\\' then
        match rest with
        | escaped :: after =>
            if isMarkPunctuation escaped then
              (bareDestination? nesting after).map fun (read, after) =>
                (c :: escaped :: read, after)
            else continueWith nesting
        | [] => continueWith nesting
      else continueWith nesting

/-- A destination whose angle bracket was read, and what follows its closing bracket. -/
def bracketedDestination? : List Char -> Option (List Char × List Char)
  | [] => none
  | '\\' :: escaped :: after =>
      if isMarkPunctuation escaped then
        (bracketedDestination? after).map fun (read, after) => ('\\' :: escaped :: read, after)
      else
        (bracketedDestination? (escaped :: after)).map fun (read, after) => ('\\' :: read, after)
  | c :: rest =>
      if c = '\n' || c = '\r' || c = '<' then none
      else if c = '>' then some ([], rest)
      else (bracketedDestination? rest).map fun (read, after) => (c :: read, after)

/-- A destination as written, and what follows it. -/
def destination? (text : List Char) : Option (List Char × List Char) :=
  match text with
  | '<' :: rest => bracketedDestination? rest
  | text => bareDestination? 0 text

/-- A title up to its closing mark, with the white space after line ends left out, and what
follows it.  A parenthesised title holds no opening parenthesis, and no title a blank line. -/
def titleFrom (closing : Char) (afterBreak : Bool) : List Char -> Option (List Char × List Char)
  | [] => none
  | c :: rest =>
      let continueWith (afterBreak : Bool) :=
        (titleFrom closing afterBreak rest).map fun (read, after) => (c :: read, after)
      if afterBreak && isSpace c then titleFrom closing true rest
      else if c = closing then some ([], rest)
      else if c = '\n' || c = '\r' then if afterBreak then none else continueWith true
      else if c = '(' && closing = ')' then none
      else if c = '\\' then
        match rest with
        | escaped :: after =>
            if isMarkPunctuation escaped then
              (titleFrom closing false after).map fun (read, after) =>
                (c :: escaped :: read, after)
            else continueWith false
        | [] => none
      else continueWith false

/-- A title as written between its marks, and what follows it. -/
def title? (text : List Char) : Option (List Char × List Char) :=
  match text with
  | '"' :: rest => titleFrom '"' false rest
  | '\x27' :: rest => titleFrom '\x27' false rest
  | '(' :: rest => titleFrom ')' false rest
  | _ => none

/-- Where a link leads, and its title, which may be empty. -/
structure Target where
  destination : String
  title : String := ""
deriving DecidableEq

/-- The target with a destination and a title as written. -/
def Target.ofWritten (destination title : List Char) : Target :=
  ⟨String.ofList (resolve destination), String.ofList (resolve title)⟩

/-- Skips white space with at most one line end. -/
def skipSeparator (text : List Char) : List Char :=
  match text.dropWhile isSpace with
  | '\r' :: '\n' :: rest => rest.dropWhile isSpace
  | '\n' :: rest => rest.dropWhile isSpace
  | '\r' :: rest => rest.dropWhile isSpace
  | rest => rest

/-- The target in parentheses, whose opening one was read, and what follows the closing one. -/
def inlineTarget? (text : List Char) : Option (Target × List Char) := do
  let (destination, after) ← destination? (skipSeparator text)
  let after := skipSeparator after
  let (title, after) :=
    match title? after with
    | some (title, after) => (title, skipSeparator after)
    | none => ([], after)
  match after with
  | ')' :: rest => some (Target.ofWritten destination title, rest)
  | _ => none

/-- The rest of a line and the text after it, if the rest is blank. -/
def afterBlankRest? (text : List Char) : Option (List Char) :=
  match text.dropWhile isSpace with
  | [] => some []
  | '\n' :: rest => some rest
  | _ => none

/-- A definition at the start of a text: the label, the target, and what follows its last
line.  A title that does not end its line is no part of it. -/
def definition? (text : List Char) : Option (List Char × Target × List Char) :=
  match text with
  | '[' :: rest => do
      let (label, after) ← label? rest
      let written ←
        match after with
        | ':' :: after => some (skipSeparator after)
        | _ => none
      let (destination, after) ← destination? written
      if destination.isEmpty && written.head? ≠ some '<' then none
      let bare := (afterBlankRest? after).map (label, Target.ofWritten destination [], ·)
      let separated := skipSeparator after
      match title? separated with
      | some (title, afterTitle) =>
          if separated.length = after.length then bare
          else
            match afterBlankRest? afterTitle with
            | some rest => some (label, Target.ofWritten destination title, rest)
            | none => bare
      | none => bare
  | _ => none

end ContentGraph.Markdown
