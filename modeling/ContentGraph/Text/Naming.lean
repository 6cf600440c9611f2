import ContentGraph.Text.Alphanumeric
import ContentGraph.Text.LetterCase

/-!
Contract: names in the forms that the graph and the files need.

Owns:
- camel case, snake case and Pascal case of content keys;
- `legalize`, which makes any text a name of letters, digits and underscores that does not
  start with a digit;
- `slugify`, words of letters and numbers joined by single hyphens.
-/

namespace ContentGraph.Text

/-- Whether a character separates the words of a key. -/
def separatesWords (c : Char) : Bool :=
  c = '_' || c = '-' || c = ' '

/-- Camel case after the first letter; `capital` when a separator was just passed. -/
def camelTail (capital : Bool) : List Char -> List Char
  | [] => []
  | c :: rest =>
      if separatesWords c then camelTail true rest
      else if capital then upperChars c ++ camelTail false rest
      else c :: camelTail false rest

/-- Camel case up to and including the first letter. -/
def camelHead : List Char -> List Char
  | [] => []
  | c :: rest =>
      if separatesWords c then camelHead rest
      else lowerChars c ++ camelTail false rest

/-- Camel case of a key's characters: leading underscores stay, the first letter is lowered,
a letter after separators is raised, the separators go. -/
def camelChars (name : List Char) : List Char :=
  name.takeWhile (· = '_') ++ camelHead (name.dropWhile (· = '_'))

/-- Camel case: `time_to_read` becomes `timeToRead`. -/
def camelCase (name : String) : String :=
  String.ofList (camelChars name.toList)

/-- Snake case after the leading underscores; `afterLower` when the last character was a
lower-case letter or a digit. -/
def snakeTail (afterLower : Bool) : List Char -> List Char
  | [] => []
  | c :: rest =>
      if c = '-' ∨ c = ' ' then '_' :: snakeTail false rest
      else if isUppercase c then
        (if afterLower then ['_'] else []) ++ lowerChars c ++ snakeTail false rest
      else c :: snakeTail (isLowercase c || c.isDigit) rest

/-- Snake case: `timeToRead` becomes `time_to_read`. -/
def snakeCase (name : String) : String :=
  let chars := name.toList
  String.ofList (chars.takeWhile (· = '_') ++ snakeTail false (chars.dropWhile (· = '_')))

/-- Pascal case: `time_to_read` becomes `TimeToRead`. -/
def pascalCase (name : String) : String :=
  match camelChars (name.toList.dropWhile (· = '_')) with
  | [] => ""
  | first :: rest => String.ofList (upperChars first ++ rest)

/-- Whether a character may stand in a graph name. -/
def isNameChar (c : Char) : Bool :=
  c.isAlphanum || c = '_'

/-- A graph name: other characters become underscores, and one is put before a leading digit
or into an empty name. -/
def legalize (name : String) : String :=
  let chars := name.toList.map fun c => if isNameChar c then c else '_'
  match chars with
  | [] => "_"
  | first :: _ =>
      if first.isDigit then String.ofList ('_' :: chars) else String.ofList chars

/-- The slug of a text, given the reversed slug so far. -/
def slugFrom (slug : List Char) : List Char -> List Char
  | [] => (slug.dropWhile (· = '-')).reverse
  | c :: rest =>
      if isAlphanumeric c then slugFrom ((lowerChars c).reverse ++ slug) rest
      else if slug.isEmpty || slug.head? = some '-' then slugFrom slug rest
      else slugFrom ('-' :: slug) rest

/-- The slug of a text: `Hello World!` becomes `hello-world`. -/
def slugify (text : String) : String :=
  String.ofList (slugFrom [] text.toList)

end ContentGraph.Text
