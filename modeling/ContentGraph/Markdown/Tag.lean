import ContentGraph.Markdown.Line

/-!
Contract: HTML inside markdown.

Owns:
- the extent of a tag, a comment, a processing instruction, a declaration and a character data
  section;
- which HTML starts a block, and where such a block ends.
-/

namespace ContentGraph.Markdown.Tag

/-- Whether a character may follow the first letter of a tag's name. -/
def isNameChar (c : Char) : Bool :=
  c.isAlphanum || c = '-'

/-- What follows a tag's name. -/
def afterName? (text : List Char) : Option (List Char) :=
  match text with
  | c :: rest => if c.isAlpha then some (rest.dropWhile isNameChar) else none
  | [] => none

/-- What follows the value of an attribute. -/
def afterValue? (text : List Char) : Option (List Char) :=
  match text with
  | [] => none
  | quote :: rest =>
      if quote = '"' || quote = '\x27' then
        match rest.dropWhile (· ≠ quote) with
        | _ :: after => some after
        | [] => none
      else
        let endsValue (c : Char) : Bool :=
          isWhite c || c = '"' || c = '\x27' || c = '=' || c = '<' || c = '>' || c = '\x60'
        if endsValue quote then none else some (text.dropWhile (!endsValue ·))

/-- What follows an attribute and the white space before it. -/
def afterAttribute? (text : List Char) : Option (List Char) :=
  match text with
  | [] => none
  | white :: _ =>
      if isWhite white then
        match text.dropWhile isWhite with
        | first :: rest =>
            if first.isAlpha || first = '_' || first = ':' then
              let after := rest.dropWhile fun c =>
                c.isAlphanum || c = '_' || c = '.' || c = ':' || c = '-'
              match after.dropWhile isWhite with
              | '=' :: value => afterValue? (value.dropWhile isWhite)
              | _ => some after
            else none
        | [] => none
      else none

/-- What follows the attributes of a tag. -/
def afterAttributes (fuel : Nat) (text : List Char) : Option (List Char) :=
  match fuel with
  | 0 => some text
  | fuel + 1 =>
      let startsAttribute :=
        match text with
        | white :: _ =>
            isWhite white &&
              match text.dropWhile isWhite with
              | c :: _ => c.isAlpha || c = '_' || c = ':'
              | [] => false
        | [] => false
      if startsAttribute then (afterAttribute? text).bind (afterAttributes fuel) else some text

/-- What follows an opening or closing tag whose angle bracket was read. -/
def afterTag? (text : List Char) : Option (List Char) :=
  match text with
  | '/' :: rest =>
      match (afterName? rest).map (·.dropWhile isWhite) with
      | some ('>' :: after) => some after
      | _ => none
  | _ =>
      match ((afterName? text).bind (afterAttributes text.length)).map (·.dropWhile isWhite) with
      | some ('>' :: after) => some after
      | some ('/' :: '>' :: after) => some after
      | _ => none

/-- What follows HTML other than a tag, whose angle bracket was read. -/
def afterMarkup? (text : List Char) : Option (List Char) :=
  let through (word : String) (text : List Char) : Option (List Char) :=
    (Text.splitAtWord? word.toList text).map Prod.snd
  match text with
  | '!' :: '-' :: '-' :: '>' :: rest => some rest
  | '!' :: '-' :: '-' :: '-' :: '>' :: rest => some rest
  | '!' :: '-' :: '-' :: rest => through "-->" rest
  | '?' :: rest => through "?>" rest
  | '!' :: '[' :: 'C' :: 'D' :: 'A' :: 'T' :: 'A' :: '[' :: rest => through "]]>" rest
  | '!' :: c :: rest => if c.isAlpha then through ">" rest else none
  | _ => none

/-- What follows inline HTML whose angle bracket was read. -/
def afterInline? (text : List Char) : Option (List Char) :=
  (afterTag? text).or (afterMarkup? text)

/-- Whether a text starts with a word, in whatever case. -/
def startsWithWord (word : String) (text : List Char) : Bool :=
  (text.take word.length).map Char.toLower = word.toList

/-- The text whose line ends a block that starts with verbatim HTML, whose angle bracket was
read. -/
def verbatimEnd? (text : List Char) : Option String :=
  let element := ["pre", "style", "script", "textarea"].find? fun name =>
    startsWithWord name text &&
      match text.drop name.length with
      | [] => true
      | c :: _ => isWhite c || c = '>'
  match element with
  | some name => some ("</" ++ name ++ ">")
  | none =>
      match text with
      | '!' :: '-' :: '-' :: _ => some "-->"
      | '?' :: _ => some "?>"
      | '!' :: '[' :: 'C' :: 'D' :: 'A' :: 'T' :: 'A' :: '[' :: _ => some "]]>"
      | '!' :: c :: _ => if c.isAlpha then some ">" else none
      | _ => none

/-- The elements whose tags start a block. -/
def blockNames : List String := [
  "address", "article", "aside", "base", "basefont", "blockquote", "body", "caption", "center",
  "col", "colgroup", "dd", "details", "dialog", "dir", "div", "dl", "dt", "fieldset",
  "figcaption", "figure", "footer", "form", "frame", "frameset", "h1", "h2", "h3", "h4", "h5",
  "h6", "head", "header", "hr", "html", "iframe", "legend", "li", "link", "main", "menu",
  "menuitem", "nav", "noframes", "ol", "optgroup", "option", "p", "param", "search", "section",
  "summary", "table", "tbody", "td", "tfoot", "th", "thead", "title", "tr", "track", "ul"]

/-- Whether a text, whose angle bracket was read, starts with the tag of a block element. -/
def startsBlockElement (text : List Char) : Bool :=
  let body :=
    match text with
    | '/' :: rest => rest
    | rest => rest
  let name := body.takeWhile Char.isAlphanum
  blockNames.contains (String.ofList (name.map Char.toLower)) &&
    match body.drop name.length with
    | [] => true
    | '/' :: '>' :: _ => true
    | c :: _ => c = ' ' || c = '\t' || c = '>'

/-- Whether a text, whose angle bracket was read, is one tag and nothing else. -/
def isLoneTag (text : List Char) : Bool :=
  match afterTag? text with
  | some after => isBlankRest after
  | none => false

/-- Whether a line starts HTML that ends the paragraph before it. -/
def interrupts (text : List Char) : Bool :=
  match text with
  | '<' :: rest => (verbatimEnd? rest).isSome || startsBlockElement rest
  | _ => false

end ContentGraph.Markdown.Tag
