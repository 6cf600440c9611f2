import ContentGraph.Yaml.Token

/-!
Contract: the structure of a YAML document.

Owns:
- `Node`: scalars, sequences, mappings and references to anchored nodes;
- the grammar that builds nodes from tokens, with tags resolved by their directives;
- the numbering of anchors, in the order in which new names are met.

Does not own: what scalars mean (`Yaml.Content`).
-/

namespace ContentGraph.Yaml

/-- A node with its resolved tag. -/
inductive Node where
  | scalar (tag : Option String) (isPlain : Bool) (text : String)
  | sequence (tag : Option String) (items : List Node)
  | mapping (tag : Option String) (entries : List (Node × Node))
  /-- The node of an anchor, by the anchor's number. -/
  | alias (number : Nat)
deriving Inhabited

namespace Node

/-- What the grammar keeps while it reads: the rest of the tokens, the tag directives, the
anchor names with their numbers, the anchored nodes with the order of their starts, and the
number of nodes begun so far, collections counted twice. -/
structure Progress where
  tokens : List Token
  handles : List (String × String)
  names : List (String × Nat) := []
  anchored : List (Nat × Nat × Node) := []
  size : Nat := 0

/-- The next token. -/
def Progress.peek (progress : Progress) : Token :=
  progress.tokens.headD .streamEnd

/-- Passes over a token. -/
def Progress.skip (progress : Progress) : Progress :=
  { progress with tokens := progress.tokens.drop 1 }

/-- Counts nodes. -/
def Progress.count (progress : Progress) (nodes : Nat) : Progress :=
  { progress with size := progress.size + nodes }

/-- The number of an anchor that is set: the number of names in use before. -/
def Progress.number (progress : Progress) : Nat :=
  progress.names.length

/-- Gives a name to the next number. -/
def Progress.setName (progress : Progress) (name : String) : Progress :=
  { progress with
    names := (name, progress.number) :: progress.names.filter fun entry => entry.1 ≠ name }

/-- Keeps the node of an anchor. -/
def Progress.keep (progress : Progress) (anchor : Option (Nat × Nat)) (node : Node) :
    Progress :=
  match anchor with
  | some (number, start) =>
      { progress with anchored := (number, start, node) :: progress.anchored }
  | none => progress

/-- The node of an anchor's number: of several the one that started last. -/
def Progress.anchored? (progress : Progress) (number : Nat) : Option Node :=
  let found := progress.anchored.filter fun entry => entry.1 = number
  let latest := found.foldl (fun latest entry => max latest entry.2.1) 0
  (found.find? fun entry => entry.2.1 = latest).map fun entry => entry.2.2

/-- The node that stands for nothing. -/
def absent : Node :=
  .scalar none true ""

/-- A tag with its handle replaced by what the directives give for it. -/
def resolveTag? (handles : List (String × String)) (handle suffix : String) : Option String :=
  if handle.isEmpty then some suffix
  else (handles.lookup handle).map (· ++ suffix)

/-- The anchor and the tag before a node, in either order. -/
structure Properties where
  anchor : Option String := none
  tag : Option String := none

/-- Reads the anchor and the tag before a node. -/
def properties? (progress : Progress) : Option (Properties × Progress) :=
  let anchor (progress : Progress) : Option String × Progress :=
    match progress.peek with
    | .anchor name => (some name, progress.skip)
    | _ => (none, progress)
  let tag? (progress : Progress) : Option (Option String × Progress) :=
    match progress.peek with
    | .tag handle suffix =>
        (resolveTag? progress.handles handle suffix).map fun tag => (some tag, progress.skip)
    | _ => some (none, progress)
  match progress.peek with
  | .tag _ _ =>
      (tag? progress).map fun (tag, progress) =>
        let (anchor, progress) := anchor progress
        ({ anchor, tag }, progress)
  | _ =>
      let (anchor, progress) := anchor progress
      (tag? progress).map fun (tag, progress) => ({ anchor, tag }, progress)

/-- Where a node stands, which decides what it may be. -/
inductive Place where
  /-- Block collections are allowed. -/
  | block
  /-- Block collections are allowed, and a sequence at the indentation of its parent too. -/
  | blockOrIndentless
  | flow
deriving DecidableEq

mutual

/-- A node, by at most `fuel` steps. -/
def node? (fuel : Nat) (place : Place) (progress : Progress) : Option (Node × Progress) :=
  match fuel with
  | 0 => none
  | fuel + 1 =>
      match progress.peek with
      | .alias name =>
          match progress.names.lookup name with
          | some number => some (.alias number, (progress.count 1).skip)
          | none => none
      | _ => do
          let (given, progress) ← properties? progress
          let start := progress.size
          let anchor := given.anchor.map fun _ => (progress.number, start)
          let progress :=
            match given.anchor with
            | some name => progress.setName name
            | none => progress
          let done (result : Node × Progress) : Node × Progress :=
            (result.1, result.2.keep anchor result.1)
          let tag := given.tag
          match progress.peek with
          | .blockEntry =>
              if place = .blockOrIndentless then
                (indentless? fuel tag [] (progress.count 2)).map done
              else if given.anchor.isSome || tag.isSome then
                some (done (.scalar tag true "", progress.count 1))
              else none
          | .scalar isPlain text =>
              some (done (.scalar tag isPlain text, (progress.count 1).skip))
          | .flowSequenceStart =>
              (flowSequence? fuel tag true [] (progress.count 2).skip).map done
          | .flowMappingStart =>
              (flowMapping? fuel tag true [] (progress.count 2).skip).map done
          | .blockSequenceStart =>
              if place = .flow then none
              else (blockSequence? fuel tag [] (progress.count 2).skip).map done
          | .blockMappingStart =>
              if place = .flow then none
              else (blockMapping? fuel tag [] (progress.count 2).skip).map done
          | _ =>
              if given.anchor.isSome || tag.isSome then
                some (done (.scalar tag true "", progress.count 1))
              else none

/-- A node, or nothing before one of the given tokens. -/
def optional? (fuel : Nat) (place : Place) (stops : List Token) (progress : Progress) :
    Option (Node × Progress) :=
  match fuel with
  | 0 => none
  | fuel + 1 =>
      if stops.contains progress.peek then some (absent, progress.count 1)
      else node? fuel place progress

/-- The entries of a block sequence; `items` is reversed. -/
def blockSequence? (fuel : Nat) (tag : Option String) (items : List Node)
    (progress : Progress) : Option (Node × Progress) :=
  match fuel with
  | 0 => none
  | fuel + 1 =>
      match progress.peek with
      | .blockEntry => do
          let (item, progress) ← optional? fuel .block [.blockEntry, .blockEnd] progress.skip
          blockSequence? fuel tag (item :: items) progress
      | .blockEnd => some (.sequence tag items.reverse, progress.skip)
      | _ => none

/-- The entries of a sequence at the indentation of its parent. -/
def indentless? (fuel : Nat) (tag : Option String) (items : List Node)
    (progress : Progress) : Option (Node × Progress) :=
  match fuel with
  | 0 => none
  | fuel + 1 =>
      match progress.peek with
      | .blockEntry => do
          let (item, progress) ←
            optional? fuel .block [.blockEntry, .key, .value, .blockEnd] progress.skip
          indentless? fuel tag (item :: items) progress
      | _ => some (.sequence tag items.reverse, progress)

/-- The entries of a block mapping. -/
def blockMapping? (fuel : Nat) (tag : Option String) (entries : List (Node × Node))
    (progress : Progress) : Option (Node × Progress) :=
  match fuel with
  | 0 => none
  | fuel + 1 =>
      let stops := [Token.key, Token.value, Token.blockEnd]
      match progress.peek with
      | .key => do
          let (key, progress) ← optional? fuel .blockOrIndentless stops progress.skip
          match progress.peek with
          | .value =>
              let (value, progress) ← optional? fuel .blockOrIndentless stops progress.skip
              blockMapping? fuel tag ((key, value) :: entries) progress
          | _ => blockMapping? fuel tag ((key, absent) :: entries) (progress.count 1)
      | .blockEnd => some (.mapping tag entries.reverse, progress.skip)
      | _ => none

/-- The entries of a sequence in brackets; `first` before the first of them. -/
def flowSequence? (fuel : Nat) (tag : Option String) (first : Bool) (items : List Node)
    (progress : Progress) : Option (Node × Progress) :=
  match fuel with
  | 0 => none
  | fuel + 1 =>
      let progress? :=
        if progress.peek = .flowSequenceEnd || first then some progress
        else if progress.peek = .flowEntry then some progress.skip
        else none
      match progress? with
      | none => none
      | some progress =>
          match progress.peek with
          | .flowSequenceEnd => some (.sequence tag items.reverse, progress.skip)
          | .key => do
              let (key, progress) ←
                optional? fuel .flow [.value, .flowEntry, .flowSequenceEnd]
                  (progress.count 2).skip
              match progress.peek with
              | .value =>
                  let (value, progress) ←
                    optional? fuel .flow [.flowEntry, .flowSequenceEnd] progress.skip
                  flowSequence? fuel tag false (.mapping none [(key, value)] :: items) progress
              | _ =>
                  flowSequence? fuel tag false (.mapping none [(key, absent)] :: items)
                    (progress.count 1)
          | _ => do
              let (item, progress) ← node? fuel .flow progress
              flowSequence? fuel tag false (item :: items) progress

/-- The entries of a mapping in braces; `first` before the first of them. -/
def flowMapping? (fuel : Nat) (tag : Option String) (first : Bool)
    (entries : List (Node × Node)) (progress : Progress) : Option (Node × Progress) :=
  match fuel with
  | 0 => none
  | fuel + 1 =>
      let progress? :=
        if progress.peek = .flowMappingEnd || first then some progress
        else if progress.peek = .flowEntry then some progress.skip
        else none
      match progress? with
      | none => none
      | some progress =>
          match progress.peek with
          | .flowMappingEnd => some (.mapping tag entries.reverse, progress.skip)
          | .key => do
              let (key, progress) ←
                optional? fuel .flow [.value, .flowEntry, .flowMappingEnd] progress.skip
              match progress.peek with
              | .value =>
                  let (value, progress) ←
                    optional? fuel .flow [.flowEntry, .flowMappingEnd] progress.skip
                  flowMapping? fuel tag false ((key, value) :: entries) progress
              | _ =>
                  flowMapping? fuel tag false ((key, absent) :: entries) (progress.count 1)
          | _ => do
              let (key, progress) ← node? fuel .flow progress
              flowMapping? fuel tag false ((key, absent) :: entries) (progress.count 1)

end

/-- The handles that need no directive. -/
def defaultHandles : List (String × String) :=
  [("!", "!"), ("!!", "tag:yaml.org,2002:")]

/-- The directives before a document: the tag handles they give, and the rest. -/
def directives? (seenVersion : Bool) (handles : List (String × String)) :
    List Token -> Option (List (String × String) × List Token)
  | .versionDirective :: rest => if seenVersion then none else directives? true handles rest
  | .tagDirective handle tagPrefix :: rest =>
      if (handles.lookup handle).isSome then none
      else directives? seenVersion ((handle, tagPrefix) :: handles) rest
  | rest => some (handles, rest)

/-- The content of a document after its start. -/
def content? (tokens : List Token) (handles : List (String × String)) :
    Option (Node × Progress) :=
  let progress : Progress := { tokens, handles := handles ++ defaultHandles }
  match tokens with
  | .documentStart :: _ => some (absent, progress.count 1)
  | .documentEnd :: _ => some (absent, progress.count 1)
  | .versionDirective :: _ => some (absent, progress.count 1)
  | .tagDirective _ _ :: _ => some (absent, progress.count 1)
  | [.streamEnd] => some (absent, progress.count 1)
  | _ => node? (4 * tokens.length + 4) .block progress

/-- What a stream with at most one document holds. -/
inductive Stream where
  /-- No document at all. -/
  | empty
  | document (root : Node) (progress : Progress)

/-- The document of a stream that holds at most one. -/
def stream? (tokens : List Token) : Option Stream := do
  match tokens with
  | [.streamEnd] => some .empty
  | _ =>
      let (handles, rest) ← directives? false [] tokens
      let (root, progress) ←
        match rest with
        | .documentStart :: rest => content? rest handles
        | rest =>
            if rest.length = tokens.length then
              node? (4 * tokens.length + 4) .block
                { tokens := rest, handles := defaultHandles }
            else none
      if progress.tokens.dropWhile (· = .documentEnd) = [.streamEnd] then
        some (.document root progress)
      else none

end Node

end ContentGraph.Yaml
