import ContentGraph.Text.Utf8

/-!
Contract: glob patterns over relative paths.

Owns:
- the parts of a pattern and what each leaves of a path, octet by octet;
- the reader: `?`, `*`, `**` between separators, sets, alternatives in braces, escapes;
- whole-path matching.

Does not own: which patterns a rule file holds (`Files.IgnoreRules`).
-/

namespace ContentGraph.Files

/-- A part of a glob pattern. -/
inductive GlobPart where
  | byte (value : UInt8)
  /-- One octet that is no separator. -/
  | any
  /-- Any run without separators. -/
  | run
  /-- Nothing, or whole directories from the start. -/
  | leadingDirectories
  /-- A separator and whole directories. -/
  | innerDirectories
  /-- A separator and everything after it. -/
  | trailingTree
  | set (negated : Bool) (ranges : List (UInt8 × UInt8))
  | choice (branches : List (List GlobPart))

namespace GlobPart

/-- The separator of path components. -/
def separator : UInt8 := 47

/-- All ends of a path, the whole of it first. -/
def ends : List UInt8 -> List (List UInt8)
  | [] => [[]]
  | first :: rest => (first :: rest) :: ends rest

/-- The ends of a path that follow a separator. -/
def endsAfterSeparator : List UInt8 -> List (List UInt8)
  | [] => []
  | first :: rest =>
      if first = separator then rest :: endsAfterSeparator rest else endsAfterSeparator rest

/-- What may be left after a run without separators. -/
def endsOfRun : List UInt8 -> List (List UInt8)
  | [] => [[]]
  | first :: rest =>
      if first = separator then [first :: rest] else (first :: rest) :: endsOfRun rest

/-- Keeps one of equally long ends. -/
def distinct (found : List (List UInt8)) : List (List UInt8) :=
  found.foldr
    (fun path kept => if kept.any (·.length == path.length) then kept else path :: kept) []

mutual

/-- What a part may leave of a path. -/
def leaves (path : List UInt8) : GlobPart -> List (List UInt8)
  | .byte value =>
      match path with
      | first :: rest => if first = value then [rest] else []
      | [] => []
  | .any =>
      match path with
      | first :: rest => if first = separator then [] else [rest]
      | [] => []
  | .run => endsOfRun path
  | .leadingDirectories => path :: endsAfterSeparator path
  | .innerDirectories =>
      match path with
      | first :: rest => if first = separator then rest :: endsAfterSeparator rest else []
      | [] => []
  | .trailingTree =>
      match path with
      | first :: rest => if first = separator then ends rest else []
      | [] => []
  | .set negated ranges =>
      match path with
      | first :: rest =>
          if ranges.any (fun range => range.1 ≤ first && first ≤ range.2) != negated then [rest]
          else []
      | [] => []
  | .choice branches => leavesOfAny path branches

/-- What the parts of a pattern in a row may leave of a path. -/
def leavesOfAll (path : List UInt8) : List GlobPart -> List (List UInt8)
  | [] => [path]
  | part :: rest => distinct ((leaves path part).flatMap fun left => leavesOfAll left rest)

/-- What one of several branches may leave of a path. -/
def leavesOfAny (path : List UInt8) : List (List GlobPart) -> List (List UInt8)
  | [] => []
  | branch :: rest => leavesOfAll path branch ++ leavesOfAny path rest

end

end GlobPart

/-- A glob pattern: its parts in a row. -/
abbrev Glob := List GlobPart

namespace Glob

/-- Whether the whole of a path matches.  The pattern of two stars alone matches all. -/
def test (glob : Glob) (path : String) : Bool :=
  match glob with
  | [.leadingDirectories] => true
  | glob => (GlobPart.leavesOfAll (Text.Utf8.encode path.toList) glob).any List.isEmpty

/-- What a reader has read: the parts of the branch it is in, reversed, the finished branches
of the innermost open group, and the same for the groups around it. -/
structure Reading where
  current : List GlobPart
  finished : List (List GlobPart)
  outer : List (List GlobPart × List (List GlobPart))

namespace Reading

/-- Whether a group is open. -/
def inGroup (reading : Reading) : Bool :=
  !reading.outer.isEmpty

/-- Adds parts to the current branch. -/
def push (reading : Reading) (parts : List GlobPart) : Reading :=
  { reading with current := parts.reverse ++ reading.current }

/-- Opens a group. -/
def openGroup (reading : Reading) : Reading :=
  ⟨[], [], (reading.current, reading.finished) :: reading.outer⟩

/-- Starts the next branch of the open group. -/
def nextBranch (reading : Reading) : Reading :=
  { reading with current := [], finished := reading.current.reverse :: reading.finished }

/-- Closes the innermost group. -/
def closeGroup? (reading : Reading) : Option Reading :=
  match reading.outer with
  | [] => none
  | (current, finished) :: outer =>
      some ⟨.choice (reading.current.reverse :: reading.finished).reverse :: current,
        finished, outer⟩

end Reading

/-- The octets of a character as parts. -/
def literal (c : Char) : List GlobPart :=
  (Text.Utf8.encodeChar c).map .byte

/-- The parts of a run of two stars.  `before` is the character before them; the result holds
the reading and how many of the characters after them belong to them. -/
def starsAt (reading : Reading) (before : Option Char) (after : Option Char) :
    Reading × Nat :=
  let plain := (reading.push [.run, .run], 0)
  if reading.current.isEmpty then
    match after with
    | none => (reading.push [.leadingDirectories], 0)
    | some '/' => (reading.push [.leadingDirectories], 1)
    | some _ => plain
  else if before ≠ some '/'
      && (!reading.inGroup || (before ≠ some ',' && before ≠ some '\x7b')) then plain
  else
    let replaceLast (part : GlobPart) : Reading :=
      match reading.current with
      | .leadingDirectories :: _ => reading
      | .trailingTree :: _ => reading
      | _ :: rest => { reading with current := part :: rest }
      | [] => reading
    match after with
    | none => (replaceLast .trailingTree, 0)
    | some '/' => (replaceLast .innerDirectories, 1)
    | some c =>
        if reading.inGroup && (c = ',' || c = '\x7d') then (replaceLast .trailingTree, 0)
        else plain

/-- The members of a set up to its bracket, and what follows it.  `none` when it does not end;
`some none` when a range runs backwards. -/
def setMembers (first inRange : Bool) (members : List (Char × Char)) :
    List Char -> Option (Option (List (Char × Char) × List Char))
  | [] => none
  | c :: rest =>
      let extend (c : Char) : Option (Option (List (Char × Char) × List Char)) :=
        match members with
        | (low, _) :: others =>
            if low ≤ c then setMembers false false ((low, c) :: others) rest
            else some none
        | [] => some none
      if c = ']' && !first then
        some (some ((if inRange then ('-', '-') :: members else members).reverse, rest))
      else if c = '-' && !first then
        if inRange then extend '-' else setMembers false true members rest
      else if inRange then extend c
      else setMembers false false ((c, c) :: members) rest

/-- The octet ranges of a member of a set: of a range whose ends take several octets, only the
octets that meet in the middle span a range. -/
def octetRanges (low high : Char) : List (UInt8 × UInt8) :=
  let single (octets : List UInt8) := octets.map fun octet => (octet, octet)
  if low = high then single (Text.Utf8.encodeChar low)
  else
    let before := Text.Utf8.encodeChar low
    let after := Text.Utf8.encodeChar high
    match before.getLast?, after with
    | some last, first :: rest => single before.dropLast ++ [(last, first)] ++ single rest
    | _, _ => []

/-- Reads a pattern from a place on; the fuel bounds the steps. -/
def readFrom (fuel : Nat) (reading : Reading) (before : Option Char) (text : List Char) :
    Option Reading :=
  match fuel, text with
  | _, [] => some reading
  | 0, _ => none
  | fuel + 1, c :: rest =>
      match c with
      | '?' => readFrom fuel (reading.push [.any]) (some c) rest
      | '*' =>
          match rest with
          | '*' :: rest =>
              let (reading, taken) := starsAt reading before rest.head?
              readFrom fuel reading (if taken = 0 then some '*' else some '/')
                (rest.drop taken)
          | rest => readFrom fuel (reading.push [.run]) (some c) rest
      | '[' =>
          let (negated, body) :=
            match rest with
            | '!' :: body => (true, body)
            | '^' :: body => (true, body)
            | body => (false, body)
          match setMembers true false [] body with
          | none => readFrom fuel (reading.push (literal '[')) (some c) rest
          | some none => none
          | some (some (members, rest)) =>
              let ranges := members.flatMap fun (low, high) => octetRanges low high
              readFrom fuel (reading.push [.set negated ranges]) (some ']') rest
      | '\x7b' => readFrom fuel reading.openGroup (some c) rest
      | '\x7d' => do readFrom fuel (← reading.closeGroup?) (some c) rest
      | ',' =>
          if reading.inGroup then readFrom fuel reading.nextBranch (some c) rest
          else readFrom fuel (reading.push (literal ',')) (some c) rest
      | '\\' =>
          match rest with
          | [] => none
          | escaped :: rest => readFrom fuel (reading.push (literal escaped)) (some escaped) rest
      | c => readFrom fuel (reading.push (literal c)) (some c) rest

/-- The pattern of a text; `none` for a group that is not closed or not open, a range that runs
backwards, and an escape of nothing. -/
def parse? (text : String) : Option Glob := do
  let reading ← readFrom text.length ⟨[], [], []⟩ none text.toList
  if reading.inGroup then none else some reading.current.reverse

end Glob

end ContentGraph.Files
