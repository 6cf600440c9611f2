import ContentGraph.Failure
import ContentGraph.Files.PathText
import ContentGraph.Text.Utf8

/-!
Contract: a directory tree as a value.

Owns:
- `Tree`: the entries below a home directory, by their names from the top;
- finding entries by path, with steps upwards resolved against existing directories;
- writing a file through a temporary one, creating missing directories.

Does not own: links, permissions and times.
-/

namespace ContentGraph.Files

/-- The body of a file: text, or bytes that are no text. -/
inductive Body where
  | text (text : String)
  | bytes (bytes : List UInt8)
deriving DecidableEq

/-- The body of a file with the given bytes. -/
def Body.ofBytes (bytes : List UInt8) : Body :=
  match Text.Utf8.decode? bytes with
  | some decoded => .text decoded
  | none => .bytes bytes

/-- The body as text, with replacement characters where it is none. -/
def Body.lossyText : Body -> String
  | .text content => content
  | .bytes content => Text.Utf8.decodeLossy content

/-- Names from the top of a tree down to an entry. -/
abbrev Location := List String

/-- What stands at a location. -/
inductive Entry where
  | directory
  | file (body : Body)
deriving DecidableEq

/-- The entries below a home directory, which is written as `home`. -/
structure Tree where
  home : String
  entries : List (Location × Entry)

namespace Tree

/-- The entry at a location; the top is a directory. -/
def entry? (tree : Tree) (location : Location) : Option Entry :=
  if location.isEmpty then some .directory else tree.entries.lookup location

/-- Whether a directory stands at a location. -/
def isDirectory (tree : Tree) (location : Location) : Bool :=
  tree.entry? location == some .directory

/-- Sets the entry at a location. -/
def set (tree : Tree) (location : Location) (entry : Entry) : Tree :=
  { tree with
    entries := tree.entries.filter (fun old => old.1 ≠ location) ++ [(location, entry)] }

/-- Removes the entry at a location. -/
def remove (tree : Tree) (location : Location) : Tree :=
  { tree with entries := tree.entries.filter fun old => old.1 ≠ location }

/-- Adds a file or a directory and the directories above it. -/
def place (tree : Tree) (location : Location) (entry : Entry) : Tree :=
  let above := (List.range location.length).map location.take
  let withParents := above.foldl
    (fun tree parent =>
      if (tree.entry? parent).isSome then tree else tree.set parent .directory)
    tree
  withParents.set location entry

/-- The components of a path below the home directory. -/
def belowHome? (tree : Tree) (path : String) : Option (List Component) :=
  let home := components tree.home
  let own := components path
  if home.isPrefixOf own then some (own.drop home.length) else none

/-- The location that components lead to from a given one.  Every step needs a directory to
start from, and a step upwards at the top leads outside. -/
def walk? (tree : Tree) (location : Location) : List Component -> Option Location
  | [] => some location
  | component :: rest =>
      if tree.isDirectory location then
        match component with
        | .current => walk? tree location rest
        | .root => none
        | .parent => if location.isEmpty then none else walk? tree location.dropLast rest
        | .normal name => walk? tree (location ++ [name]) rest
      else none

/-- The location of a path below the home directory. -/
def locate? (tree : Tree) (path : String) : Option Location :=
  (tree.belowHome? path).bind (tree.walk? [])

/-- The entry at a path. -/
def find? (tree : Tree) (path : String) : Option Entry :=
  (tree.locate? path).bind tree.entry?

/-- Whether a path leads to a directory. -/
def isDirectoryPath (tree : Tree) (path : String) : Bool :=
  tree.find? path == some .directory

/-- Whether a path leads to a file. -/
def isFilePath (tree : Tree) (path : String) : Bool :=
  match tree.find? path with
  | some (.file _) => true
  | _ => false

/-- Whether a path can only lead to a directory by the way it ends. -/
def asksForDirectory (path : String) : Bool :=
  match path.toList.reverse with
  | '/' :: _ => true
  | '.' :: '/' :: _ => true
  | _ => false

/-- The path from the home directory down to where a path leads, without steps upwards. -/
def absolute? (tree : Tree) (path : String) : Option String := do
  let location ← tree.locate? path
  let entry ← tree.entry? location
  if asksForDirectory path && entry ≠ .directory then none
  else some (location.foldl join tree.home)

/-- The text of the file at a path. -/
def readText (tree : Tree) (path : String) : Except Failure String :=
  match tree.find? path with
  | some (.file (.text text)) => .ok text
  | _ => .error .io

/-- The longest name that a directory can hold, in bytes. -/
def longestName : Nat := 255

/-- Whether a name holds the character that ends a path for the system. -/
def holdsNul (name : String) : Bool :=
  name.toList.contains (Char.ofNat 0)

/-- Whether a name can stand in a directory. -/
def isUsableName (name : String) : Bool :=
  name.utf8ByteSize ≤ longestName && !holdsNul name

/-- Whether the system takes components as a path at all. -/
def isUsablePath (components : List Component) : Bool :=
  components.all fun component =>
    match component with
    | .normal name => !holdsNul name
    | _ => true

/-- Makes the directories on the way that components lead.  The answer is where they lead; where
one cannot be made, those before it stay. -/
def makeDirectories (tree : Tree) (location : Location) :
    List Component -> Except Failure Location × Tree
  | [] => (.ok location, tree)
  | component :: rest =>
      match component with
      | .current => makeDirectories tree location rest
      | .root => (.error .io, tree)
      | .parent =>
          if location.isEmpty then (.error .io, tree)
          else makeDirectories tree location.dropLast rest
      | .normal name =>
          let next := location ++ [name]
          match tree.entry? next with
          | some .directory => makeDirectories tree next rest
          | some (.file _) => (.error .io, tree)
          | none =>
              if isUsableName name then makeDirectories (tree.set next .directory) next rest
              else (.error .io, tree)

/-- Writes a text file at a path whose directory has to exist. -/
def writeText (tree : Tree) (path text : String) : Except Failure Tree :=
  match tree.locate? path with
  | none => .error .io
  | some location =>
      match location.getLast? with
      | none => .error .io
      | some name =>
          if !isUsableName name || tree.isDirectory location
              || path.toList.getLast? = some '/' then .error .io
          else .ok (tree.set location (.file (.text text)))

/-- Moves the file at one path to another, over a file that is there. -/
def rename (tree : Tree) (source target : String) : Except Failure Tree :=
  match tree.locate? source, tree.locate? target with
  | some old, some new =>
      match tree.entry? old with
      | some entry =>
          if tree.isDirectory new || target.toList.getLast? = some '/' then .error .io
          else .ok ((tree.remove old).set new entry)
      | none => .error .io
  | _, _ => .error .io

/-- The files of a tree in the order of their locations. -/
def files (tree : Tree) : List (Location × Body) :=
  let found := tree.entries.filterMap fun (location, entry) =>
    match entry with
    | .file body => some (location, body)
    | .directory => none
  found.mergeSort fun a b => !decide (b.1 < a.1)

end Tree

end ContentGraph.Files
