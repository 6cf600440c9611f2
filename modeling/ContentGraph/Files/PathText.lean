import ContentGraph.Text.Split

/-!
Contract: file paths as texts.

Owns:
- the components of a path: separators in a row count once, and a point alone counts only at
  the start of a relative path;
- file name, stem and extension, parent, joining and stripping.

Does not own: which files exist (`Files.Tree`).
-/

namespace ContentGraph.Files

/-- A component of a path. -/
inductive Component where
  | root
  | current
  | parent
  | normal (name : String)
deriving DecidableEq

/-- The component of a part between separators, which may be none. -/
def Component.ofPart? (part : List Char) : Option Component :=
  match part with
  | [] => none
  | ['.'] => none
  | ['.', '.'] => some .parent
  | name => some (.normal (String.ofList name))

/-- Whether a component is a part between separators, and not only how a path starts. -/
def Component.isPart : Component -> Bool
  | .parent | .normal _ => true
  | .root | .current => false

/-- The components of the parts of a path. -/
def bodyComponents (path : List Char) : List Component :=
  (Text.splitAt '/' path).filterMap Component.ofPart?

/-- The component that the start of a path stands for by itself. -/
def leadComponents : List Char -> List Component
  | '/' :: _ => [.root]
  | ['.'] => [.current]
  | '.' :: '/' :: _ => [.current]
  | _ => []

/-- The components of a path. -/
def components (path : String) : List Component :=
  leadComponents path.toList ++ bodyComponents path.toList

/-- The last component, when it is a name. -/
def fileName? (path : String) : Option String :=
  match (components path).getLast? with
  | some (.normal name) => some name
  | _ => none

/-- A file name cut at its last point, unless that is its first character. -/
def splitExtension (name : String) : String × Option String :=
  match Text.splitAtLast? '.' name.toList with
  | some (before, after) =>
      if before.isEmpty then (name, none)
      else (String.ofList before, some (String.ofList after))
  | none => (name, none)

/-- The file name without its extension. -/
def fileStem? (path : String) : Option String :=
  (fileName? path).map fun name => (splitExtension name).1

/-- The extension of the file name. -/
def extension? (path : String) : Option String :=
  (fileName? path).bind fun name => (splitExtension name).2

/-- A path below another; an absolute path stands for itself. -/
def join (base path : String) : String :=
  if path.toList.head? = some '/' || base.isEmpty then path
  else if base.toList.getLast? = some '/' then base ++ path
  else base ++ "/" ++ path

/-- Drops separators and single points at the start of a path. -/
def dropLeading : List Char -> List Char
  | '/' :: rest => dropLeading rest
  | '.' :: '/' :: rest => dropLeading rest
  | ['.'] => []
  | path => path

/-- What is left of a path after a number of its parts. -/
def dropParts : Nat -> List Char -> List Char
  | 0, path => dropLeading path
  | count + 1, path => dropParts count ((dropLeading path).dropWhile (· ≠ '/'))

/-- The part of a path below a base, when it starts with the components of the base. -/
def below (base path : String) : String :=
  let top := components base
  if !top.isEmpty && top.isPrefixOf (components path) then
    String.ofList (dropParts (top.countP Component.isPart) path.toList)
  else path

/-- The names of a relative path without steps upwards. -/
def relativeNames? (path : String) : Option (List String) :=
  (components path).foldr
    (fun component names =>
      match component with
      | .normal name => names.map (name :: ·)
      | .current => names
      | _ => none)
    (some [])

end ContentGraph.Files
