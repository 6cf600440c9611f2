import ContentGraph.Files.Glob
import ContentGraph.Files.Tree
import ContentGraph.Text.Blank

/-!
Contract: which files of a tree count as content.

Owns:
- the lines of a rule file: a glob that hides, or after an exclamation mark shows, what it
  matches relative to the file's directory;
- the verdict on an entry: the nearest directory whose rules say something decides, and within
  it the last line that matches; `.ignore` files come before `.gitignore` files, and these
  before the exclude file of the repository, both only inside a repository and up to its top;
- an entry without a verdict is hidden when its name starts with a point;
- `Tree.contentBelow`, the files below a directory on whose way nothing is hidden.
-/

namespace ContentGraph.Files

/-- What the rules say of an entry. -/
inductive Verdict where
  | hide
  | keep
deriving DecidableEq

/-- A line of a rule file. -/
structure IgnoreRule where
  verdict : Verdict
  onlyDirectories : Bool
  glob : Glob

namespace IgnoreRule

/-- A text without a suffix, if it has it. -/
def dropSuffix? (suffix text : List Char) : Option (List Char) :=
  if suffix.isSuffixOf text then some (text.take (text.length - suffix.length)) else none

/-- The glob text of a rule: one without separators matches at any depth, and one that ends in
a tree matches what is inside only. -/
def globText (anchored : Bool) (text : List Char) : List Char :=
  let atAnyDepth := "**/".toList.isPrefixOf text || text = "**".toList
  let text :=
    if anchored || text.contains '/' || atAnyDepth then text else "**/".toList ++ text
  if "/**".toList.isSuffixOf text then text ++ "/*".toList else text

/-- The rule of a line; comments, blank lines and faulty globs are none. -/
def ofLine? (line : List Char) : Option IgnoreRule := do
  if line.head? = some '#' then none
  let line := if "\\ ".toList.isSuffixOf line then line else Text.dropEndWhile Text.isBlank line
  if line.isEmpty then none
  let (verdict, anchored, body) :=
    match line with
    | '\\' :: '!' :: rest => (Verdict.hide, false, '!' :: rest)
    | '\\' :: '#' :: rest => (Verdict.hide, false, '#' :: rest)
    | '!' :: '/' :: rest => (Verdict.keep, true, rest)
    | '!' :: rest => (Verdict.keep, false, rest)
    | '/' :: rest => (Verdict.hide, true, rest)
    | rest => (Verdict.hide, false, rest)
  let (onlyDirectories, body) :=
    match dropSuffix? ['/'] body with
    | some body => (true, (dropSuffix? ['\\'] body).getD body)
    | none => (false, body)
  let glob ← Glob.parse? (String.ofList (globText anchored body))
  some ⟨verdict, onlyDirectories, glob⟩

/-- The lines of a file up to the first that is no text. -/
def textLines : Body -> List (List Char)
  | .text content => Text.lines content.toList
  | .bytes content =>
      let rec cut (line : List UInt8) : List UInt8 -> List (List UInt8)
        | [] => if line.isEmpty then [] else [line.reverse]
        | byte :: rest => if byte = 10 then line.reverse :: cut [] rest else cut (byte :: line) rest
      let decoded := (cut [] content).map Text.Utf8.decode?
      let readable := (decoded.takeWhile Option.isSome).filterMap id
      readable.map fun line => (dropSuffix? ['\r'] line.toList).getD line.toList

/-- The rules of a file.  A byte order mark before its first line is dropped. -/
def ofBody (body : Body) : List IgnoreRule :=
  match textLines body with
  | [] => []
  | first :: rest =>
      ((first.dropWhile fun c => c.toNat = 0xFEFF) :: rest).filterMap ofLine?

/-- What rules say of a path relative to their directory: the last that matches decides. -/
def verdict? (rules : List IgnoreRule) (path : String) (isDirectory : Bool) :
    Option Verdict :=
  (rules.reverse.find? fun rule =>
    (!rule.onlyDirectories || isDirectory) && rule.glob.test path).map (·.verdict)

end IgnoreRule

namespace Tree

/-- The rules in a file at a location. -/
def rulesAt (tree : Tree) (location : Location) : List IgnoreRule :=
  match tree.entry? location with
  | some (.file body) => IgnoreRule.ofBody body
  | _ => []

/-- Whether a directory is the top of a repository. -/
def isRepositoryTop (tree : Tree) (directory : Location) : Bool :=
  (tree.entry? (directory ++ [".git"])).isSome

/-- The directories above a location, the nearest first. -/
def directoriesAbove (location : Location) : List Location :=
  ((List.range location.length).map location.take).reverse

/-- The verdict of the nearest directory whose rule file, at a place below it, has one. -/
def nearestVerdict? (tree : Tree) (ruleFile location : Location) (isDirectory : Bool)
    (directories : List Location) : Option Verdict :=
  directories.findSome? fun directory =>
    IgnoreRule.verdict? (tree.rulesAt (directory ++ ruleFile))
      ("/".intercalate (location.drop directory.length)) isDirectory

/-- The directories of a list up to and with the first that is the top of a repository; none
when no directory is. -/
def insideRepository (tree : Tree) (directories : List Location) : List Location :=
  match directories.dropWhile (fun directory => !tree.isRepositoryTop directory) with
  | [] => []
  | top :: _ => directories.takeWhile (fun directory => !tree.isRepositoryTop directory) ++ [top]

/-- Whether the entry at a location is passed over. -/
def isHidden (tree : Tree) (location : Location) : Bool :=
  let isDirectory := tree.isDirectory location
  let above := directoriesAbove location
  let inside := tree.insideRepository above
  let verdict :=
    ((tree.nearestVerdict? [".ignore"] location isDirectory above).or
      (tree.nearestVerdict? [".gitignore"] location isDirectory inside)).or
      (tree.nearestVerdict? [".git", "info", "exclude"] location isDirectory inside)
  match verdict with
  | some verdict => verdict = .hide
  | none => (location.getLast?.bind (·.toList.head?)) = some '.'

/-- The files below a directory, by their names from it, in order.  A file counts when neither
it nor a directory on the way to it is hidden. -/
def contentBelow (tree : Tree) (directory : Location) : List Location :=
  tree.files.filterMap fun (location, _) =>
    if directory.isPrefixOf location && location ≠ directory then
      let depths := (List.range (location.length - directory.length)).map
        (directory.length + 1 + ·)
      if depths.any fun depth => tree.isHidden (location.take depth) then none
      else some (location.drop directory.length)
    else none

end Tree

end ContentGraph.Files
