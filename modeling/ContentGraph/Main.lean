import ContentGraph.CommandLine

/-!
Contract: the program.

Owns: reading a directory into a tree, printing a report, and writing the files that a command
changed.

Does not own: everything that is decided (`CommandLine`).
-/

namespace ContentGraph.Main

open ContentGraph.CommandLine

/-- The entries below a directory, with their locations.  What cannot be read is passed over. -/
partial def readEntries (path : String) (location : Files.Location) :
    IO (List (Files.Location × Files.Entry)) := do
  let directory ← IO.FS.realPath path
  let nested ← (← directory.readDir).toList.mapM fun item => do
    let inner := location ++ [item.fileName]
    try
      if ← item.path.isDir then
        let below ← readEntries item.path.toString inner
        pure ((inner, Files.Entry.directory) :: below)
      else
        let bytes ← IO.FS.readBinFile item.path
        pure [(inner, Files.Entry.file (Files.Body.ofBytes bytes.toList))]
    catch _ => pure []
  pure nested.flatten

/-- The absolute form of a path that leads somewhere. -/
def absolute? (path : String) : IO (Option String) := do
  try
    let real ← IO.FS.realPath path
    if ← real.pathExists then pure (some real.toString) else pure none
  catch _ => pure none

/-- The tree below a root directory, empty when there is no such directory. -/
def readTree (root : String) : IO Files.Tree := do
  let entries ← try readEntries root [] catch _ => pure []
  pure { home := root, entries }

/-- Writes a file: first beside its place, then into it. -/
def writeFile (path : String) (body : Files.Body) : IO Unit := do
  let temporary := path ++ ".tmp"
  match body with
  | .text text => IO.FS.writeFile temporary text
  | .bytes bytes => IO.FS.writeBinFile temporary ⟨bytes.toArray⟩
  IO.FS.rename temporary path

/-- Brings the directory from one tree to another, which may have more and other files. -/
def save (before after : Files.Tree) : IO Unit :=
  after.entries.forM fun (location, entry) => do
    if before.entry? location ≠ some entry then
      let path := location.foldl Files.join after.home
      match entry with
      | .directory => IO.FS.createDirAll path
      | .file body => writeFile path body

/-- Prints a report and gives its exit code. -/
def emit (report : Report) : IO UInt32 := do
  IO.print report.output
  report.messages.forM fun message => IO.eprintln message
  pure (UInt32.ofNat report.exit)

/-- Runs a command on a root directory. -/
def runOn (root : String) (command : Command) : IO UInt32 := do
  let before ← readTree root
  let random ← IO.getRandomBytes 16
  let firstId := random.toList.foldl (fun total byte => total * 256 + byte.toNat) 0
  match plan before root command firstId with
  | .done report content =>
      save before content.tree
      emit report
  | .write file text next _ =>
      let written ← try IO.FS.writeFile file text; pure true catch _ => pure false
      emit (next written)

end ContentGraph.Main

/-- Runs the command that the arguments ask for. -/
def main (args : List String) : IO UInt32 := do
  match ContentGraph.CommandLine.Invocation.read? args with
  | none => ContentGraph.Main.emit ContentGraph.CommandLine.Report.usage
  | some invocation =>
      let root := (← ContentGraph.Main.absolute? invocation.root).getD invocation.root
      ContentGraph.Main.runOn root invocation.command
