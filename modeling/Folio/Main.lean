import Folio.Command.Help

/-!
# The program

Reads the files that a command may look at, runs the command on them, and writes what it leaves behind.
Files are looked for in the working directory and in the directories that the arguments name. Links
are passed over, as a file tree holds none.
-/

namespace Folio.Main

/-- What is below an entry of a directory. Links, and entries that cannot be read, are passed over. -/
partial def snapshot (entry : IO.FS.DirEntry) : IO (Option (Text × Node)) := do
  let name := entry.fileName.toList
  try
    match (← entry.path.symlinkMetadata).type with
    | .dir =>
      let entries ← (← entry.path.readDir).toList.filterMapM snapshot
      return some (name, .directory entries)
    | .file =>
      let bytes ← IO.FS.readBinFile entry.path
      return some (name, .file ((String.fromUTF8? bytes).map String.toList))
    | _ => return none
  catch _ => return none

def addDirectory (tree : FileTree) (directory : Path) : IO FileTree := do
  try
    let path ← IO.FS.realPath (String.ofList directory)
    let entries ← (← path.readDir).toList.filterMapM snapshot
    return tree.insert directory (.directory entries)
  catch _ => return tree

def canonical? (directory : Path) : IO (Option Path) := do
  try return some (← IO.FS.realPath (String.ofList directory)).toString.toList
  catch _ => return none

def isBelow (outer inner : Path) : Bool := inner ≠ outer && outer.names.isPrefixOf inner.names

def directoriesOf (invocation : Command.Invocation) : List Path :=
  let root := invocation.root.getD "./".toList
  let files := match invocation.command with
    | .parse file _ => [file]
    | .render template page _ => template :: page.toList
    | .sanitize _ _ => []
  root :: (invocation.config :: files).map fun file => Path.directory (Path.join root file)

def filesFor (args : List Text) : IO FileTree := do
  let here := (← IO.currentDir).toString.toList
  let tree : FileTree := { root := .directory [], workingDirectory := here }
  match Command.ofArguments args with
  | .error _ => return tree
  | .ok invocation =>
    let directories := (← (here :: directoriesOf invocation).filterMapM canonical?).eraseDups
    -- what lies below a directory is read with it
    let outermost := directories.filter fun d => !directories.any (isBelow · d)
    outermost.foldlM addDirectory tree

end Folio.Main

def main (args : List String) : IO UInt32 := do
  let args := args.map String.toList
  let output := Folio.Command.run (← Folio.Main.filesFor args) args
  IO.print (String.ofList output.stdout)
  IO.eprint (String.ofList output.stderr)
  return output.code.toUInt32
