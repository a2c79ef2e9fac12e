import Folio.Files.Path

/-!
# File trees

A file tree is the state of a file system that a program reads. Paths are followed part by part: a
name must be there, and what is followed further must be a directory. A path that leads somewhere has
one canonical form, which lists the names from the root. There are no links in a tree, so every node
has one name in one directory, and no permissions, so what is there can be read.
-/

namespace Folio

inductive FileError where
  | notFound
  | notADirectory
  | isADirectory
  | nameTooLong
  | nameHoldsNul
  | notText
deriving DecidableEq, Inhabited

def FileError.message : FileError → String
  | .notFound => "No such file or directory (os error 2)"
  | .notADirectory => "Not a directory (os error 20)"
  | .isADirectory => "Is a directory (os error 21)"
  | .nameTooLong => "File name too long (os error 36)"
  | .nameHoldsNul => "file name contained an unexpected NUL byte"
  | .notText => "stream did not contain valid UTF-8"

inductive Node where
  /-- A file, with its text if it holds one. -/
  | file (content : Option Text)
  | directory (entries : List (Text × Node))
deriving Inhabited

structure FileTree where
  root : Node
  workingDirectory : Path
deriving Inhabited

namespace Node

def maxNameBytes : Nat := 255

/-- Follows parts of a path from a node. `trail` holds the names on the way from the root and the
directories that they were found in, last one first. -/
def follow (trail : List (Text × Node)) (node : Node) :
    List Text → Except FileError (List (Text × Node) × Node)
  | [] => .ok (trail, node)
  | part :: parts =>
    match node with
    | .file _ => .error .notADirectory
    | .directory entries =>
      if Path.isIdlePart part then follow trail node parts
      else if part = ['.', '.'] then
        match trail with
        -- the root is above itself
        | [] => follow [] node parts
        | (_, above) :: trail => follow trail above parts
      else if maxNameBytes < Text.byteSize part then .error .nameTooLong
      else
        match entries.lookup part with
        | none => .error .notFound
        | some next => follow ((part, node) :: trail) next parts

/-- The entries of a directory after a change of the entry with a name; a missing entry is passed to the
change as an empty directory. -/
def updateEntry (name : Text) (change : Node → Node) : List (Text × Node) → List (Text × Node)
  | [] => [(name, change (.directory []))]
  | entry :: entries =>
    if entry.1 = name then (name, change entry.2) :: entries
    else entry :: updateEntry name change entries

def insert (new : Node) : List Text → Node → Node
  | [], .directory entries =>
    match new with
    | .directory [] => .directory entries
    | new => new
  | [], .file _ => new
  | name :: names, .directory entries => .directory (updateEntry name (insert new names) entries)
  | _ :: _, .file content => .file content

end Node

namespace FileTree

def absolute (tree : FileTree) (p : Path) : Path := Path.join tree.workingDirectory p

def find (tree : FileTree) (p : Path) : Except FileError (Path × Node) :=
  if '\x00' ∈ p then .error .nameHoldsNul
  else if p = [] then .error .notFound
  else do
    let (trail, node) ← tree.root.follow [] (Path.parts (tree.absolute p))
    return ('/' :: Text.join ['/'] (trail.reverse.map Prod.fst), node)

def exists? (tree : FileTree) (p : Path) : Bool := (tree.find p).isOk

def isFile (tree : FileTree) (p : Path) : Bool :=
  match tree.find p with
  | .ok (_, .file _) => true
  | _ => false

def read (tree : FileTree) (p : Path) : Except FileError Text := do
  match ← tree.find p with
  | (_, .file (some content)) => return content
  | (_, .file none) => throw .notText
  | (_, .directory _) => throw .isADirectory

def canonical? (tree : FileTree) (p : Path) : Option Path :=
  match tree.find p with
  | .ok (canonical, _) => some canonical
  | .error _ => none

/-- The canonical form of a path, or the path itself if it leads nowhere. -/
def canonical (tree : FileTree) (p : Path) : Path := (tree.canonical? p).getD p

/-- The names of the directories in a directory, in no particular order. -/
def subdirectories (tree : FileTree) (p : Path) : List Text :=
  match tree.find p with
  | .ok (_, .directory entries) =>
    entries.filterMap fun entry =>
      match entry.2 with
      | .directory _ => some entry.1
      | .file _ => none
  | _ => []

def insert (tree : FileTree) (p : Path) (node : Node) : FileTree :=
  { tree with root := Node.insert node (tree.absolute p).names tree.root }

end FileTree

end Folio
