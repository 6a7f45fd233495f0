import ParallelCorpus.FileTree.Walk
import ParallelCorpus.Stream.Input
import ParallelCorpus.Stream.Output

/-!
# Opening, writing and removing files

Reading follows links. Writing follows them too, and makes the file where a path leads
to an empty place; a path that ends in a slash names no file to write. Removing never
follows the last link: what goes is the entry that the path itself names.
-/

namespace ParallelCorpus

open Text (Bytes)

namespace FileTree

/-- What reading from a device gives. Reading from a full device or from the standard
output need never end, and then gives nothing that could be described; it is taken for a
fault here. -/
def deviceInput : Device → Input
  | .null => .text []
  | .broken readable => .failing readable .deviceError
  | .full | .standardOutput => .failing [] .deviceError

/-- What becomes of bytes written to a device. Those for the standard output are no part
of the tree any more. -/
def deviceMedium : Device → Medium
  | .null | .standardOutput => .drain
  | .full => .refusing .noSpace
  | .broken _ => .refusing .deviceError

/-- Opens a file for reading. A directory can be opened but has no lines, so it is
refused. -/
def openInput (tree : FileTree) (path : Path) : Except FileFault Input := do
  match ← tree.status path with
  | .file content => return .text content
  | .directory => throw (.other "is a directory")
  | .device kind => return deviceInput kind
  | .link _ => throw .tooManyLinks

/-- A file opened for writing: where it stands and what becomes of the bytes. -/
structure Handle where
  location : Location
  medium : Medium
  deriving DecidableEq, Repr

/-- Opens a file for writing, and makes it where there is none. -/
def openOutput (tree : FileTree) (path : Path) :
    Except FileFault (Handle × FileTree) := do
  let site ← tree.locate .write path
  match tree.get? site.location with
  | none => return (⟨site.location, .file⟩, tree.create site.location (.file []))
  | some (.file _) => return (⟨site.location, .file⟩, tree)
  | some (.device kind) => return (⟨site.location, deviceMedium kind⟩, tree)
  | some .directory => throw .isADirectory
  | some (.link _) => throw .tooManyLinks

def content? (tree : FileTree) (location : Location) : Option Bytes :=
  match tree.get? location with
  | some (.file content) => some content
  | _ => none

def append (tree : FileTree) (location : Location) (bytes : Bytes) : FileTree :=
  match tree.content? location with
  | some content => tree.put location (.file (content ++ bytes))
  | none => tree

/-- The tree after an output that was opened as `handle` was closed. -/
def receive (tree : FileTree) (handle : Handle) (output : Output) : FileTree :=
  match handle.medium with
  | .file => tree.append handle.location output.handed
  | _ => tree

def writeFile (tree : FileTree) (path : Path) (content : Bytes) :
    Except FileFault Unit × FileTree :=
  match tree.openOutput path with
  | .error fault => (.error fault, tree)
  | .ok (handle, opened) =>
    match handle.medium with
    | .file => (.ok (), opened.put handle.location (.file content))
    | .drain => (.ok (), opened)
    | .refusing fault => (if content.isEmpty then .ok () else .error fault, opened)

/-- Removes the entry that a path names, which is no directory. -/
def remove (tree : FileTree) (path : Path) : Except FileFault FileTree := do
  let site ← tree.locate .remove path
  if !site.named then throw .isADirectory
  match tree.get? site.location with
  | none => throw .notFound
  | some .directory => throw .isADirectory
  | some _ => if site.slash then throw .notADirectory else return tree.erase site.location

end FileTree
end ParallelCorpus
