import ParallelCorpus.Document
import ParallelCorpus.FileTree.Walk

/-!
# Discovery

Documents are looked for below the source directory, through real directories only: a
link is followed where it is the source directory itself and nowhere below. What is
found are files and links that do not lead to a directory; a link that leads nowhere is
found too, so that opening it reports the loss. A directory whose path has become too
long to follow is passed over. Documents come in the order in which directories list
them.
-/

namespace ParallelCorpus

inductive Sighting
  /-- A file, or a link that does not lead to a directory. -/
  | file (path : Path)
  /-- A directory that could not be listed. -/
  | closed (directory : Path) (fault : FileFault)
  deriving DecidableEq, Repr

namespace Sighting

def file? : Sighting → Option Path
  | file path => some path
  | closed .. => none

def closed? : Sighting → Option (Path × FileFault)
  | file _ => none
  | closed directory fault => some (directory, fault)

end Sighting

namespace FileTree

/-- What a search comes upon under one name in a directory. A directory that can be
listed is handed to `enter`. The paths continue the one by which the directory was
reached. -/
def sightingsAt (tree : FileTree) (enter : Location → Path → List Sighting)
    (directory : Location) (path : Path) (name : Name) : List Sighting :=
  let inner := path.join ⟨name.text⟩
  match tree.get? (name :: directory) with
  | some .directory =>
    match tree.status inner with
    | .error fault => [.closed inner fault]
    | .ok _ => enter (name :: directory) inner
  | some (.link _) => if tree.isDirectory inner then [] else [.file inner]
  | some entry => if entry.isRegular then [.file inner] else []
  | none => []

/-- What a search below a directory comes upon, down to `depth` levels further. -/
def sightingsBelow (tree : FileTree) : Nat → Location → Path → List Sighting
  | 0, directory, path =>
    (tree.names directory).flatMap (tree.sightingsAt (fun _ _ => []) directory path)
  | depth + 1, directory, path =>
    (tree.names directory).flatMap
      (tree.sightingsAt (tree.sightingsBelow depth) directory path)

/-- What a search from a path comes upon: what is below a directory, or the file that
the path names. A path that leads nowhere gives nothing. -/
def sightings (tree : FileTree) (path : Path) : List Sighting :=
  match tree.locate .read path, tree.status path, tree.ownStatus path with
  | .ok site, .ok .directory, _ => tree.sightingsBelow tree.depth site.location path
  | _, .ok _, .ok (.link _) => [.file path]
  | _, .ok _, .ok entry => if entry.isRegular then [.file path] else []
  | _, _, _ => []

end FileTree

/-- The documents below a directory: the files whose names end with `suffix`. -/
def findDocuments (tree : FileTree) (sourceDir : Path) (suffix : String) : List Path :=
  ((tree.sightings sourceDir).filterMap Sighting.file?).filter (·.hasSuffix suffix)

def passedOver (tree : FileTree) (sourceDir : Path) : List (Path × FileFault) :=
  (tree.sightings sourceDir).filterMap Sighting.closed?

def discoverPairs (tree : FileTree) (sourceDir targetDir : Path) (suffix : String)
    (lookup : Lookup) : List DocumentPair :=
  (findDocuments tree sourceDir suffix).map fun source =>
    ⟨source, lookup.counterpart source sourceDir targetDir⟩

end ParallelCorpus
