import ParallelCorpus.FileTree.Changes
import ParallelCorpus.Job.Basic

/-!
# Trees on disk

A job is run on a tree that is read from disk beforehand, and what the run changed in
the tree is written back afterwards. Only what the job can look at is read: the two
language directories with everything below them and behind links, the places of the
outputs, and the way to each. Links are recorded with the place where they end, since
that is what the system tells. The standard output is known by its names alone, as what
it leads to has no place on disk.
-/

namespace ParallelCorpus

namespace Disk

def locationOf (path : String) : Location :=
  ((Route.ofText path).steps.filterMap Name.ofText?).reverse

/-- What a special file makes of reading and writing, as far as its name tells. -/
def deviceAt (location : Location) : Device :=
  if location.path = "/dev/null" then .null
  else if location.path = "/dev/full" then .full
  else .broken []

/-- Whether a location is one of those under which a program finds its own standard
output. -/
def isStandardOutput (location : Location) : IO Bool := do
  if location.path = "/dev/stdout" then return true
  match ← (IO.FS.realPath (System.mkFilePath [FileTree.openFiles.path])).toBaseIO with
  | .ok own => return location.path = own.toString ++ "/1"
  | .error _ => return false

/-- What stands on disk at a location. A link that leads nowhere names the empty path. -/
def entryOnDisk (location : Location) : IO (Option Entry) := do
  if ← isStandardOutput location then return some (.device .standardOutput)
  let place := System.mkFilePath [location.path]
  match ← place.symlinkMetadata.toBaseIO with
  | .error _ => return none
  | .ok found =>
    match found.type with
    | .dir => return some .directory
    | .other => return some (.device (deviceAt location))
    | .file =>
      match ← (IO.FS.readBinFile place).toBaseIO with
      | .ok content => return some (.file content.toList)
      | .error _ => return some (.device (.broken []))
    | .symlink =>
      match ← (IO.FS.realPath place).toBaseIO with
      | .ok target => return some (.link target.toString)
      | .error _ => return some (.link "")

/-- The tree with what stands at a location, at the end of a link there, and on the way
to both. -/
partial def record (tree : FileTree) (location : Location) : IO FileTree := do
  if (tree.get? location).isSome then return tree
  let tree ← record tree location.tail
  match ← entryOnDisk location with
  | none => return tree
  | some (.link target) =>
    let tree := tree.put location (.link target)
    if target = "" then return tree else record tree (locationOf target)
  | some entry => return tree.put location entry

/-- The tree with what stands at the end of a path and on the way to it. -/
def visit (tree : FileTree) (path : Path) : IO FileTree :=
  (FileTree.waypoints (.ofText path.text) ++ [path]).foldlM
    (fun tree reached =>
      match tree.locate .remove reached with
      | .ok site => record tree site.location
      | .error _ => return tree)
    tree

def recordEntry (tree : FileTree) (directory : Location) (name : String) : IO FileTree :=
  match Name.ofText? name with
  | some name => record tree (name :: directory)
  | none => return tree

/-- The tree with all that a path leads to, and the directories that have been listed on
the way; none is listed twice. What a directory lists is recorded even if its path is
too long to follow. -/
partial def explore (explored : FileTree × List Location) (path : Path) :
    IO (FileTree × List Location) := do
  let (before, listed) := explored
  let tree ← visit before path
  match tree.locate .read path with
  | .error _ => return (tree, listed)
  | .ok site =>
    if tree.get? site.location ≠ some .directory ∨ site.location ∈ listed then
      return (tree, listed)
    let place := System.mkFilePath [site.location.path]
    match ← place.readDir.toBaseIO with
    | .error _ => return (tree, listed)
    | .ok inner =>
      inner.foldlM
        (fun (tree, listed) entry => do
          let tree ← recordEntry tree site.location entry.fileName
          explore (tree, listed) (path.join ⟨entry.fileName⟩))
        (tree, site.location :: listed)

def read (job : Job) : IO FileTree := do
  let base ← IO.currentDir
  let vacant : FileTree := ⟨[], locationOf base.toString, List.nodup_nil⟩
  let start ← record vacant vacant.base
  let (tree, _) ← [job.sourceDir, job.targetDir].foldlM explore (start, [])
  ([job.outputs.source, job.outputs.target] ++ job.summaryJson.toList).foldlM visit tree

/-- Writes back what has changed between two trees that were read from one disk. Runs
change regular files only. -/
def write (before after : FileTree) : IO Unit :=
  (FileTree.changes { before with base := [] } { after with base := [] }).forM
    fun (path, entry) =>
    let place := System.mkFilePath ["/" ++ path]
    match entry with
    | some (.file content) => IO.FS.writeBinFile place ⟨content.toArray⟩
    | none => IO.FS.removeFile place
    | some _ => return

end Disk
end ParallelCorpus
