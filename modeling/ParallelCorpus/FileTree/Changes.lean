import ParallelCorpus.FileTree.Walk

/-!
# Building and comparing trees

A tree is built by placing entries under paths, with the directories on the way. Two
trees over the same working directory are compared entry by entry: what differs are the
entries that are new or have become different, and those that are gone.
-/

namespace ParallelCorpus

namespace FileTree

/-- The paths of the directories on the way to a route's last name, outermost first. -/
def waypoints (route : Route) : List Path :=
  let start := if route.absolute then "/" else ""
  ((List.range route.steps.length).drop 1).map fun count =>
    ⟨start ++ "/".intercalate (route.steps.take count)⟩

/-- The tree with a directory where a path leads to an empty place. -/
def makeDirectory (tree : FileTree) (path : Path) : FileTree :=
  match tree.locate .read path with
  | .ok site =>
    if (tree.get? site.location).isNone then tree.put site.location .directory else tree
  | .error _ => tree

/-- The tree with an entry at the end of a path. A file goes where links lead; any other
entry takes the place of a link. -/
def place (tree : FileTree) (path : Path) (entry : Entry) : FileTree :=
  let purpose := match entry with
    | .file _ => Purpose.read
    | _ => .remove
  let ready := (waypoints (.ofText path.text)).foldl makeDirectory tree
  match ready.locate purpose path with
  | .ok site => if site.location = [] then ready else ready.put site.location entry
  | .error _ => ready

def discard (tree : FileTree) (path : Path) : FileTree :=
  match tree.locate .remove path with
  | .ok site => tree.eraseBelow site.location
  | .error _ => tree

/-- The path by which a location below the working directory is reached from there. -/
def pathFromBase? (tree : FileTree) (location : Location) : Option String :=
  if tree.base.isSuffixOf location && location.length != tree.base.length then
    let inner := location.take (location.length - tree.base.length)
    some ("/".intercalate (inner.reverse.map Name.text))
  else
    none

/-- The entries below the working directory that `before` does not have like this, by
their paths, with nothing where an entry is gone. -/
def changes (before after : FileTree) : List (String × Option Entry) :=
  let made := after.entries.filterMap fun (location, entry) =>
    if before.get? location = some entry then none
    else (after.pathFromBase? location).map fun path => (path, some entry)
  let gone := before.entries.filterMap fun (location, _) =>
    if (after.get? location).isSome then none
    else (before.pathFromBase? location).map fun path => (path, none)
  (made ++ gone).mergeSort fun a b => decide (a.1 ≤ b.1)

end FileTree
end ParallelCorpus
