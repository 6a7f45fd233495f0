import ParallelCorpus.FileTree.Name
import ParallelCorpus.Text.Bytes

/-!
# File trees

The files that a run works on, as one value. An entry is stored under its location, the
names that lead to it from the innermost outwards, so that the directory holding an
entry is the tail of its location. Entries are kept in the order in which directories
list them: what is put into a tree comes last, a file that comes into being by being
opened comes first.

A tree is only what a run can see of a disk. There are no access rights, so nothing
fails for want of them; names are texts, and a name of other bytes has no place here; no
two locations share one file. Of the devices the standard output is what is printed on,
a terminal or a pipe, and nothing that keeps what it is given.
-/

namespace ParallelCorpus

open Text (Bytes)

/-- A device, for what it makes of reading and writing. -/
inductive Device
  /-- Reads as empty and takes everything. -/
  | null
  /-- Has no room for anything. -/
  | full
  /-- Opens like a regular file, but cannot be read beyond its first bytes, nor
  written. -/
  | broken (readable : Bytes)
  /-- The standard output of the program that is run. -/
  | standardOutput
  deriving DecidableEq, Repr

inductive Entry
  | file (content : Bytes)
  | directory
  /-- A symbolic link with the path that it names. -/
  | link (target : String)
  | device (kind : Device)
  deriving DecidableEq, Repr

def Entry.isRegular : Entry → Bool
  | file _ | device (.broken _) => true
  | _ => false

/-- All entries below the root, each location once, and the directory that relative
paths start from. -/
structure FileTree where
  entries : List (Location × Entry)
  base : Location
  distinct : (entries.map Prod.fst).Nodup

namespace FileTree

/-- What stands at a location; the root is always a directory. -/
def get? (tree : FileTree) (location : Location) : Option Entry :=
  if location = [] then some .directory else tree.entries.lookup location

def replaceAt (location : Location) (entry : Entry) (stored : Location × Entry) :
    Location × Entry :=
  if stored.1 = location then (location, entry) else stored

theorem fst_replaceAt (location : Location) (entry : Entry) (stored : Location × Entry) :
    (replaceAt location entry stored).1 = stored.1 := by
  unfold replaceAt
  split
  · rename_i same
    exact same.symm
  · rfl

theorem map_fst_replaceAt (location : Location) (entry : Entry)
    (entries : List (Location × Entry)) :
    (entries.map (replaceAt location entry)).map Prod.fst = entries.map Prod.fst := by
  simp only [List.map_map]
  exact List.map_congr_left fun stored _ => fst_replaceAt location entry stored

/-- The tree with an entry put at a location, in the place of the one that stood there. -/
def put (tree : FileTree) (location : Location) (entry : Entry) : FileTree :=
  if present : location ∈ tree.entries.map Prod.fst then
    { tree with
      entries := tree.entries.map (replaceAt location entry)
      distinct := by
        rw [map_fst_replaceAt]
        exact tree.distinct }
  else
    { tree with
      entries := tree.entries ++ [(location, entry)]
      distinct := by
        rw [List.map_append, List.nodup_append]
        refine ⟨tree.distinct, by simp, ?_⟩
        intro stored isStored added isAdded same
        simp only [List.map_cons, List.map_nil, List.mem_singleton] at isAdded
        exact present (isAdded ▸ same ▸ isStored) }

/-- The tree with an entry made at a location, listed before all others. -/
def create (tree : FileTree) (location : Location) (entry : Entry) : FileTree :=
  if present : location ∈ tree.entries.map Prod.fst then
    tree.put location entry
  else
    { tree with
      entries := (location, entry) :: tree.entries
      distinct := by
        rw [List.map_cons, List.nodup_cons]
        exact ⟨present, tree.distinct⟩ }

def erase (tree : FileTree) (location : Location) : FileTree :=
  { tree with
    entries := tree.entries.filter fun stored => stored.1 != location
    distinct := tree.distinct.sublist (List.filter_sublist.map Prod.fst) }

def eraseBelow (tree : FileTree) (location : Location) : FileTree :=
  { tree with
    entries := tree.entries.filter fun stored => !location.isSuffixOf stored.1
    distinct := tree.distinct.sublist (List.filter_sublist.map Prod.fst) }

/-- The names in a directory, in the order in which it lists them. -/
def names (tree : FileTree) (directory : Location) : List Name :=
  tree.entries.filterMap fun stored =>
    match stored.1 with
    | [] => none
    | name :: parent => if parent = directory then some name else none

/-- The number of names that lead to the deepest entry. -/
def depth (tree : FileTree) : Nat :=
  (tree.entries.map fun stored => stored.1.length).foldr max 0

def devices : Location := [⟨"dev", by decide⟩]

def process : Location := [⟨"self", by decide⟩, ⟨"proc", by decide⟩]

/-- The files that a running program has open, by their numbers. -/
def openFiles : Location := ⟨"fd", by decide⟩ :: process

def workplace : Location := [⟨"work", by decide⟩]

/-- The devices of every system, and an empty directory to work in. -/
def fresh : FileTree where
  entries :=
    [ (devices, .directory),
      (⟨"null", by decide⟩ :: devices, .device .null),
      (⟨"full", by decide⟩ :: devices, .device .full),
      (⟨"stdout", by decide⟩ :: devices, .link "/proc/self/fd/1"),
      (process.tail, .directory),
      (process, .directory),
      (⟨"mem", by decide⟩ :: process, .device (.broken [])),
      (openFiles, .directory),
      (⟨"1", by decide⟩ :: openFiles, .device .standardOutput),
      (workplace, .directory) ]
  base := workplace
  distinct := by decide

end FileTree
end ParallelCorpus
