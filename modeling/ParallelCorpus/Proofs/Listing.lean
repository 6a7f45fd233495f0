import Mathlib.Data.List.MinMax
import Mathlib.Data.List.Nodup
import Mathlib.Data.List.Perm.Basic
import Mathlib.Order.Nat
import ParallelCorpus.Discovery
import ParallelCorpus.Proofs.Unread

/-!
# Listing directories

A directory lists the names of what stands in it, each once, in an order of its own.
Two trees in which the same stands everywhere treat every path alike; they may differ in
the order of listing only, and so the documents found in one are those found in the
other, in another order perhaps.  Where the order is the same too, nothing tells the
trees apart, and filtering comes to the same.
-/

namespace ParallelCorpus

open FileTree (SameWays)

namespace FileTree

/-! ## Names -/

/-- The name under which a directory lists what stands at a location, if it does. -/
def nameIn (directory : Location) : Location → Option Name
  | [] => none
  | name :: parent => if parent = directory then some name else none

theorem names_eq (tree : FileTree) (directory : Location) :
    tree.names directory = (tree.entries.map Prod.fst).filterMap (nameIn directory) := by
  rw [List.filterMap_map]
  rfl

theorem nameIn_eq_some_iff {directory location : Location} {name : Name} :
    nameIn directory location = some name ↔ location = name :: directory := by
  cases location with
  | nil => simp [nameIn]
  | cons first parent =>
      by_cases hparent : parent = directory
      · simp [nameIn, hparent]
      · simp [nameIn, hparent]

/-- Something stands below the root where an entry is stored, and nowhere else. -/
theorem isSome_get?_iff {tree : FileTree} {location : Location} (hbelow : location ≠ []) :
    (tree.get? location).isSome ↔ location ∈ tree.entries.map Prod.fst := by
  rw [get?, if_neg hbelow]
  constructor
  · intro hstands
    apply Classical.byContradiction
    intro habsent
    rw [lookup_eq_none habsent] at hstands
    cases hstands
  · intro hstored
    rw [Option.isSome_iff_ne_none, Ne, List.lookup_eq_none_iff]
    intro hdiffers
    obtain ⟨stored, hmem, rfl⟩ := List.mem_map.1 hstored
    simpa using hdiffers stored hmem

theorem mem_names_iff {tree : FileTree} {directory : Location} {name : Name} :
    name ∈ tree.names directory ↔ (tree.get? (name :: directory)).isSome := by
  rw [names_eq, List.mem_filterMap, isSome_get?_iff (List.cons_ne_nil name directory)]
  simp only [nameIn_eq_some_iff, exists_eq_right]

theorem nodup_names (tree : FileTree) (directory : Location) :
    (tree.names directory).Nodup := by
  rw [names_eq]
  refine List.Nodup.filterMap ?_ tree.distinct
  intro location other name hname hother
  rw [Option.mem_def, nameIn_eq_some_iff] at hname hother
  rw [hname, hother]

/-- Nothing stands deeper than the tree is deep. -/
theorem length_le_depth {tree : FileTree} {location : Location}
    (hstands : (tree.get? location).isSome) : location.length ≤ tree.depth := by
  by_cases hroot : location = []
  · rw [hroot]
    exact Nat.zero_le _
  · rw [isSome_get?_iff hroot] at hstands
    obtain ⟨stored, hstored, rfl⟩ := List.mem_map.1 hstands
    exact List.le_max_of_le (List.mem_map_of_mem hstored) (Nat.le_refl _)

/-! ## What changes do to a listing -/

theorem names_erase (tree : FileTree) (gone directory : Location) :
    (tree.erase gone).names directory =
      (tree.names directory).filter fun name => name :: directory != gone := by
  have hkept : (tree.erase gone).entries.map Prod.fst =
      (tree.entries.map Prod.fst).filter (· != gone) := by
    rw [List.filter_map]
    rfl
  rw [names_eq, names_eq, hkept, List.filterMap_filter, List.filter_filterMap]
  congr 1
  funext location
  cases hname : nameIn directory location with
  | none => simp
  | some name => simp [nameIn_eq_some_iff.1 hname, Option.filter]

/-- What comes into being where nothing stood is listed first. -/
theorem names_create {tree : FileTree} {location : Location}
    (hvacant : tree.get? location = none) (entry : Entry) (directory : Location) :
    (tree.create location entry).names directory =
      (nameIn directory location).toList ++ tree.names directory := by
  have habsent : location ∉ tree.entries.map Prod.fst := by
    rw [← isSome_get?_iff (ne_nil_of_signpost (by rw [hvacant]; rfl)), hvacant]
    exact Bool.false_ne_true
  rw [create, dif_neg habsent, names_eq, names_eq, List.map_cons, List.filterMap_cons]
  cases nameIn directory location <;> rfl

theorem names_append (tree : FileTree) (location : Location) (bytes : Text.Bytes)
    (directory : Location) :
    (tree.append location bytes).names directory = tree.names directory := by
  rw [append, content?]
  rcases hentry : tree.get? location with _ | (_ | _ | _ | _)
  · rfl
  · have hbelow : location ≠ [] := ne_nil_of_signpost (by rw [hentry]; rfl)
    have hstored : location ∈ tree.entries.map Prod.fst := by
      rw [← isSome_get?_iff hbelow, hentry]
      rfl
    simp only
    rw [put, dif_pos hstored, names_eq, names_eq, map_fst_replaceAt]
  · rfl
  · rfl
  · rfl

/-- Opening an output makes a file where nothing stands, and changes nothing otherwise. -/
theorem eq_of_openOutput {tree opened : FileTree} {path : Path} {handle : Handle}
    (hopen : tree.openOutput path = .ok (handle, opened)) :
    opened =
      if tree.get? handle.location = none then tree.create handle.location (.file [])
      else tree := by
  rw [openOutput, bind_eq_ok_iff] at hopen
  obtain ⟨site, -, hopen⟩ := hopen
  split at hopen
  · rename_i hvacant
    cases hopen
    exact (if_pos hvacant).symm
  · rename_i content hfile
    cases hopen
    exact (if_neg (by rw [hfile]; exact Option.some_ne_none _)).symm
  · rename_i kind hdevice
    cases hopen
    exact (if_neg (by rw [hdevice]; exact Option.some_ne_none _)).symm
  · cases hopen
  · cases hopen

theorem names_receive (tree : FileTree) (handle : Handle) (output : Output)
    (directory : Location) :
    (tree.receive handle output).names directory = tree.names directory := by
  rw [receive]
  split
  · exact names_append tree handle.location output.handed directory
  · rfl

/-! ## Trees with the same entries -/

/-- Two trees in which the same stands everywhere. -/
structure SameEntries (tree other : FileTree) : Prop where
  base : other.base = tree.base
  entry : ∀ location, other.get? location = tree.get? location

namespace SameEntries

variable {tree other : FileTree}

theorem symm (hsame : SameEntries tree other) : SameEntries other tree :=
  ⟨hsame.base.symm, fun location => (hsame.entry location).symm⟩

/-- Wherever one looks, the two are alike. -/
theorem alike (hsame : SameEntries tree other) : Alike (fun _ => True) tree other :=
  ⟨hsame.base, fun location _ => hsame.entry location,
    fun location => .inl (hsame.entry location)⟩

theorem of_alike (halike : Alike (fun _ => True) tree other) : SameEntries tree other :=
  ⟨halike.base, fun location => halike.read location trivial⟩

theorem locate_eq (hsame : SameEntries tree other) (purpose : Purpose) (path : Path) :
    other.locate purpose path = tree.locate purpose path :=
  hsame.alike.locate_eq purpose path

theorem entryAt_eq (hsame : SameEntries tree other) (site : Site) :
    other.entryAt site = tree.entryAt site := by
  rw [entryAt, entryAt, hsame.entry]

theorem status_eq (hsame : SameEntries tree other) (path : Path) :
    other.status path = tree.status path := by
  simp only [status, hsame.locate_eq, hsame.entryAt_eq]

theorem ownStatus_eq (hsame : SameEntries tree other) (path : Path) :
    other.ownStatus path = tree.ownStatus path := by
  simp only [ownStatus, hsame.locate_eq, hsame.entryAt_eq]

theorem isDirectory_eq (hsame : SameEntries tree other) (path : Path) :
    other.isDirectory path = tree.isDirectory path := by
  rw [isDirectory, isDirectory, hsame.status_eq]

theorem sameFile_iff (hsame : SameEntries tree other) {path path' : Path} :
    other.SameFile path path' ↔ tree.SameFile path path' := by
  simp only [SameFile, hsame.locate_eq]

/-! ## What is found in them -/

/-- What is come upon under a name is the same up to order when what is come upon behind
a directory is. -/
theorem sightingsAt_perm {tree : FileTree}
    {enter enter' : Location → Path → List Sighting}
    (henter : ∀ directory path, (enter' directory path).Perm (enter directory path))
    (directory : Location) (path : Path) (name : Name) :
    (tree.sightingsAt enter' directory path name).Perm
      (tree.sightingsAt enter directory path name) := by
  rw [sightingsAt, sightingsAt]
  split
  · split
    · exact .refl _
    · exact henter _ _
  · exact .refl _
  · exact .refl _
  · exact .refl _

theorem names_perm (hsame : SameEntries tree other) (directory : Location) :
    (other.names directory).Perm (tree.names directory) := by
  apply (List.perm_ext_iff_of_nodup (nodup_names other directory)
    (nodup_names tree directory)).2
  intro name
  rw [mem_names_iff, mem_names_iff, hsame.entry]

theorem depth_le (hsame : SameEntries tree other) : tree.depth ≤ other.depth := by
  rw [depth]
  apply List.max_le_of_forall_le
  intro count hcount
  obtain ⟨stored, hstored, rfl⟩ := List.mem_map.1 hcount
  by_cases hroot : stored.1 = []
  · rw [hroot]
    exact Nat.zero_le _
  · have hmem : stored.1 ∈ tree.entries.map Prod.fst := List.mem_map_of_mem hstored
    rw [← isSome_get?_iff hroot, ← hsame.entry] at hmem
    exact length_le_depth hmem

theorem depth_eq (hsame : SameEntries tree other) : other.depth = tree.depth :=
  Nat.le_antisymm (depth_le hsame.symm) (depth_le hsame)

theorem sightingsAt_eq (hsame : SameEntries tree other) :
    other.sightingsAt = tree.sightingsAt := by
  funext enter directory path name
  rw [sightingsAt, sightingsAt, hsame.entry, hsame.status_eq, hsame.isDirectory_eq]

theorem sightingsBelow_perm (hsame : SameEntries tree other) (depth : Nat)
    (directory : Location) (path : Path) :
    (other.sightingsBelow depth directory path).Perm
      (tree.sightingsBelow depth directory path) := by
  induction depth generalizing directory path with
  | zero =>
      rw [sightingsBelow, sightingsBelow, hsame.sightingsAt_eq]
      exact (hsame.names_perm directory).flatMap fun name _ => .refl _
  | succ depth ih =>
      rw [sightingsBelow, sightingsBelow, hsame.sightingsAt_eq]
      exact (hsame.names_perm directory).flatMap fun name _ =>
        sightingsAt_perm ih directory path name

theorem sightings_perm (hsame : SameEntries tree other) (path : Path) :
    (other.sightings path).Perm (tree.sightings path) := by
  rw [sightings, sightings, hsame.locate_eq, hsame.status_eq, hsame.ownStatus_eq,
    hsame.depth_eq]
  split
  · exact hsame.sightingsBelow_perm _ _ _
  · exact .refl _
  · exact .refl _
  · exact .refl _

theorem discoverPairs_perm (hsame : SameEntries tree other) (sourceDir targetDir : Path)
    (suffix : String) (lookup : Lookup) :
    (discoverPairs other sourceDir targetDir suffix lookup).Perm
      (discoverPairs tree sourceDir targetDir suffix lookup) :=
  (((hsame.sightings_perm sourceDir).filterMap _).filter _).map _

end SameEntries

/-! ## Trees with the same listings -/

/-- Two trees that nothing tells apart: in both the same stands everywhere, listed in
the same order. -/
structure SameListing (tree other : FileTree) : Prop extends SameEntries tree other where
  names : ∀ directory, other.names directory = tree.names directory

namespace SameListing

variable {tree other : FileTree}

theorem refl (tree : FileTree) : SameListing tree tree :=
  ⟨⟨rfl, fun _ => rfl⟩, fun _ => rfl⟩

theorem sightingsBelow_eq (hsame : SameListing tree other) (depth : Nat) :
    other.sightingsBelow depth = tree.sightingsBelow depth := by
  induction depth with
  | zero =>
      funext directory path
      rw [sightingsBelow, sightingsBelow, hsame.sightingsAt_eq, hsame.names]
  | succ depth ih =>
      funext directory path
      rw [sightingsBelow, sightingsBelow, hsame.sightingsAt_eq, hsame.names, ih]

theorem discoverPairs_eq (hsame : SameListing tree other) (sourceDir targetDir : Path)
    (suffix : String) (lookup : Lookup) :
    discoverPairs other sourceDir targetDir suffix lookup =
      discoverPairs tree sourceDir targetDir suffix lookup := by
  rw [discoverPairs, discoverPairs, findDocuments, findDocuments, sightings, sightings,
    hsame.locate_eq, hsame.status_eq, hsame.ownStatus_eq, hsame.depth_eq,
    hsame.sightingsBelow_eq]

theorem openInput_eq (hsame : SameListing tree other) (path : Path) :
    other.openInput path = tree.openInput path :=
  hsame.alike.openInput_eq fun _ _ => trivial

/-- An output is opened alike in both, and both list it first if it comes into being. -/
theorem openOutput (hsame : SameListing tree other) (path : Path) :
    (∃ fault, tree.openOutput path = .error fault ∧
      other.openOutput path = .error fault) ∨
      ∃ handle opened opened', tree.openOutput path = .ok (handle, opened) ∧
        other.openOutput path = .ok (handle, opened') ∧ SameListing opened opened' := by
  rcases hsame.alike.openOutput (fun _ _ => trivial) with
    hfails | ⟨handle, opened, opened', hopen, hopen', halike⟩
  · exact .inl hfails
  · refine .inr ⟨handle, opened, opened', hopen, hopen', .of_alike halike,
      fun directory => ?_⟩
    rw [eq_of_openOutput hopen, eq_of_openOutput hopen', hsame.entry]
    split
    · rename_i hvacant
      rw [names_create hvacant, names_create ((hsame.entry _).trans hvacant), hsame.names]
    · exact hsame.names directory

theorem receive (hsame : SameListing tree other) (handle : Handle) (output : Output) :
    SameListing (tree.receive handle output) (other.receive handle output) := by
  refine ⟨.of_alike (hsame.alike.receive trivial output), fun directory => ?_⟩
  rw [names_receive, names_receive, hsame.names]

/-- One pair comes to the same in both. -/
theorem filterPair (hsame : SameListing tree other) (rules : Rules) (pair : DocumentPair)
    (outputs : OutputPaths) :
    let run := filterPair rules pair outputs tree
    let run' := ParallelCorpus.filterPair rules pair outputs other
    run'.result = run.result ∧ run'.sourceAdded = run.sourceAdded ∧
      run'.targetAdded = run.targetAdded ∧ SameListing run.tree run'.tree := by
  simp only [ParallelCorpus.filterPair, hsame.openInput_eq]
  cases tree.openInput pair.source with
  | error fault => exact ⟨rfl, rfl, rfl, hsame⟩
  | ok sourceInput =>
  cases tree.openInput pair.target with
  | error fault => exact ⟨rfl, rfl, rfl, hsame⟩
  | ok targetInput =>
  rcases hsame.openOutput outputs.source with
    ⟨fault, hfirst, hfirst'⟩ | ⟨sourceHandle, opened, opened', hfirst, hfirst', hopened⟩
  · simp only [hfirst, hfirst']
    exact ⟨rfl, rfl, rfl, hsame⟩
  simp only [hfirst, hfirst']
  rcases hopened.openOutput outputs.target with
    ⟨fault, hsecond, hsecond'⟩ | ⟨targetHandle, ready, ready', hsecond, hsecond', hready⟩
  · simp only [hsecond, hsecond']
    exact ⟨rfl, rfl, rfl, hopened⟩
  simp only [hsecond, hsecond']
  exact ⟨rfl, rfl, rfl, (hready.receive sourceHandle _).receive targetHandle _⟩

/-- Pairs come to the same in both. -/
theorem filterPairs (hsame : SameListing tree other) (rules : Rules)
    (pairs : List DocumentPair) (outputs : OutputPaths) :
    let run := filterPairs rules outputs pairs tree
    let run' := ParallelCorpus.filterPairs rules outputs pairs other
    run'.reports = run.reports ∧ run'.failure? = run.failure? ∧
      SameListing run.tree run'.tree := by
  induction pairs generalizing tree other with
  | nil => exact ⟨rfl, rfl, hsame⟩
  | cons pair pairs ih =>
      obtain ⟨hresult, hsource, htarget, hnext⟩ := hsame.filterPair rules pair outputs
      simp only [ParallelCorpus.filterPairs, hresult, hsource, htarget]
      cases (ParallelCorpus.filterPair rules pair outputs tree).result with
      | error failure => exact ⟨rfl, rfl, hnext⟩
      | ok tally =>
          obtain ⟨hreports, hfailure, htree⟩ := ih hnext
          exact ⟨by rw [hreports], hfailure, htree⟩

end SameListing

end FileTree
end ParallelCorpus
