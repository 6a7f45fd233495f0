import ParallelCorpus.Proofs.AsciiBytes
import ParallelCorpus.Proofs.InputDirectories
import ParallelCorpus.Proofs.Listing
import ParallelCorpus.Proofs.PathComponents

/-!
# What a search finds

A search goes down through real directories, each of a path that can be followed, and
finds what stands in them under any name and is a file or a link that leads to no
directory.  It finds all of that and nothing else, wherever the links of the tree lead,
and comes upon everything once, since a document is reached by one sequence of names
only.
-/

namespace ParallelCorpus

/-! ## Paths that continue with a name -/

theorem Path.inFolder_join_name (path : Path) (name : Name) :
    InFolder path.folder name.text.toList (path.join ⟨name.text⟩) := by
  obtain ⟨hempty, -, -, hplain⟩ := name.plain
  exact ⟨Path.toList_join _ name.isAbsolute_text, Path.folder_folder _, hplain,
    fun hnil => hempty (String.toList_eq_nil_iff.1 hnil)⟩

/-- A name that is joined is one more step of the route. -/
theorem Path.route_join_name {path : Path} (hpath : path.text ≠ "") (name : Name) :
    Route.ofText (path.join ⟨name.text⟩).text =
      ⟨(Route.ofText path.text).absolute, (Route.ofText path.text).steps ++ [name.text],
        false⟩ := by
  have hne : path.text.toList ≠ [] := fun hnil => hpath (String.toList_eq_nil_iff.1 hnil)
  have hfolder : path.folder = path.text.toList ∨
      path.folder = path.text.toList ++ ['/'] := by
    rw [Path.folder]
    split
    · exact .inl rfl
    · exact .inr rfl
  rw [(path.inFolder_join_name name).route, String.ofList_toList]
  rcases hfolder with hsame | hslash
  · rw [hsame, String.ofList_toList]
    rfl
  · have hhead : (path.text.toList ++ ['/']).head? = path.text.toList.head? := by
      obtain ⟨c, text, htext⟩ := List.exists_cons_of_ne_nil hne
      rw [htext]
      rfl
    have hcut : (path.text.toList ++ ['/']).splitOnP (· == '/') =
        path.text.toList.splitOnP (· == '/') ++ [[]] :=
      List.splitOnP_append_cons path.text.toList [] (by rfl)
    rw [hslash, hhead]
    simp only [Route.ofText, String.toList_ofList, hcut, List.filter_append,
      List.map_append]
    simp

namespace FileTree

variable {tree : FileTree}

/-- A walk to a directory goes on to what stands there under a name, unless that is a
link. -/
theorem Reaches.extend {links : Nat} {slash : Bool} {here : Location}
    {steps : List String} {site : Site}
    (hreach : Reaches tree .read links slash here steps site)
    (hsite : tree.get? site.location = some .directory) {name : Name}
    (hplain : ∀ target, tree.get? (name :: site.location) ≠ some (.link target)) :
    Reaches tree .read links false here (steps ++ [name.text])
      ⟨name :: site.location, true, false⟩ := by
  induction hreach with
  | done =>
      exact .last name.ofText?_text rfl fun target hlink => absurd hlink (hplain target)
  | stay _ ih => exact .stay (ih hsite hplain)
  | up _ ih => exact .up (ih hsite hplain)
  | last hname =>
      apply Reaches.enter hname (List.cons_ne_nil _ _) hsite
      exact .last name.ofText?_text rfl fun target hlink => absurd hlink (hplain target)
  | enter hname hrest hentry _ ih =>
      exact .enter hname (List.append_ne_nil_of_left_ne_nil hrest _) hentry
        (ih hsite hplain)
  | @detour links slash here step first rest target site hname hentry
      htarget hlast _ ih =>
      -- With a name behind it the link is no longer in the last place, so its own slash
      -- is dropped.
      have hrest : rest ++ [name.text] ≠ [] :=
        List.append_ne_nil_of_right_ne_nil rest (List.cons_ne_nil _ _)
      have hslash : detourSlash false target (rest ++ [name.text]) = false := by
        rw [detourSlash, List.isEmpty_eq_false_iff.2 hrest, if_neg Bool.false_ne_true]
      apply Reaches.detour hname hentry htarget (fun hnil => absurd hnil hrest)
      rw [hslash, ← List.append_assoc]
      exact ih hsite hplain

/-- A path leads to a directory that stands at a location. -/
structure Opens (tree : FileTree) (path : Path) (directory : Location) : Prop where
  leads : ∃ site, tree.locate .read path = .ok site ∧ site.location = directory
  stands : tree.get? directory = some .directory

theorem opens_of_locate {path : Path} {site : Site}
    (hsite : tree.locate .read path = .ok site)
    (hdirectory : tree.isDirectory path = true) : tree.Opens path site.location :=
  ⟨⟨site, hsite, rfl⟩, get?_of_isDirectory hsite hdirectory⟩

section Opens

variable {path : Path} {directory : Location}
  (hopens : tree.Opens path directory) {name : Name}
include hopens

theorem Opens.text_ne_empty : path.text ≠ "" := by
  obtain ⟨site, hsite, -⟩ := hopens.leads
  exact (locate_eq_ok_iff.1 hsite).1.2.1

theorem Opens.isDirectory : tree.isDirectory path = true := by
  obtain ⟨site, hsite, rfl⟩ := hopens.leads
  exact isDirectory_iff.2 ⟨site, hsite, hopens.stands⟩

/-- The path of a directory continued with a name leads to what stands there, if it can
be followed at all. -/
theorem Opens.locate_join
    (hplain : ∀ target, tree.get? (name :: directory) ≠ some (.link target))
    (hwalk : Walkable (path.join ⟨name.text⟩)) :
    tree.locate .read (path.join ⟨name.text⟩) = .ok ⟨name :: directory, true, false⟩ := by
  obtain ⟨site, hsite, rfl⟩ := hopens.leads
  have hreach := (locate_eq_ok_iff.1 hsite).2.extend hopens.stands hplain
  apply locate_eq_ok_iff.2
  refine ⟨hwalk, ?_⟩
  rw [start, Path.route_join_name hopens.text_ne_empty]
  exact hreach

theorem Opens.join (hentry : tree.get? (name :: directory) = some .directory)
    (hwalk : Walkable (path.join ⟨name.text⟩)) :
    tree.Opens (path.join ⟨name.text⟩) (name :: directory) := by
  refine ⟨⟨_, hopens.locate_join (fun target hlink => ?_) hwalk, rfl⟩, hentry⟩
  rw [hentry] at hlink
  cases hlink

/-- What stands in a directory and is neither a link nor a directory itself is not taken
for one. -/
theorem Opens.isDirectory_join
    (hplain : ∀ target, tree.get? (name :: directory) ≠ some (.link target))
    (hentry : tree.get? (name :: directory) ≠ some .directory) :
    tree.isDirectory (path.join ⟨name.text⟩) = false := by
  rw [← Bool.not_eq_true, isDirectory_iff]
  rintro ⟨site, hsite, hdirectory⟩
  have hwalk := (locate_eq_ok_iff.1 hsite).1
  rw [hopens.locate_join hplain hwalk] at hsite
  cases hsite
  exact hentry hdirectory

end Opens

/-! ## What there is to find -/

/-- Names lead from a directory down through real directories, whose paths can be
followed. -/
def Descends (tree : FileTree) : Location → Path → List Name → Prop
  | _, _, [] => True
  | directory, path, name :: names =>
    tree.get? (name :: directory) = some .directory ∧ Walkable (path.join ⟨name.text⟩) ∧
      tree.Descends (name :: directory) (path.join ⟨name.text⟩) names

/-- A file, or a link whose path leads to no directory, stands at a location. -/
def DocumentAt (tree : FileTree) (location : Location) (path : Path) : Prop :=
  (∃ entry, tree.get? location = some entry ∧ entry.isRegular = true) ∨
    ∃ target, tree.get? location = some (.link target) ∧ tree.isDirectory path = false

/-- Names lead from a directory down to another one, which holds a document under the
last name. -/
structure DocumentBelow (tree : FileTree) (directory : Location) (path : Path)
    (folders : List Name) (last : Name) : Prop where
  way : tree.Descends directory path folders
  entry :
    tree.DocumentAt (last :: (folders.reverse ++ directory))
      (path.descend (folders ++ [last]))

theorem documentBelow_nil {directory : Location} {path : Path} {last : Name} :
    tree.DocumentBelow directory path [] last ↔
      tree.DocumentAt (last :: directory) (path.join ⟨last.text⟩) :=
  ⟨fun hbelow => hbelow.entry, fun hentry => ⟨trivial, hentry⟩⟩

theorem documentBelow_cons {directory : Location} {path : Path} {name last : Name}
    {folders : List Name} :
    tree.DocumentBelow directory path (name :: folders) last ↔
      tree.get? (name :: directory) = some .directory ∧ Walkable (path.join ⟨name.text⟩) ∧
        tree.DocumentBelow (name :: directory) (path.join ⟨name.text⟩) folders last := by
  have hlocation :
      (name :: folders).reverse ++ directory = folders.reverse ++ name :: directory := by
    rw [List.reverse_cons, List.append_assoc, List.singleton_append]
  constructor
  · rintro ⟨⟨hdirectory, hwalk, hway⟩, hentry⟩
    rw [hlocation] at hentry
    exact ⟨hdirectory, hwalk, hway, hentry⟩
  · rintro ⟨hdirectory, hwalk, hway, hentry⟩
    refine ⟨⟨hdirectory, hwalk, hway⟩, ?_⟩
    rw [hlocation]
    exact hentry

/-- Every directory on the way down is a real one. -/
theorem Descends.directory {directory : Location} {path : Path} {names rest : List Name}
    (hway : tree.Descends directory path (names ++ rest)) (hne : names ≠ []) :
    tree.get? (names.reverse ++ directory) = some .directory := by
  induction names generalizing directory path with
  | nil => exact absurd rfl hne
  | cons name names ih =>
      obtain ⟨hdirectory, -, hrest⟩ := hway
      by_cases hnil : names = []
      · subst hnil
        exact hdirectory
      · rw [List.reverse_cons, List.append_assoc, List.singleton_append]
        exact ih hrest hnil

/-- No way down is longer than the tree is deep. -/
theorem Descends.length_le {directory : Location} {path : Path} {folders : List Name}
    (hway : tree.Descends directory path folders) : folders.length ≤ tree.depth := by
  by_cases hne : folders = []
  · rw [hne]
    exact Nat.zero_le _
  · rw [← List.append_nil folders] at hway
    have hdirectory := hway.directory hne
    have hstands : (tree.get? (folders.reverse ++ directory)).isSome := by
      rw [hdirectory]; rfl
    have hlength := length_le_depth hstands
    rw [List.length_append, List.length_reverse] at hlength
    exact Nat.le_trans (Nat.le_add_right _ _) hlength

theorem Opens.descend {path : Path} {directory : Location}
    (hopens : tree.Opens path directory) {folders : List Name}
    (hway : tree.Descends directory path folders) :
    tree.Opens (path.descend folders) (folders.reverse ++ directory) := by
  induction folders generalizing directory path with
  | nil => exact hopens
  | cons name folders ih =>
      obtain ⟨hdirectory, hwalk, hrest⟩ := hway
      rw [List.reverse_cons, List.append_assoc, List.singleton_append]
      exact ih (hopens.join hdirectory hwalk) hrest

/-- The path of a document leads to no directory. -/
theorem DocumentBelow.isDirectory_eq_false {path : Path} {directory : Location}
    {folders : List Name} {last : Name} (hopens : tree.Opens path directory)
    (hbelow : tree.DocumentBelow directory path folders last) :
    tree.isDirectory (path.descend (folders ++ [last])) = false := by
  rcases hbelow.entry with ⟨entry, hentry, hregular⟩ | ⟨-, -, hnone⟩
  · rw [Path.descend_concat]
    apply (hopens.descend hbelow.way).isDirectory_join
    · intro target hlink
      rw [hlink] at hentry
      cases hentry
      cases hregular
    · intro hdirectory
      rw [hdirectory] at hentry
      cases hentry
      cases hregular
  · exact hnone

/-! ## One directory -/

section Level

variable {enter : Location → Path → List Sighting} {directory : Location}
  {path document : Path}

/-- Under a name a search finds the document there, or what it finds in the directory
there. -/
theorem file_mem_sightingsAt_iff (hopens : tree.Opens path directory) {name : Name} :
    .file document ∈ tree.sightingsAt enter directory path name ↔
      (document = path.join ⟨name.text⟩ ∧
        tree.DocumentAt (name :: directory) (path.join ⟨name.text⟩)) ∨
      (tree.get? (name :: directory) = some .directory ∧
        Walkable (path.join ⟨name.text⟩) ∧
        .file document ∈ enter (name :: directory) (path.join ⟨name.text⟩)) := by
  rw [sightingsAt, DocumentAt]
  rcases hentry : tree.get? (name :: directory) with _ | (content | _ | target | kind)
  · simp
  · simp [Entry.isRegular]
  · by_cases hwalk : Walkable (path.join ⟨name.text⟩)
    · have hstatus : tree.status (path.join ⟨name.text⟩) = .ok .directory :=
        isDirectory_iff_status.1 (hopens.join hentry hwalk).isDirectory
      simp [hstatus, hwalk, Entry.isRegular]
    · obtain ⟨fault, hfault⟩ := locate_of_not_walkable hwalk
      have hstatus : tree.status (path.join ⟨name.text⟩) = .error fault := by
        rw [status, hfault]
        rfl
      simp [hstatus, hwalk, Entry.isRegular]
  · cases hdirectory : tree.isDirectory (path.join ⟨name.text⟩) <;> simp [Entry.isRegular]
  · cases kind <;> simp [Entry.isRegular]

/-- What is found in a directory stands under some name, whether or not it is asked
for. -/
theorem file_mem_flatMap_iff (hopens : tree.Opens path directory) :
    .file document ∈ (tree.names directory).flatMap
      (tree.sightingsAt enter directory path) ↔
      ∃ name : Name, (document = path.join ⟨name.text⟩ ∧
          tree.DocumentAt (name :: directory) (path.join ⟨name.text⟩)) ∨
        (tree.get? (name :: directory) = some .directory ∧
          Walkable (path.join ⟨name.text⟩) ∧
          .file document ∈ enter (name :: directory) (path.join ⟨name.text⟩)) := by
  simp only [List.mem_flatMap, file_mem_sightingsAt_iff hopens]
  constructor
  · rintro ⟨name, -, hfound⟩
    exact ⟨name, hfound⟩
  · rintro ⟨name, hfound⟩
    refine ⟨name, ?_, hfound⟩
    rw [mem_names_iff]
    rcases hfound with ⟨-, ⟨entry, hentry, -⟩ | ⟨target, hentry, -⟩⟩ | ⟨hentry, -⟩ <;>
      rw [hentry] <;> rfl

end Level

/-! ## All levels -/

/-- Down to a depth a search finds the documents that so many directories lead to. -/
theorem file_mem_sightingsBelow_iff {depth : Nat} {directory : Location}
    {path document : Path} (hopens : tree.Opens path directory) :
    .file document ∈ tree.sightingsBelow depth directory path ↔
      ∃ folders last, folders.length ≤ depth ∧
        tree.DocumentBelow directory path folders last ∧
        document = path.descend (folders ++ [last]) := by
  -- On the depth that is left, for every directory: one level finds or hands down one
  -- name.
  induction depth generalizing directory path with
  | zero =>
      rw [sightingsBelow, file_mem_flatMap_iff hopens]
      constructor
      · rintro ⟨name, ⟨hdocument, hentry⟩ | ⟨-, -, hnone⟩⟩
        · exact ⟨[], name, Nat.le_refl _, documentBelow_nil.2 hentry, hdocument⟩
        · cases hnone
      · rintro ⟨folders, last, hlength, hbelow, hdocument⟩
        obtain rfl : folders = [] := List.length_eq_zero_iff.1 (Nat.le_zero.1 hlength)
        exact ⟨last, .inl ⟨hdocument, documentBelow_nil.1 hbelow⟩⟩
  | succ depth ih =>
      rw [sightingsBelow, file_mem_flatMap_iff hopens]
      constructor
      · rintro ⟨name, ⟨hdocument, hentry⟩ | ⟨hdirectory, hwalk, hfound⟩⟩
        · exact ⟨[], name, Nat.zero_le _, documentBelow_nil.2 hentry, hdocument⟩
        · obtain ⟨folders, last, hlength, hbelow, hdocument⟩ :=
            (ih (hopens.join hdirectory hwalk)).1 hfound
          exact ⟨name :: folders, last, Nat.succ_le_succ hlength,
            documentBelow_cons.2 ⟨hdirectory, hwalk, hbelow⟩, hdocument⟩
      · rintro ⟨folders, last, hlength, hbelow, hdocument⟩
        cases folders with
        | nil => exact ⟨last, .inl ⟨hdocument, documentBelow_nil.1 hbelow⟩⟩
        | cons name folders =>
            obtain ⟨hdirectory, hwalk, hbelow⟩ := documentBelow_cons.1 hbelow
            refine ⟨name,
              .inr ⟨hdirectory, hwalk, (ih (hopens.join hdirectory hwalk)).2 ?_⟩⟩
            exact ⟨folders, last, Nat.le_of_succ_le_succ hlength, hbelow, hdocument⟩

/-! ## Everything once -/

theorem mem_filterMap_file?_iff {sightings : List Sighting} {document : Path} :
    document ∈ sightings.filterMap Sighting.file? ↔ .file document ∈ sightings := by
  rw [List.mem_filterMap]
  constructor
  · rintro ⟨sighting, hsighting, hfile⟩
    cases sighting with
    | closed directory fault => cases hfile
    | file path =>
        obtain rfl : path = document := Option.some.inj hfile
        exact hsighting
  · intro hsighting
    exact ⟨_, hsighting, rfl⟩

/-- The paths of the files that a search came upon, by their components. -/
def found (sightings : List Sighting) : List (List Component) :=
  (sightings.filterMap Sighting.file?).map Path.components

theorem mem_found_iff {sightings : List Sighting} {components : List Component} :
    components ∈ found sightings ↔
      ∃ document, .file document ∈ sightings ∧ document.components = components := by
  rw [found, List.mem_map]
  simp only [mem_filterMap_file?_iff]

theorem found_flatMap (names : List Name) (sightings : Name → List Sighting) :
    found (names.flatMap sightings) =
      names.flatMap fun name => found (sightings name) := by
  rw [found, List.filterMap_flatMap, List.map_flatMap]
  rfl

/-- In one directory nothing is come upon twice, if nothing is in the directories behind
it. -/
theorem nodup_found_flatMap {enter : Location → Path → List Sighting}
    {directory : Location} {path : Path} (hopens : tree.Opens path directory)
    (henter : ∀ name : Name, tree.get? (name :: directory) = some .directory →
      Walkable (path.join ⟨name.text⟩) →
      (found (enter (name :: directory) (path.join ⟨name.text⟩))).Nodup ∧
        ∀ document, .file document ∈ enter (name :: directory) (path.join ⟨name.text⟩) →
          ∃ names, document = (path.join ⟨name.text⟩).descend names) :
    (found
      ((tree.names directory).flatMap
        (tree.sightingsAt enter directory path))).Nodup := by
  have hname {name : Name} {components : List Component}
      (hfound : components ∈ found (tree.sightingsAt enter directory path name)) :
      ∃ names, (path.descend (name :: names)).components = components := by
    obtain ⟨document, hsighting, rfl⟩ := mem_found_iff.1 hfound
    rcases (file_mem_sightingsAt_iff hopens).1 hsighting with
      ⟨rfl, -⟩ | ⟨hdirectory, hwalk, hinner⟩
    · exact ⟨[], rfl⟩
    · obtain ⟨names, rfl⟩ := (henter name hdirectory hwalk).2 document hinner
      exact ⟨names, rfl⟩
  rw [found_flatMap, List.nodup_flatMap]
  constructor
  · intro name _
    rw [sightingsAt]
    split
    · rename_i hdirectory
      split
      · exact List.nodup_nil
      · rename_i entry hstatus
        obtain ⟨site, hsite, -⟩ := status_eq_ok_iff.1 hstatus
        exact (henter name hdirectory (locate_eq_ok_iff.1 hsite).1).1
    · split
      · exact List.nodup_nil
      · exact List.nodup_singleton _
    · split
      · exact List.nodup_singleton _
      · exact List.nodup_nil
    · exact List.nodup_nil
  · -- What is found under different names differs in its first component behind the
    -- directory.
    apply (nodup_names tree directory).imp
    intro name other hne components hfound hfound'
    obtain ⟨names, rfl⟩ := hname hfound
    obtain ⟨names', hsame⟩ := hname hfound'
    exact hne (List.cons.inj (Path.descend_injective hopens.text_ne_empty hsame)).1.symm

theorem nodup_found_sightingsBelow {depth : Nat} {directory : Location} {path : Path}
    (hopens : tree.Opens path directory) :
    (found (tree.sightingsBelow depth directory path)).Nodup := by
  induction depth generalizing directory path with
  | zero =>
      apply nodup_found_flatMap hopens
      intro name _ _
      exact ⟨List.nodup_nil, fun document hnone => absurd hnone List.not_mem_nil⟩
  | succ depth ih =>
      apply nodup_found_flatMap hopens
      intro name hdirectory hwalk
      have hinner := hopens.join hdirectory hwalk
      refine ⟨ih hinner, fun document hfound => ?_⟩
      obtain ⟨folders, last, -, -, rfl⟩ := (file_mem_sightingsBelow_iff hinner).1 hfound
      exact ⟨_, rfl⟩

/-! ## A search from a path -/

theorem sightings_of_directory {path : Path} {site : Site}
    (hsite : tree.locate .read path = .ok site)
    (hdirectory : tree.isDirectory path = true) :
    tree.sightings path = tree.sightingsBelow tree.depth site.location path := by
  rw [sightings, hsite, isDirectory_iff_status.1 hdirectory]

/-- Where there is no directory to search, at most the path itself is come upon. -/
theorem sightings_of_no_directory {path : Path} (hnone : tree.isDirectory path = false) :
    tree.sightings path = [] ∨ (tree.sightings path = [.file path] ∧ path.text ≠ "") := by
  cases hlocate : tree.locate .read path with
  | error fault =>
      have hstatus : tree.status path = .error fault := by
        rw [status, hlocate]
        rfl
      left
      rw [sightings, hlocate, hstatus]
  | ok site =>
      have hpath : path.text ≠ "" := (locate_eq_ok_iff.1 hlocate).1.2.1
      rw [isDirectory] at hnone
      rw [sightings, hlocate]
      split
      · rename_i hstatus
        rw [hstatus] at hnone
        cases hnone
      · exact .inr ⟨rfl, hpath⟩
      · split
        · exact .inr ⟨rfl, hpath⟩
        · exact .inl rfl
      · exact .inl rfl

/-- A search comes upon no file twice, however its path may be written. -/
theorem nodup_found_sightings (tree : FileTree) (path : Path) :
    (found (tree.sightings path)).Nodup := by
  cases hdirectory : tree.isDirectory path with
  | true =>
      obtain ⟨site, hsite, -⟩ := isDirectory_iff.1 hdirectory
      rw [sightings_of_directory hsite hdirectory]
      exact nodup_found_sightingsBelow (opens_of_locate hsite hdirectory)
  | false =>
      rcases sightings_of_no_directory hdirectory with hnone | ⟨hself, -⟩
      · rw [hnone]
        exact List.nodup_nil
      · rw [hself]
        exact List.nodup_singleton _

/-- Every file that a search comes upon is one that names lead to from where it starts. -/
theorem exists_descend_of_file {path document : Path}
    (hfound : .file document ∈ tree.sightings path) :
    path.text ≠ "" ∧ ∃ names, document = path.descend names := by
  cases hdirectory : tree.isDirectory path with
  | true =>
      obtain ⟨site, hsite, -⟩ := isDirectory_iff.1 hdirectory
      have hopens := opens_of_locate hsite hdirectory
      rw [sightings_of_directory hsite hdirectory] at hfound
      obtain ⟨folders, last, -, -, hdocument⟩ :=
        (file_mem_sightingsBelow_iff hopens).1 hfound
      exact ⟨hopens.text_ne_empty, _, hdocument⟩
  | false =>
      rcases sightings_of_no_directory hdirectory with hnone | ⟨hself, hpath⟩
      · rw [hnone] at hfound
        cases hfound
      · rw [hself, List.mem_singleton] at hfound
        cases hfound
        exact ⟨hpath, [], rfl⟩

end FileTree

/-! ## Documents -/

section Documents

variable {tree : FileTree} {sourceDir : Path} {suffix : String}

theorem mem_findDocuments_iff {document : Path} :
    document ∈ findDocuments tree sourceDir suffix ↔
      .file document ∈ tree.sightings sourceDir ∧ document.hasSuffix suffix = true := by
  rw [findDocuments, List.mem_filter, FileTree.mem_filterMap_file?_iff]

/-- No document is found twice, however its path may be written. -/
theorem nodup_findDocuments (tree : FileTree) (sourceDir : Path) (suffix : String) :
    ((findDocuments tree sourceDir suffix).map Path.components).Nodup :=
  (FileTree.nodup_found_sightings tree sourceDir).sublist (List.filter_sublist.map _)

/-- Every document is reached by names from the source directory. -/
theorem exists_descend_of_mem {document : Path}
    (hdocument : document ∈ findDocuments tree sourceDir suffix) :
    sourceDir.text ≠ "" ∧ ∃ names, document = sourceDir.descend names :=
  FileTree.exists_descend_of_file (mem_findDocuments_iff.1 hdocument).1

theorem hasSuffix_descend (hpath : sourceDir.text ≠ "") {folders : List Name}
    {last : Name} :
    (sourceDir.descend (folders ++ [last])).hasSuffix suffix = true ↔
      Text.utf8 suffix <:+ Text.utf8 last.text := by
  rw [Path.hasSuffix, Path.fileName?_descend hpath]
  simp only [List.isSuffixOf_iff_suffix]

/-- In a directory exactly the documents below it are found whose last names end with
the suffix. -/
theorem mem_findDocuments_of_directory {site : Site}
    (hsite : tree.locate .read sourceDir = .ok site)
    (hdirectory : tree.isDirectory sourceDir = true) {document : Path} :
    document ∈ findDocuments tree sourceDir suffix ↔
      ∃ folders last, tree.DocumentBelow site.location sourceDir folders last ∧
        Text.utf8 suffix <:+ Text.utf8 last.text ∧
        document = sourceDir.descend (folders ++ [last]) := by
  have hopens := FileTree.opens_of_locate hsite hdirectory
  rw [mem_findDocuments_iff, FileTree.sightings_of_directory hsite hdirectory,
    FileTree.file_mem_sightingsBelow_iff hopens]
  constructor
  · rintro ⟨⟨folders, last, -, hbelow, rfl⟩, hsuffix⟩
    exact ⟨folders, last, hbelow, (hasSuffix_descend hopens.text_ne_empty).1 hsuffix, rfl⟩
  · rintro ⟨folders, last, hbelow, hsuffix, rfl⟩
    exact ⟨⟨folders, last, hbelow.way.length_le, hbelow, rfl⟩,
      (hasSuffix_descend hopens.text_ne_empty).2 hsuffix⟩

/-- No name ends with a text that has a slash. -/
theorem not_suffix_of_slash (hslash : '/' ∈ suffix.toList) (name : Name) :
    ¬Text.utf8 suffix <:+ Text.utf8 name.text := by
  intro hsuffix
  have hlow : '/'.toNat < 128 := by decide
  exact name.plain.2.2.2 ((Text.mem_utf8_iff hlow).1
    (hsuffix.subset ((Text.mem_utf8_iff hlow).2 hslash)))

/-- A search from a directory, or from a link to one, finds each document below it once,
and nothing else: no directory, nothing behind a link, everything for an empty suffix
and nothing for one with a slash. -/
theorem findDocuments_exact (hdirectory : tree.isDirectory sourceDir = true) :
    ∃ site, tree.locate .read sourceDir = .ok site ∧
      ∀ suffix,
        ((findDocuments tree sourceDir suffix).map Path.components).Nodup ∧
        (∀ document, document ∈ findDocuments tree sourceDir suffix ↔
          ∃ folders last, tree.DocumentBelow site.location sourceDir folders last ∧
            Text.utf8 suffix <:+ Text.utf8 last.text ∧
            document = sourceDir.descend (folders ++ [last])) ∧
        (∀ document ∈ findDocuments tree sourceDir suffix,
          tree.isDirectory document = false) ∧
        (∀ names rest target, rest ≠ [] →
          tree.get? (names.reverse ++ site.location) = some (.link target) →
          sourceDir.descend (names ++ rest) ∉ findDocuments tree sourceDir suffix) ∧
        (suffix = "" → ∀ folders last,
          tree.DocumentBelow site.location sourceDir folders last →
          sourceDir.descend (folders ++ [last]) ∈ findDocuments tree sourceDir suffix) ∧
        ('/' ∈ suffix.toList → findDocuments tree sourceDir suffix = []) := by
  obtain ⟨site, hsite, hstands⟩ := FileTree.isDirectory_iff.1 hdirectory
  have hopens := FileTree.opens_of_locate hsite hdirectory
  refine ⟨site, hsite, fun suffix => ⟨nodup_findDocuments tree sourceDir suffix,
    fun document => mem_findDocuments_of_directory hsite hdirectory, ?_, ?_, ?_, ?_⟩⟩
  · intro document hdocument
    obtain ⟨folders, last, hbelow, -, rfl⟩ :=
      (mem_findDocuments_of_directory hsite hdirectory).1 hdocument
    exact hbelow.isDirectory_eq_false hopens
  · intro names rest target hrest hlink hdocument
    obtain ⟨folders, last, hbelow, -, hsame⟩ :=
      (mem_findDocuments_of_directory hsite hdirectory).1 hdocument
    have hnames : names ++ rest = folders ++ [last] :=
      Path.descend_injective hopens.text_ne_empty (congrArg Path.components hsame)
    -- The link would have to be one of the directories on the way down.
    have hprefix : names <+: folders := by
      apply (List.prefix_concat_iff.1 ⟨rest, hnames⟩).resolve_left
      rintro rfl
      exact hrest (List.append_right_eq_self.1 hnames)
    obtain ⟨others, rfl⟩ := hprefix
    by_cases hnil : names = []
    · subst hnil
      rw [List.reverse_nil, List.nil_append, hstands] at hlink
      cases hlink
    · rw [hbelow.way.directory hnil] at hlink
      cases hlink
  · rintro rfl folders last hbelow
    exact (mem_findDocuments_of_directory hsite hdirectory).2
      ⟨folders, last, hbelow, List.nil_suffix, rfl⟩
  · intro hslash
    apply List.eq_nil_iff_forall_not_mem.2
    intro document hdocument
    obtain ⟨folders, last, -, hsuffix, -⟩ :=
      (mem_findDocuments_of_directory hsite hdirectory).1 hdocument
    exact not_suffix_of_slash hslash last hsuffix

end Documents

/-- A source directory that a link leads to, with a document, a directory of documents,
links to directories inside and outside, one that leads back, and one that leads
nowhere. -/
def linkedSource : FileTree where
  entries :=
    [ (corpusRoot, .directory), (sourceRoot, .directory), (targetRoot, .directory),
      (⟨"src", by decide⟩ :: corpusRoot, .link "en"),
      (⟨"top.ixml", by decide⟩ :: sourceRoot, .file []),
      (⟨"part", by decide⟩ :: sourceRoot, .directory),
      (⟨"deep.ixml", by decide⟩ :: ⟨"part", by decide⟩ :: sourceRoot, .file []),
      (⟨"back.ixml", by decide⟩ :: ⟨"part", by decide⟩ :: sourceRoot, .link ".."),
      (⟨"others", by decide⟩ :: sourceRoot, .link "../fa"),
      (⟨"lost.ixml", by decide⟩ :: sourceRoot, .link "nowhere"),
      (⟨"g.ixml", by decide⟩ :: targetRoot, .file []) ]
  base := []
  distinct := by decide

theorem findDocuments_exact_linkedSource :
    let sourceDir : Path := ⟨"c/src"⟩
    linkedSource.isDirectory sourceDir = true ∧
      ((findDocuments linkedSource sourceDir ".ixml").map Path.components).Nodup ∧
      ⟨"c/src/lost.ixml"⟩ ∈ findDocuments linkedSource sourceDir ".ixml" ∧
      ⟨"c/src/others/g.ixml"⟩ ∉ findDocuments linkedSource sourceDir ".ixml" ∧
      findDocuments linkedSource sourceDir "t/deep.ixml" = [] := by
  intro sourceDir
  have hdirectory : linkedSource.isDirectory sourceDir = true := by decide +kernel
  obtain ⟨site, hsite, hexact⟩ := findDocuments_exact hdirectory
  have hlocated : linkedSource.locate .read sourceDir =
      .ok ⟨sourceRoot, true, false⟩ := by
    decide +kernel
  obtain rfl : site = ⟨sourceRoot, true, false⟩ :=
    Except.ok.inj (hsite.symm.trans hlocated)
  obtain ⟨hnodup, hmem, -, hlinks, -⟩ := hexact ".ixml"
  refine ⟨hdirectory, hnodup, ?_, ?_,
    (hexact "t/deep.ixml").2.2.2.2.2 (by decide +kernel)⟩
  · apply (hmem _).2
    refine ⟨[], ⟨"lost.ixml", by decide⟩, ⟨trivial, .inr ⟨"nowhere", ?_, ?_⟩⟩, ?_, ?_⟩
    all_goals decide +kernel
  · have hbehind :
        sourceDir.descend ([⟨"others", by decide⟩] ++ [⟨"g.ixml", by decide⟩]) =
          ⟨"c/src/others/g.ixml"⟩ := by
      decide +kernel
    rw [← hbehind]
    exact hlinks _ _ "../fa" (List.cons_ne_nil _ _) (by decide +kernel)

end ParallelCorpus
