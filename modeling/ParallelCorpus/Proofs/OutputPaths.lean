import ParallelCorpus.Job.Basic
import ParallelCorpus.Proofs.Walk

/-!
# Where the paths of a job lead

Paths with one text up to the last slash lead through the same directory and part there.
The two outputs of a job are such paths, whatever its base name; a base name without a
slash puts them beside the directories of the two languages.
-/

namespace ParallelCorpus

/-! ## Texts up to the last slash -/

/-- A text that a name can follow. -/
def Folder (text : List Char) : Prop :=
  text = [] ∨ text.getLast? = some '/'

theorem Folder.append {text other : List Char} (htext : Folder text)
    (hother : Folder other) :
    Folder (text ++ other) := by
  rcases hother with rfl | hother
  · rwa [List.append_nil]
  · right
    rw [List.getLast?_append, hother]
    rfl

/-- Every text is cut behind its last slash. -/
theorem exists_folder (text : List Char) :
    ∃ folder name, text = folder ++ name ∧ Folder folder ∧ '/' ∉ name := by
  induction text with
  | nil => exact ⟨[], [], rfl, .inl rfl, by simp⟩
  | cons c rest ih =>
      obtain ⟨folder, name, hrest, hfolder, hname⟩ := ih
      rcases hfolder with hempty | hfolder
      · subst hempty
        by_cases hc : c = '/'
        · subst hc
          exact ⟨['/'], name, by rw [hrest]; rfl, .inr rfl, hname⟩
        · refine ⟨[], c :: name, by rw [hrest]; rfl, .inl rfl, ?_⟩
          simp only [List.mem_cons, not_or]
          exact ⟨Ne.symm hc, hname⟩
      · refine ⟨c :: folder, name, by rw [hrest]; rfl, .inr ?_, hname⟩
        rw [List.getLast?_cons, hfolder]
        rfl

theorem splitOnP_of_no_slash {name : List Char} (hname : '/' ∉ name) :
    name.splitOnP (· == '/') = [name] := by
  apply List.splitOnP_eq_singleton
  intro c hc
  rw [beq_eq_false_iff_ne]
  rintro rfl
  exact hname hc

/-- The name behind a folder is the last step of the route. -/
theorem Route.ofText_folder {folder name : List Char} (hfolder : Folder folder)
    (hname : '/' ∉ name) (hne : name ≠ []) :
    Route.ofText (String.ofList (folder ++ name)) =
      ⟨folder.head? == some '/',
        (Route.ofText (String.ofList folder)).steps ++ [String.ofList name], false⟩ := by
  have hkept : [name].filter (!·.isEmpty) = [name] := by simp [hne]
  have hlast : ((folder ++ name).getLast? == some '/') = false := by
    rw [beq_eq_false_iff_ne, List.getLast?_append]
    intro hslash
    rw [List.getLast?_eq_some_getLast hne, Option.some_or, Option.some.injEq] at hslash
    exact hname (hslash ▸ List.getLast_mem hne)
  rcases hfolder with rfl | hfolder
  · have hhead : (name.head? == some '/') = false := by
      rw [beq_eq_false_iff_ne]
      intro hslash
      exact hname (List.mem_of_head? hslash)
    rw [List.nil_append] at hlast
    simp only [Route.ofText, String.toList_ofList, List.nil_append,
      splitOnP_of_no_slash hname, hkept, hlast, hhead]
    rfl
  · obtain ⟨before, rfl⟩ := List.getLast?_eq_some_iff.1 hfolder
    have hcut : (before ++ ['/'] ++ name).splitOnP (· == '/') =
        before.splitOnP (· == '/') ++ [name] := by
      rw [List.append_assoc, List.singleton_append,
        List.splitOnP_append_cons before name (by rfl), splitOnP_of_no_slash hname]
    have hcut' : (before ++ ['/']).splitOnP (· == '/') =
        before.splitOnP (· == '/') ++ [[]] :=
      List.splitOnP_append_cons before [] (by rfl)
    have hhead : ((before ++ ['/'] ++ name).head? == some '/') =
        ((before ++ ['/']).head? == some '/') := by
      cases before <;> rfl
    simp only [Route.ofText, String.toList_ofList, hcut, hcut', hlast, hhead,
      List.filter_append, hkept, List.map_append]
    simp

/-! ## Paths in one folder -/

/-- A path with a name behind a folder. -/
structure InFolder (folder name : List Char) (path : Path) : Prop where
  text : path.text.toList = folder ++ name
  folder : Folder folder
  plain : '/' ∉ name
  nonempty : name ≠ []

theorem InFolder.route {folder name : List Char} {path : Path}
    (hpath : InFolder folder name path) :
    Route.ofText path.text =
      ⟨folder.head? == some '/',
        (Route.ofText (String.ofList folder)).steps ++ [String.ofList name], false⟩ := by
  rw [← Route.ofText_folder hpath.folder hpath.plain hpath.nonempty, ← hpath.text,
    String.ofList_toList]

/-- The paths in a folder part in one directory, whatever they are wanted for. -/
def FileTree.PartsIn (tree : FileTree) (folder : List Char) (links : Nat)
    (directory : Location) : Prop :=
  ∀ (purpose : Purpose) (name : List Char) (path : Path) (site : Site),
    InFolder folder name path →
    (tree.locate purpose path = .ok site ↔ Walkable path ∧
      Reaches tree purpose links false directory [String.ofList name] site)

theorem FileTree.exists_partsIn {tree : FileTree} {purpose : Purpose}
    {folder name : List Char} {path : Path} {site : Site}
    (hpath : InFolder folder name path) (hlocate : tree.locate purpose path = .ok site) :
    ∃ links directory, tree.PartsIn folder links directory := by
  obtain ⟨-, hreach⟩ := locate_eq_ok_iff.1 hlocate
  rw [start, hpath.route] at hreach
  obtain ⟨links, directory, hparting⟩ := hreach.parting
  refine ⟨links, directory, fun other name' path' site' hpath' => ?_⟩
  rw [locate_eq_ok_iff, start, hpath'.route, hparting]

theorem Name.text_of_ofText? {text : String} {name : Name}
    (hname : Name.ofText? text = some name) :
    name.text = text := by
  rw [Name.ofText?] at hname
  split at hname
  · cases hname
    rfl
  · cases hname

/-- A path in a folder ends with a name, not with dots, and leads to the place of that
name, unless a link stands there that is followed. -/
theorem InFolder.exists_place {tree : FileTree} {folder name : List Char} {path : Path}
    (hpath : InFolder folder name path)
    (hdots : String.ofList name ≠ "." ∧ String.ofList name ≠ "..") {links : Nat}
    {directory : Location} (hparts : tree.PartsIn folder links directory)
    {purpose : Purpose} {site : Site} (hsite : tree.locate purpose path = .ok site) :
    ∃ entryName, entryName.text = String.ofList name ∧
      (∀ other : Purpose, (other.follows false = true → ∀ target,
          tree.get? (entryName :: directory) ≠ some (.link target)) →
        tree.locate other path = .ok ⟨entryName :: directory, true, false⟩) ∧
      (site = ⟨entryName :: directory, true, false⟩ ∨
        ∃ target, tree.get? (entryName :: directory) = some (.link target)) := by
  obtain ⟨hwalk, hreach⟩ := (hparts _ _ _ _ hpath).1 hsite
  obtain ⟨entryName, hname⟩ := hreach.exists_name hdots.1 hdots.2
  refine ⟨entryName, Name.text_of_ofText? hname, fun other hplain => ?_, ?_⟩
  · refine (hparts _ _ _ _ hpath).2 ⟨hwalk, .last hname (by cases other <;> rfl) ?_⟩
    intro target hlink
    rw [← Bool.not_eq_true]
    exact fun hfollow => hplain hfollow target hlink
  · rcases hreach.of_last hname with hplace | ⟨target, hlink, -⟩
    · exact .inl hplace
    · exact .inr ⟨target, hlink⟩

/-! ## The paths of a job -/

/-- The text that the join of a path puts before a name. -/
def Path.folder (path : Path) : List Char :=
  if path.text.toList = [] ∨ path.text.toList.getLast? = some '/' then path.text.toList
  else path.text.toList ++ ['/']

theorem Path.folder_folder (path : Path) : Folder path.folder := by
  rw [Path.folder]
  split
  · assumption
  · exact .inr (by simp)

theorem Path.toList_join (path : Path) {other : Path}
    (hother : other.isAbsolute = false) :
    (path.join other).text.toList = path.folder ++ other.text.toList := by
  rw [Path.join, hother, if_neg Bool.false_ne_true, Path.folder]
  split <;> simp

theorem isAbsolute_of_no_slash {text : String} (htext : '/' ∉ text.toList) :
    (Path.mk text).isAbsolute = false := by
  rw [Path.isAbsolute, beq_eq_false_iff_ne]
  intro hslash
  exact htext (List.mem_of_head? hslash)

/-- What follows the base name in an output of a language. -/
def outputTail (language : String) : List Char :=
  ['_', 'S', 'h', 'o', 'r', 't', '.'] ++ language.toList

theorem outputTail_plain {language : String} (hplain : '/' ∉ language.toList) :
    '/' ∉ outputTail language := by
  rw [outputTail, List.mem_append, not_or]
  exact ⟨by decide, hplain⟩

theorem append_outputTail_ne_nil (base : List Char) (language : String) :
    base ++ outputTail language ≠ [] := by
  intro hempty
  cases (List.append_eq_nil_iff.1 hempty).2

theorem append_outputTail_ne_dots (base : List Char) (language : String) :
    String.ofList (base ++ outputTail language) ≠ "." ∧
      String.ofList (base ++ outputTail language) ≠ ".." := by
  have hlong : 7 ≤ (String.ofList (base ++ outputTail language)).toList.length := by
    rw [String.toList_ofList, outputTail, List.length_append, List.length_append]
    simp only [List.length_cons, List.length_nil]
    omega
  constructor
  · intro hdot
    rw [hdot] at hlong
    revert hlong
    decide
  · intro hdots
    rw [hdots] at hlong
    revert hlong
    decide

namespace Job

theorem toList_baseName (job : Job) (language : String) :
    (job.outName ++ "_Short." ++ language).toList =
      job.outName.toList ++ outputTail language := by
  have hinfix : "_Short.".toList = ['_', 'S', 'h', 'o', 'r', 't', '.'] := by
    decide +kernel
  rw [String.toList_append, String.toList_append, hinfix, List.append_assoc]
  rfl

/-- A base name without a slash puts the outputs into the corpus root. -/
theorem inFolder_output {job : Job} (hbase : '/' ∉ job.outName.toList) {language : String}
    (hplain : '/' ∉ language.toList) :
    InFolder job.inputDir.folder (job.outName.toList ++ outputTail language)
      (job.output language) := by
  have hname : '/' ∉ (job.outName ++ "_Short." ++ language).toList := by
    rw [toList_baseName, List.mem_append, not_or]
    exact ⟨hbase, outputTail_plain hplain⟩
  refine ⟨?_, Path.folder_folder _, by rwa [← toList_baseName],
    append_outputTail_ne_nil _ _⟩
  rw [Job.output, outputPath, Path.toList_join _ (isAbsolute_of_no_slash hname),
    toList_baseName]

/-- The directories of the languages stand in the corpus root. -/
theorem inFolder_language (job : Job) {language : String} (hplain : '/' ∉ language.toList)
    (hne : language ≠ "") :
    InFolder job.inputDir.folder language.toList (job.inputDir.join ⟨language⟩) := by
  refine ⟨Path.toList_join _ (isAbsolute_of_no_slash hplain),
    Path.folder_folder _, hplain, ?_⟩
  intro hempty
  exact hne (String.toList_eq_nil_iff.1 hempty)

/-- Whatever the base name, both outputs are in one folder under one base name. -/
theorem exists_inFolder_output (job : Job) :
    ∃ folder base, ∀ language : String, '/' ∉ language.toList →
      InFolder folder (base ++ outputTail language) (job.output language) := by
  obtain ⟨inner, base, hname, hinner, hbase⟩ := exists_folder job.outName.toList
  have hplain (language : String) (hlanguage : '/' ∉ language.toList) :
      '/' ∉ base ++ outputTail language := by
    rw [List.mem_append, not_or]
    exact ⟨hbase, outputTail_plain hlanguage⟩
  have habsolute (language : String) :
      (Path.mk (job.outName ++ "_Short." ++ language)).isAbsolute =
        (job.outName.toList.head? == some '/') := by
    rw [Path.isAbsolute, toList_baseName]
    cases job.outName.toList <;> rfl
  cases hhead : job.outName.toList.head? == some '/' with
  | true =>
      refine ⟨inner, base, fun language hlanguage =>
        ⟨?_, hinner, hplain language hlanguage, append_outputTail_ne_nil base language⟩⟩
      rw [Job.output, outputPath, Path.join, habsolute, hhead, if_pos rfl,
        toList_baseName, hname, List.append_assoc]
  | false =>
      refine ⟨job.inputDir.folder ++ inner, base, fun language hlanguage =>
        ⟨?_, (Path.folder_folder _).append hinner, hplain language hlanguage,
          append_outputTail_ne_nil base language⟩⟩
      rw [Job.output, outputPath, Path.toList_join _ ((habsolute language).trans hhead),
        toList_baseName, hname]
      simp only [List.append_assoc]

end Job
end ParallelCorpus
