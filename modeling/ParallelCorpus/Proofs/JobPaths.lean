import ParallelCorpus.Proofs.InputDirectories
import ParallelCorpus.Proofs.PathComponents

/-!
# The paths of a job by their components

Every path of a job that makes sense ends with a name.  The directories of the two
languages stand in the corpus root under the names of the languages.  The two outputs
stand in one directory too, wherever the base name puts it, and their names part behind
the base that they share.
-/

namespace ParallelCorpus

namespace Path

/-- The components of what a path stands in; nothing for the root and for the empty
path. -/
def parent? (path : Path) : Option (List Component) :=
  match path.components.getLast? with
  | none | some .root => none
  | some _ => some path.components.dropLast

/-- A path that stands in a directory, given by its components, under a name. -/
def StandsIn (path : Path) (directory : List Component) (name : String) : Prop :=
  path.components = directory ++ [.name name]

variable {path other : Path} {directory : List Component} {name name' : String}

theorem StandsIn.parent? (hpath : path.StandsIn directory name) :
    path.parent? = some directory := by
  rw [Path.parent?, hpath, List.getLast?_concat, List.dropLast_concat]

theorem StandsIn.fileName? (hpath : path.StandsIn directory name) :
    path.fileName? = some name := by
  rw [Path.fileName?, hpath, List.getLast?_concat]

/-- Paths under different names differ. -/
theorem StandsIn.components_ne (hpath : path.StandsIn directory name)
    (hother : other.StandsIn directory name') (hnames : name ≠ name') :
    path.components ≠ other.components := by
  intro hsame
  rw [hpath, hother, List.append_cancel_left_eq] at hsame
  exact hnames (Component.name.inj (List.singleton_inj.1 hsame))

end Path

/-- A path in a folder is what joining the folder and the name gives. -/
theorem InFolder.eq_join {folder name : List Char} {path : Path}
    (hpath : InFolder folder name path) :
    path = (Path.mk (String.ofList folder)).join ⟨String.ofList name⟩ := by
  have hname : (Path.mk (String.ofList name)).isAbsolute = false :=
    isAbsolute_of_no_slash (by rw [String.toList_ofList]; exact hpath.plain)
  have hfolder : (Path.mk (String.ofList folder)).folder = folder := by
    rw [Path.folder, String.toList_ofList]
    exact if_pos hpath.folder
  apply Path.eq_of_toList
  rw [Path.toList_join _ hname, hfolder, String.toList_ofList, hpath.text]

namespace Job

variable {job : Job} {language : String}

/-- A language directory stands in the corpus root. -/
theorem standsIn_language (job : Job) (hlanguage : isPlainName language = true) :
    (job.inputDir.join ⟨language⟩).StandsIn job.inputDir.components language := by
  obtain ⟨hempty, hdot, hdots, hslash, -⟩ := isPlainName_iff.1 hlanguage
  exact Path.components_join_of_plain ⟨hempty, hdot, hdots, hslash⟩ job.inputDir

/-- The outputs in all languages stand in one directory, under one base. -/
theorem exists_standsIn_output (job : Job) :
    ∃ directory base, ∀ language, isPlainName language = true →
      (job.output language).StandsIn directory (base ++ "_Short." ++ language) := by
  obtain ⟨folder, base, houtputs⟩ := job.exists_inFolder_output
  refine ⟨(Path.mk (String.ofList folder)).components, String.ofList base, ?_⟩
  intro language hlanguage
  obtain ⟨-, -, -, hslash, -⟩ := isPlainName_iff.1 hlanguage
  have houtput := houtputs language hslash
  have hname : String.ofList (base ++ outputTail language) =
      String.ofList base ++ "_Short." ++ language := by
    rw [outputTail, String.ofList_append, String.ofList_append, String.ofList_toList,
      ← String.append_assoc]
  have hplain : String.ofList (base ++ outputTail language) ≠ "" ∧
      String.ofList (base ++ outputTail language) ≠ "." ∧
      String.ofList (base ++ outputTail language) ≠ ".." ∧
      '/' ∉ (String.ofList (base ++ outputTail language)).toList := by
    obtain ⟨hdot, hdots⟩ := append_outputTail_ne_dots base language
    rw [String.toList_ofList]
    refine ⟨?_, hdot, hdots, houtput.plain⟩
    intro hempty
    exact houtput.nonempty (by simpa using congrArg String.toList hempty)
  rw [Path.StandsIn, houtput.eq_join, Path.components_join_of_plain hplain, hname]

/-- The language directories of a job that makes sense are different directories, each
in the corpus root under the name of its language.  The outputs are different paths in
one directory, and their names are one base, the infix and the language. -/
theorem paths_apart (hcheck : job.check = .ok ()) :
    (job.sourceDir.components ≠ job.targetDir.components ∧
      job.sourceDir.parent? = some job.inputDir.components ∧
      job.sourceDir.fileName? = some job.sourceLang ∧
      job.targetDir.parent? = some job.inputDir.components ∧
      job.targetDir.fileName? = some job.targetLang) ∧
    job.outputs.source.components ≠ job.outputs.target.components ∧
    ∃ directory base,
      job.outputs.source.parent? = some directory ∧
      job.outputs.source.fileName? = some (base ++ "_Short." ++ job.sourceLang) ∧
      job.outputs.target.parent? = some directory ∧
      job.outputs.target.fileName? = some (base ++ "_Short." ++ job.targetLang) := by
  obtain ⟨hsource, htarget, hdiffer, -⟩ := check_ok hcheck
  have hsourceDir : job.sourceDir.StandsIn _ _ := job.standsIn_language hsource
  have htargetDir : job.targetDir.StandsIn _ _ := job.standsIn_language htarget
  obtain ⟨directory, base, houtputs⟩ := job.exists_standsIn_output
  have hsourceOutput : job.outputs.source.StandsIn _ _ := houtputs job.sourceLang hsource
  have htargetOutput : job.outputs.target.StandsIn _ _ := houtputs job.targetLang htarget
  have hnames : base ++ "_Short." ++ job.sourceLang ≠
      base ++ "_Short." ++ job.targetLang :=
    fun hsame => hdiffer (String.append_right_inj _ |>.1 hsame)
  refine ⟨⟨hsourceDir.components_ne htargetDir hdiffer, hsourceDir.parent?,
    hsourceDir.fileName?, htargetDir.parent?, htargetDir.fileName?⟩,
    hsourceOutput.components_ne htargetOutput hnames, directory, base,
    hsourceOutput.parent?, hsourceOutput.fileName?, htargetOutput.parent?,
    htargetOutput.fileName?⟩

/-- An absolute base name that ends with a slash, a root that ends with a dot, and a
language whose name is the end of an output's name in the other. -/
theorem paths_apart_absoluteBase :
    let job : Job := { inputDir := ⟨"corpus//./."⟩, outName := "/elsewhere/../",
                       sourceLang := "x_Short.en", targetLang := "en" }
    job.check = .ok () ∧
      job.sourceDir.components ≠ job.targetDir.components ∧
      job.sourceDir.parent? = some [.name "corpus"] ∧
      job.sourceDir.fileName? = some "x_Short.en" ∧
      job.targetDir.parent? = some [.name "corpus"] ∧
      job.targetDir.fileName? = some "en" ∧
      job.outputs.source.components ≠ job.outputs.target.components ∧
      job.outputs.source.parent? = job.outputs.target.parent? ∧
      job.outputs.target.parent? = some [.root, .name "elsewhere", .parent] ∧
      job.outputs.source.fileName? = some "_Short.x_Short.en" ∧
      job.outputs.target.fileName? = some "_Short.en" := by
  intro job
  have hcheck : job.check = .ok () := by decide +kernel
  have hroot : job.inputDir.components = [.name "corpus"] := by decide +kernel
  obtain ⟨⟨hdirectories, hsource, hsourceName, htarget, htargetName⟩, houtputs,
    directory, base, hfirst, -, hsecond, -⟩ := paths_apart hcheck
  rw [hroot] at hsource htarget
  exact ⟨hcheck, hdirectories, hsource, hsourceName, htarget, htargetName, houtputs,
    hfirst.trans hsecond.symm, by decide +kernel, by decide +kernel, by decide +kernel⟩

end Job
end ParallelCorpus
