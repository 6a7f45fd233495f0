import ParallelCorpus.Proofs.Clearing
import ParallelCorpus.Proofs.OutputPaths

/-!
# What a run leaves alone

In a tree without links a run changes files where its two outputs lead, and nothing
else, however it ends.  A base name with slashes can lead the outputs into the
directories of the languages; one without puts them beside these, and then nothing in
these directories changes.
-/

namespace ParallelCorpus

open FileTree (SameWays LeafChange LinkFree)

/-! ## Jobs that are admitted -/

theorem isPlainName_iff {name : String} :
    Job.isPlainName name = true ↔
      name ≠ "" ∧ name ≠ "." ∧ name ≠ ".." ∧ '/' ∉ name.toList ∧
      '\\' ∉ name.toList := by
  rw [Job.isPlainName]
  simp only [Bool.and_eq_true, bne_iff_ne, Bool.not_eq_true', List.any_eq_false,
    Bool.or_eq_true, beq_iff_eq, not_or, and_assoc]
  constructor
  · rintro ⟨hempty, hdot, hdots, hslashes⟩
    exact ⟨hempty, hdot, hdots, fun hslash => (hslashes '/' hslash).1 rfl,
      fun hslash => (hslashes '\\' hslash).2 rfl⟩
  · rintro ⟨hempty, hdot, hdots, hslash, hbackslash⟩
    refine ⟨hempty, hdot, hdots, fun c hc => ⟨?_, ?_⟩⟩
    · rintro rfl
      exact hslash hc
    · rintro rfl
      exact hbackslash hc

theorem checkLanguage_ok {option language : String}
    (hcheck : Job.checkLanguage option language = .ok ()) :
    Job.isPlainName language = true := by
  rw [Job.checkLanguage] at hcheck
  split at hcheck
  · assumption
  · cases hcheck

theorem check_ok {job : Job} (hcheck : job.check = .ok ()) :
    Job.isPlainName job.sourceLang = true ∧ Job.isPlainName job.targetLang = true ∧
      job.sourceLang ≠ job.targetLang ∧ ∃ range, job.range = .ok range := by
  simp only [Job.check, bind_eq_ok_iff] at hcheck
  obtain ⟨_, hsource, _, htarget, hrest⟩ := hcheck
  split at hrest
  · obtain ⟨_, hthrow, _⟩ := bind_eq_ok_iff.1 hrest
    cases hthrow
  rename_i hdiffer
  split at hrest
  · obtain ⟨_, hthrow, _⟩ := bind_eq_ok_iff.1 hrest
    cases hthrow
  refine ⟨checkLanguage_ok hsource, checkLanguage_ok htarget, hdiffer, ?_⟩
  cases hrange : job.range with
  | ok range => exact ⟨range, rfl⟩
  | error failure =>
      rw [hrange] at hrest
      cases hrest

theorem admitted_eq_ok_iff {job : Job} {tree : FileTree} {range : WordRange} :
    admitted job tree = .ok range ↔ job.check = .ok () ∧ job.range = .ok range ∧
      tree.isDirectory job.sourceDir = true ∧ tree.isDirectory job.targetDir = true := by
  rw [admitted]
  simp only [bind_eq_ok_iff, Bool.and_eq_true]
  constructor
  · rintro ⟨_, hcheck, range', hrange, hlanguages⟩
    split at hlanguages
    · rename_i hdirectories
      cases hlanguages
      exact ⟨hcheck, hrange, hdirectories⟩
    · cases hlanguages
  · rintro ⟨hcheck, hrange, hdirectories⟩
    exact ⟨(), hcheck, range, hrange, by rw [if_pos hdirectories]; rfl⟩

/-- Directories decide whether a job is admitted. -/
theorem admitted_eq {job : Job} {tree other : FileTree} (hways : SameWays tree other) :
    admitted job other = admitted job tree := by
  have hdirectory (path : Path) : other.isDirectory path = tree.isDirectory path := by
    rw [Bool.eq_iff_iff, FileTree.isDirectory_iff, FileTree.isDirectory_iff]
    simp only [hways.locate_ok_iff, hways.directory_iff]
  rw [admitted, admitted, hdirectory, hdirectory]

/-! ## What a run touches -/

theorem filterPairs_leafChange (rules : Rules) (outputs : OutputPaths)
    (pairs : List DocumentPair) (tree : FileTree) :
    LeafChange (outputs.LeadTo tree) tree
      (filterPairs rules outputs pairs tree).tree := by
  induction pairs generalizing tree with
  | nil => exact .refl _ tree
  | cons pair pairs ih =>
      have hpair := filterPair_leafChange rules pair outputs tree
      rw [filterPairs]
      simp only
      split
      · exact hpair
      · apply hpair.trans
        apply (ih _).mono
        intro location hplace
        exact (outputs.leadTo_iff hpair.ways location).1 hplace

/-- Without links in the tree, a run touches files where its outputs lead, and nothing
else. -/
theorem filterCorpus_leafChange (job : Job) {tree : FileTree} (hfree : tree.LinkFree) :
    LeafChange (job.outputs.LeadTo tree) tree (filterCorpus job tree).tree := by
  cases filterCorpus_course job tree with
  | refused _ _ _ left | targetStays _ _ _ _ left =>
      rw [left]
      exact .refl _ tree
  | @sourceStays _ between _ _ first _ _ _ left =>
      rw [left]
      exact (removeStale_leafChange first hfree).mono fun _ => Or.inr
  | @filters _ between cleared _ first second follows =>
      have hbetween : LeafChange (job.outputs.LeadTo tree) tree between :=
        (removeStale_leafChange first hfree).mono fun _ => Or.inr
      have hbetweenFree : between.LinkFree := by
        intro location target hlink
        exact hfree location target (hbetween.ways.link_iff.1 hlink)
      have hcleared : LeafChange (job.outputs.LeadTo tree) tree cleared := by
        apply hbetween.trans
        apply (removeStale_leafChange second hbetweenFree).mono
        intro location hplace
        exact Or.inl (hbetween.ways.writesTo_iff.1 hplace)
      rw [follows.2.1]
      apply hcleared.trans
      apply (filterPairs_leafChange _ _ _ cleared).mono
      intro location hplace
      exact (job.outputs.leadTo_iff hcleared.ways location).1 hplace

/-- An output with a plain base name leads beside the directory of a language, never
inside. -/
theorem writesTo_output_eq {job : Job} (hbase : '/' ∉ job.outName.toList)
    {tree : FileTree} (hfree : tree.LinkFree) {outputLanguage language : String}
    (houtput : Job.isPlainName outputLanguage = true)
    (hlanguage : Job.isPlainName language = true) {location : Location}
    (hplace : tree.WritesTo (job.output outputLanguage) location) {site : Site}
    (hsite : tree.locate .read (job.inputDir.join ⟨language⟩) = .ok site)
    (hinside : site.location <:+ location) : location = site.location := by
  obtain ⟨-, -, -, hplain, -⟩ := isPlainName_iff.1 houtput
  obtain ⟨hempty, hdot, hdots, hplain', -⟩ := isPlainName_iff.1 hlanguage
  have hfolder := Job.inFolder_output hbase hplain
  have hfolder' := Job.inFolder_language job hplain' hempty
  obtain ⟨site', hsite', rfl⟩ := hplace
  obtain ⟨links, directory, hparts⟩ := FileTree.exists_partsIn hfolder hsite'
  have hdots' := append_outputTail_ne_dots job.outName.toList outputLanguage
  have hlanguageDots :
      String.ofList language.toList ≠ "." ∧ String.ofList language.toList ≠ ".." := by
    rw [String.ofList_toList]
    exact ⟨hdot, hdots⟩
  obtain ⟨name', -, -, rfl | ⟨target, hlink⟩⟩ := hfolder.exists_place hdots' hparts hsite'
  · obtain ⟨name, -, -, rfl | ⟨target, hlink⟩⟩ :=
      hfolder'.exists_place hlanguageDots hparts hsite
    · exact (hinside.eq_of_length rfl).symm
    · exact absurd hlink (hfree _ target)
  · exact absurd hlink (hfree _ target)

/-- Inside the directory of a language a run changes at most what an output leads to,
and nothing at all when the base name has no slash. -/
theorem filterCorpus_spares_inside {job : Job} {tree : FileTree} (hfree : tree.LinkFree)
    {directory : Path}
    (hdirectory : directory = job.sourceDir ∨ directory = job.targetDir) {site : Site}
    (hsite : tree.locate .read directory = .ok site) {location : Location}
    (hinside : site.location <:+ location)
    (hspared : ¬job.outputs.LeadTo tree location ∨ '/' ∉ job.outName.toList) :
    (filterCorpus job tree).tree.get? location = tree.get? location := by
  have hchange := filterCorpus_leafChange job hfree
  by_cases hlead : job.outputs.LeadTo tree location
  · have hbase : '/' ∉ job.outName.toList := hspared.resolve_left fun hnot => hnot hlead
    cases hadmitted : admitted job tree with
    | error failure =>
        rw [filterCorpus, hadmitted]
    | ok range =>
        obtain ⟨hcheck, -, hsourceDir, htargetDir⟩ := admitted_eq_ok_iff.1 hadmitted
        obtain ⟨hsource, htarget, -, -⟩ := check_ok hcheck
        have hlanguage : ∃ language, Job.isPlainName language = true ∧
            directory = job.inputDir.join ⟨language⟩ ∧
            tree.isDirectory directory = true := by
          rcases hdirectory with rfl | rfl
          · exact ⟨job.sourceLang, hsource, rfl, hsourceDir⟩
          · exact ⟨job.targetLang, htarget, rfl, htargetDir⟩
        obtain ⟨language, hplain, rfl, hisDirectory⟩ := hlanguage
        have hplace : location = site.location := by
          rcases hlead with hplace | hplace
          · exact writesTo_output_eq hbase hfree hsource hplain hplace hsite hinside
          · exact writesTo_output_eq hbase hfree htarget hplain hplace hsite hinside
        -- The directory of the language itself is none that a run could take away.
        have hstands : tree.get? location = some .directory := by
          rw [hplace]
          exact FileTree.get?_of_isDirectory hsite hisDirectory
        rw [hstands, hchange.ways.directory_iff, hstands]
  · exact hchange.elsewhere location hlead

def corpusRoot : Location := [⟨"c", by decide⟩]

def sourceRoot : Location := ⟨"en", by decide⟩ :: corpusRoot

def targetRoot : Location := ⟨"fa", by decide⟩ :: corpusRoot

/-- A corpus with one document pair, and a file among the source documents that is named
like an output. -/
def nestedOutput : FileTree where
  entries :=
    [ (corpusRoot, .directory), (sourceRoot, .directory), (targetRoot, .directory),
      (⟨"d.ixml", by decide⟩ :: sourceRoot, .file (Text.utf8 "x\n")),
      (⟨"d.ixml", by decide⟩ :: targetRoot, .file (Text.utf8 "y\n")),
      (⟨"x_Short.en", by decide⟩ :: sourceRoot, .file []) ]
  base := []
  distinct := by decide

theorem nestedOutput_linkFree : nestedOutput.LinkFree :=
  FileTree.linkFree_of_entries (by decide +kernel)

theorem filterCorpus_spares_nestedOutput :
    let job : Job := { inputDir := ⟨"c"⟩, outName := "news" }
    (filterCorpus job nestedOutput).tree.get? (⟨"d.ixml", by decide⟩ :: sourceRoot) =
      some (.file (Text.utf8 "x\n")) := by
  intro job
  have hsite : nestedOutput.locate .read job.sourceDir =
      .ok ⟨sourceRoot, true, false⟩ := by
    decide +kernel
  have hbase : '/' ∉ job.outName.toList := by decide +kernel
  rw [filterCorpus_spares_inside nestedOutput_linkFree (.inl rfl) hsite
    (List.suffix_cons _ _) (.inr hbase)]
  decide +kernel

/-- A base name with a slash can make a run put an output in the place of a file among
the source documents. -/
theorem filterCorpus_changes_inside :
    let job : Job := { inputDir := ⟨"c"⟩, outName := "en/x" }
    let location : Location := ⟨"x_Short.en", by decide⟩ :: sourceRoot
    job.check = .ok () ∧ nestedOutput.LinkFree ∧
      nestedOutput.locate .read job.sourceDir = .ok ⟨sourceRoot, true, false⟩ ∧
      sourceRoot <:+ location ∧ nestedOutput.get? location = some (.file []) ∧
      (filterCorpus job nestedOutput).tree.get? location =
        some (.file (Text.utf8 "x\n")) := by
  intro job location
  refine ⟨?_, nestedOutput_linkFree, ?_, List.suffix_cons _ _, ?_, ?_⟩
  all_goals decide +kernel

end ParallelCorpus
