import ParallelCorpus.Proofs.CorpusRun
import ParallelCorpus.Proofs.FoundDocuments

/-!
# Counterparts looked up mirrored

With mirroring, a document and its counterpart are what one relative path names in the
directories of the two languages, and either is found from the other, however these
directories are written.  So no two documents share a counterpart, and none is looked up
flat.  Where no document is nested the two lookups agree, and with them the whole run.
-/

namespace ParallelCorpus

/-! ## Moving a path to another directory -/

section Paths

variable {sourceDir targetDir : Path}

/-- What is joined to the source directory is looked up in the target directory, but for
slashes and dots at its ends. -/
theorem counterpart_join (hsource : sourceDir.text ≠ "") {rel : Path}
    (hrel : rel.isAbsolute = false) :
    Lookup.mirrored.counterpart (sourceDir.join rel) sourceDir targetDir =
      targetDir.join rel.trimmed := by
  rw [Lookup.counterpart]
  simp only [Path.relativeTo?_join hsource hrel]

theorem components_join_trimmed (htarget : targetDir.text ≠ "") {rel : Path}
    (hrel : rel.isAbsolute = false) :
    (targetDir.join rel.trimmed).components = (targetDir.join rel).components := by
  rw [Path.components_join htarget (Path.isAbsolute_trimmed rel), Path.inner_trimmed,
    Path.components_join htarget hrel]

/-- The path of a document leads back from its counterpart. -/
theorem components_counterpart_counterpart (hsource : sourceDir.text ≠ "")
    (htarget : targetDir.text ≠ "") {rel : Path} (hrel : rel.isAbsolute = false) :
    (Lookup.mirrored.counterpart
        (Lookup.mirrored.counterpart (sourceDir.join rel) sourceDir targetDir)
        targetDir sourceDir).components =
      (sourceDir.join rel).components := by
  have htrimmed := Path.isAbsolute_trimmed rel
  rw [counterpart_join hsource hrel, counterpart_join htarget htrimmed,
    components_join_trimmed hsource htrimmed, components_join_trimmed hsource hrel]

/-- What names lead to is looked up under the same names. -/
theorem counterpart_descend (hsource : sourceDir.text ≠ "") (names : List Name) :
    Lookup.mirrored.counterpart (sourceDir.descend names) sourceDir targetDir =
      targetDir.join (.ofNames names) := by
  rw [Lookup.counterpart]
  simp only [Path.relativeTo?_descend hsource]

theorem components_join_ofNames (htarget : targetDir.text ≠ "") (names : List Name) :
    (targetDir.join (.ofNames names)).components =
      targetDir.components ++ names.map (.name ·.text) := by
  rw [Path.components_join htarget (Path.isAbsolute_ofNames names), Path.inner_ofNames]

end Paths

/-! ## Mirrored pairs -/

section Pairs

variable {tree : FileTree} {sourceDir targetDir : Path} {suffix : String}

/-- A document and its mirrored counterpart have one path below the two directories. -/
theorem exists_relative_of_mem_discoverPairs (htarget : targetDir.text ≠ "")
    {pair : DocumentPair}
    (hpair : pair ∈ discoverPairs tree sourceDir targetDir suffix .mirrored) :
    ∃ rel, pair.source.relativeTo? sourceDir = some rel ∧
      pair.target.relativeTo? targetDir = some rel ∧
      pair.target = targetDir.join rel := by
  obtain ⟨document, hdocument, rfl⟩ := List.mem_map.1 hpair
  obtain ⟨hsource, names, rfl⟩ := exists_descend_of_mem hdocument
  refine ⟨.ofNames names, Path.relativeTo?_descend hsource names, ?_,
    counterpart_descend hsource names⟩
  rw [counterpart_descend hsource,
    Path.relativeTo?_join htarget (Path.isAbsolute_ofNames names), Path.trimmed_ofNames]

/-- Different documents have different mirrored counterparts. -/
theorem nodup_targets_discoverPairs (htarget : targetDir.text ≠ "") :
    ((discoverPairs tree sourceDir targetDir suffix .mirrored).map
      (·.target.components)).Nodup := by
  have hdocuments := nodup_findDocuments tree sourceDir suffix
  rw [List.Nodup, List.pairwise_map] at hdocuments
  rw [discoverPairs, List.map_map, List.Nodup, List.pairwise_map]
  apply hdocuments.imp_of_mem
  intro document other hdocument hother hdiffer hsame
  obtain ⟨hsource, names, rfl⟩ := exists_descend_of_mem hdocument
  obtain ⟨-, others, rfl⟩ := exists_descend_of_mem hother
  apply hdiffer
  simp only [Function.comp_apply, counterpart_descend hsource,
    components_join_ofNames htarget, List.append_cancel_left_eq] at hsame
  rw [Path.components_descend hsource, Path.components_descend hsource, hsame]

end Pairs

/-- Mirrored lookup loses nothing: between two directories it takes every path to the
one that continues the other directory alike, and back; and every document that is found
has a counterpart of its own, with the same path below the target directory. -/
theorem mirrored_lossless {sourceDir targetDir : Path} (hsource : sourceDir.text ≠ "")
    (htarget : targetDir.text ≠ "") :
    (∀ rel : Path, rel.isAbsolute = false →
      let source := sourceDir.join rel
      let target := Lookup.mirrored.counterpart source sourceDir targetDir
      target.components = (targetDir.join rel).components ∧
        (Lookup.mirrored.counterpart target targetDir sourceDir).components =
          source.components) ∧
      ∀ tree suffix,
        let pairs := discoverPairs tree sourceDir targetDir suffix .mirrored
        (pairs.map (·.target.components)).Nodup ∧
          ∀ pair ∈ pairs, ∃ rel, pair.source.relativeTo? sourceDir = some rel ∧
            pair.target.relativeTo? targetDir = some rel ∧
            pair.target = targetDir.join rel := by
  constructor
  · intro rel hrel source target
    have htrimmed : target = targetDir.join rel.trimmed := counterpart_join hsource hrel
    rw [htrimmed]
    refine ⟨components_join_trimmed htarget hrel, ?_⟩
    rw [← htrimmed]
    exact components_counterpart_counterpart hsource htarget hrel
  · intro tree suffix pairs
    exact ⟨nodup_targets_discoverPairs htarget, fun pair hpair =>
      exists_relative_of_mem_discoverPairs htarget hpair⟩

/-- Spare slashes and dots, in a directory or in what continues it, lead no counterpart
astray. -/
theorem mirrored_lossless_linkedSource :
    let sourceDir : Path := ⟨".//c/./src/"⟩
    let targetDir : Path := ⟨"/c/fa"⟩
    sourceDir.text ≠ "" ∧ targetDir.text ≠ "" ∧
    (Path.mk "./part//deep.ixml/").isAbsolute = false ∧
      (Lookup.mirrored.counterpart (sourceDir.join ⟨"./part//deep.ixml/"⟩) sourceDir
          targetDir).components =
        [.root, .name "c", .name "fa", .name "part", .name "deep.ixml"] ∧
      ((discoverPairs linkedSource sourceDir targetDir ".ixml" .mirrored).map
        (·.target.components)).Nodup := by
  intro sourceDir targetDir
  have hsource : sourceDir.text ≠ "" := by decide
  have htarget : targetDir.text ≠ "" := by decide
  have hrel : (Path.mk "./part//deep.ixml/").isAbsolute = false := by decide +kernel
  obtain ⟨hpaths, hpairs⟩ := mirrored_lossless hsource htarget
  refine ⟨hsource, htarget, hrel, (hpaths _ hrel).1.trans ?_,
    (hpairs linkedSource ".ixml").1⟩
  decide +kernel

/-! ## Documents that are not nested -/

/-- A path continues a directory by one name. -/
def Path.LiesIn (path directory : Path) : Prop :=
  ∃ name : Name, path = directory.join ⟨name.text⟩

/-- A run finds a document.  It looks for documents once earlier outputs have been
removed, and a link through one of them may be a document only then. -/
def Job.Finds (job : Job) (tree : FileTree) (document : Path) : Prop :=
  ∃ range cleared, admitted job tree = .ok range ∧
    clearOutputs job.outputs tree = .ok cleared ∧
    document ∈ findDocuments cleared job.sourceDir job.suffix

/-- A document that is not nested has the same counterpart by either lookup. -/
theorem counterpart_of_liesIn {sourceDir targetDir document : Path}
    (hsource : sourceDir.text ≠ "") (hlies : document.LiesIn sourceDir) :
    Lookup.mirrored.counterpart document sourceDir targetDir =
      Lookup.flat.counterpart document sourceDir targetDir := by
  obtain ⟨name, rfl⟩ := hlies
  have hname : (sourceDir.join ⟨name.text⟩).fileName? = some name.text :=
    Path.fileName?_descend hsource [] name
  calc
    Lookup.mirrored.counterpart (sourceDir.join ⟨name.text⟩) sourceDir targetDir =
        targetDir.join (.ofNames [name]) := counterpart_descend hsource [name]
    _ = targetDir.join ⟨name.text⟩ := by
      rw [Path.ofNames, List.map_cons, List.map_nil, String.intercalate_singleton]
    _ = Lookup.flat.counterpart (sourceDir.join ⟨name.text⟩) sourceDir targetDir := by
      rw [Lookup.counterpart]
      simp only [flatCounterpart, hname]

theorem discoverPairs_of_liesIn {tree : FileTree} {sourceDir targetDir : Path}
    {suffix : String}
    (hlie : ∀ document ∈ findDocuments tree sourceDir suffix, document.LiesIn sourceDir) :
    discoverPairs tree sourceDir targetDir suffix .mirrored =
      discoverPairs tree sourceDir targetDir suffix .flat := by
  rw [discoverPairs, discoverPairs]
  apply List.map_congr_left
  intro document hdocument
  rw [counterpart_of_liesIn (exists_descend_of_mem hdocument).1 (hlie document hdocument)]

/-- Runs of two jobs with the same outputs, admitted alike, are the same if they come to
the same once these outputs are cleared. -/
theorem filterCorpus_congr {job other : Job} {tree : FileTree}
    (hadmitted : admitted other tree = admitted job tree)
    (houtputs : other.outputs = job.outputs)
    (hcleared : ∀ range cleared, admitted job tree = .ok range →
      clearOutputs job.outputs tree = .ok cleared → ∀ events,
        filterCleared other range events cleared =
          filterCleared job range events cleared) :
    filterCorpus other tree = filterCorpus job tree := by
  rw [filterCorpus, filterCorpus, hadmitted, houtputs]
  cases hrange : admitted job tree with
  | error failure => rfl
  | ok range =>
  cases hfirst : removeStale job.outputs.target tree with
  | error failure => rfl
  | ok between =>
  cases hsecond : removeStale job.outputs.source between with
  | error failure => simp only [hsecond]
  | ok cleared =>
  simp only [hsecond]
  exact hcleared range cleared hrange (bind_eq_ok_iff.2 ⟨between, hfirst, hsecond⟩) _

/-- Where no document that a run finds is nested, mirroring makes no difference to the
run: not to its tally or failure, what it prints, the outputs or the rest of the tree. -/
theorem filterCorpus_of_liesIn {job : Job} {tree : FileTree}
    (hlie : ∀ document, job.Finds tree document → document.LiesIn job.sourceDir) :
    filterCorpus { job with mirrorSubdirs := true } tree =
      filterCorpus { job with mirrorSubdirs := false } tree := by
  apply filterCorpus_congr
  · rfl
  · rfl
  · intro range cleared hrange hcleared events
    have hpairs : ({ job with mirrorSubdirs := true } : Job).pairs cleared =
        ({ job with mirrorSubdirs := false } : Job).pairs cleared :=
      discoverPairs_of_liesIn fun document hdocument =>
        hlie document ⟨range, cleared, hrange, hcleared, hdocument⟩
    rw [Job.pairs, Job.pairs] at hpairs
    rw [filterCleared, filterCleared, hpairs]
    rfl

theorem filterCorpus_of_liesIn_twoPairs :
    let job : Job := { inputDir := ⟨"./c//"⟩, outName := "news" }
    let tree := twoPairs (.file (Text.utf8 "x\n"), .file (Text.utf8 "y\n"))
      (.file (Text.utf8 "z"), .file (Text.utf8 "w\nv\n"))
    (∀ document, job.Finds tree document → document.LiesIn job.sourceDir) ∧
      (filterCorpus { job with mirrorSubdirs := true } tree).result =
        .ok ⟨2, 0, 2, 2, ⟨2, 1, some 1⟩, ⟨2, 1, some 1⟩⟩ := by
  intro job tree
  have hclear : clearOutputs job.outputs tree = .ok tree :=
    clearOutputs_of_not_holds (by decide +kernel) (by decide +kernel)
  have hfound : findDocuments tree job.sourceDir job.suffix =
      [⟨"./c//en/a.ixml"⟩, ⟨"./c//en/b.ixml"⟩] := by
    decide +kernel
  have hlie (document : Path) (hfinds : job.Finds tree document) :
      document.LiesIn job.sourceDir := by
    obtain ⟨range, cleared, -, hclear', hdocument⟩ := hfinds
    obtain rfl : cleared = tree := Except.ok.inj (hclear'.symm.trans hclear)
    rw [hfound, List.mem_cons, List.mem_singleton] at hdocument
    rcases hdocument with rfl | rfl
    · exact ⟨⟨"a.ixml", by decide⟩, by decide +kernel⟩
    · exact ⟨⟨"b.ixml", by decide⟩, by decide +kernel⟩
  have hsame := filterCorpus_of_liesIn hlie
  refine ⟨hlie, ?_⟩
  rw [hsame]
  decide +kernel

end ParallelCorpus
