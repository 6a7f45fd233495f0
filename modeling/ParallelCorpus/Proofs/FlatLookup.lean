import ParallelCorpus.Proofs.InputDirectories
import ParallelCorpus.Proofs.CorpusFold
import ParallelCorpus.Proofs.Unread

/-!
# Counterparts looked up flat

Without mirroring, the counterpart of a document is the file of its name directly in the
target directory, however deep the document lies.  Documents of one name share a
counterpart.  A run fails where there is none, and filters a document in a subdirectory
like any other where there is one.
-/

namespace ParallelCorpus

open FileTree (LeafChange)

/-! ## The path of a counterpart -/

/-- A document is looked up by its name. -/
theorem flat_of_mem_pairs {job : Job} (hflat : job.mirrorSubdirs = false)
    {tree : FileTree} {pair : DocumentPair} (hpair : pair ∈ job.pairs tree) :
    ∃ name, pair.source.fileName? = some name ∧
      pair.target = job.targetDir.join ⟨name⟩ := by
  obtain ⟨source, hsource, rfl⟩ := List.mem_map.1 hpair
  have hsuffix : source.hasSuffix job.suffix = true := (List.mem_filter.1 hsource).2
  rw [Path.hasSuffix] at hsuffix
  split at hsuffix
  · rename_i name hname
    refine ⟨name, hname, ?_⟩
    simp only [Job.lookup, hflat, Lookup.counterpart, flatCounterpart, hname]
    rfl
  · cases hsuffix

/-! ## Documents that cannot be opened -/

/-- Filtering a pair fails to open a document exactly where that document cannot be
opened, the source before the target. -/
theorem filterPair_openInput_iff {rules : Rules} {pair : DocumentPair}
    {outputs : OutputPaths} {tree : FileTree} {path : Path} {fault : FileFault} :
    (filterPair rules pair outputs tree).result = .error (.openInput path fault) ↔
      (path = pair.source ∧ tree.openInput pair.source = .error fault) ∨
      (path = pair.target ∧ (∃ source, tree.openInput pair.source = .ok source) ∧
        tree.openInput pair.target = .error fault) := by
  rw [filterPair]
  cases hsource : tree.openInput pair.source with
  | error sourceFault => simp [PairRun.unopened, eq_comm]
  | ok source =>
  cases htarget : tree.openInput pair.target with
  | error targetFault => simp [PairRun.unopened, eq_comm]
  | ok target =>
  cases hfirst : tree.openOutput outputs.source with
  | error firstFault => simp [PairRun.unopened]
  | ok first =>
  cases hsecond : first.2.openOutput outputs.target with
  | error secondFault => simp [PairRun.unopened, hsecond]
  | ok second => simp [hsecond, filterOpened_ne_openInput]

/-- A file that cannot be opened and is no output cannot be opened later either. -/
theorem openInput_error_of_leafChange {outputs : OutputPaths}
    {cleared now : FileTree} {path : Path} {fault : FileFault}
    (hchange : LeafChange (outputs.LeadTo cleared) cleared now)
    (hpath : ∀ output ∈ [outputs.source, outputs.target], ¬cleared.SameFile path output)
    (hfails : cleared.openInput path = .error fault) :
    ∃ fault', now.openInput path = .error fault' := by
  cases hnow : now.openInput path with
  | error fault' => exact ⟨fault', rfl⟩
  | ok input =>
      cases ((openInput_ok_iff_of_apart hchange hpath input).1 hnow).symm.trans hfails

/-- Pairs are not all filtered where the counterpart of one cannot be opened. -/
theorem filterPairs_ne_none (rules : Rules) {outputs : OutputPaths} {cleared : FileTree}
    {pairs : List DocumentPair} {pair : DocumentPair} (hpair : pair ∈ pairs)
    {fault : FileFault} (hfails : cleared.openInput pair.target = .error fault)
    (hapart : ∀ output ∈ [outputs.source, outputs.target],
      ¬cleared.SameFile pair.target output) :
    (filterPairs rules outputs pairs cleared).failure? ≠ none := by
  obtain ⟨before, after, rfl⟩ := List.append_of_mem hpair
  intro hsucceeds
  cases hreached : (filterPairs rules outputs before cleared).failure? with
  | some failure =>
      rw [filterPairs_append_of_failure hreached, hreached] at hsucceeds
      cases hsucceeds
  | none =>
      rw [filterPairs_append_of_success hreached, filterPairs] at hsucceeds
      simp only at hsucceeds
      split at hsucceeds
      · cases hsucceeds
      · rename_i tally hresult
        obtain ⟨fault', hfails'⟩ := openInput_error_of_leafChange
          (filterPairs_leafChange rules outputs before cleared) hapart hfails
        obtain ⟨source, target, -, htarget, -⟩ := filterPair_ok hresult
        rw [hfails'] at htarget
        cases htarget

theorem filterPairs_cons_of_error {rules : Rules} {outputs : OutputPaths}
    {pair : DocumentPair} {tree : FileTree} {failure : Failure}
    (hfails : (filterPair rules pair outputs tree).result = .error failure)
    (pairs : List DocumentPair) :
    (filterPairs rules outputs (pair :: pairs) tree).failure? = some failure := by
  simp only [filterPairs, hfails]

/-! ## Runs with flat lookup -/

/-- Looked up flat, a document has its counterpart under its name directly in the target
directory, and shares it with every document of that name.  Where the counterpart cannot
be opened, the run does not succeed.  A run that reaches the document fails to open the
document or its counterpart exactly where that cannot be opened, and ends with this
failure; otherwise it filters the document against that counterpart, whose lines are the
ones that count unless one of the two is an output. -/
theorem filterCorpus_flat {job : Job} {range : WordRange} {tree cleared : FileTree}
    (hflat : job.mirrorSubdirs = false) (hadmitted : admitted job tree = .ok range)
    (hclear : clearOutputs job.outputs tree = .ok cleared)
    {before after : List DocumentPair} {pair : DocumentPair}
    (hpairs : job.pairs cleared = before ++ pair :: after) :
    let rules : Rules := ⟨range, job.strictAlignment⟩
    let run := filterCorpus job tree
    let reached := filterPairs rules job.outputs before cleared
    let filtered := filterPair rules pair job.outputs reached.tree
    ∃ name, pair.source.fileName? = some name ∧ pair.target = job.targetDir.join ⟨name⟩ ∧
      (∀ other ∈ job.pairs cleared, other.source.fileName? = some name →
        other.target = pair.target) ∧
      (∀ fault, cleared.openInput pair.target = .error fault →
        (∀ output ∈ [job.outputs.source, job.outputs.target],
          ¬cleared.SameFile pair.target output) →
        ∀ total, run.result ≠ .ok total) ∧
      (reached.failure? = none →
        (∀ path fault, filtered.result = .error (.openInput path fault) ↔
          (path = pair.source ∧ reached.tree.openInput pair.source = .error fault) ∨
          (path = pair.target ∧
            (∃ source, reached.tree.openInput pair.source = .ok source) ∧
            reached.tree.openInput pair.target = .error fault)) ∧
        (∀ failure, filtered.result = .error failure → run.result = .error failure) ∧
        ∀ tally, pair.Apart job.outputs cleared → filtered.result = .ok tally →
          ∃ source target, reached.tree.openInput pair.source = .ok source ∧
            reached.tree.openInput pair.target = .ok target ∧
            tally = .ofDocument range (linePairs source.lines target.lines)) := by
  intro rules run reached filtered
  have hpair : pair ∈ job.pairs cleared := by
    rw [hpairs]
    simp
  obtain ⟨name, hname, htarget⟩ := flat_of_mem_pairs hflat hpair
  obtain ⟨events, hrun⟩ := filterCorpus_of_cleared hadmitted hclear
  have hresult := (filterCleared_eq job range events cleared).2.2
  rw [← hrun] at hresult
  refine ⟨name, hname, htarget, ?_, ?_, fun hreached => ⟨?_, ?_, ?_⟩⟩
  · intro other hother hshared
    obtain ⟨name', hname', htarget'⟩ := flat_of_mem_pairs hflat hother
    rw [hshared] at hname'
    rw [htarget', htarget, Option.some.inj hname']
  · intro fault hfails hapart total htotal
    have hends := filterPairs_ne_none rules hpair hfails hapart
    rw [htotal] at hresult
    split at hresult
    · cases hresult
    · rename_i hnone
      exact hends hnone
  · intro path fault
    exact filterPair_openInput_iff
  · intro failure hfails
    have hrest : (filterPairs rules job.outputs (pair :: after)
        (filterPairs rules job.outputs before cleared).tree).failure? = some failure :=
      filterPairs_cons_of_error hfails after
    rw [hpairs, filterPairs_append_of_success hreached] at hresult
    simp only [hrest] at hresult
    exact hresult
  · intro tally _ hok
    obtain ⟨source, target, hsource, htarget, htally, -⟩ := filterPair_ok hok
    exact ⟨source, target, hsource, htarget, htally⟩

/-- A corpus with one document pair, and a document of the same name in a subdirectory. -/
def nestedDocument : FileTree where
  entries :=
    [ (corpusRoot, .directory), (sourceRoot, .directory), (targetRoot, .directory),
      (⟨"sub", by decide⟩ :: sourceRoot, .directory),
      (⟨"a.ixml", Eq.refl true⟩ :: sourceRoot, .file (Text.utf8 "x\n")),
      (⟨"a.ixml", Eq.refl true⟩ :: targetRoot, .file (Text.utf8 "y\n")),
      (⟨"a.ixml", Eq.refl true⟩ :: ⟨"sub", by decide⟩ :: sourceRoot,
        .file (Text.utf8 "z\n")) ]
  base := []
  distinct := by decide

/-- A second nested document has no counterpart. -/
theorem filterCorpus_flat_missing :
    let job : Job := { inputDir := ⟨"c"⟩, outName := "news" }
    let tree := nestedDocument.put
      (⟨"b.ixml", by decide⟩ :: ⟨"sub", by decide⟩ :: sourceRoot)
      (.file (Text.utf8 "w\n"))
    tree.openInput ⟨"c/en/sub/b.ixml"⟩ = .ok (.text (Text.utf8 "w\n")) ∧
      (filterCorpus job tree).result = .error (.openInput ⟨"c/fa/b.ixml"⟩ .notFound) ∧
      ∀ total, (filterCorpus job tree).result ≠ .ok total := by
  intro job tree
  have hsource : tree.openInput ⟨"c/en/sub/b.ixml"⟩ = .ok (.text (Text.utf8 "w\n")) := by
    decide +kernel
  have htarget : tree.openInput ⟨"c/fa/b.ixml"⟩ = .error .notFound := by decide +kernel
  have hclear : clearOutputs job.outputs tree = .ok tree :=
    clearOutputs_of_not_holds (by decide +kernel) (by decide +kernel)
  have hadmitted : admitted job tree = .ok .standard := by decide +kernel
  have hpairs : job.pairs tree = [⟨⟨"c/en/sub/a.ixml"⟩, ⟨"c/fa/a.ixml"⟩⟩] ++
      ⟨⟨"c/en/sub/b.ixml"⟩, ⟨"c/fa/b.ixml"⟩⟩ :: [⟨⟨"c/en/a.ixml"⟩, ⟨"c/fa/a.ixml"⟩⟩] := by
    decide +kernel
  obtain ⟨name, -, -, -, hmissing, hreaches⟩ :=
    filterCorpus_flat rfl hadmitted hclear hpairs
  obtain ⟨hopen, hends, -⟩ := hreaches (by decide +kernel)
  refine ⟨hsource, hends _ ((hopen _ _).2 ?_),
    hmissing .notFound htarget (by decide +kernel)⟩
  exact .inr ⟨rfl, ⟨.text (Text.utf8 "w\n"), by decide +kernel⟩, by decide +kernel⟩

/-- A document in a subdirectory is filtered against the counterpart of another
document. -/
theorem filterCorpus_flat_shared :
    let job : Job := { inputDir := ⟨"c"⟩, outName := "news" }
    let run := filterCorpus job nestedDocument
    job.check = .ok () ∧ job.mirrorSubdirs = false ∧ nestedDocument.WellFormed ∧
      clearOutputs job.outputs nestedDocument = .ok nestedDocument ∧
      job.pairs nestedDocument = [⟨⟨"c/en/sub/a.ixml"⟩, ⟨"c/fa/a.ixml"⟩⟩,
        ⟨⟨"c/en/a.ixml"⟩, ⟨"c/fa/a.ixml"⟩⟩] ∧
      run.result = .ok ⟨2, 0, 2, 2, ⟨2, 1, some 1⟩, ⟨2, 1, some 1⟩⟩ := by
  intro job run
  refine ⟨?_, rfl, ⟨?_, ?_⟩, clearOutputs_of_not_holds ?_ ?_, ?_, ?_⟩
  all_goals decide +kernel

end ParallelCorpus
