import ParallelCorpus.Proofs.CorpusRun
import ParallelCorpus.Proofs.Leftovers

/-!
# Running again

A run takes away leftovers before it looks for documents.  So two trees that differ in
leftovers only come to the same: the same result, the same reports, and, once the job is
admitted, the same tree.  What a run itself leaves is nothing else, so running again
changes nothing.
-/

namespace ParallelCorpus

open FileTree (SameWays SameListing SameBeyond)

/-! ## What a run leaves -/

theorem filterPair_sameBeyond (rules : Rules) (pair : DocumentPair)
    {outputs : OutputPaths} {tree : FileTree} {places : List Location}
    (hplaces : ∀ location, outputs.LeadTo tree location → location ∈ places) :
    SameBeyond places tree (filterPair rules pair outputs tree).tree := by
  rcases filterPair_cases rules pair outputs tree with
    ⟨failure, hrun⟩ | ⟨failure, handle, opened, hfirst, hrun⟩ |
    ⟨source, target, sourceHandle, opened, targetHandle, ready, -, -,
      hfirst, hsecond, hrun⟩
  · rw [hrun]
    exact .refl places tree
  · rw [hrun]
    exact FileTree.sameBeyond_openOutput hfirst
      (hplaces _ (.inl (FileTree.openOutput_ok hfirst).1))
  · obtain ⟨hsourcePlace, hfirstChange⟩ := FileTree.openOutput_ok hfirst
    obtain ⟨htargetPlace, -⟩ := FileTree.openOutput_ok hsecond
    have hsource := hplaces _ (.inl hsourcePlace)
    have htarget := hplaces _ (.inr (hfirstChange.ways.writesTo_iff.1 htargetPlace))
    have hready : SameBeyond places tree ready :=
      (FileTree.sameBeyond_openOutput hfirst hsource).trans
        (FileTree.sameBeyond_openOutput hsecond htarget)
    rw [hrun, filterOpened]
    exact (hready.trans (FileTree.sameBeyond_receive ready hsource _)).trans
      (FileTree.sameBeyond_receive _ htarget _)

theorem filterPairs_sameBeyond (rules : Rules) (pairs : List DocumentPair)
    {outputs : OutputPaths} {tree : FileTree} {places : List Location}
    (hplaces : ∀ location, outputs.LeadTo tree location → location ∈ places) :
    SameBeyond places tree (filterPairs rules outputs pairs tree).tree := by
  induction pairs generalizing tree with
  | nil => exact .refl places tree
  | cons pair pairs ih =>
      have hpair := filterPair_sameBeyond rules pair hplaces
      have hways := (filterPair_leafChange rules pair outputs tree).ways
      rw [filterPairs]
      simp only
      split
      · exact hpair
      · apply hpair.trans
        apply ih
        intro location hplace
        exact hplaces location ((outputs.leadTo_iff hways location).1 hplace)

/-- Whatever comes of filtering pairs, each output that is there is a file. -/
theorem Collected.filterPairs (rules : Rules) {outputs : OutputPaths}
    {cleared now : FileTree} {source target : Text.Bytes} (hfresh : Fresh outputs cleared)
    (hcollected : Collected outputs cleared now source target)
    (pairs : List DocumentPair) :
    ∃ source' target', Collected outputs cleared
      (ParallelCorpus.filterPairs rules outputs pairs now).tree source' target' := by
  induction pairs generalizing now source target with
  | nil => exact ⟨source, target, hcollected⟩
  | cons pair pairs ih =>
      have hpair := hcollected.filterPair rules pair hfresh
      rw [ParallelCorpus.filterPairs]
      simp only
      split
      · exact ⟨_, _, hpair⟩
      · exact ih hpair

theorem Collected.leftover {outputs : OutputPaths} {cleared now : FileTree}
    {source target : Text.Bytes}
    (hcollected : Collected outputs cleared now source target)
    (hends : ∀ output ∈ [outputs.source, outputs.target], output.EndsInName)
    (hcleared : ∀ output ∈ [outputs.source, outputs.target], cleared.Leftover output) :
    ∀ output ∈ [outputs.source, outputs.target], now.Leftover output := by
  intro output houtput
  rw [FileTree.leftover_iff]
  intro entry hown
  obtain ⟨site, hsite, hstands⟩ := bind_eq_ok_iff.1 hown
  rw [FileTree.entryAt_eq_ok_iff] at hstands
  have hplace : cleared.WritesTo output site.location :=
    ((hcleared output houtput).leadsPlainly (hends output houtput)
      (hcollected.change.ways.locate_ok_iff.1 hsite)).writesTo
  have hkeeps : ∃ bytes, now.Keeps site.location bytes := by
    simp only [List.mem_cons, List.not_mem_nil, or_false] at houtput
    rcases houtput with rfl | rfl
    · exact ⟨source, hcollected.source _ hplace⟩
    · exact ⟨target, hcollected.target _ hplace⟩
  obtain ⟨bytes, hfile | ⟨hvacant, -⟩⟩ := hkeeps
  · rw [hstands.1] at hfile
    cases hfile
    rfl
  · rw [hstands.1] at hvacant
    cases hvacant

/-! ## Runs over trees that differ in leftovers -/

/-- Whether a failure means that the job was refused before anything was touched. -/
def Failure.isRefusal : Failure → Bool
  | missingLanguage .. | emptyRange .. | setting _ => true
  | _ => false

theorem isRefusal_of_range {job : Job} {failure : Failure}
    (hrange : job.range = .error failure) :
    failure.isRefusal = true := by
  rw [Job.range, WordRange.ofLimits] at hrange
  split at hrange
  · cases hrange
  · cases hrange
    rfl

theorem isRefusal_of_checkLanguage {option language : String} {failure : Failure}
    (hcheck : Job.checkLanguage option language = .error failure) :
    failure.isRefusal = true := by
  rw [Job.checkLanguage] at hcheck
  split at hcheck
  · cases hcheck
  · cases hcheck
    rfl

theorem isRefusal_of_check {job : Job} {failure : Failure}
    (hcheck : job.check = .error failure) :
    failure.isRefusal = true := by
  simp only [Job.check, bind_eq_error_iff] at hcheck
  rcases hcheck with hsource | ⟨_, -, htarget | ⟨_, -, hrest⟩⟩
  · exact isRefusal_of_checkLanguage hsource
  · exact isRefusal_of_checkLanguage htarget
  split at hrest
  · cases hrest
    rfl
  split at hrest
  · cases hrest
    rfl
  cases hrange : job.range with
  | ok range =>
      rw [hrange] at hrest
      cases hrest
  | error failure' =>
      rw [hrange] at hrest
      cases hrest
      exact isRefusal_of_range hrange

/-- A job that is not admitted is refused. -/
theorem isRefusal_of_admitted {job : Job} {tree : FileTree} {failure : Failure}
    (hadmitted : admitted job tree = .error failure) : failure.isRefusal = true := by
  rw [admitted, bind_eq_error_iff] at hadmitted
  rcases hadmitted with hcheck | ⟨_, -, hadmitted⟩
  · exact isRefusal_of_check hcheck
  rw [bind_eq_error_iff] at hadmitted
  rcases hadmitted with hrange | ⟨range, -, hadmitted⟩
  · exact isRefusal_of_range hrange
  split at hadmitted
  · cases hadmitted
  · cases hadmitted
    rfl

/-- Cleared trees that nothing tells apart come to the same, whatever was removed from
them. -/
theorem filterCorpus_of_sameListing {job : Job} {range : WordRange}
    {tree other cleared cleared' : FileTree} (hadmitted : admitted job tree = .ok range)
    (hadmitted' : admitted job other = .ok range)
    (hclear : clearOutputs job.outputs tree = .ok cleared)
    (hclear' : clearOutputs job.outputs other = .ok cleared')
    (hsame : SameListing cleared cleared') :
    let run := filterCorpus job tree
    let run' := filterCorpus job other
    run'.result = run.result ∧ run'.reports = run.reports ∧
    SameListing run.tree run'.tree := by
  intro run run'
  obtain ⟨events, hrun⟩ := filterCorpus_of_cleared hadmitted hclear
  obtain ⟨events', hrun'⟩ := filterCorpus_of_cleared hadmitted' hclear'
  obtain ⟨hreports, htree, hresult⟩ := filterCleared_eq job range events cleared
  obtain ⟨hreports', htree', hresult'⟩ := filterCleared_eq job range events' cleared'
  have hpairs : job.pairs cleared' = job.pairs cleared := hsame.discoverPairs_eq _ _ _ _
  obtain ⟨hsameReports, hsameFailure, hsameTree⟩ :=
    hsame.filterPairs ⟨range, job.strictAlignment⟩ (job.pairs cleared) job.outputs
  simp only [run, run', hrun, hrun', hreports, hreports', htree, htree', hresult,
    hresult', hpairs, hsameReports, hsameFailure]
  exact ⟨trivial, trivial, hsameTree⟩

section Runs

variable {job : Job} {tree other : FileTree}

theorem admitted_of_leftovers
    (htree : ∀ output ∈ [job.outputs.source, job.outputs.target], tree.Leftover output)
    (hother : ∀ output ∈ [job.outputs.source, job.outputs.target], other.Leftover output)
    (hsame : SameBeyond (job.outputs.places tree) tree other) :
    admitted job other = admitted job tree := by
  cases hcheck : job.check with
  | error failure =>
      rw [admitted, admitted, hcheck]
      rfl
  | ok _ =>
      exact admitted_eq
        (sameWays_of_leftovers (endsInName_outputs hcheck) htree hother hsame)

/-- Once the job is admitted, trees that differ in leftovers only come to the same and
end as the same tree. -/
theorem filterCorpus_sameBeyond {range : WordRange}
    (hadmitted : admitted job tree = .ok range)
    (htree : ∀ output ∈ [job.outputs.source, job.outputs.target], tree.Leftover output)
    (hother : ∀ output ∈ [job.outputs.source, job.outputs.target], other.Leftover output)
    (hsame : SameBeyond (job.outputs.places tree) tree other) :
    let run := filterCorpus job tree
    let run' := filterCorpus job other
    run'.result = run.result ∧ run'.reports = run.reports ∧
    SameListing run.tree run'.tree := by
  have hends := endsInName_outputs (admitted_eq_ok_iff.1 hadmitted).1
  have hways := sameWays_of_leftovers hends htree hother hsame
  obtain ⟨cleared, hclear, hcleared⟩ := clearOutputs_leftovers hends htree
  obtain ⟨cleared', hclear', hcleared'⟩ := clearOutputs_leftovers hends hother
  have hplaces (location : Location) :
      location ∈ job.outputs.places tree ↔ job.outputs.LeadTo tree location :=
    OutputPaths.mem_places_iff
  have hplaces' (location : Location) :
      location ∈ job.outputs.places tree ↔ job.outputs.LeadTo other location := by
    rw [hplaces, job.outputs.leadTo_iff hways]
  have hbeyond : SameBeyond (job.outputs.places tree) cleared cleared' :=
    ((hcleared.beyond _ fun location => (hplaces location).2).symm.trans hsame).trans
      (hcleared'.beyond _ fun location => (hplaces' location).2)
  have hlisting : SameListing cleared cleared' :=
    hbeyond.sameListing
      (fun place hplace => hcleared.vacant place ((hplaces place).1 hplace)) fun place
      hplace => hcleared'.vacant place ((hplaces' place).1 hplace)
  exact filterCorpus_of_sameListing hadmitted
    ((admitted_eq hways).trans hadmitted) hclear hclear' hlisting

/-- What a run leaves differs in leftovers only from what it found. -/
theorem filterCorpus_leaves {range : WordRange}
    (hadmitted : admitted job tree = .ok range)
    (htree : ∀ output ∈ [job.outputs.source, job.outputs.target], tree.Leftover output) :
    let run := filterCorpus job tree
    (∀ output ∈ [job.outputs.source, job.outputs.target], run.tree.Leftover output) ∧
      SameBeyond (job.outputs.places tree) tree run.tree := by
  intro run
  obtain ⟨hcheck, -⟩ := admitted_eq_ok_iff.1 hadmitted
  have hends := endsInName_outputs hcheck
  obtain ⟨cleared, hclear, hcleared⟩ := clearOutputs_leftovers hends htree
  have hfresh := fresh_outputs hcheck hclear (htree _ (by simp)).unlinked
    (htree _ (by simp)).unlinked
  obtain ⟨events, hrun⟩ := filterCorpus_of_cleared hadmitted hclear
  have hfinal :
      run.tree =
        (filterPairs ⟨range, job.strictAlignment⟩ job.outputs (job.pairs cleared)
          cleared).tree := by
    simp only [run, hrun]
    exact (filterCleared_eq job range events cleared).2.1
  rw [hfinal]
  constructor
  · obtain ⟨source, target, hcollected⟩ :=
      hfresh.collected.filterPairs ⟨range, job.strictAlignment⟩ hfresh (job.pairs cleared)
    apply hcollected.leftover hends
    intro output houtput
    exact (htree output houtput).of_within hcleared.within
  · apply (hcleared.beyond _ fun _ => OutputPaths.mem_places_iff.2).trans
    apply filterPairs_sameBeyond
    intro location hplace
    rw [OutputPaths.mem_places_iff]
    exact (job.outputs.leadTo_iff hcleared.ways location).1 hplace

/-- Leftovers never influence a run.  Two trees that differ at the outputs only, where
each has a file or nothing, come to the same result with the same reports, and so to the
same progress lines; unless the job is refused, they end as the same tree.  Running
again on the tree that a run left changes nothing. -/
theorem filterCorpus_leftovers
    (htree : ∀ output ∈ [job.outputs.source, job.outputs.target], tree.Leftover output)
    (hother : ∀ output ∈ [job.outputs.source, job.outputs.target], other.Leftover output)
    (hsame : SameBeyond (job.outputs.places tree) tree other) :
    let run := filterCorpus job tree
    let run' := filterCorpus job other
    let again := filterCorpus job run.tree
    run'.result = run.result ∧ run'.reports = run.reports ∧
      ((∀ failure, run.result = .error failure → failure.isRefusal = false) →
        SameListing run.tree run'.tree) ∧
      again.result = run.result ∧ again.reports = run.reports ∧
      SameListing run.tree again.tree := by
  intro run run' again
  cases hadmitted : admitted job tree with
  | error failure =>
      have hadmitted' := (admitted_of_leftovers htree hother hsame).trans hadmitted
      have hrun : run = ⟨[], [], .error failure, tree⟩ := by
        simp only [run, filterCorpus, hadmitted]
      have hrun' : run' = ⟨[], [], .error failure, other⟩ := by
        simp only [run', filterCorpus, hadmitted']
      have hagain : again = run := by simp only [again, hrun, run]
      rw [hagain, hrun, hrun']
      refine ⟨rfl, rfl, fun hunrefused => ?_, rfl, rfl, .refl tree⟩
      have hrefusal := isRefusal_of_admitted hadmitted
      rw [hunrefused failure rfl] at hrefusal
      cases hrefusal
  | ok range =>
      obtain ⟨hresult, hreports, hfinal⟩ :=
        filterCorpus_sameBeyond hadmitted htree hother hsame
      obtain ⟨hleft, hleaves⟩ := filterCorpus_leaves hadmitted htree
      exact ⟨hresult, hreports, fun _ => hfinal,
        filterCorpus_sameBeyond hadmitted htree hleft hleaves⟩

end Runs

/-- A corpus in which an earlier run left the one output, and the same corpus with a
file in the place of the other. -/
theorem filterCorpus_leftovers_twoPairs :
    let job : Job := { inputDir := ⟨"c"⟩, outName := "news" }
    let corpus := twoPairs (.file (Text.utf8 "x\n"), .file (Text.utf8 "y\n"))
      (.file (Text.utf8 "z"), .file (Text.utf8 "w\nv\n"))
    let tree :=
      corpus.create (⟨"news_Short.en", by decide⟩ :: corpusRoot) (.file (Text.utf8 "x\n"))
    let other :=
      corpus.create (⟨"news_Short.fa", by decide⟩ :: corpusRoot) (.file (Text.utf8 "u"))
    let run := filterCorpus job tree
    let run' := filterCorpus job other
    let again := filterCorpus job run.tree
    tree.openInput job.outputs.source = .ok (.text (Text.utf8 "x\n")) ∧
      other.openInput job.outputs.source = .error .notFound ∧
      run.result = .ok ⟨2, 0, 2, 2, ⟨2, 1, some 1⟩, ⟨2, 1, some 1⟩⟩ ∧
      run'.result = run.result ∧ run'.reports = run.reports ∧
      SameListing run.tree run'.tree ∧
      again.result = run.result ∧ again.reports = run.reports ∧
      SameListing run.tree again.tree := by
  intro job corpus tree other run run' again
  have hplaces : job.outputs.places tree = [⟨"news_Short.en", by decide⟩ :: corpusRoot,
      ⟨"news_Short.fa", by decide⟩ :: corpusRoot] := by decide +kernel
  have hsame : SameBeyond (job.outputs.places tree) tree other := by
    rw [hplaces]
    apply (FileTree.sameBeyond_create (by decide +kernel) (by decide) _).symm.trans
    exact FileTree.sameBeyond_create (by decide +kernel) (by decide) _
  have hresult : run.result = .ok ⟨2, 0, 2, 2, ⟨2, 1, some 1⟩, ⟨2, 1, some 1⟩⟩ := by
    decide +kernel
  obtain ⟨hsameResult, hreports, hfinal, hagain⟩ :=
    filterCorpus_leftovers (by decide +kernel) (by decide +kernel) hsame
  refine ⟨by decide +kernel, by decide +kernel, hresult, hsameResult, hreports,
    hfinal ?_, hagain⟩
  intro failure hfails
  rw [hresult] at hfails
  cases hfails

end ParallelCorpus
