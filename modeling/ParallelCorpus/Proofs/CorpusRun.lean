import ParallelCorpus.Program
import ParallelCorpus.Proofs.CorpusFold
import ParallelCorpus.Proofs.Unlinked
import ParallelCorpus.Proofs.Unread

/-!
# What a run comes to

A job that is admitted and whose outputs could be cleared filters the pairs it finds as
if each were filtered on its own into absent outputs.
-/

namespace ParallelCorpus

/-- The outputs of a job that makes sense start from nothing, unless one of them was a
link. -/
theorem fresh_outputs {job : Job} (hcheck : job.check = .ok ()) {tree cleared : FileTree}
    (hclear : clearOutputs job.outputs tree = .ok cleared)
    (hsource : ∀ target, tree.ownStatus job.outputs.source ≠ .ok (.link target))
    (htarget : ∀ target, tree.ownStatus job.outputs.target ≠ .ok (.link target)) :
    Fresh job.outputs cleared := by
  have hwithin := clearOutputs_within hclear
  obtain ⟨hsourceHolds, htargetHolds⟩ := clearOutputs_holds hclear
  have hends := endsInName_outputs hcheck
  have hsource : cleared.Unlinked job.outputs.source :=
    FileTree.Unlinked.of_within hsource hwithin
  have htarget : cleared.Unlinked job.outputs.target :=
    FileTree.Unlinked.of_within htarget hwithin
  refine ⟨hsource.vacant (hends _ (by simp)) hsourceHolds,
    htarget.vacant (hends _ (by simp)) htargetHolds, ?_⟩
  rintro sourcePlace targetPlace ⟨sourceSite, hsourceSite, rfl⟩
    ⟨targetSite, htargetSite, rfl⟩
  exact outputs_apart hcheck hsource htarget hsourceSite htargetSite

/-! ## The run -/

/-- A run of a job is the fold of filtering its pairs, each as on its own.  Every pair
adds what it leaves in absent outputs.  If all pairs succeed, the run does, with their
tallies merged, and the outputs hold what they add.  Otherwise the first failure ends
the run, and what was added before it stays.  No document behind it is read: neither the
rest of the pairs nor what other files hold makes a difference.  A document that needs a
directory in the place of an output is the one exception: it is missing as long as the
output is. -/
theorem filterCorpus_eq_fold {job : Job} {range : WordRange} {tree cleared : FileTree}
    (hcheck : job.check = .ok ()) (hrange : job.range = .ok range)
    (hsourceDir : tree.isDirectory job.sourceDir = true)
    (htargetDir : tree.isDirectory job.targetDir = true)
    (hclear : clearOutputs job.outputs tree = .ok cleared)
    (hsource : ∀ target, tree.ownStatus job.outputs.source ≠ .ok (.link target))
    (htarget : ∀ target, tree.ownStatus job.outputs.target ≠ .ok (.link target))
    (hapart : ∀ pair ∈ job.pairs cleared, pair.Apart job.outputs cleared) :
    let rules : Rules := ⟨range, job.strictAlignment⟩
    let alone := fun pair => filterPair rules pair job.outputs cleared
    let report? := Report.alone? rules job.outputs cleared
    let run := filterCorpus job tree
    (∀ pair report, report? pair = some report →
      (alone pair).tree.openInput job.outputs.source = .ok (.text report.sourceAdded) ∧
        (alone pair).tree.openInput job.outputs.target = .ok (.text report.targetAdded)) ∧
    ((∀ pair ∈ job.pairs cleared, (report? pair).isSome) →
      let reports := (job.pairs cleared).filterMap report?
      run.result = .ok (totals reports) ∧
        (totals reports).documents = (job.pairs cleared).length ∧
        printed (run.reports.map (·.progressLine)) =
          String.join (reports.map fun report =>
            report.tally.progressLine report.source.text ++ "\n") ∧
        (job.pairs cleared = [] → run.tree.holds job.outputs.source = false ∧
          run.tree.holds job.outputs.target = false) ∧
        (job.pairs cleared ≠ [] →
          run.tree.openInput job.outputs.source = .ok (.text (sourceAdded reports)) ∧
            run.tree.openInput job.outputs.target = .ok (.text (targetAdded reports)))) ∧
    ∀ before pair after failure, job.pairs cleared = before ++ pair :: after →
      (∀ other ∈ before, (report? other).isSome) → (alone pair).result = .error failure →
      let reports := before.filterMap report?
      ∃ failure', run.result = .error failure' ∧
        (before = [] → failure' = failure) ∧
        (before ≠ [] → FailsAs job.outputs cleared failure failure') ∧
        printed (run.reports.map (·.progressLine)) =
          String.join (reports.map fun report =>
            report.tally.progressLine report.source.text ++ "\n") ∧
        (∀ content, run.tree.openInput job.outputs.source = .ok (.text content) →
          content = sourceAdded reports ++ (alone pair).sourceAdded) ∧
        (∀ content, run.tree.openInput job.outputs.target = .ok (.text content) →
          content = targetAdded reports ++ (alone pair).targetAdded) ∧
        ∀ others cleared', Alike (ReadBy (before ++ [pair]) job.outputs cleared)
          cleared cleared' →
          let run' := filterPairs rules job.outputs (before ++ pair :: others) cleared'
          run'.reports = run.reports ∧ run'.failure? = some failure' ∧
            Alike (ReadBy (before ++ [pair]) job.outputs cleared) run.tree run'.tree ∧
            (cleared' = cleared → run'.tree = run.tree) := by
  intro rules alone report? run
  have hfresh := fresh_outputs hcheck hclear hsource htarget
  have hadmitted : admitted job tree = .ok range :=
    admitted_eq_ok_iff.2 ⟨hcheck, hrange, hsourceDir, htargetDir⟩
  obtain ⟨events, hrun⟩ := filterCorpus_of_cleared hadmitted hclear
  obtain ⟨hreports, htree, hresult⟩ := filterCleared_eq job range events cleared
  rw [← hrun] at hreports htree hresult
  refine ⟨?_, ?_, ?_⟩
  · intro pair report hreport
    obtain ⟨tally, hok, rfl⟩ := Report.alone?_eq_some_iff.1 hreport
    have hcollected := hfresh.collected.filterPair rules pair hfresh
    have hstand := hfresh.collected.stand_of_ok rules pair hfresh hok
    exact hstand.openInput hfresh hcollected.change.ways
  · intro halone reports
    obtain ⟨final, hpairs, hcollected, hstand⟩ :=
      filterPairs_of_alone hfresh hapart halone
    rw [hpairs] at hreports htree hresult
    refine ⟨hresult, ?_, ?_, ?_, ?_⟩
    · rw [documents_totals_alone]
      rw [List.length_filterMap_eq_countP]
      exact List.countP_eq_length.2 halone
    · rw [hreports, printed, List.map_map]
      rfl
    · intro hnil
      rcases hstand with ⟨-, rfl⟩ | ⟨hne, -⟩
      · rw [htree]
        exact clearOutputs_holds hclear
      · exact absurd hnil hne
    · intro hne
      rcases hstand with ⟨hnil, -⟩ | ⟨-, hstand⟩
      · exact absurd hnil hne
      · rw [htree]
        exact hstand.openInput hfresh hcollected.change.ways
  · intro before pair after failure hsplit halone hfails reports
    rw [hsplit] at hapart hreports htree hresult
    have hbefore : ∀ other ∈ before, other.Apart job.outputs cleared :=
      fun other hother => hapart other (List.mem_append_left _ hother)
    obtain ⟨failure', final, hpairs, hfirst, hlater, hcollected⟩ :=
      filterPairs_of_failure hfresh hbefore (hapart pair (by simp)) halone hfails
    rw [hpairs] at hreports htree hresult
    refine ⟨failure', hresult, hfirst, hlater, ?_, ?_, ?_, ?_⟩
    · rw [hreports, printed, List.map_map]
      rfl
    · intro content hopen
      rw [htree] at hopen
      exact hcollected.eq_of_openInput.1 hopen
    · intro content hopen
      rw [htree] at hopen
      exact hcollected.eq_of_openInput.2 hopen
    · intro others cleared' halike run'
      have hends := hpairs []
      have hothers : before ++ pair :: others = (before ++ [pair]) ++ others := by simp
      obtain ⟨hreports', hfailure', halike'⟩ :=
        filterPairs_unread (by rw [hends]) halike others
      rw [hends, ← hothers] at hreports' halike'
      rw [← hothers] at hfailure'
      refine ⟨by rw [hreports, hreports'], hfailure', by rw [htree]; exact halike', ?_⟩
      rintro rfl
      rw [htree]
      exact congrArg PairsRun.tree (hpairs others)

def twoPairs (first second : Entry × Entry) : FileTree where
  entries :=
    [ (corpusRoot, .directory), (sourceRoot, .directory), (targetRoot, .directory),
      (⟨"a.ixml", by decide⟩ :: sourceRoot, first.1),
      (⟨"a.ixml", by decide⟩ :: targetRoot, first.2),
      (⟨"b.ixml", by decide⟩ :: sourceRoot, second.1),
      (⟨"b.ixml", by decide⟩ :: targetRoot, second.2) ]
  base := []
  distinct := by
    simp only [List.map_cons, List.map_nil]
    decide

theorem ownStatus_ne_link {tree : FileTree} {path : Path}
    (hstatus : tree.ownStatus path = .error .notFound) (target : String) :
    tree.ownStatus path ≠ .ok (.link target) := by
  rw [hstatus]
  simp

theorem filterCorpus_eq_fold_twoPairs :
    let job : Job := { inputDir := ⟨"c"⟩, outName := "news" }
    let tree := twoPairs (.file (Text.utf8 "x\n"), .file (Text.utf8 "y\n"))
      (.file (Text.utf8 "z"), .file (Text.utf8 "w\nv\n"))
    let run := filterCorpus job tree
    run.result = .ok ⟨2, 0, 2, 2, ⟨2, 1, some 1⟩, ⟨2, 1, some 1⟩⟩ ∧
      run.tree.openInput job.outputs.source = .ok (.text (Text.utf8 "x\nz")) ∧
      run.tree.openInput job.outputs.target = .ok (.text (Text.utf8 "y\nw\n")) := by
  intro job tree run
  have hrange : job.range = .ok .standard := by decide +kernel
  have hclear : clearOutputs job.outputs tree = .ok tree :=
    clearOutputs_of_not_holds (by decide +kernel) (by decide +kernel)
  obtain ⟨-, hsuccess, -⟩ := filterCorpus_eq_fold (by decide +kernel) hrange
    (by decide +kernel) (by decide +kernel) hclear (ownStatus_ne_link (by decide +kernel))
    (ownStatus_ne_link (by decide +kernel)) (by decide +kernel)
  obtain ⟨hresult, -, -, -, houtputs⟩ := hsuccess (by decide +kernel)
  obtain ⟨hsource, htarget⟩ := houtputs (by decide +kernel)
  refine ⟨hresult.trans ?_, hsource.trans ?_, htarget.trans ?_⟩
  · decide +kernel
  · decide +kernel
  · decide +kernel

/-- A document behind a link through an output: on its own it is not found, after
another pair the output stands in its way. -/
theorem filterCorpus_ne_alone :
    let job : Job := { inputDir := ⟨"c"⟩, outName := "news" }
    let tree := twoPairs (.file (Text.utf8 "x\n"), .file (Text.utf8 "y\n"))
      (.link "../news_Short.en/z", .file (Text.utf8 "w\n"))
    let first : DocumentPair := ⟨⟨"c/en/a.ixml"⟩, ⟨"c/fa/a.ixml"⟩⟩
    let second : DocumentPair := ⟨⟨"c/en/b.ixml"⟩, ⟨"c/fa/b.ixml"⟩⟩
    let alone := fun pair => filterPair ⟨.standard, false⟩ pair job.outputs tree
    job.check = .ok () ∧ job.range = .ok .standard ∧
    tree.isDirectory job.sourceDir = true ∧
      tree.isDirectory job.targetDir = true ∧ clearOutputs job.outputs tree = .ok tree ∧
      tree.ownStatus job.outputs.source = .error .notFound ∧
      tree.ownStatus job.outputs.target = .error .notFound ∧
      job.pairs tree = [first, second] ∧
      (∀ pair ∈ job.pairs tree, pair.Apart job.outputs tree) ∧
      (Report.alone? ⟨.standard, false⟩ job.outputs tree first).isSome ∧
      (alone second).result = .error (.openInput second.source .notFound) ∧
      (filterCorpus job tree).result =
        .error (.openInput second.source .notADirectory) := by
  intro job tree first second alone
  refine ⟨?_, ?_, ?_, ?_, clearOutputs_of_not_holds ?_ ?_, ?_, ?_, ?_, ?_, ?_, ?_, ?_⟩
  all_goals decide +kernel

end ParallelCorpus
