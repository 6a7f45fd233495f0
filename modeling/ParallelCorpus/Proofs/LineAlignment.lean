import ParallelCorpus.Proofs.CorpusRun
import ParallelCorpus.Proofs.LineStructure

/-!
# Alignment of the outputs

The outputs of a run are the accepted lines of all documents, put together as they were
read.  The two sides stay aligned line by line exactly when no accepted line but the
last lacks its terminator.  Within a document only the last line can lack it, so it
takes a document that ends without one, and another accepted line behind it.
-/

namespace ParallelCorpus

open Text (Bytes wordCount IsLine Terminated)

/-! ## Accepted line pairs -/

def documentLines (tree : FileTree) (path : Path) : List Bytes :=
  match tree.openInput path with
  | .ok input => input.lines
  | .error _ => []

/-- The line pairs of all documents in the order in which they are processed. -/
def allLinePairs (tree : FileTree) (pairs : List DocumentPair) : List (Bytes × Bytes) :=
  pairs.flatMap fun pair =>
    linePairs (documentLines tree pair.source) (documentLines tree pair.target)

/-- The accepted line pairs of all documents in the order in which they are processed. -/
def acceptedPairs (range : WordRange) (tree : FileTree) (pairs : List DocumentPair) :
    List (Bytes × Bytes) :=
  (allLinePairs tree pairs).filter range.keeps

theorem Input.isLine_of_mem_lines {input : Input} {line : Bytes}
    (hline : line ∈ input.lines) :
    IsLine line := by
  cases input with
  | text rest => exact Text.isLine_of_mem_lines hline
  | failing rest fault => exact Text.isLine_of_mem_lines (List.mem_filter.1 hline).1

theorem isLine_of_mem_documentLines {tree : FileTree} {path : Path} {line : Bytes}
    (hline : line ∈ documentLines tree path) : IsLine line := by
  rw [documentLines] at hline
  split at hline
  · exact Input.isLine_of_mem_lines hline
  · cases hline

theorem mem_linePairs {source target : List Bytes} {pair : Bytes × Bytes}
    (hpair : pair ∈ linePairs source target) :
    pair.1 ∈ source ∧ (pair.2 ∈ target ∨ pair.2 = []) := by
  induction source generalizing target with
  | nil => cases hpair
  | cons sourceLine source ih =>
      rw [linePairs, List.mem_cons] at hpair
      rcases hpair with rfl | hpair
      · refine ⟨List.mem_cons_self, ?_⟩
        cases target with
        | nil => exact .inr rfl
        | cons targetLine target => exact .inl List.mem_cons_self
      · obtain ⟨hsource, htarget⟩ := ih hpair
        refine ⟨List.mem_cons_of_mem _ hsource, htarget.imp_left ?_⟩
        exact List.mem_of_mem_tail

/-- Both sides of an accepted line pair are lines: where the target has none, none is
accepted. -/
theorem isLine_of_mem_kept {range : WordRange} {source target : List Bytes}
    (hsource : ∀ line ∈ source, IsLine line) (htarget : ∀ line ∈ target, IsLine line)
    {pair : Bytes × Bytes} (hpair : pair ∈ (linePairs source target).filter range.keeps) :
    IsLine pair.1 ∧ IsLine pair.2 := by
  obtain ⟨hlines, hkept⟩ := List.mem_filter.1 hpair
  obtain ⟨hfirst, hsecond⟩ := mem_linePairs hlines
  refine ⟨hsource pair.1 hfirst, ?_⟩
  rcases hsecond with hsecond | hempty
  · exact htarget pair.2 hsecond
  · rw [WordRange.keeps, hempty, accepts_empty] at hkept
    cases hkept

section Sides

variable {range : WordRange} {tree : FileTree} {pairs : List DocumentPair}

theorem isLine_of_mem_acceptedPairs {pair : Bytes × Bytes}
    (hpair : pair ∈ acceptedPairs range tree pairs) : IsLine pair.1 ∧ IsLine pair.2 := by
  obtain ⟨hmem, hkept⟩ := List.mem_filter.1 hpair
  obtain ⟨documents, -, hlines⟩ := List.mem_flatMap.1 hmem
  exact isLine_of_mem_kept (fun _ => isLine_of_mem_documentLines)
    (fun _ => isLine_of_mem_documentLines) (List.mem_filter.2 ⟨hlines, hkept⟩)

theorem isLine_of_mem_source {line : Bytes}
    (hline : line ∈ (acceptedPairs range tree pairs).map Prod.fst) : IsLine line := by
  obtain ⟨pair, hpair, rfl⟩ := List.mem_map.1 hline
  exact (isLine_of_mem_acceptedPairs hpair).1

theorem isLine_of_mem_target {line : Bytes}
    (hline : line ∈ (acceptedPairs range tree pairs).map Prod.snd) : IsLine line := by
  obtain ⟨pair, hpair, rfl⟩ := List.mem_map.1 hline
  exact (isLine_of_mem_acceptedPairs hpair).2

end Sides

/-! ## What reports add up to -/

theorem alone?_eq_linePairs {rules : Rules} {outputs : OutputPaths} {cleared : FileTree}
    {pair : DocumentPair} {report : Report}
    (halone : Report.alone? rules outputs cleared pair = some report) :
    let kept := acceptedPairs rules.range cleared [pair]
    report.tally.approved = kept.length ∧
    report.sourceAdded = (kept.map Prod.fst).flatten ∧
      report.targetAdded = (kept.map Prod.snd).flatten := by
  intro kept
  obtain ⟨tally, hresult, rfl⟩ := Report.alone?_eq_some_iff.1 halone
  obtain ⟨source, target, hsource, htarget, htally, hsourceAdded, htargetAdded⟩ :=
    filterPair_ok hresult
  have hkept : kept = (linePairs source.lines target.lines).filter rules.range.keeps := by
    simp only [kept, acceptedPairs, allLinePairs, documentLines, hsource, htarget,
      List.flatMap_cons, List.flatMap_nil, List.append_nil]
  rw [hkept]
  exact ⟨by rw [htally]; rfl, hsourceAdded, htargetAdded⟩

theorem acceptedPairs_cons (range : WordRange) (tree : FileTree) (pair : DocumentPair)
    (pairs : List DocumentPair) :
    acceptedPairs range tree (pair :: pairs) =
      acceptedPairs range tree [pair] ++ acceptedPairs range tree pairs := by
  simp [acceptedPairs, allLinePairs]

/-- The reports on pairs that all succeed on their own add the accepted lines. -/
theorem reports_eq_acceptedPairs {rules : Rules} {outputs : OutputPaths}
    {cleared : FileTree} {pairs : List DocumentPair}
    (halone : ∀ pair ∈ pairs, (Report.alone? rules outputs cleared pair).isSome) :
    let reports := pairs.filterMap (Report.alone? rules outputs cleared)
    let kept := acceptedPairs rules.range cleared pairs
    (totals reports).approved = kept.length ∧
    sourceAdded reports = (kept.map Prod.fst).flatten ∧
      targetAdded reports = (kept.map Prod.snd).flatten := by
  simp only
  rw [totals_eq_sum Tally.approved rfl fun _ _ => rfl]
  induction pairs with
  | nil => exact ⟨rfl, rfl, rfl⟩
  | cons pair pairs ih =>
      obtain ⟨report, hreport⟩ :=
        Option.isSome_iff_exists.1 (halone pair List.mem_cons_self)
      obtain ⟨happroved, hsource, htarget⟩ := alone?_eq_linePairs hreport
      obtain ⟨hrest, hsourceRest, htargetRest⟩ :=
        ih fun other hother => halone other (List.mem_cons_of_mem _ hother)
      rw [List.filterMap_cons_some hreport, acceptedPairs_cons]
      refine ⟨?_, ?_, ?_⟩
      · rw [List.map_cons, List.sum_cons, hrest, happroved, List.length_append]
      · rw [List.map_append, List.flatten_append, ← hsource, ← hsourceRest]
        rfl
      · rw [List.map_append, List.flatten_append, ← htarget, ← htargetRest]
        rfl

/-! ## The outputs of a successful run -/

/-- Cleared outputs that are different files start from nothing. -/
theorem clearOutputs_fresh {outputs : OutputPaths} {tree cleared : FileTree}
    (hclear : clearOutputs outputs tree = .ok cleared) (hformed : tree.WellFormed)
    (houtputs : ¬cleared.SameFile outputs.source outputs.target) :
    Fresh outputs cleared := by
  obtain ⟨hsource, htarget⟩ := clearOutputs_vacant hclear hformed
  refine ⟨hsource, htarget, ?_⟩
  rintro sourcePlace targetPlace hsourceLeads htargetLeads rfl
  exact houtputs (FileTree.sameFile_of_writesTo hsourceLeads htargetLeads)

/-- In a run that succeeds, every pair succeeds on its own. -/
theorem alone_of_result_ok {job : Job} {range : WordRange} {events : List Event}
    {cleared : FileTree} {total : Tally} (hfresh : Fresh job.outputs cleared)
    (hapart : ∀ pair ∈ job.pairs cleared, pair.Apart job.outputs cleared)
    (hresult : (filterCleared job range events cleared).result = .ok total) :
    ∀ pair ∈ job.pairs cleared,
      (Report.alone? ⟨range, job.strictAlignment⟩ job.outputs cleared pair).isSome := by
  rcases alone_or_first_failure ⟨range, job.strictAlignment⟩ job.outputs cleared
    (job.pairs cleared) with halone | ⟨before, failing, after, failure, hsplit,
      hbefore, hfails⟩
  · exact halone
  -- Otherwise the first pair that fails ends the run.
  · rw [hsplit] at hapart
    obtain ⟨failure', final, hpairs, -⟩ := filterPairs_of_failure hfresh
      (fun other hother => hapart other (List.mem_append_left _ hother))
      (hapart failing (by simp)) hbefore hfails
    rw [(filterCleared_eq job range events cleared).2.2, hsplit, hpairs after] at hresult
    cases hresult

/-- In a run that succeeds, the outputs hold the accepted lines of all documents in
order, and they have as many lines as were approved, the same ones, exactly when all of
these but the last are terminated. -/
theorem lines_of_outputs_iff {job : Job} {tree cleared : FileTree} {total : Tally}
    (hformed : tree.WellFormed) (hclear : clearOutputs job.outputs tree = .ok cleared)
    (houtputs : ¬cleared.SameFile job.outputs.source job.outputs.target)
    (hapart : ∀ pair ∈ job.pairs cleared, pair.Apart job.outputs cleared)
    (hresult : (filterCorpus job tree).result = .ok total)
    (hdocuments : 1 ≤ total.documents) :
    ∃ range source target, job.range = .ok range ∧
      let run := filterCorpus job tree
      let kept := acceptedPairs range cleared (job.pairs cleared)
      run.tree.openInput job.outputs.source = .ok (.text source) ∧
      run.tree.openInput job.outputs.target = .ok (.text target) ∧
      source = (kept.map Prod.fst).flatten ∧ target = (kept.map Prod.snd).flatten ∧
      kept.length = total.approved ∧
      (∀ pair ∈ kept, range.accepts (wordCount pair.1) (wordCount pair.2) = true) ∧
      ((Text.lines source).length = total.approved ↔
        ∀ line ∈ (kept.map Prod.fst).dropLast, Terminated line) ∧
      (Text.lines source = kept.map Prod.fst ↔
        ∀ line ∈ (kept.map Prod.fst).dropLast, Terminated line) ∧
      ((Text.lines target).length = total.approved ↔
        ∀ line ∈ (kept.map Prod.snd).dropLast, Terminated line) ∧
      (Text.lines target = kept.map Prod.snd ↔
        ∀ line ∈ (kept.map Prod.snd).dropLast, Terminated line) := by
  have hfresh : Fresh job.outputs cleared := clearOutputs_fresh hclear hformed houtputs
  cases hadmitted : admitted job tree with
  | error failure =>
      rw [filterCorpus, hadmitted] at hresult
      cases hresult
  | ok range =>
      obtain ⟨-, hrange, -, -⟩ := admitted_eq_ok_iff.1 hadmitted
      obtain ⟨events, hrun⟩ := filterCorpus_of_cleared hadmitted hclear
      rw [hrun] at hresult
      have halone := alone_of_result_ok hfresh hapart hresult
      obtain ⟨happroved, hsourceAdded, htargetAdded⟩ := reports_eq_acceptedPairs halone
      obtain ⟨final, hpairs, hcollected, hstand⟩ :=
        filterPairs_of_alone hfresh hapart halone
      obtain ⟨-, htree, htotal⟩ := filterCleared_eq job range events cleared
      rw [hpairs] at htree htotal
      have htotal := Except.ok.inj (hresult.symm.trans htotal)
      rw [← htotal] at happroved
      have hread := (hstand.resolve_left fun hnil => by
        rw [htotal, hnil.1] at hdocuments
        cases hdocuments).2.openInput hfresh hcollected.change.ways
      rw [hsourceAdded, htargetAdded] at hread
      refine ⟨range, _, _, hrange, by rw [hrun, htree]; exact hread.1,
        by rw [hrun, htree]; exact hread.2, rfl, rfl, happroved.symm, ?_, ?_⟩
      · intro pair hpair
        exact (List.mem_filter.1 hpair).2
      have hsourceLines := @isLine_of_mem_source range cleared (job.pairs cleared)
      have htargetLines := @isLine_of_mem_target range cleared (job.pairs cleared)
      have hsourceCount := Text.length_lines_flatten_iff fun _ => hsourceLines
      have htargetCount := Text.length_lines_flatten_iff fun _ => htargetLines
      rw [List.length_map, ← happroved] at hsourceCount htargetCount
      exact ⟨hsourceCount, Text.lines_flatten_iff fun _ => hsourceLines, htargetCount,
        Text.lines_flatten_iff fun _ => htargetLines⟩

theorem lines_of_outputs_twoPairs :
    let job : Job := { inputDir := ⟨"c"⟩, outName := "news" }
    let tree := twoPairs (.file (Text.utf8 "x\n"), .file (Text.utf8 "y\n"))
      (.file (Text.utf8 "z"), .file (Text.utf8 "w\nv\n"))
    let run := filterCorpus job tree
    ∃ source target, run.tree.openInput job.outputs.source = .ok (.text source) ∧
      run.tree.openInput job.outputs.target = .ok (.text target) ∧
      Text.lines source = [Text.utf8 "x\n", Text.utf8 "z"] ∧
      Text.lines target = [Text.utf8 "y\n", Text.utf8 "w\n"] := by
  intro job tree run
  have hclear : clearOutputs job.outputs tree = .ok tree :=
    clearOutputs_of_not_holds (by decide +kernel) (by decide +kernel)
  have hresult : run.result = .ok ⟨2, 0, 2, 2, ⟨2, 1, some 1⟩, ⟨2, 1, some 1⟩⟩ := by
    decide +kernel
  obtain ⟨range, source, target, hrange, hsource, htarget, -, -, -, -, -, hsourceLines, -,
    htargetLines⟩ := lines_of_outputs_iff ⟨by decide +kernel, by decide +kernel⟩ hclear
      (by decide +kernel) (by decide +kernel) hresult (by decide)
  have hstandard : job.range = .ok .standard := by decide +kernel
  cases hrange.symm.trans hstandard
  refine ⟨source, target, hsource, htarget, ?_, ?_⟩
  · rw [hsourceLines.2 (by decide +kernel)]
    decide +kernel
  · rw [htargetLines.2 (by decide +kernel)]
    decide +kernel

/-- Two documents that each end without a terminator: their last lines become one. -/
theorem length_lines_ne_approved :
    let job : Job := { inputDir := ⟨"c"⟩, outName := "news" }
    let tree := twoPairs (.file (Text.utf8 "x"), .file (Text.utf8 "y\n"))
      (.file (Text.utf8 "x"), .file (Text.utf8 "y\n"))
    let run := filterCorpus job tree
    tree.WellFormed ∧ clearOutputs job.outputs tree = .ok tree ∧
      ¬tree.SameFile job.outputs.source job.outputs.target ∧
      (∀ pair ∈ job.pairs tree, pair.Apart job.outputs tree) ∧
      run.result = .ok ⟨2, 0, 2, 2, ⟨2, 1, some 1⟩, ⟨2, 1, some 1⟩⟩ ∧
      run.tree.openInput job.outputs.source = .ok (.text (Text.utf8 "xx")) ∧
      run.tree.openInput job.outputs.target = .ok (.text (Text.utf8 "y\ny\n")) ∧
      (Text.lines (Text.utf8 "xx")).length = 1 ∧
      (Text.lines (Text.utf8 "y\ny\n")).length = 2 := by
  intro job tree run
  refine ⟨⟨?_, ?_⟩, clearOutputs_of_not_holds ?_ ?_, ?_, ?_, ?_, ?_, ?_, ?_, ?_⟩
  all_goals decide +kernel

end ParallelCorpus
