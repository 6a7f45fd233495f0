import ParallelCorpus.Proofs.LineAlignment
import ParallelCorpus.Proofs.Listing
import ParallelCorpus.Proofs.Merging

/-!
# The order of documents

Documents come in the order in which directories happen to be listed.  Whether a run
succeeds does not depend on that order, and neither does the tally of one that succeeds.
Its reports, each with what the document added to either output, come in the order of
the documents; so one and the same rearrangement leads from the progress lines and the
outputs of one order to those of another.
-/

namespace ParallelCorpus

open FileTree (SameEntries Within)

/-! ## Trees with the same entries -/

namespace FileTree.SameEntries

variable {tree other : FileTree}

theorem erase (hsame : SameEntries tree other) (gone : Location) :
    SameEntries (tree.erase gone) (other.erase gone) := by
  refine ⟨hsame.base, fun location => ?_⟩
  by_cases hgone : location = gone
  · subst hgone
    by_cases hroot : location = []
    · rw [hroot, get?_root, get?_root]
    · rw [get?_erase_self tree hroot, get?_erase_self other hroot]
  · rw [get?_erase_of_ne tree hgone, get?_erase_of_ne other hgone, hsame.entry]

/-- An entry can be listed in another place. -/
theorem relisted {location : Location} {entry : Entry}
    (hentry : tree.get? location = some entry) (hbelow : location ≠ []) :
    SameEntries tree ((tree.erase location).create location entry) := by
  refine ⟨base_create .., fun place => ?_⟩
  by_cases hplace : place = location
  · rw [hplace, get?_create_self _ _ hbelow, hentry]
  · rw [get?_create_of_ne _ _ hplace, get?_erase_of_ne tree hplace]

/-- What a path names is removed from both trees, or from neither for one reason. -/
theorem remove (hsame : SameEntries tree other) (path : Path) :
    (∃ fault, tree.remove path = .error fault ∧ other.remove path = .error fault) ∨
      ∃ location, tree.remove path = .ok (tree.erase location) ∧
        other.remove path = .ok (other.erase location) := by
  simp only [FileTree.remove, hsame.locate_eq]
  cases tree.locate .remove path with
  | error fault => exact .inl ⟨fault, rfl, rfl⟩
  | ok site =>
  simp only [bind, Except.bind, hsame.entry]
  cases site.named with
  | false => exact .inl ⟨_, rfl, rfl⟩
  | true =>
  cases tree.get? site.location with
  | none => exact .inl ⟨_, rfl, rfl⟩
  | some entry =>
  cases site.slash with
  | true => cases entry <;> exact .inl ⟨_, rfl, rfl⟩
  | false =>
      cases entry with
      | directory => exact .inl ⟨_, rfl, rfl⟩
      | file content => exact .inr ⟨_, rfl, rfl⟩
      | link target => exact .inr ⟨_, rfl, rfl⟩
      | device kind => exact .inr ⟨_, rfl, rfl⟩

/-- Clearing an earlier output succeeds in both trees or in neither. -/
theorem removeStale (hsame : SameEntries tree other) (path : Path) :
    (∃ failure, removeStale path tree = .error failure ∧
        ParallelCorpus.removeStale path other = .error failure) ∨
      ∃ cleared cleared', ParallelCorpus.removeStale path tree = .ok cleared ∧
        ParallelCorpus.removeStale path other = .ok cleared' ∧
        SameEntries cleared cleared' := by
  have hholds : other.holds path = tree.holds path := by
    rw [holds, holds, hsame.status_eq]
  rw [ParallelCorpus.removeStale, ParallelCorpus.removeStale, hholds]
  split
  · rcases hsame.remove path with ⟨fault, hfails, hfails'⟩ | ⟨location, hremove, hremove'⟩
    · rw [hfails, hfails']
      exact .inl ⟨_, rfl, rfl⟩
    · rw [hremove, hremove']
      exact .inr ⟨_, _, rfl, rfl, hsame.erase location⟩
  · exact .inr ⟨tree, other, rfl, rfl, hsame⟩

theorem clearOutputs (hsame : SameEntries tree other) (outputs : OutputPaths) :
    (∃ failure, clearOutputs outputs tree = .error failure ∧
        ParallelCorpus.clearOutputs outputs other = .error failure) ∨
      ∃ cleared cleared', ParallelCorpus.clearOutputs outputs tree = .ok cleared ∧
        ParallelCorpus.clearOutputs outputs other = .ok cleared' ∧
        SameEntries cleared cleared' := by
  rw [ParallelCorpus.clearOutputs, ParallelCorpus.clearOutputs]
  rcases hsame.removeStale outputs.target with
    ⟨failure, hfails, hfails'⟩ | ⟨between, between', hfirst, hfirst', hbetween⟩
  · rw [hfails, hfails']
    exact .inl ⟨failure, rfl, rfl⟩
  · rw [hfirst, hfirst']
    exact hbetween.removeStale outputs.source

/-- A pair comes to the same on its own in both. -/
theorem alone?_eq (hsame : SameEntries tree other) (rules : Rules)
    (outputs : OutputPaths) :
    Report.alone? rules outputs other = Report.alone? rules outputs tree := by
  funext pair
  obtain ⟨hresult, hsource, htarget, -⟩ :=
    hsame.alike.filterPair rules (fun _ _ => trivial) (fun _ _ => trivial)
  rw [Report.alone?, Report.alone?, hresult, hsource, htarget]

theorem fresh (hsame : SameEntries tree other) {outputs : OutputPaths}
    (hfresh : Fresh outputs tree) : Fresh outputs other := by
  have hvacant {path : Path} (hpath : tree.Vacant path) : other.Vacant path := by
    intro site hsite
    rw [hsame.locate_eq] at hsite
    rw [hsame.entry]
    exact hpath site hsite
  refine ⟨hvacant hfresh.source, hvacant hfresh.target, fun sourcePlace targetPlace => ?_⟩
  rw [hsame.alike.ways.writesTo_iff, hsame.alike.ways.writesTo_iff]
  exact hfresh.apart sourcePlace targetPlace

theorem apart (hsame : SameEntries tree other) {outputs : OutputPaths}
    {pair : DocumentPair} (hapart : pair.Apart outputs tree) :
    pair.Apart outputs other := by
  intro document hdocument output houtput
  rw [hsame.sameFile_iff]
  exact hapart document hdocument output houtput

end FileTree.SameEntries

/-! ## Runs that succeed -/

/-- A run reports on every document it finds, in the order found, and its outputs hold
what the reports say was added; without documents they are absent. -/
structure CorpusRun.Complete (run : CorpusRun) (job : Job)
    (cleared : FileTree) : Prop where
  documents : run.reports.map Report.source = (job.pairs cleared).map DocumentPair.source
  absent : run.reports = [] →
    run.tree.holds job.outputs.source = false ∧ run.tree.holds job.outputs.target = false
  source : run.reports ≠ [] →
    run.tree.openInput job.outputs.source = .ok (.text (sourceAdded run.reports))
  target : run.reports ≠ [] →
    run.tree.openInput job.outputs.target = .ok (.text (targetAdded run.reports))

/-- The reports on pairs that succeed on their own are on their documents. -/
theorem map_source_alone {rules : Rules} {outputs : OutputPaths} {cleared : FileTree}
    {pairs : List DocumentPair}
    (halone : ∀ pair ∈ pairs, (Report.alone? rules outputs cleared pair).isSome) :
    (pairs.filterMap (Report.alone? rules outputs cleared)).map Report.source =
      pairs.map DocumentPair.source := by
  calc
    (pairs.filterMap (Report.alone? rules outputs cleared)).map Report.source =
        pairs.filterMap fun pair => (Report.alone? rules outputs cleared pair).map
          Report.source :=
      List.map_filterMap
    _ = pairs.filterMap (some ∘ DocumentPair.source) := by
      apply List.filterMap_congr
      intro pair hpair
      obtain ⟨report, hreport⟩ := Option.isSome_iff_exists.1 (halone pair hpair)
      obtain ⟨tally, -, rfl⟩ := Report.alone?_eq_some_iff.1 hreport
      rw [hreport]
      rfl
    _ = pairs.map DocumentPair.source := by rw [List.filterMap_eq_map]

section Runs

variable {job : Job} {range : WordRange} {tree cleared : FileTree}

/-- A run succeeds exactly when every pair it finds does on its own, and then reports on
all. -/
theorem filterCorpus_alone (hadmitted : admitted job tree = .ok range)
    (hclear : clearOutputs job.outputs tree = .ok cleared)
    (hfresh : Fresh job.outputs cleared)
    (hapart : ∀ pair ∈ job.pairs cleared, pair.Apart job.outputs cleared) :
    let report? := Report.alone? ⟨range, job.strictAlignment⟩ job.outputs cleared
    let run := filterCorpus job tree
    ((∃ total, run.result = .ok total) ↔
      ∀ pair ∈ job.pairs cleared, (report? pair).isSome) ∧
      ((∀ pair ∈ job.pairs cleared, (report? pair).isSome) →
        run.result = .ok (totals run.reports) ∧
          run.reports = (job.pairs cleared).filterMap report? ∧
          run.Complete job cleared) := by
  intro report? run
  obtain ⟨events, hrun⟩ := filterCorpus_of_cleared hadmitted hclear
  obtain ⟨hreports, htree, hresult⟩ := filterCleared_eq job range events cleared
  rw [← hrun] at hreports htree hresult
  have hsucceeds (halone : ∀ pair ∈ job.pairs cleared, (report? pair).isSome) :
      run.result = .ok (totals run.reports) ∧
        run.reports = (job.pairs cleared).filterMap report? ∧
        run.Complete job cleared := by
    obtain ⟨final, hpairs, hcollected, hstand⟩ :=
      filterPairs_of_alone hfresh hapart halone
    rw [hpairs] at hreports htree hresult
    have hrunReports : run.reports = (job.pairs cleared).filterMap report? := hreports
    have hrunTree : run.tree = final := htree
    have hdocuments := map_source_alone halone
    refine ⟨hresult.trans (by rw [hrunReports]), hrunReports, ?_⟩
    rcases hstand with ⟨hnil, rfl⟩ | ⟨hne, hstand⟩
    · have hnone : run.reports = [] := by
        rw [hrunReports, hnil]
        rfl
      refine ⟨by rw [hrunReports, hdocuments], fun _ => ?_,
        fun hsome => absurd hnone hsome, fun hsome => absurd hnone hsome⟩
      rw [hrunTree]
      exact clearOutputs_holds hclear
    · have hsome : run.reports ≠ [] := by
        rw [hrunReports]
        intro hnone
        rw [hnone] at hdocuments
        exact hne (List.map_eq_nil_iff.1 hdocuments.symm)
      obtain ⟨hsource, htarget⟩ := hstand.openInput hfresh hcollected.change.ways
      rw [← hrunReports, ← hrunTree] at hsource htarget
      exact ⟨by rw [hrunReports, hdocuments], fun hnone => absurd hnone hsome,
        fun _ => hsource, fun _ => htarget⟩
  refine ⟨⟨?_, fun halone => ⟨_, (hsucceeds halone).1⟩⟩, hsucceeds⟩
  rintro ⟨total, htotal⟩
  have htotal' : (filterCleared job range events cleared).result = .ok total := by
    rw [← hrun]
    exact htotal
  exact alone_of_result_ok hfresh hapart htotal'

end Runs

/-- The order in which directories are listed makes no difference to whether a run
succeeds.  If it does, the tally is the same, and one rearrangement of the reports, and
with them of the documents found, of the progress lines and of what was added to both
outputs, leads from one order to the other. -/
theorem filterCorpus_perm {job : Job} {tree other : FileTree} (hformed : tree.WellFormed)
    (hsame : SameEntries tree other)
    (houtputs : ∀ cleared, clearOutputs job.outputs tree = .ok cleared →
      ¬cleared.SameFile job.outputs.source job.outputs.target)
    (hapart : ∀ cleared, clearOutputs job.outputs tree = .ok cleared →
      ∀ pair ∈ job.pairs cleared, pair.Apart job.outputs cleared) :
    let run := filterCorpus job tree
    let run' := filterCorpus job other
    ((∃ total, run'.result = .ok total) ↔ ∃ total, run.result = .ok total) ∧
      ∀ total, run.result = .ok total → run'.result = .ok total ∧
        run'.reports.Perm run.reports ∧
        (run'.reports.map (·.progressLine)).Perm (run.reports.map (·.progressLine)) ∧
        ∃ cleared cleared', clearOutputs job.outputs tree = .ok cleared ∧
          clearOutputs job.outputs other = .ok cleared' ∧
          (job.pairs cleared').Perm (job.pairs cleared) ∧
          run.Complete job cleared ∧ run'.Complete job cleared' := by
  intro run run'
  have hadmittedSame : admitted job other = admitted job tree :=
    admitted_eq hsame.alike.ways
  cases hadmitted : admitted job tree with
  | error failure =>
      have hresult : run.result = .error failure := by
        simp only [run, filterCorpus, hadmitted]
      have hresult' : run'.result = .error failure := by
        simp only [run', filterCorpus, hadmittedSame, hadmitted]
      rw [hresult, hresult']
      exact ⟨Iff.rfl, fun total htotal => by cases htotal⟩
  | ok range =>
  have hadmitted' := hadmittedSame.trans hadmitted
  rcases hsame.clearOutputs job.outputs with
    ⟨failure, hfails, hfails'⟩ | ⟨cleared, cleared', hclear, hclear', hcleared⟩
  · have hresult : run.result = .error failure := filterCorpus_uncleared hadmitted hfails
    have hresult' : run'.result = .error failure :=
      filterCorpus_uncleared hadmitted' hfails'
    rw [hresult, hresult']
    exact ⟨Iff.rfl, fun total htotal => by cases htotal⟩
  have hfresh := clearOutputs_fresh hclear hformed (houtputs cleared hclear)
  have hpairs : (job.pairs cleared').Perm (job.pairs cleared) :=
    hcleared.discoverPairs_perm _ _ _ _
  have hreport := hcleared.alone?_eq ⟨range, job.strictAlignment⟩ job.outputs
  have hapart' (pair : DocumentPair) (hpair : pair ∈ job.pairs cleared') :
      pair.Apart job.outputs cleared' :=
    hcleared.apart (hapart cleared hclear pair (hpairs.mem_iff.1 hpair))
  obtain ⟨hsucceeds, hcomplete⟩ :=
    filterCorpus_alone hadmitted hclear hfresh (hapart cleared hclear)
  obtain ⟨hsucceeds', hcomplete'⟩ :=
    filterCorpus_alone hadmitted' hclear' (hcleared.fresh hfresh) hapart'
  rw [hreport] at hsucceeds' hcomplete'
  have hiff : (∃ total, run'.result = .ok total) ↔ ∃ total, run.result = .ok total := by
    rw [hsucceeds, hsucceeds']
    exact ⟨fun halone pair hpair => halone pair (hpairs.mem_iff.2 hpair),
      fun halone pair hpair => halone pair (hpairs.mem_iff.1 hpair)⟩
  refine ⟨hiff, fun total htotal => ?_⟩
  obtain ⟨hresult, hreports, hcompleted⟩ := hcomplete (hsucceeds.1 ⟨total, htotal⟩)
  obtain ⟨hresult', hreports', hcompleted'⟩ :=
    hcomplete' (hsucceeds'.1 (hiff.2 ⟨total, htotal⟩))
  have hperm : run'.reports.Perm run.reports := by
    rw [hreports, hreports']
    exact hpairs.filterMap _
  have htotals : run'.result = .ok total := by
    rw [hresult', totals_perm hperm, ← hresult, htotal]
  exact ⟨htotals, hperm, hperm.map _, cleared, cleared', hclear, hclear',
    hpairs, hcompleted, hcompleted'⟩

/-- The second of two documents is listed first. -/
theorem filterCorpus_perm_twoPairs :
    let job : Job := { inputDir := ⟨"c"⟩, outName := "news" }
    let tree := twoPairs (.file (Text.utf8 "x\n"), .file (Text.utf8 "y\n"))
      (.file (Text.utf8 "z"), .file (Text.utf8 "w\nv\n"))
    let location : Location := ⟨"b.ixml", by decide⟩ :: sourceRoot
    let other := (tree.erase location).create location (.file (Text.utf8 "z"))
    let run := filterCorpus job tree
    let run' := filterCorpus job other
    let total : Tally := ⟨2, 0, 2, 2, ⟨2, 1, some 1⟩, ⟨2, 1, some 1⟩⟩
    run.reports.map (·.source) = [⟨"c/en/a.ixml"⟩, ⟨"c/en/b.ixml"⟩] ∧
      run'.reports.map (·.source) = [⟨"c/en/b.ixml"⟩, ⟨"c/en/a.ixml"⟩] ∧
      run.result = .ok total ∧ run'.result = .ok total ∧ run'.reports.Perm run.reports ∧
      run.tree.openInput job.outputs.source = .ok (.text (Text.utf8 "x\nz")) ∧
      run'.tree.openInput job.outputs.source = .ok (.text (Text.utf8 "zx\n")) := by
  intro job tree location other run run' total
  have hclear : clearOutputs job.outputs tree = .ok tree :=
    clearOutputs_of_not_holds (by decide +kernel) (by decide +kernel)
  have hcleared {cleared : FileTree}
      (hclear' : clearOutputs job.outputs tree = .ok cleared) :
      cleared = tree := Except.ok.inj (hclear'.symm.trans hclear)
  have hsame : SameEntries tree other :=
    .relisted (by decide +kernel) (List.cons_ne_nil _ _)
  have hresult : run.result = .ok total := by decide +kernel
  have hformed : tree.WellFormed := ⟨by decide +kernel, by decide +kernel⟩
  obtain ⟨-, hsuccess⟩ := @filterCorpus_perm job tree other hformed hsame
    (fun cleared hclear' => by rw [hcleared hclear']; decide +kernel)
    (fun cleared hclear' => by rw [hcleared hclear']; decide +kernel)
  obtain ⟨hresult', hperm, -⟩ := hsuccess total hresult
  refine ⟨?_, ?_, hresult, hresult', hperm, ?_, ?_⟩
  all_goals decide +kernel

end ParallelCorpus
