import ParallelCorpus.Proofs.Clearing

/-!
# A run as a fold

Document pairs are filtered one after the other into the same two outputs.  Once nothing
is left of these, each pair does what it does on its own: it has the same result and
adds the same bytes, and the outputs hold what the pairs before it added.  There is one
difference.  Where the path of a document needs a directory in the place of an output,
the document is not found as long as the output is absent, and afterwards the file
stands in the way.
-/

namespace ParallelCorpus

open Text (Bytes)
open FileTree (SameWays LeafChange Barred)

/-! ## Outputs that start from nothing -/

/-- Two outputs that lead to different places where nothing stands. -/
structure Fresh (outputs : OutputPaths) (cleared : FileTree) : Prop where
  source : cleared.Vacant outputs.source
  target : cleared.Vacant outputs.target
  apart : ∀ sourcePlace targetPlace, cleared.WritesTo outputs.source sourcePlace →
    cleared.WritesTo outputs.target targetPlace → sourcePlace ≠ targetPlace

theorem Fresh.vacant {outputs : OutputPaths} {cleared : FileTree}
    (hfresh : Fresh outputs cleared) {location : Location}
    (hplace : outputs.LeadTo cleared location) :
    cleared.get? location = none := by
  rcases hplace with hplace | hplace
  · exact hfresh.source.get? hplace
  · exact hfresh.target.get? hplace

/-- Two outputs hold so many bytes, and nothing else has changed. -/
structure Collected (outputs : OutputPaths) (cleared now : FileTree)
    (source target : Bytes) : Prop where
  change : LeafChange (outputs.LeadTo cleared) cleared now
  source : ∀ location, cleared.WritesTo outputs.source location →
    now.Keeps location source
  target : ∀ location, cleared.WritesTo outputs.target location →
    now.Keeps location target

theorem Fresh.collected {outputs : OutputPaths} {cleared : FileTree}
    (hfresh : Fresh outputs cleared) : Collected outputs cleared cleared [] [] where
  change := .refl _ cleared
  source := fun _ hplace => .inr ⟨hfresh.source.get? hplace, rfl⟩
  target := fun _ hplace => .inr ⟨hfresh.target.get? hplace, rfl⟩

def Stand (outputs : OutputPaths) (cleared now : FileTree)
    (source target : Bytes) : Prop :=
  ∃ sourcePlace targetPlace, cleared.WritesTo outputs.source sourcePlace ∧
    cleared.WritesTo outputs.target targetPlace ∧
    now.get? sourcePlace = some (.file source) ∧
    now.get? targetPlace = some (.file target)

/-! ## One pair after others -/

section Step

variable (rules : Rules) (pair : DocumentPair) {outputs : OutputPaths}
  {cleared now : FileTree} {source target : Bytes}

/-- What filtering a pair comes to where each output, if it leads anywhere, leads to a
file. -/
theorem Collected.filterPair_cases (hfresh : Fresh outputs cleared)
    (hcollected : Collected outputs cleared now source target) :
    let run := filterPair rules pair outputs now
    (∃ failure, run = .unopened failure now) ∨
      (∃ failure opened place, run = .unopened failure opened ∧
        cleared.WritesTo outputs.source place ∧ opened.get? place = some (.file source) ∧
        ∀ place', ¬cleared.WritesTo outputs.target place') ∨
      ∃ sourcePlace targetPlace, cleared.WritesTo outputs.source sourcePlace ∧
        cleared.WritesTo outputs.target targetPlace ∧
        run.tree.get? sourcePlace = some (.file (source ++ run.sourceAdded)) ∧
        run.tree.get? targetPlace = some (.file (target ++ run.targetAdded)) := by
  intro run
  have hways := hcollected.change.ways
  cases hsource : now.openInput pair.source with
  | error fault =>
      left
      exact ⟨_, by simp only [run, filterPair, hsource]; rfl⟩
  | ok sourceInput =>
  cases htarget : now.openInput pair.target with
  | error fault =>
      left
      exact ⟨_, by simp only [run, filterPair, hsource, htarget]; rfl⟩
  | ok targetInput =>
  cases hfirst : now.openOutput outputs.source with
  | error fault =>
      left
      exact ⟨_, by simp only [run, filterPair, hsource, htarget, hfirst]; rfl⟩
  | ok first =>
  right
  obtain ⟨handle, opened⟩ := first
  obtain ⟨hplaceNow, hfirstChange⟩ := FileTree.openOutput_ok hfirst
  have hplace := hways.writesTo_iff.1 hplaceNow
  have hkeeps := hcollected.source _ hplace
  by_cases hleads : ∃ place', cleared.WritesTo outputs.target place'
  · right
    obtain ⟨place', hplace'⟩ := hleads
    have hapart := hfresh.apart _ _ hplace hplace'
    obtain ⟨opened, hrun, hsourceFile, htargetFile⟩ :=
      filterPair_opened rules hsource htarget hplaceNow (hways.writesTo_iff.2 hplace')
        hkeeps (hcollected.target _ hplace') hapart
    refine ⟨_, place', hplace, hplace', ?_⟩
    simp only [run, hrun]
    exact get?_filterOpened rules pair outputs sourceInput targetInput
      hsourceFile htargetFile hapart
  · left
    have hnowhere (place' : Location) : ¬cleared.WritesTo outputs.target place' :=
      fun hplace' => hleads ⟨place', hplace'⟩
    obtain ⟨opened', hopened, -, hfile⟩ := FileTree.openOutput_of_keeps hplaceNow hkeeps
    obtain ⟨-, rfl⟩ := Prod.mk.inj (Except.ok.inj (hopened.symm.trans hfirst))
    cases hsecond : opened'.openOutput outputs.target with
    | error fault =>
        refine ⟨.openOutput outputs.target fault, opened', _, ?_, hplace, hfile, hnowhere⟩
        simp only [run, filterPair, hsource, htarget, hopened, hsecond]
    | ok second =>
        have hplace' := (FileTree.openOutput_ok hsecond).1
        rw [hfirstChange.ways.writesTo_iff, hways.writesTo_iff] at hplace'
        exact absurd hplace' (hnowhere _)

/-- Filtering one more pair adds to the outputs what it hands on, whatever comes of it. -/
theorem Collected.filterPair (hfresh : Fresh outputs cleared)
    (hcollected : Collected outputs cleared now source target) :
    let run := filterPair rules pair outputs now
    Collected outputs cleared run.tree (source ++ run.sourceAdded)
      (target ++ run.targetAdded) := by
  intro run
  have hchange : LeafChange (outputs.LeadTo cleared) cleared run.tree := by
    apply hcollected.change.trans
    apply (filterPair_leafChange rules pair outputs now).mono
    intro location hplace
    exact (outputs.leadTo_iff hcollected.change.ways location).1 hplace
  rcases hcollected.filterPair_cases rules pair hfresh with
    ⟨failure, hrun⟩ | ⟨failure, opened, place, hrun, hplace, hfile, hnowhere⟩ |
    ⟨sourcePlace, targetPlace, hsource, htarget, hsourceFile, htargetFile⟩
  · have hrun : run = .unopened failure now := hrun
    rw [hrun, PairRun.unopened]
    simpa using hcollected
  · have hrun : run = .unopened failure opened := hrun
    rw [hrun, PairRun.unopened] at hchange ⊢
    refine ⟨hchange, ?_, ?_⟩
    · intro location hlocation
      left
      rw [hlocation.unique hplace, hfile, List.append_nil]
    · intro location hlocation
      exact absurd hlocation (hnowhere location)
  · refine ⟨hchange, ?_, ?_⟩
    · intro location hlocation
      left
      rw [hlocation.unique hsource, hsourceFile]
    · intro location hlocation
      left
      rw [hlocation.unique htarget, htargetFile]

/-- A pair that succeeds leaves both outputs in place. -/
theorem Collected.stand_of_ok (hfresh : Fresh outputs cleared)
    (hcollected : Collected outputs cleared now source target) {tally : Tally}
    (hresult : (ParallelCorpus.filterPair rules pair outputs now).result = .ok tally) :
    let run := ParallelCorpus.filterPair rules pair outputs now
    Stand outputs cleared run.tree (source ++ run.sourceAdded)
      (target ++ run.targetAdded) := by
  intro run
  rcases hcollected.filterPair_cases rules pair hfresh with
    ⟨failure, hrun⟩ | ⟨failure, opened, place, hrun, -⟩ | hstand
  · rw [hrun] at hresult
    cases hresult
  · rw [hrun] at hresult
    cases hresult
  · exact hstand

end Step

/-! ## Reading between the writing -/

/-- A path that needs a directory in the place of an output. -/
def Blocked (outputs : OutputPaths) (cleared : FileTree) (path : Path) : Prop :=
  ∃ location, outputs.LeadTo cleared location ∧ Barred cleared .read path location

/-- Both documents of a pair are other files than the outputs. -/
def DocumentPair.Apart (pair : DocumentPair) (outputs : OutputPaths)
    (tree : FileTree) : Prop :=
  ∀ document ∈ [pair.source, pair.target], ∀ output ∈ [outputs.source, outputs.target],
    ¬tree.SameFile document output

instance (pair : DocumentPair) (outputs : OutputPaths) (tree : FileTree) :
    Decidable (pair.Apart outputs tree) :=
  inferInstanceAs (Decidable (∀ document ∈ [pair.source, pair.target],
    ∀ output ∈ [outputs.source, outputs.target], ¬tree.SameFile document output))

/-- No output leads to the place of another file. -/
theorem OutputPaths.not_leadTo (outputs : OutputPaths) {tree : FileTree} {document : Path}
    {site : Site}
    (hdocument : ∀ output ∈ [outputs.source, outputs.target],
      ¬tree.SameFile document output)
    (hsite : tree.locate .read document = .ok site) :
    ¬outputs.LeadTo tree site.location := by
  rintro (⟨site', hsite', hplace⟩ | ⟨site', hsite', hplace⟩)
  · exact hdocument outputs.source (by simp)
      ⟨site, site', hsite, FileTree.locate_read_of_write hsite', hplace.symm⟩
  · exact hdocument outputs.target (by simp)
      ⟨site, site', hsite, FileTree.locate_read_of_write hsite', hplace.symm⟩

/-- Documents other than the outputs can be opened as before, whatever has become of the
outputs. -/
theorem openInput_ok_iff_of_apart {outputs : OutputPaths} {cleared now : FileTree}
    (hchange : LeafChange (outputs.LeadTo cleared) cleared now) {path : Path}
    (hapart : ∀ output ∈ [outputs.source, outputs.target], ¬cleared.SameFile path output)
    (input : Input) :
    now.openInput path = .ok input ↔ cleared.openInput path = .ok input := by
  rcases hchange.ways.locate_eq_or_barred .read path with hsame | ⟨location, hbarred⟩
  · have hopen : now.openInput path = cleared.openInput path :=
      FileTree.openInput_congr hsame fun site hsite =>
        hchange.elsewhere _ (outputs.not_leadTo hapart hsite)
    rw [hopen]
  · rw [FileTree.openInput_of_locate_error (hbarred now hchange.ways),
      FileTree.openInput_of_locate_error (hbarred cleared (.refl cleared))]
    exact iff_of_false (by simp) (by simp)

theorem Stand.get?_ne_none {outputs : OutputPaths} {cleared now : FileTree}
    {source target : Bytes} (hstand : Stand outputs cleared now source target)
    {location : Location} (hplace : outputs.LeadTo cleared location) :
    now.get? location ≠ none := by
  obtain ⟨sourcePlace, targetPlace, hsource, htarget, hsourceFile, htargetFile⟩ := hstand
  rcases hplace with hplace | hplace
  · rw [hplace.unique hsource, hsourceFile]
    simp
  · rw [hplace.unique htarget, htargetFile]
    simp

/-- A document other than the outputs is read as if these were absent, unless one of
them is in its way. -/
theorem openInput_of_stand {outputs : OutputPaths} {cleared now : FileTree}
    {source target : Bytes} (hfresh : Fresh outputs cleared)
    (hcollected : Collected outputs cleared now source target)
    (hstand : Stand outputs cleared now source target) {document : Path}
    (hdocument : ∀ output ∈ [outputs.source, outputs.target],
      ¬cleared.SameFile document output) :
    (Blocked outputs cleared document ∧ cleared.openInput document = .error .notFound ∧
        now.openInput document = .error .notADirectory) ∨
      (¬Blocked outputs cleared document ∧
        now.openInput document = cleared.openInput document) := by
  have hways := hcollected.change.ways
  by_cases hblocked : Blocked outputs cleared document
  · left
    refine ⟨hblocked, ?_⟩
    obtain ⟨location, hplace, hbarred⟩ := hblocked
    have hbefore := hbarred cleared (.refl cleared)
    have hafter := hbarred now hways
    rw [hfresh.vacant hplace] at hbefore
    refine ⟨FileTree.openInput_of_locate_error hbefore,
      FileTree.openInput_of_locate_error ?_⟩
    cases hentry : now.get? location with
    | none => exact absurd hentry (hstand.get?_ne_none hplace)
    | some entry =>
        rw [hentry] at hafter
        exact hafter
  · right
    refine ⟨hblocked, ?_⟩
    rcases hways.locate_eq_or_barred .read document with hsame | ⟨location, hbarred⟩
    · apply FileTree.openInput_congr hsame
      intro site hsite
      exact hcollected.change.elsewhere _ (outputs.not_leadTo hdocument hsite)
    · have hplace : ¬outputs.LeadTo cleared location := fun hplace =>
        hblocked ⟨location, hplace, hbarred⟩
      rw [FileTree.openInput_of_locate_error (hbarred now hways),
        FileTree.openInput_of_locate_error (hbarred cleared (.refl cleared)),
        hcollected.change.elsewhere location hplace]

/-! ## A pair on its own and after others -/

/-- Once both documents are open, no failure is about opening one. -/
theorem filterOpened_ne_openInput (rules : Rules) (pair : DocumentPair)
    (outputs : OutputPaths) (source target : Input)
    (sourceHandle targetHandle : FileTree.Handle) (tree : FileTree) (path : Path)
    (fault : FileFault) :
    (filterOpened rules pair outputs source target sourceHandle
      targetHandle tree).result ≠ .error (.openInput path fault) := by
  rw [filterOpened]
  simp only
  split
  · simp
  · rename_i halt _
    cases halt.stop <;> simp [Stop.failure]

/-- How what a pair comes to after others compares with what it comes to on its own. -/
structure AsAlone (outputs : OutputPaths) (cleared : FileTree)
    (run alone : PairRun) : Prop where
  sourceAdded : run.sourceAdded = alone.sourceAdded
  targetAdded : run.targetAdded = alone.targetAdded
  blocked : ∀ path, alone.result = .error (.openInput path .notFound) →
    Blocked outputs cleared path → run.result = .error (.openInput path .notADirectory)
  result : (∀ path, alone.result = .error (.openInput path .notFound) →
    ¬Blocked outputs cleared path) → run.result = alone.result

theorem AsAlone.of_blocked {outputs : OutputPaths}
    {cleared tree tree' : FileTree} {path : Path}
    (hblocked : Blocked outputs cleared path) :
    AsAlone outputs cleared (.unopened (.openInput path .notADirectory) tree)
      (.unopened (.openInput path .notFound) tree') where
  sourceAdded := rfl
  targetAdded := rfl
  blocked := by
    intro path' hresult _
    cases hresult
    rfl
  result := fun hfree => absurd hblocked (hfree path rfl)

theorem AsAlone.of_same {outputs : OutputPaths} {cleared : FileTree} {run alone : PairRun}
    (hresult : run.result = alone.result) (hsource : run.sourceAdded = alone.sourceAdded)
    (htarget : run.targetAdded = alone.targetAdded)
    (hfree : ∀ path, alone.result = .error (.openInput path .notFound) →
      ¬Blocked outputs cleared path) : AsAlone outputs cleared run alone where
  sourceAdded := hsource
  targetAdded := htarget
  blocked := fun path hfails hblocked => absurd hblocked (hfree path hfails)
  result := fun _ => hresult

theorem filterPair_asAlone (rules : Rules) {pair : DocumentPair} {outputs : OutputPaths}
    {cleared now : FileTree} {source target : Bytes} (hfresh : Fresh outputs cleared)
    (hcollected : Collected outputs cleared now source target)
    (hstand : Stand outputs cleared now source target)
    (hapart : pair.Apart outputs cleared) :
    AsAlone outputs cleared (filterPair rules pair outputs now)
      (filterPair rules pair outputs cleared) := by
  have hfree (document : Path) (fault : FileFault)
      (hdocument : ¬Blocked outputs cleared document) (path : Path)
      (hresult : (Except.error (.openInput document fault) : Except Failure Tally) =
        .error (.openInput path .notFound)) : ¬Blocked outputs cleared path := by
    cases hresult
    exact hdocument
  rcases openInput_of_stand hfresh hcollected hstand (hapart pair.source (by simp)) with
    ⟨hblocked, halone, hrun⟩ | ⟨hopenSource, hsource⟩
  · simp only [filterPair, halone, hrun]
    exact .of_blocked hblocked
  cases hsourceAlone : cleared.openInput pair.source with
  | error fault =>
      rw [hsourceAlone] at hsource
      simp only [filterPair, hsource, hsourceAlone]
      exact .of_same rfl rfl rfl (hfree pair.source fault hopenSource)
  | ok sourceInput =>
  rw [hsourceAlone] at hsource
  rcases openInput_of_stand hfresh hcollected hstand (hapart pair.target (by simp)) with
    ⟨hblocked, halone, hrun⟩ | ⟨hopenTarget, htarget⟩
  · simp only [filterPair, hsource, hsourceAlone, halone, hrun]
    exact .of_blocked hblocked
  cases htargetAlone : cleared.openInput pair.target with
  | error fault =>
      rw [htargetAlone] at htarget
      simp only [filterPair, hsource, hsourceAlone, htarget, htargetAlone]
      exact .of_same rfl rfl rfl (hfree pair.target fault hopenTarget)
  | ok targetInput =>
      rw [htargetAlone] at htarget
      have hways := hcollected.change.ways
      obtain ⟨sourcePlace, targetPlace, hsourcePlace, htargetPlace, -⟩ := hstand
      have hplaces := hfresh.apart _ _ hsourcePlace htargetPlace
      obtain ⟨opened, hrun, -⟩ := filterPair_opened rules hsource htarget
        (hways.writesTo_iff.2 hsourcePlace) (hways.writesTo_iff.2 htargetPlace)
        (hcollected.source _ hsourcePlace) (hcollected.target _ htargetPlace) hplaces
      obtain ⟨opened', halone, -⟩ := filterPair_opened rules hsourceAlone htargetAlone
        hsourcePlace htargetPlace (hfresh.collected.source _ hsourcePlace)
        (hfresh.collected.target _ htargetPlace) hplaces
      obtain ⟨hresult, hsourceAdded, htargetAdded⟩ :=
        filterOpened_congr rules pair outputs sourceInput targetInput sourcePlace
          targetPlace sourcePlace targetPlace opened opened'
      rw [hrun, halone]
      apply AsAlone.of_same hresult hsourceAdded htargetAdded
      intro path hfails
      exact absurd hfails
        (filterOpened_ne_openInput rules pair outputs sourceInput targetInput _ _ opened'
          path .notFound)

/-! ## All pairs -/

/-- The report on a pair that is filtered on its own, if that succeeds. -/
def Report.alone? (rules : Rules) (outputs : OutputPaths) (cleared : FileTree)
    (pair : DocumentPair) : Option Report :=
  let run := filterPair rules pair outputs cleared
  match run.result with
  | .ok tally => some ⟨pair.source, tally, run.sourceAdded, run.targetAdded⟩
  | .error _ => none

theorem Report.alone?_eq_some_iff {rules : Rules} {outputs : OutputPaths}
    {cleared : FileTree} {pair : DocumentPair} {report : Report} :
    Report.alone? rules outputs cleared pair = some report ↔
      let run := filterPair rules pair outputs cleared
      ∃ tally, run.result = .ok tally ∧
        report = ⟨pair.source, tally, run.sourceAdded, run.targetAdded⟩ := by
  simp only [alone?]
  cases (filterPair rules pair outputs cleared).result with
  | error failure => simp
  | ok tally => simp [eq_comm]

/-- Every pair succeeds on its own, or there is a first one that fails. -/
theorem alone_or_first_failure (rules : Rules) (outputs : OutputPaths)
    (cleared : FileTree) (pairs : List DocumentPair) :
    (∀ pair ∈ pairs, (Report.alone? rules outputs cleared pair).isSome) ∨
      ∃ before pair after failure, pairs = before ++ pair :: after ∧
        (∀ other ∈ before, (Report.alone? rules outputs cleared other).isSome) ∧
        (filterPair rules pair outputs cleared).result = .error failure := by
  induction pairs with
  | nil => exact .inl (by simp)
  | cons pair pairs ih =>
      cases hresult : (filterPair rules pair outputs cleared).result with
      | error failure => exact .inr ⟨[], pair, pairs, failure, rfl, by simp, hresult⟩
      | ok tally =>
          have halone : (Report.alone? rules outputs cleared pair).isSome := by
            simp [Report.alone?, hresult]
          rcases ih with hall | ⟨before, failing, after, failure, rfl, hbefore, hfails⟩
          · exact .inl (List.forall_mem_cons.2 ⟨halone, hall⟩)
          · exact .inr ⟨pair :: before, failing, after, failure, rfl,
              List.forall_mem_cons.2 ⟨halone, hbefore⟩, hfails⟩

/-- What reports say was added to the two outputs. -/
def sourceAdded (reports : List Report) : Bytes :=
  (reports.map Report.sourceAdded).flatten

def targetAdded (reports : List Report) : Bytes :=
  (reports.map Report.targetAdded).flatten

/-- The outputs are as they were cleared, or both are there. -/
structure Between (outputs : OutputPaths) (cleared now : FileTree)
    (source target : Bytes) : Prop where
  collected : Collected outputs cleared now source target
  stand : now = cleared ∨ Stand outputs cleared now source target

/-- After others, a pair that succeeds on its own succeeds with the same report. -/
theorem Between.filterPair {rules : Rules} {pair : DocumentPair} {outputs : OutputPaths}
    {cleared now : FileTree} {source target : Bytes} {report : Report}
    (hfresh : Fresh outputs cleared)
    (hbetween : Between outputs cleared now source target)
    (hapart : pair.Apart outputs cleared)
    (halone : Report.alone? rules outputs cleared pair = some report) :
    let run := filterPair rules pair outputs now
    run.result = .ok report.tally ∧
      report = ⟨pair.source, report.tally, run.sourceAdded, run.targetAdded⟩ ∧
      Collected outputs cleared run.tree (source ++ report.sourceAdded)
        (target ++ report.targetAdded) ∧
      Stand outputs cleared run.tree (source ++ report.sourceAdded)
        (target ++ report.targetAdded) := by
  intro run
  obtain ⟨tally, hresult, hreport⟩ := Report.alone?_eq_some_iff.1 halone
  have hsame :
      AsAlone outputs cleared run
        (ParallelCorpus.filterPair rules pair outputs cleared) := by
    rcases hbetween.stand with rfl | hstand
    · apply AsAlone.of_same rfl rfl rfl
      intro path hfails
      rw [hresult] at hfails
      cases hfails
    · exact filterPair_asAlone rules hfresh hbetween.collected hstand hapart
  have hrun : run.result = .ok tally := by
    rw [hsame.result, hresult]
    intro path hfails
    rw [hresult] at hfails
    cases hfails
  subst hreport
  refine ⟨hrun, by rw [hsame.sourceAdded, hsame.targetAdded], ?_, ?_⟩
  · rw [← hsame.sourceAdded, ← hsame.targetAdded]
    exact hbetween.collected.filterPair rules pair hfresh
  · rw [← hsame.sourceAdded, ← hsame.targetAdded]
    exact hbetween.collected.stand_of_ok rules pair hfresh hrun

/-- A run over pairs that succeed on their own goes through them, and goes on with what
the outputs then hold. -/
theorem filterPairs_append {rules : Rules} {outputs : OutputPaths} {cleared : FileTree}
    (hfresh : Fresh outputs cleared) {before : List DocumentPair}
    (hapart : ∀ pair ∈ before, pair.Apart outputs cleared)
    (halone : ∀ pair ∈ before, (Report.alone? rules outputs cleared pair).isSome)
    {now : FileTree} {source target : Bytes}
    (hbetween : Between outputs cleared now source target) :
    let reports := before.filterMap (Report.alone? rules outputs cleared)
    ∃ next,
      (∀ rest, filterPairs rules outputs (before ++ rest) now =
        let run := filterPairs rules outputs rest next
        ⟨reports ++ run.reports, run.failure?, run.tree⟩) ∧
      Collected outputs cleared next (source ++ sourceAdded reports)
        (target ++ targetAdded reports) ∧
      (before = [] ∧ next = now ∨ before ≠ [] ∧ Stand outputs cleared next
        (source ++ sourceAdded reports) (target ++ targetAdded reports)) := by
  induction before generalizing now source target with
  | nil =>
      refine ⟨now, fun rest => rfl, ?_, .inl ⟨rfl, rfl⟩⟩
      simpa [sourceAdded, targetAdded] using hbetween.collected
  | cons pair before ih =>
      obtain ⟨report, hreport⟩ := Option.isSome_iff_exists.1 (halone pair (by simp))
      obtain ⟨hresult, hform, hcollected, hstand⟩ :=
        hbetween.filterPair hfresh (hapart pair (by simp)) hreport
      obtain ⟨next, hrest, hnext, hnextStand⟩ := ih
        (fun other hother => hapart other (List.mem_cons_of_mem _ hother))
        (fun other hother => halone other (List.mem_cons_of_mem _ hother))
        ⟨hcollected, .inr hstand⟩
      intro reports
      have hreports : reports =
          report :: before.filterMap (Report.alone? rules outputs cleared) :=
        List.filterMap_cons_some hreport
      have hsource : source ++ sourceAdded reports = source ++ report.sourceAdded ++
          sourceAdded (before.filterMap (Report.alone? rules outputs cleared)) := by
        rw [hreports, sourceAdded, List.map_cons, List.flatten_cons, List.append_assoc]
        rfl
      have htarget : target ++ targetAdded reports = target ++ report.targetAdded ++
          targetAdded (before.filterMap (Report.alone? rules outputs cleared)) := by
        rw [hreports, targetAdded, List.map_cons, List.flatten_cons, List.append_assoc]
        rfl
      rw [hsource, htarget]
      refine ⟨next, fun rest => ?_, hnext, .inr ⟨List.cons_ne_nil pair before, ?_⟩⟩
      · rw [List.cons_append, filterPairs]
        simp only [hresult, hrest, ← hform, hreports]
        rfl
      · rcases hnextStand with ⟨rfl, rfl⟩ | ⟨-, hnextStand⟩
        · simpa [sourceAdded, targetAdded] using hstand
        · exact hnextStand

/-- Where every pair succeeds on its own, the run reports on all of them. -/
theorem filterPairs_of_alone {rules : Rules} {outputs : OutputPaths} {cleared : FileTree}
    (hfresh : Fresh outputs cleared) {pairs : List DocumentPair}
    (hapart : ∀ pair ∈ pairs, pair.Apart outputs cleared)
    (halone : ∀ pair ∈ pairs, (Report.alone? rules outputs cleared pair).isSome) :
    let reports := pairs.filterMap (Report.alone? rules outputs cleared)
    ∃ final, filterPairs rules outputs pairs cleared = ⟨reports, none, final⟩ ∧
      Collected outputs cleared final (sourceAdded reports) (targetAdded reports) ∧
      (pairs = [] ∧ final = cleared ∨ pairs ≠ [] ∧
        Stand outputs cleared final (sourceAdded reports) (targetAdded reports)) := by
  intro reports
  obtain ⟨final, hrest, hcollected, hstand⟩ :=
    filterPairs_append hfresh hapart halone ⟨hfresh.collected, .inl rfl⟩
  have hrun := hrest []
  rw [List.append_nil, filterPairs] at hrun
  simp only [List.append_nil] at hrun
  rw [List.nil_append, List.nil_append] at hcollected hstand
  exact ⟨final, hrun, hcollected, hstand⟩

/-- What the failure of a pair on its own becomes once both outputs are there. -/
def FailsAs (outputs : OutputPaths) (cleared : FileTree)
    (alone failure : Failure) : Prop :=
  (∀ path, alone = .openInput path .notFound → Blocked outputs cleared path →
    failure = .openInput path .notADirectory) ∧
  ((∀ path, alone = .openInput path .notFound → ¬Blocked outputs cleared path) →
    failure = alone)

/-- On its own a pair fails in one way only, and so it does after others. -/
theorem FailsAs.unique {outputs : OutputPaths} {cleared : FileTree}
    {alone failure failure' : Failure} (hfails : FailsAs outputs cleared alone failure)
    (hfails' : FailsAs outputs cleared alone failure') : failure = failure' := by
  by_cases hblocked : ∃ path, alone = .openInput path .notFound ∧
    Blocked outputs cleared path
  · obtain ⟨path, hpath, hpathBlocked⟩ := hblocked
    rw [hfails.1 path hpath hpathBlocked, hfails'.1 path hpath hpathBlocked]
  · have hfree (path : Path) (hpath : alone = .openInput path .notFound) :
        ¬Blocked outputs cleared path :=
          fun hpathBlocked => hblocked ⟨path, hpath, hpathBlocked⟩
    rw [hfails.2 hfree, hfails'.2 hfree]

/-- The first pair that fails on its own ends the run, after those before it and
whatever comes behind it. -/
theorem filterPairs_of_failure {rules : Rules} {outputs : OutputPaths}
    {cleared : FileTree} (hfresh : Fresh outputs cleared) {before : List DocumentPair}
    {pair : DocumentPair} (hapart : ∀ other ∈ before, other.Apart outputs cleared)
    (hpair : pair.Apart outputs cleared)
    (halone : ∀ other ∈ before, (Report.alone? rules outputs cleared other).isSome)
    {alone : Failure}
    (hfails : (filterPair rules pair outputs cleared).result = .error alone) :
    let reports := before.filterMap (Report.alone? rules outputs cleared)
    let added := filterPair rules pair outputs cleared
    ∃ failure final,
      (∀ after, filterPairs rules outputs (before ++ pair :: after) cleared =
        ⟨reports, some failure, final⟩) ∧
      (before = [] → failure = alone) ∧
      (before ≠ [] → FailsAs outputs cleared alone failure) ∧
      Collected outputs cleared final (sourceAdded reports ++ added.sourceAdded)
        (targetAdded reports ++ added.targetAdded) := by
  intro reports added
  obtain ⟨next, hrest, hcollected, hstand⟩ :=
    filterPairs_append hfresh hapart halone ⟨hfresh.collected, .inl rfl⟩
  rw [List.nil_append, List.nil_append] at hcollected hstand
  have hfinal := hcollected.filterPair rules pair hfresh
  have hends (failure : Failure)
      (hresult : (filterPair rules pair outputs next).result = .error failure)
      (after : List DocumentPair) :
      filterPairs rules outputs (before ++ pair :: after) cleared =
        ⟨reports, some failure, (filterPair rules pair outputs next).tree⟩ := by
    rw [hrest, filterPairs]
    simp only [hresult, List.append_nil]
    rfl
  rcases hstand with ⟨hbefore, rfl⟩ | ⟨hbefore, hstand⟩
  · exact ⟨alone, _, hends alone hfails, fun _ => rfl,
      fun hne => absurd hbefore hne, hfinal⟩
  have hsame := filterPair_asAlone rules hfresh hcollected hstand hpair
  have hadded : Collected outputs cleared (filterPair rules pair outputs next).tree
      (sourceAdded reports ++ added.sourceAdded)
      (targetAdded reports ++ added.targetAdded) := by
    rw [← hsame.sourceAdded, ← hsame.targetAdded]
    exact hfinal
  by_cases hblocked : ∃ path, alone = .openInput path .notFound ∧
    Blocked outputs cleared path
  · obtain ⟨path, rfl, hblocked⟩ := hblocked
    refine ⟨.openInput path .notADirectory, _,
      hends _ (hsame.blocked path hfails hblocked), fun hnil => absurd hnil hbefore,
      fun _ => ⟨?_, ?_⟩, hadded⟩
    · intro path' hpath _
      cases hpath
      rfl
    · intro hfree
      exact absurd hblocked (hfree path rfl)
  · have hfree (path : Path) (hpath : alone = .openInput path .notFound) :
        ¬Blocked outputs cleared path :=
          fun hpathBlocked => hblocked ⟨path, hpath, hpathBlocked⟩
    have hresult : (filterPair rules pair outputs next).result = .error alone := by
      rw [← hfails]
      apply hsame.result
      intro path hpath
      rw [hfails] at hpath
      exact hfree path (Except.error.inj hpath)
    exact ⟨alone, _, hends alone hresult, fun hnil => absurd hnil hbefore,
      fun _ => ⟨fun path hpath hpathBlocked => absurd hpathBlocked (hfree path hpath),
        fun _ => rfl⟩, hadded⟩

/-! ## What the outputs read as -/

theorem openInput_of_vacant {cleared now : FileTree} {path : Path} {location : Location}
    {content : Bytes} (hways : SameWays cleared now) (hvacant : cleared.Vacant path)
    (hplace : cleared.WritesTo path location)
    (hfile : now.get? location = some (.file content)) :
    now.openInput path = .ok (.text content) := by
  obtain ⟨site, hsite, rfl⟩ := hplace
  have hslash : site.slash = false :=
    (FileTree.locate_eq_ok_iff.1 hsite).2.slash_of_write (hvacant site hsite).1
  have hread := FileTree.locate_read_of_write (hways.locate_ok_iff.2 hsite)
  exact FileTree.openInput_of_locate hread hslash hfile

theorem Stand.openInput {outputs : OutputPaths} {cleared now : FileTree}
    {source target : Bytes} (hfresh : Fresh outputs cleared)
    (hways : SameWays cleared now) (hstand : Stand outputs cleared now source target) :
    now.openInput outputs.source = .ok (.text source) ∧
      now.openInput outputs.target = .ok (.text target) := by
  obtain ⟨sourcePlace, targetPlace, hsource, htarget, hsourceFile, htargetFile⟩ := hstand
  exact ⟨openInput_of_vacant hways hfresh.source hsource hsourceFile,
    openInput_of_vacant hways hfresh.target htarget htargetFile⟩

/-- What can be read at a path that leads to a place to write is what that place keeps. -/
theorem eq_of_openInput {now : FileTree} {path : Path} {kept content : Bytes}
    (hkeeps : ∀ location, now.WritesTo path location → now.Keeps location kept)
    (hopen : now.openInput path = .ok (.text content)) : content = kept := by
  simp only [FileTree.openInput, FileTree.status, bind_eq_ok_iff] at hopen
  obtain ⟨entry, ⟨site, hsite, hentry⟩, hinput⟩ := hopen
  rw [FileTree.entryAt_eq_ok_iff] at hentry
  have hplain : entry ≠ .directory := by
    rintro rfl
    cases hinput
  have hwrite := FileTree.locate_write_of_read hsite (hentry.2 hplain)
  rcases hkeeps _ ⟨site, hwrite, rfl⟩ with hfile | ⟨hvacant, -⟩
  · rw [hentry.1] at hfile
    cases hfile
    cases hinput
    rfl
  · rw [hentry.1] at hvacant
    cases hvacant

theorem Collected.eq_of_openInput {outputs : OutputPaths} {cleared now : FileTree}
    {source target : Bytes} (hcollected : Collected outputs cleared now source target)
    {content : Bytes} :
    (now.openInput outputs.source = .ok (.text content) → content = source) ∧
      (now.openInput outputs.target = .ok (.text content) → content = target) := by
  have hways := hcollected.change.ways
  constructor
  · apply ParallelCorpus.eq_of_openInput
    intro location hplace
    exact hcollected.source location (hways.writesTo_iff.1 hplace)
  · apply ParallelCorpus.eq_of_openInput
    intro location hplace
    exact hcollected.target location (hways.writesTo_iff.1 hplace)

/-! ## The tallies of all reports -/

/-- A figure that merging adds up is, over all reports, the sum of the figures. -/
theorem totals_eq_sum (figure : Tally → Nat) (hempty : figure .empty = 0)
    (hmerge : ∀ tally other : Tally,
      figure (tally.merge other) = figure tally + figure other)
    (reports : List Report) :
    figure (totals reports) = (reports.map fun report => figure report.tally).sum := by
  have hfrom (total : Tally) :
      figure (reports.foldl (fun total report => total.merge report.tally) total) =
        figure total + (reports.map fun report => figure report.tally).sum := by
    induction reports generalizing total with
    | nil => rfl
    | cons report reports ih =>
        calc
          _ = figure (total.merge report.tally) +
              (reports.map fun report => figure report.tally).sum :=
                ih (total.merge report.tally)
          _ = figure total + (figure report.tally +
              (reports.map fun report => figure report.tally).sum) := by
            rw [hmerge, Nat.add_assoc]
          _ = figure total +
              ((report :: reports).map fun report => figure report.tally).sum := by
            rw [List.map_cons, List.sum_cons]
  rw [totals, hfrom, hempty, Nat.zero_add]

/-- The reports on pairs filtered on their own count one document each. -/
theorem documents_totals_alone (rules : Rules) (outputs : OutputPaths)
    (cleared : FileTree) (pairs : List DocumentPair) :
    let reports := pairs.filterMap (Report.alone? rules outputs cleared)
    (totals reports).documents = reports.length := by
  intro reports
  rw [totals_eq_sum Tally.documents rfl fun _ _ => rfl]
  have hone : reports.map (fun report => report.tally.documents) =
      reports.map fun _ => 1 := by
    apply List.map_congr_left
    intro report hreport
    obtain ⟨pair, -, halone⟩ := List.mem_filterMap.1 hreport
    obtain ⟨tally, hresult, rfl⟩ := Report.alone?_eq_some_iff.1 halone
    obtain ⟨_, _, _, _, rfl, _⟩ := filterPair_ok hresult
    rfl
  calc
    (reports.map fun report => report.tally.documents).sum =
      (reports.map fun _ => 1).sum := by
      rw [hone]
    _ = reports.length := by rw [List.map_const', List.sum_replicate_nat, Nat.mul_one]

end ParallelCorpus
