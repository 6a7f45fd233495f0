import ParallelCorpus.Proofs.Rerunning

/-!
# What a run touches

A run touches the entries that its two output paths name, and no other, whatever becomes
of it; links may stand anywhere but in the place of an output.  A job that is refused
touches nothing.  Where an output cannot be removed, that output stays, none is made,
and at most the other one, which is removed first, is gone.
-/

namespace ParallelCorpus

open FileTree (Within LeafChange)

namespace FileTree

/-- A path itself names what stands at a location, be it a link, or the empty place
there. -/
def NamesPlace (tree : FileTree) (path : Path) (location : Location) : Prop :=
  ∃ site, tree.locate .inspect path = .ok site ∧ site.location = location

variable {tree other : FileTree} {path : Path} {location : Location}

/-- Unless a path is a link, it names the place where it leads to write. -/
theorem Unlinked.namesPlace_of_writesTo (hunlinked : tree.Unlinked path)
    (hends : path.EndsInName) (hplace : tree.WritesTo path location) :
    tree.NamesPlace path location := by
  obtain ⟨site, hsite, rfl⟩ := hplace
  exact ⟨site, (hunlinked.locate hends hsite).2.2 .inspect, rfl⟩

/-- What a path names when some entries are gone is what it named before. -/
theorem NamesPlace.of_within (hplace : other.NamesPlace path location)
    (hunlinked : tree.Unlinked path) (hends : path.EndsInName)
    (hwithin : Within other tree) :
    tree.NamesPlace path location := by
  obtain ⟨site, hsite, rfl⟩ := hplace
  have hremove : other.locate .remove path = .ok site :=
    ((hunlinked.of_within hwithin).locate hends hsite).2.2 .remove
  exact ⟨site, (hunlinked.locate hends (hwithin.locate_remove hremove)).2.2 .inspect, rfl⟩

end FileTree

/-! ## Removing and filtering -/

/-- Removing an output touches what its path names. -/
theorem removeStale_elsewhere {path : Path} {tree cleared : FileTree}
    (hremove : removeStale path tree = .ok cleared) (hunlinked : tree.Unlinked path)
    (hends : path.EndsInName) {location : Location}
    (helsewhere : ¬tree.NamesPlace path location) :
    cleared.get? location = tree.get? location := by
  rcases (removeStale_ok hremove).2 with rfl | ⟨site, hsite, -, -, rfl⟩
  · rfl
  · apply FileTree.get?_erase_of_ne
    rintro rfl
    exact helsewhere ⟨site, (hunlinked.locate hends hsite).2.2 .inspect, rfl⟩

/-- What a removal leaves at the place of the output. -/
theorem removeStale_there {path : Path} {tree cleared : FileTree}
    (hremove : removeStale path tree = .ok cleared) (hunlinked : tree.Unlinked path)
    (hends : path.EndsInName) :
    cleared = tree ∨ ∀ location,
      tree.NamesPlace path location → cleared.get? location = none := by
  rcases (removeStale_ok hremove).2 with rfl | ⟨site, hsite, -, hplain, rfl⟩
  · exact .inl rfl
  · right
    rintro location ⟨site', hsite', rfl⟩
    have hsame :=
      Except.ok.inj (((hunlinked.locate hends hsite).2.2 .inspect).symm.trans hsite')
    rw [← hsame]
    apply FileTree.get?_erase_self
    intro hroot
    rw [hroot, FileTree.get?_root] at hplain
    exact hplain rfl

theorem removeStale_error {path : Path} {tree : FileTree} {failure : Failure}
    (hremove : removeStale path tree = .error failure) :
    ∃ cause, failure = .removeOutput path cause := by
  rw [removeStale] at hremove
  split at hremove
  · split at hremove
    · cases hremove
    · cases hremove
      exact ⟨_, rfl⟩
  · cases hremove

def Failure.isPairFailure : Failure → Bool
  | openInput .. | openOutput .. | readLine .. | writeLine .. | misaligned .. => true
  | _ => false

theorem isPairFailure_of_filterPair {rules : Rules} {pair : DocumentPair}
    {outputs : OutputPaths} {tree : FileTree} {failure : Failure}
    (hresult : (filterPair rules pair outputs tree).result = .error failure) :
    failure.isPairFailure = true := by
  rw [filterPair] at hresult
  split at hresult
  · cases hresult
    rfl
  split at hresult
  · cases hresult
    rfl
  split at hresult
  · cases hresult
    rfl
  split at hresult
  · cases hresult
    rfl
  rw [filterOpened] at hresult
  split at hresult
  · cases hresult
  · rename_i halt _
    cases hresult
    cases halt.stop <;> rfl

/-- What ends the filtering of pairs is about one of them. -/
theorem isPairFailure_of_filterPairs {rules : Rules} {outputs : OutputPaths}
    {pairs : List DocumentPair} {tree : FileTree} {failure : Failure}
    (hverdict : (filterPairs rules outputs pairs tree).verdict = .error failure) :
    failure.isPairFailure = true := by
  have hends := PairsRun.verdict_eq_error_iff.1 hverdict
  clear hverdict
  induction pairs generalizing tree with
  | nil => cases hends
  | cons pair pairs ih =>
      cases hresult : (filterPair rules pair outputs tree).result with
      | error failure' =>
          simp only [filterPairs, hresult, Option.some.injEq] at hends
          rw [← hends]
          exact isPairFailure_of_filterPair hresult
      | ok tally =>
          simp only [filterPairs, hresult] at hends
          exact ih hends

/-! ## Runs -/

section Runs

variable {job : Job} {tree : FileTree}

/-- A run touches nothing but what its outputs name. -/
theorem filterCorpus_elsewhere (hsource : tree.Unlinked job.outputs.source)
    (htarget : tree.Unlinked job.outputs.target) {location : Location}
    (hnotSource : ¬tree.NamesPlace job.outputs.source location)
    (hnotTarget : ¬tree.NamesPlace job.outputs.target location) :
    (filterCorpus job tree).tree.get? location = tree.get? location := by
  cases filterCorpus_course job tree with
  | refused _ _ _ left | targetStays _ _ _ _ left => rw [left]
  | sourceStays admits first _ _ _ left =>
      have hends := endsInName_outputs (admitted_eq_ok_iff.1 admits).1
      rw [left]
      exact removeStale_elsewhere first htarget (hends _ (by simp)) hnotTarget
  | @filters range between cleared admits first second follows =>
      have hends := endsInName_outputs (admitted_eq_ok_iff.1 admits).1
      have hsourceEnds := hends job.outputs.source (by simp)
      have htargetEnds := hends job.outputs.target (by simp)
      have hbetween := removeStale_within first
      have hcleared := (removeStale_within second).trans hbetween
      have hchange := filterPairs_leafChange ⟨range, job.strictAlignment⟩ job.outputs
        (job.pairs cleared) cleared
      calc
        (filterCorpus job tree).tree.get? location = cleared.get? location := by
          rw [follows.2.1]
          apply hchange.elsewhere
          rintro (hplace | hplace)
          · exact hnotSource
              (((hsource.of_within hcleared).namesPlace_of_writesTo hsourceEnds
                hplace).of_within hsource hsourceEnds hcleared)
          · exact hnotTarget
              (((htarget.of_within hcleared).namesPlace_of_writesTo htargetEnds
                hplace).of_within htarget htargetEnds hcleared)
        _ = between.get? location :=
          removeStale_elsewhere second (hsource.of_within hbetween)
            hsourceEnds fun hplace =>
            hnotSource (hplace.of_within hsource hsourceEnds hbetween)
        _ = tree.get? location :=
            removeStale_elsewhere first htarget htargetEnds hnotTarget

/-- A job that is refused touches nothing. -/
theorem filterCorpus_of_refusal {failure : Failure}
    (hresult : (filterCorpus job tree).result = .error failure)
    (hrefusal : failure.isRefusal = true) : (filterCorpus job tree).tree = tree := by
  cases filterCorpus_course job tree with
  | refused _ _ _ left | targetStays _ _ _ _ left => exact left
  | sourceStays _ _ removal result _ _ =>
      obtain ⟨cause, rfl⟩ := removeStale_error removal
      rw [hresult, Except.error.injEq] at result
      rw [result] at hrefusal
      cases hrefusal
  | filters _ _ _ follows =>
      have hpair := isPairFailure_of_filterPairs (follows.2.2.symm.trans hresult)
      cases failure <;> simp [Failure.isRefusal, Failure.isPairFailure] at hrefusal hpair

/-- A run that cannot remove an output stops there: nothing has been touched, or what
stands in the way of the source output has stopped it after the target output was
removed. -/
theorem filterCorpus_of_removal {path : Path} {cause : FileFault}
    (hresult : (filterCorpus job tree).result = .error (.removeOutput path cause)) :
    (path = job.outputs.target ∧ (filterCorpus job tree).tree = tree) ∨
      (path = job.outputs.source ∧ job.check = .ok () ∧
        removeStale job.outputs.target tree = .ok (filterCorpus job tree).tree) := by
  cases filterCorpus_course job tree with
  | refused refusal result _ _ =>
      have hrefusal := isRefusal_of_admitted refusal
      rw [hresult, Except.error.injEq] at result
      rw [← result] at hrefusal
      cases hrefusal
  | targetStays _ removal result _ left =>
      obtain ⟨cause', rfl⟩ := removeStale_error removal
      rw [hresult, Except.error.injEq, Failure.removeOutput.injEq] at result
      exact .inl ⟨result.1, left⟩
  | sourceStays admits first removal result _ left =>
      obtain ⟨cause', rfl⟩ := removeStale_error removal
      rw [hresult, Except.error.injEq, Failure.removeOutput.injEq] at result
      rw [left]
      exact .inr ⟨result.1, (admitted_eq_ok_iff.1 admits).1, first⟩
  | filters _ _ _ follows =>
      cases isPairFailure_of_filterPairs (follows.2.2.symm.trans hresult)

/-- Unless an output is a link, a run leaves every entry as it is but those that the two
outputs name, and these as well when the job is refused.  When an output cannot be
removed, that output stays as it is, nothing is created, and the other output stays too,
unless it is the target output: that one may be gone. -/
theorem filterCorpus_footprint
    (hsource : ∀ target, tree.ownStatus job.outputs.source ≠ .ok (.link target))
    (htarget : ∀ target, tree.ownStatus job.outputs.target ≠ .ok (.link target)) :
    let run := filterCorpus job tree
    let same := fun location => run.tree.get? location = tree.get? location
    (∀ location, ¬tree.NamesPlace job.outputs.source location →
      ¬tree.NamesPlace job.outputs.target location → same location) ∧
    (∀ failure, run.result = .error failure → failure.isRefusal = true →
      run.tree = tree) ∧
    ∀ path cause, run.result = .error (.removeOutput path cause) →
      (path = job.outputs.source ∨ path = job.outputs.target) ∧
      (∀ location, tree.NamesPlace path location → same location) ∧
      (∀ location, tree.get? location = none → run.tree.get? location = none) ∧
      ∀ other ∈ [job.outputs.source, job.outputs.target], other ≠ path →
        (∀ location, tree.NamesPlace other location → same location) ∨
          (path = job.outputs.source ∧
            ∀ location, tree.NamesPlace other location →
              run.tree.get? location = none) := by
  intro run same
  refine ⟨fun location hnotSource hnotTarget =>
    filterCorpus_elsewhere hsource htarget hnotSource hnotTarget,
    fun failure hresult hrefusal => filterCorpus_of_refusal hresult hrefusal, ?_⟩
  intro path cause hresult
  rcases filterCorpus_of_removal hresult with ⟨rfl, htree⟩ | ⟨rfl, hcheck, hfirst⟩
  · have hsame (location : Location) : same location := congrArg (·.get? location) htree
    refine ⟨.inr rfl, fun location _ => hsame location, fun location hvacant => ?_,
      fun other _ _ => .inl fun location _ => hsame location⟩
    exact (hsame location).trans hvacant
  · have hends := endsInName_outputs hcheck job.outputs.target (by simp)
    refine ⟨.inl rfl, ?_, ?_, ?_⟩
    · rintro location ⟨sourceSite, hsourceSite, rfl⟩
      apply removeStale_elsewhere hfirst htarget hends
      rintro ⟨targetSite, htargetSite, hplace⟩
      exact outputs_apart hcheck hsource htarget hsourceSite htargetSite hplace.symm
    · intro location hvacant
      rw [Option.eq_none_iff_forall_ne_some] at hvacant ⊢
      exact fun entry hentry =>
        hvacant entry ((removeStale_within hfirst).entry location entry hentry)
    · intro other hother hne
      simp only [List.mem_cons, List.not_mem_nil, or_false] at hother
      rcases hother with rfl | rfl
      · exact absurd rfl hne
      · rcases removeStale_there hfirst htarget hends with htree | hgone
        · exact .inl fun location _ => congrArg (·.get? location) htree
        · exact .inr ⟨rfl, hgone⟩

end Runs

/-- A directory in the place of the source output stops a run behind the removal of the
target output; the files of the corpus and the directory stay. -/
theorem filterCorpus_footprint_blocked :
    let job : Job := { inputDir := ⟨"c"⟩, outName := "news" }
    let sourcePlace : Location := ⟨"news_Short.en", by decide⟩ :: corpusRoot
    let targetPlace : Location := ⟨"news_Short.fa", by decide⟩ :: corpusRoot
    let corpus := twoPairs (.file (Text.utf8 "x\n"), .file (Text.utf8 "y\n"))
      (.file (Text.utf8 "z"), .link "../../dev")
    let tree := (corpus.put sourcePlace .directory).put targetPlace
      (.file (Text.utf8 "w\n"))
    let run := filterCorpus job tree
    run.result = .error (.removeOutput job.outputs.source .isADirectory) ∧
      run.tree.get? sourcePlace = some .directory ∧ run.tree.get? targetPlace = none ∧
      run.tree.get? (⟨"b.ixml", by decide⟩ :: targetRoot) = some (.link "../../dev") := by
  intro job sourcePlace targetPlace corpus tree run
  have hsource : tree.ownStatus job.outputs.source = .ok .directory := by decide +kernel
  have htarget : tree.ownStatus job.outputs.target = .ok (.file (Text.utf8 "w\n")) := by
    decide +kernel
  have hresult : run.result =
      .error (.removeOutput job.outputs.source .isADirectory) := by
    decide +kernel
  have hsourcePlace : tree.locate .inspect job.outputs.source =
      .ok ⟨sourcePlace, true, false⟩ := by
    decide +kernel
  have htargetPlace : tree.locate .inspect job.outputs.target =
      .ok ⟨targetPlace, true, false⟩ := by
    decide +kernel
  obtain ⟨helsewhere, -, hremoval⟩ := filterCorpus_footprint (by rw [hsource]; simp)
    (by rw [htarget]; simp)
  obtain ⟨-, hsame, -, -⟩ := hremoval _ _ hresult
  refine ⟨hresult, ?_, by decide +kernel, ?_⟩
  · rw [hsame sourcePlace ⟨_, hsourcePlace, rfl⟩]
    decide +kernel
  · rw [helsewhere]
    · decide +kernel
    · rintro ⟨site, hsite, hplace⟩
      rw [← Except.ok.inj (hsourcePlace.symm.trans hsite)] at hplace
      exact absurd hplace (by decide)
    · rintro ⟨site, hsite, hplace⟩
      rw [← Except.ok.inj (htargetPlace.symm.trans hsite)] at hplace
      exact absurd hplace (by decide)

end ParallelCorpus
