import Mathlib.Data.List.Basic
import ParallelCorpus.Proofs.Splitting
import ParallelCorpus.Proofs.TraversalOrder

/-!
# What a word range selects

A word range decides which lines are kept, and nothing else.  Two runs that differ in
their ranges read the same lines at every point, so they stop for the same reason or not
at all, and they tally the same lines, documents and words.  What a range keeps, every
wider one keeps too, at the same places of both documents.
-/

namespace ParallelCorpus

open Text (Bytes wordCount)

/-! ## Accepted places -/

def acceptedPlaces (range : WordRange) (pairs : List (Bytes × Bytes)) : List Nat :=
  (List.range pairs.length).filter fun place => range.keeps (pairs.getD place ([], []))

/-- What stands on one side of some line pairs at the given places. -/
def linesAt (side : Bytes × Bytes → Bytes) (pairs : List (Bytes × Bytes))
    (places : List Nat) :
    List Bytes :=
  places.map fun place => side (pairs.getD place ([], []))

/-- One range keeps all that another one does, and maybe more. -/
structure WordRange.Wider (wide narrow : WordRange) : Prop where
  above : wide.above ≤ narrow.above
  below : narrow.below ≤ wide.below

section Places

variable {range wide narrow : WordRange} {pairs : List (Bytes × Bytes)}

theorem filter_keeps_eq :
    pairs.filter range.keeps =
      (acceptedPlaces range pairs).map fun place => pairs.getD place ([], []) := by
  have hplaces :
      pairs = (List.range pairs.length).map fun place => pairs.getD place ([], []) := by
    apply List.ext_getElem
    · simp
    · intro place hplace hplace'
      simp [List.getD_eq_getElem?_getD, hplace]
  calc
    pairs.filter range.keeps =
        ((List.range pairs.length).map fun place => pairs.getD place ([], [])).filter
          range.keeps := by rw [← hplaces]
    _ = (acceptedPlaces range pairs).map fun place => pairs.getD place ([], []) :=
      List.filter_map

theorem map_filter_keeps (side : Bytes × Bytes → Bytes) :
    (pairs.filter range.keeps).map side =
      linesAt side pairs (acceptedPlaces range pairs) := by
  rw [filter_keeps_eq, List.map_map]
  rfl

theorem length_acceptedPlaces :
    (acceptedPlaces range pairs).length = (pairs.filter range.keeps).length := by
  rw [filter_keeps_eq, List.length_map]

theorem WordRange.Wider.keeps (hwider : wide.Wider narrow) {pair : Bytes × Bytes}
    (hkeeps : narrow.keeps pair = true) : wide.keeps pair = true := by
  obtain ⟨habove, hbelow⟩ := hwider
  simp only [WordRange.keeps, WordRange.accepts, WordRange.admits, Bool.and_eq_true,
    decide_eq_true_eq] at hkeeps ⊢
  omega

theorem WordRange.Wider.acceptedPlaces_sublist (hwider : wide.Wider narrow)
    (pairs : List (Bytes × Bytes)) :
    (acceptedPlaces narrow pairs).Sublist (acceptedPlaces wide pairs) := by
  apply List.monotone_filter_right
  intro place hkeeps
  exact hwider.keeps hkeeps

end Places

/-- Two results of filtering the same line pairs that differ in what is selected and in
nothing else. -/
structure Selects (first second : WordRange) (pairs : List (Bytes × Bytes))
    (result result' : Except Failure Tally) : Prop where
  succeeds : (∃ tally, result = .ok tally) ↔ ∃ tally, result' = .ok tally
  failure : ∀ failure, result = .error failure ↔ result' = .error failure
  figures : ∀ tally tally', result = .ok tally → result' = .ok tally' →
    tally'.lines = tally.lines ∧ tally'.documents = tally.documents ∧
      tally'.source = tally.source ∧ tally'.target = tally.target
  approved : ∀ tally, result = .ok tally →
    tally.approved = (acceptedPlaces first pairs).length
  approved' : ∀ tally, result' = .ok tally →
    tally.approved = (acceptedPlaces second pairs).length
  wider : second.Wider first →
    (acceptedPlaces first pairs).Sublist (acceptedPlaces second pairs) ∧
    ∀ tally tally', result = .ok tally → result' = .ok tally' →
      tally.approved ≤ tally'.approved

/-- Two results that are the same failure, or the tallies of as many documents. -/
theorem Selects.of_tallies {first second : WordRange} {pairs : List (Bytes × Bytes)}
    {result result' : Except Failure Tally} (documents : Nat)
    (hfailure : ∀ failure, result = .error failure ↔ result' = .error failure)
    (htally : ∀ tally, result = .ok tally →
      tally = { Tally.ofPairs first pairs with documents })
    (htally' : ∀ tally, result' = .ok tally →
      tally = { Tally.ofPairs second pairs with documents }) :
    Selects first second pairs result result' := by
  have happroved : ∀ tally, result = .ok tally →
      tally.approved = (acceptedPlaces first pairs).length := by
    intro tally hresult
    rw [htally tally hresult, length_acceptedPlaces]
    rfl
  have happroved' : ∀ tally, result' = .ok tally →
      tally.approved = (acceptedPlaces second pairs).length := by
    intro tally hresult
    rw [htally' tally hresult, length_acceptedPlaces]
    rfl
  refine ⟨?_, hfailure, ?_, happroved, happroved', ?_⟩
  · cases result with
    | ok tally =>
        cases hresult : result' with
        | ok tally' => exact iff_of_true ⟨tally, rfl⟩ ⟨tally', rfl⟩
        | error failure => cases (hfailure failure).2 hresult
    | error failure =>
        rw [(hfailure failure).1 rfl]
  · intro tally tally' hresult hresult'
    rw [htally tally hresult, htally' tally' hresult']
    exact ⟨rfl, rfl, rfl, rfl⟩
  · intro hwider
    have hplaces := hwider.acceptedPlaces_sublist pairs
    refine ⟨hplaces, fun tally tally' hresult hresult' => ?_⟩
    rw [happroved tally hresult, happroved' tally' hresult']
    exact hplaces.length_le

/-! ## Two runs side by side -/

def stop? : Except Halt Progress → Option Stop
  | .ok _ => none
  | .error halt => some halt.stop

/-- Two runs onto files have read as far as each other. -/
structure Progress.Abreast (progress other : Progress) : Prop where
  files : progress.OnFiles
  otherFiles : other.OnFiles
  lines : other.tally.lines = progress.tally.lines
  targetLines : other.targetLines = progress.targetLines

namespace Progress.Abreast

variable {rules rules' : Rules} {progress other : Progress}

/-- Two runs that judge the same lines stay abreast, however they judge them. -/
theorem take (habreast : progress.Abreast other) (rules rules' : Rules)
    (sourceLine targetLine : Bytes) :
    ∃ after after', progress.take rules sourceLine targetLine = .ok after ∧
      other.take rules' sourceLine targetLine = .ok after' ∧ after.Abreast after' := by
  obtain ⟨after, htake, hfiles⟩ :=
    Progress.take_onFiles rules habreast.files sourceLine targetLine
  obtain ⟨after', htake', hfiles'⟩ :=
    Progress.take_onFiles rules' habreast.otherFiles sourceLine targetLine
  obtain ⟨hlines, htarget⟩ := Progress.take_counts htake
  obtain ⟨hlines', htarget'⟩ := Progress.take_counts htake'
  refine ⟨after, after', htake, htake', hfiles, hfiles', ?_, ?_⟩
  · rw [hlines, hlines', habreast.lines]
  · rw [htarget, htarget', habreast.targetLines]

theorem counted (habreast : progress.Abreast other) :
    progress.counted.Abreast other.counted :=
  ⟨habreast.files, habreast.otherFiles, habreast.lines,
    congrArg (· + 1) habreast.targetLines⟩

theorem stop?_flush (habreast : progress.Abreast other) :
    stop? progress.flush = stop? other.flush := by
  obtain ⟨after, hflush⟩ := Progress.flush_onFiles habreast.files
  obtain ⟨after', hflush'⟩ := Progress.flush_onFiles habreast.otherFiles
  rw [hflush, hflush']
  rfl

theorem stop?_finish (habreast : progress.Abreast other)
    (hstrict : rules'.strict = rules.strict) (target : Input) :
    stop? (finish rules target progress) = stop? (finish rules' target other) := by
  rw [finish, finish, hstrict]
  split
  · split
    · rfl
    · exact habreast.stop?_flush
    · rw [stop?, stop?, habreast.lines, habreast.targetLines]
  · exact habreast.stop?_flush

/-- Two runs through the same documents stop for the same reason, or neither does. -/
theorem stop?_lockstep (habreast : progress.Abreast other)
    (hstrict : rules'.strict = rules.strict) (source target : Input) :
    stop? (lockstep rules source target progress) =
      stop? (lockstep rules' source target other) := by
  fun_induction lockstep rules source target progress generalizing other with
  | case1 source target progress fault hread =>
      rw [lockstep_of_sourceFault other hread]
      rfl
  | case2 source target progress hend =>
      rw [lockstep_of_end other hend]
      exact habreast.stop?_finish hstrict target
  | case3 source target progress sourceLine source' hread fault hfail =>
      rw [lockstep_of_targetFault other hread hfail]
      rfl
  | case4 source target progress sourceLine source' hread targetLine target' hother
      counted halt =>
      rename_i htake
      obtain ⟨after, -, hafter, -⟩ :=
        habreast.counted.take rules rules' sourceLine targetLine
      cases hafter.symm.trans htake
  | case5 source target progress sourceLine source' hread targetLine target'
      hother counted taken htake =>
      rename_i ih
      obtain ⟨after, after', hafter, hafter', habreast'⟩ :=
        habreast.counted.take rules rules' sourceLine targetLine
      cases hafter.symm.trans htake
      rw [lockstep_of_both other hread hother, hafter']
      exact ih habreast'
  | case6 source target progress sourceLine source' hread hother hrefuses fault hfail =>
      rw [lockstep_of_longer other (hstrict.trans hrefuses) hread hother, hfail]
      rfl
  | case7 source target progress sourceLine source' hread hother hrefuses
      remaining hremaining =>
      rw [lockstep_of_longer other (hstrict.trans hrefuses) hread hother,
        hremaining, stop?, stop?, habreast.lines, habreast.targetLines]
  | case8 source target progress sourceLine source' hread hother hlenient halt htake =>
      obtain ⟨after, -, hafter, -⟩ := habreast.take rules rules' sourceLine []
      cases hafter.symm.trans htake
  | case9 source target progress sourceLine source' hread hother hlenient
      taken htake ih =>
      obtain ⟨after, after', hafter, hafter', habreast'⟩ :=
        habreast.take rules rules' sourceLine []
      cases hafter.symm.trans htake
      rw [lockstep_of_padded other
        (hstrict.trans (Bool.eq_false_iff.2 hlenient)) hread hother, hafter']
      exact ih habreast'

end Progress.Abreast

/-! ## One document pair -/

theorem filterOpened_error_iff {rules : Rules} {pair : DocumentPair}
    {outputs : OutputPaths} {source target : Input}
    {sourceHandle targetHandle : FileTree.Handle} {tree : FileTree} {failure : Failure} :
    (filterOpened rules pair outputs source target sourceHandle
      targetHandle tree).result = .error failure ↔
      (stop? (lockstep rules source target
        (.start sourceHandle.medium targetHandle.medium))).map (·.failure pair outputs) =
          some failure := by
  rw [result_filterOpened]
  cases lockstep rules source target (.start sourceHandle.medium targetHandle.medium) with
  | ok progress => simp [lockstepResult, stop?]
  | error halt => simp [lockstepResult, stop?]

section Fresh

variable {outputs : OutputPaths} {cleared : FileTree} {rules rules' : Rules}

/-- Outputs that start from nothing are opened as files. -/
theorem Fresh.medium_file (hfresh : Fresh outputs cleared) {opened ready : FileTree}
    {sourceHandle targetHandle : FileTree.Handle}
    (hfirst : cleared.openOutput outputs.source = .ok (sourceHandle, opened))
    (hsecond : opened.openOutput outputs.target = .ok (targetHandle, ready)) :
    sourceHandle.medium = .file ∧ targetHandle.medium = .file := by
  obtain ⟨hsource, hchange⟩ := FileTree.openOutput_ok hfirst
  have htarget := (FileTree.openOutput_ok hsecond).1
  have htarget' := hchange.ways.writesTo_iff.1 htarget
  obtain ⟨_, hsourceOpen, -⟩ :=
    FileTree.openOutput_of_keeps hsource (.inr ⟨hfresh.source.get? hsource, rfl⟩)
  have hapart := hfresh.apart _ _ hsource htarget'
  have hvacant : opened.get? targetHandle.location = none := by
    rw [hchange.elsewhere _ (Ne.symm hapart)]
    exact hfresh.target.get? htarget'
  obtain ⟨_, htargetOpen, -⟩ := FileTree.openOutput_of_keeps htarget (.inr ⟨hvacant, rfl⟩)
  rw [hfirst] at hsourceOpen
  rw [hsecond] at htargetOpen
  simp only [Except.ok.injEq, Prod.mk.injEq] at hsourceOpen htargetOpen
  exact ⟨by rw [hsourceOpen.1], by rw [htargetOpen.1]⟩

/-- Into outputs that start from nothing, a pair is filtered or fails whatever the
range. -/
theorem Fresh.error_iff (hfresh : Fresh outputs cleared)
    (hstrict : rules'.strict = rules.strict) (pair : DocumentPair) (failure : Failure) :
    (filterPair rules pair outputs cleared).result = .error failure ↔
      (filterPair rules' pair outputs cleared).result = .error failure := by
  rcases filterPair_opens pair outputs cleared with
    ⟨_, _, -, hrun⟩ | ⟨_, _, _, _, -, -, hrun⟩ |
    ⟨source, target, sourceHandle, opened, targetHandle, ready, -, -,
      hfirst, hsecond, hrun⟩
  · rw [hrun, hrun]
  · rw [hrun, hrun]
  · obtain ⟨hsource, htarget⟩ := hfresh.medium_file hfirst hsecond
    have habreast : (Progress.start .file .file).Abreast (.start .file .file) :=
      ⟨⟨rfl, rfl⟩, ⟨rfl, rfl⟩, rfl, rfl⟩
    rw [hrun, hrun, filterOpened_error_iff, filterOpened_error_iff, hsource, htarget,
      habreast.stop?_lockstep hstrict source target]

theorem Fresh.isSome_alone?_iff (hfresh : Fresh outputs cleared)
    (hstrict : rules'.strict = rules.strict) (pair : DocumentPair) :
    (Report.alone? rules outputs cleared pair).isSome ↔
      (Report.alone? rules' outputs cleared pair).isSome := by
  have hsame := hfresh.error_iff hstrict pair
  simp only [Report.alone?]
  cases hresult : (filterPair rules pair outputs cleared).result with
  | error failure => rw [(hsame failure).1 hresult]
  | ok tally =>
      cases hresult' : (filterPair rules' pair outputs cleared).result with
      | error failure => cases ((hsame failure).2 hresult').symm.trans hresult
      | ok tally' => exact Iff.rfl

/-! ## All pairs of a corpus -/

/-- What ends a run over all pairs does not depend on the range. -/
theorem Fresh.failure?_eq (hfresh : Fresh outputs cleared)
    (hstrict : rules'.strict = rules.strict) {pairs : List DocumentPair}
    (hapart : ∀ pair ∈ pairs, pair.Apart outputs cleared) :
    (filterPairs rules' outputs pairs cleared).failure? =
      (filterPairs rules outputs pairs cleared).failure? := by
  rcases alone_or_first_failure rules outputs cleared pairs with
    halone | ⟨before, pair, after, alone, rfl, hbefore, hfails⟩
  · have halone' : ∀ pair ∈ pairs, (Report.alone? rules' outputs cleared pair).isSome :=
      fun pair hpair => (hfresh.isSome_alone?_iff hstrict pair).1 (halone pair hpair)
    obtain ⟨_, hrun, -⟩ := filterPairs_of_alone hfresh hapart halone
    obtain ⟨_, hrun', -⟩ := filterPairs_of_alone hfresh hapart halone'
    rw [hrun, hrun']
  · have hapartBefore : ∀ other ∈ before, other.Apart outputs cleared :=
      fun other hother => hapart other (List.mem_append_left _ hother)
    have hapartPair : pair.Apart outputs cleared := hapart pair (by simp)
    have hbefore' : ∀ other ∈ before,
        (Report.alone? rules' outputs cleared other).isSome :=
      fun other hother => (hfresh.isSome_alone?_iff hstrict other).1
        (hbefore other hother)
    obtain ⟨failure, _, hrun, hfirst, hlater, -⟩ :=
      filterPairs_of_failure hfresh hapartBefore hapartPair hbefore hfails
    obtain ⟨failure', _, hrun', hfirst', hlater', -⟩ :=
      filterPairs_of_failure hfresh hapartBefore hapartPair hbefore'
        ((hfresh.error_iff hstrict pair alone).1 hfails)
    rw [hrun, hrun']
    by_cases hnil : before = []
    · rw [hfirst hnil, hfirst' hnil]
    · rw [(hlater hnil).unique (hlater' hnil)]

/-- Pairs that all succeed on their own are tallied as their line pairs are, one
document each. -/
theorem totals_alone {pairs : List DocumentPair}
    (halone : ∀ pair ∈ pairs, (Report.alone? rules outputs cleared pair).isSome) :
    totals (pairs.filterMap (Report.alone? rules outputs cleared)) =
      { Tally.ofPairs rules.range (allLinePairs cleared pairs) with
        documents := pairs.length } := by
  induction pairs with
  | nil => rfl
  | cons pair pairs ih =>
      obtain ⟨hpair, hpairs⟩ := List.forall_mem_cons.1 halone
      obtain ⟨report, hreport⟩ := Option.isSome_iff_exists.1 hpair
      obtain ⟨tally, hresult, rfl⟩ := Report.alone?_eq_some_iff.1 hreport
      obtain ⟨source, target, hsource, htarget, htally, -⟩ := filterPair_ok hresult
      have hlines : allLinePairs cleared (pair :: pairs) =
          linePairs source.lines target.lines ++ allLinePairs cleared pairs := by
        simp only [allLinePairs, List.flatMap_cons, documentLines, hsource, htarget]
      rw [List.filterMap_cons_some hreport, totals_cons, ih hpairs, htally, hlines,
        Tally.ofPairs_append, List.length_cons, Nat.add_comm]
      rfl

end Fresh

/-! ## What a range has no influence on -/

/-- Two runs of a pair that no file disturbs select line pairs each by its own range. -/
theorem Undisturbed.selects {strict : Bool} {first second : WordRange}
    {pair : DocumentPair} {outputs : OutputPaths} {tree : FileTree}
    {source target : Bytes}
    (hfirst : Undisturbed ⟨first, strict⟩ pair outputs tree source target)
    (hsecond : Undisturbed ⟨second, strict⟩ pair outputs tree source target) :
    Selects first second (linePairs (Text.lines source) (Text.lines target))
      (filterPair ⟨first, strict⟩ pair outputs tree).result
      (filterPair ⟨second, strict⟩ pair outputs tree).result := by
  have hsame :
      (∃ tally, (filterPair ⟨first, strict⟩ pair outputs tree).result = .ok tally) ↔
      ∃ tally, (filterPair ⟨second, strict⟩ pair outputs tree).result = .ok tally :=
    hfirst.succeeds_iff.trans hsecond.succeeds_iff.symm
  refine .of_tallies 1 ?_ (fun _ hresult => (hfirst.result_ok hresult).1)
    (fun _ hresult => (hsecond.result_ok hresult).1)
  intro failure
  cases hresult : (filterPair ⟨first, strict⟩ pair outputs tree).result with
  | ok tally =>
      obtain ⟨tally', hresult'⟩ := hsame.1 ⟨tally, hresult⟩
      rw [hresult']
      exact iff_of_false (by simp) (by simp)
  | error failure' =>
      cases hresult' : (filterPair ⟨second, strict⟩ pair outputs tree).result with
      | ok tally' =>
          obtain ⟨tally, hok⟩ := hsame.2 ⟨tally', hresult'⟩
          cases hok.symm.trans hresult
      | error failure'' =>
          rw [hfirst.result_error hresult, hsecond.result_error hresult']

/-- The lines at the accepted places are what a successful run adds. -/
theorem Undisturbed.adds {range : WordRange} {strict : Bool} {pair : DocumentPair}
    {outputs : OutputPaths} {tree : FileTree} {source target : Bytes}
    (hrun : Undisturbed ⟨range, strict⟩ pair outputs tree source target) {tally : Tally}
    (hresult : (filterPair ⟨range, strict⟩ pair outputs tree).result = .ok tally) :
    let pairs := linePairs (Text.lines source) (Text.lines target)
    (filterPair ⟨range, strict⟩ pair outputs tree).Adds outputs tree
      (linesAt Prod.fst pairs (acceptedPlaces range pairs)).flatten
      (linesAt Prod.snd pairs (acceptedPlaces range pairs)).flatten := by
  obtain ⟨-, hsource, htarget⟩ := hrun.result_ok hresult
  have hadds := filterPair_adds hresult
  simp only [hsource, htarget, map_filter_keeps] at hadds
  exact hadds

def Job.within (job : Job) (range : WordRange) : Job :=
  { job with minWords := range.above, maxWords := range.below }

section Corpus

variable {job : Job} {tree cleared : FileTree} {range first second : WordRange}

/-- Once a job makes sense, only its languages can be missing, and that whatever the
range. -/
theorem admitted_within (hcheck : (job.within range).check = .ok ()) (tree : FileTree) :
    admitted (job.within range) tree =
      if tree.isDirectory job.sourceDir && tree.isDirectory job.targetDir then .ok range
      else .error (.missingLanguage job.inputDir job.sourceLang job.targetLang) := by
  obtain ⟨-, -, -, range', hrange⟩ := check_ok hcheck
  have hsame : (job.within range).range = .ok range := by
    rw [Job.range, WordRange.ofLimits] at hrange ⊢
    split at hrange
    · rename_i hroom
      rw [if_pos hroom]
      rfl
    · cases hrange
  rw [admitted, hcheck, hsame]
  rfl

/-- What a run over a corpus comes to once nothing is left of its outputs. -/
theorem result_of_cleared {events : List Event} (hrun : filterCorpus job tree =
      filterCleared job range events cleared) (failure : Failure) :
    (filterCorpus job tree).result = .error failure ↔
      (filterPairs ⟨range, job.strictAlignment⟩ job.outputs (job.pairs cleared)
        cleared).failure? = some failure := by
  rw [hrun, (filterCleared_eq job range events cleared).2.2]
  split
  · rename_i ended hended
    simp [hended]
  · rename_i hended
    simp [hended]

/-- Two runs over a corpus fail in the same way, if they do. -/
theorem filterCorpus_error_iff (hformed : tree.WellFormed)
    (hfirst : (job.within first).check = .ok ())
    (hsecond : (job.within second).check = .ok ())
    (houtputs : ∀ cleared, clearOutputs job.outputs tree = .ok cleared →
      ¬cleared.SameFile job.outputs.source job.outputs.target)
    (hapart : ∀ cleared, clearOutputs job.outputs tree = .ok cleared →
      ∀ pair ∈ job.pairs cleared, pair.Apart job.outputs cleared) (failure : Failure) :
    (filterCorpus (job.within first) tree).result = .error failure ↔
      (filterCorpus (job.within second) tree).result = .error failure := by
  have hadmitted := admitted_within hfirst tree
  have hadmitted' := admitted_within hsecond tree
  split at hadmitted
  · rename_i hthere
    rw [if_pos hthere] at hadmitted'
    cases hclear : clearOutputs job.outputs tree with
    | error stays =>
        rw [filterCorpus_uncleared hadmitted hclear,
          filterCorpus_uncleared hadmitted' hclear]
    | ok cleared =>
        have hfresh := clearOutputs_fresh hclear hformed (houtputs cleared hclear)
        obtain ⟨_, hrun⟩ := filterCorpus_of_cleared hadmitted hclear
        obtain ⟨_, hrun'⟩ := filterCorpus_of_cleared hadmitted' hclear
        rw [result_of_cleared hrun, result_of_cleared hrun']
        have hsame : (Rules.mk second job.strictAlignment).strict =
            (Rules.mk first job.strictAlignment).strict := rfl
        have hends := hfresh.failure?_eq hsame (hapart cleared hclear)
        exact iff_of_eq (congrArg (· = some failure) hends.symm)
  · rename_i hmissing
    rw [if_neg hmissing] at hadmitted'
    rw [filterCorpus, hadmitted, filterCorpus, hadmitted']

/-- A run that succeeds tallies all line pairs, and its outputs hold the accepted ones. -/
theorem filterCorpus_within (hcheck : (job.within range).check = .ok ())
    (hclear : clearOutputs job.outputs tree = .ok cleared)
    (hfresh : Fresh job.outputs cleared)
    (hapart : ∀ pair ∈ job.pairs cleared, pair.Apart job.outputs cleared) {total : Tally}
    (hresult : (filterCorpus (job.within range) tree).result = .ok total) :
    let run := filterCorpus (job.within range) tree
    let pairs := allLinePairs cleared (job.pairs cleared)
    let places := acceptedPlaces range pairs
    total = { Tally.ofPairs range pairs with documents := (job.pairs cleared).length } ∧
      (job.pairs cleared ≠ [] →
        run.tree.openInput job.outputs.source =
          .ok (.text (linesAt Prod.fst pairs places).flatten) ∧
        run.tree.openInput job.outputs.target =
          .ok (.text (linesAt Prod.snd pairs places).flatten)) := by
  intro run pairs places
  have hadmitted := admitted_within hcheck tree
  split at hadmitted
  · obtain ⟨hsucceeds, hcomplete⟩ := filterCorpus_alone hadmitted hclear hfresh hapart
    have halone := hsucceeds.1 ⟨total, hresult⟩
    obtain ⟨htotal, hreports, hdone⟩ := hcomplete halone
    obtain ⟨-, hsource, htarget⟩ := reports_eq_acceptedPairs halone
    rw [hresult, hreports] at htotal
    have hsome (hne : job.pairs cleared ≠ []) : run.reports ≠ [] := by
      intro hnone
      have hdocuments := hdone.documents
      rw [hnone] at hdocuments
      exact hne (List.map_eq_nil_iff.1 hdocuments.symm)
    refine ⟨(Except.ok.inj htotal).trans (totals_alone halone), fun hne => ⟨?_, ?_⟩⟩
    · have hopen := hdone.source (hsome hne)
      rw [hreports, hsource, acceptedPairs, map_filter_keeps] at hopen
      exact hopen
    · have hopen := hdone.target (hsome hne)
      rw [hreports, htarget, acceptedPairs, map_filter_keeps] at hopen
      exact hopen
  · rw [filterCorpus, hadmitted] at hresult
    cases hresult

end Corpus

/-- A word range decides which line pairs are selected and nothing else.  Two runs of a
document pair that no file disturbs both succeed, with the same lines, documents and
word figures, or both name the same numbers of lines.  Either adds the lines at the
places that its own range accepts, and a wider range accepts the same places and maybe
more.  The same holds of two runs over a corpus whose outputs and documents are
different files, whatever makes them fail. -/
theorem selects_of_ranges :
    (∀ strict first second pair outputs tree source target,
      Undisturbed ⟨first, strict⟩ pair outputs tree source target →
      Undisturbed ⟨second, strict⟩ pair outputs tree source target →
        let run := fun range => filterPair ⟨range, strict⟩ pair outputs tree
        let pairs := linePairs (Text.lines source) (Text.lines target)
        Selects first second pairs (run first).result (run second).result ∧
          ∀ range ∈ [first, second],
            (∀ failure, (run range).result = .error failure →
              failure = .misaligned pair.source pair.target (Text.lines source).length
                (Text.lines target).length) ∧
            ∀ tally, (run range).result = .ok tally →
              (run range).Adds outputs tree
                (linesAt Prod.fst pairs (acceptedPlaces range pairs)).flatten
                (linesAt Prod.snd pairs (acceptedPlaces range pairs)).flatten) ∧
    ∀ (job : Job) tree first second, tree.WellFormed → (job.within first).check = .ok () →
      (job.within second).check = .ok () →
      (∀ cleared, clearOutputs job.outputs tree = .ok cleared →
        ¬cleared.SameFile job.outputs.source job.outputs.target) →
      (∀ cleared, clearOutputs job.outputs tree = .ok cleared →
        ∀ pair ∈ job.pairs cleared, pair.Apart job.outputs cleared) →
        let run := fun range => filterCorpus (job.within range) tree
        (∀ failure, (run first).result = .error failure ↔
          (run second).result = .error failure) ∧
          ∀ cleared, clearOutputs job.outputs tree = .ok cleared →
            let pairs := allLinePairs cleared (job.pairs cleared)
            Selects first second pairs (run first).result (run second).result ∧
              ∀ range ∈ [first, second], ∀ total, (run range).result = .ok total →
                job.pairs cleared ≠ [] →
                  (run range).tree.openInput job.outputs.source =
                      .ok
                        (.text
                          (linesAt Prod.fst pairs (acceptedPlaces range pairs)).flatten) ∧
                    (run range).tree.openInput job.outputs.target =
                      .ok (.text
                        (linesAt Prod.snd pairs
                          (acceptedPlaces range pairs)).flatten) := by
  constructor
  · intro strict first second pair outputs tree source target hfirst hsecond run pairs
    refine ⟨hfirst.selects hsecond, fun range hrange => ?_⟩
    have hrun : Undisturbed ⟨range, strict⟩ pair outputs tree source target := by
      simp only [List.mem_cons, List.not_mem_nil, or_false] at hrange
      rcases hrange with rfl | rfl
      · exact hfirst
      · exact hsecond
    exact ⟨fun failure => hrun.result_error, fun tally => hrun.adds⟩
  · intro job tree first second hformed hfirst hsecond houtputs hapart run
    have hfailure := filterCorpus_error_iff hformed hfirst hsecond houtputs hapart
    refine ⟨hfailure, fun cleared hclear => ?_⟩
    intro pairs
    have hfresh := clearOutputs_fresh hclear hformed (houtputs cleared hclear)
    have hruns (range : WordRange) (hcheck : (job.within range).check = .ok ())
        {total : Tally} (hresult : (run range).result = .ok total) :=
      filterCorpus_within hcheck hclear hfresh (hapart cleared hclear) hresult
    refine ⟨.of_tallies (job.pairs cleared).length hfailure
      (fun _ hresult => (hruns first hfirst hresult).1)
      (fun _ hresult => (hruns second hsecond hresult).1),
      fun range hrange total hresult => ?_⟩
    have hcheck : (job.within range).check = .ok () := by
      simp only [List.mem_cons, List.not_mem_nil, or_false] at hrange
      rcases hrange with rfl | rfl
      · exact hfirst
      · exact hsecond
    exact (hruns range hcheck hresult).2

/-- A line of two words is accepted by the wider of two ranges only, in a document and
in a corpus. -/
theorem selects_of_ranges_narrowed :
    let narrow : WordRange := ⟨0, 2⟩
    let run := fun range =>
      filterPair ⟨range, false⟩ ⟨⟨"s"⟩, ⟨"t"⟩⟩ ⟨⟨"p"⟩, ⟨"q"⟩⟩ twoDocuments
    let job : Job := { inputDir := ⟨"c"⟩, outName := "news" }
    let tree := twoPairs (.file (Text.utf8 "x y\n"), .file (Text.utf8 "y\n"))
      (.file (Text.utf8 "z"), .file (Text.utf8 "w\nv\n"))
    let corpusRun := fun range => filterCorpus (job.within range) tree
    (∃ tally tally', (run narrow).result = .ok tally ∧
      (run .standard).result = .ok tally' ∧
      tally.approved = 0 ∧ tally'.approved = 1 ∧ tally'.lines = tally.lines ∧
      tally'.source = tally.source ∧ tally'.target = tally.target) ∧
    ∃ total total', (corpusRun narrow).result = .ok total ∧
      (corpusRun .standard).result = .ok total' ∧ total.approved = 1 ∧
      total'.approved = 2 ∧
      total'.lines = total.lines ∧ total'.source = total.source ∧
      total.approved ≤ total'.approved := by
  intro narrow run job tree corpusRun
  obtain ⟨hpair, hcorpus⟩ := selects_of_ranges
  have hwider : WordRange.standard.Wider narrow := ⟨by decide, by decide⟩
  constructor
  · have hresult :
        (run narrow).result = .ok ⟨0, 2, 2, 1, ⟨2, 2, some 2⟩, ⟨2, 1, some 1⟩⟩ := by
      decide +kernel
    obtain ⟨hselects, -⟩ := hpair false narrow .standard _ _ _ _ _
      twoDocuments_files.undisturbed twoDocuments_files.undisturbed
    obtain ⟨tally', hresult'⟩ := hselects.succeeds.1 ⟨_, hresult⟩
    obtain ⟨hlines, -, hsource, htarget⟩ := hselects.figures _ _ hresult hresult'
    refine ⟨_, tally', hresult, hresult', rfl, ?_, hlines, hsource, htarget⟩
    rw [hselects.approved' tally' hresult']
    decide +kernel
  · have hclear : clearOutputs job.outputs tree = .ok tree :=
      clearOutputs_of_not_holds (by decide +kernel) (by decide +kernel)
    have hcleared {cleared : FileTree}
        (hclear' : clearOutputs job.outputs tree = .ok cleared) :
        cleared = tree := Except.ok.inj (hclear'.symm.trans hclear)
    have hresult : (corpusRun narrow).result =
        .ok ⟨1, 1, 2, 2, ⟨3, 2, some 1⟩, ⟨2, 1, some 1⟩⟩ := by decide +kernel
    obtain ⟨-, hruns⟩ :=
      hcorpus job tree narrow .standard ⟨by decide +kernel, by decide +kernel⟩
        (by decide +kernel) (by decide +kernel)
      (fun cleared hclear' => by rw [hcleared hclear']; decide +kernel)
      (fun cleared hclear' => by rw [hcleared hclear']; decide +kernel)
    obtain ⟨hselects, -⟩ := hruns tree hclear
    obtain ⟨total', hresult'⟩ := hselects.succeeds.1 ⟨_, hresult⟩
    obtain ⟨hlines, -, hsource, -⟩ := hselects.figures _ _ hresult hresult'
    refine ⟨_, total', hresult, hresult', rfl, ?_, hlines, hsource,
      (hselects.wider hwider).2 _ _ hresult hresult'⟩
    rw [hselects.approved' total' hresult']
    decide +kernel

end ParallelCorpus
