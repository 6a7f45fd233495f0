import ParallelCorpus.Proofs.LineStructure
import ParallelCorpus.Proofs.StrictAlignment

/-!
# Splitting documents

Two documents that are cut behind lines at the same place can be filtered in two parts.
The lines of the whole are those of both parts, the accepted ones are too, and their
tallies merge, apart from the one document that they are.  The first parts have as many
lines as each other, so alignment is decided by the second ones.
-/

namespace ParallelCorpus

open Text (Bytes Terminated lineFeed)

/-! ## The lines of a text in two parts -/

namespace Text

theorem prependByte_append (byte : UInt8) {lines : List Bytes} (hlines : lines ≠ [])
    (others : List Bytes) :
    prependByte byte (lines ++ others) = prependByte byte lines ++ others := by
  obtain ⟨line, rest, rfl⟩ := List.exists_cons_of_ne_nil hlines
  by_cases hbyte : byte = lineFeed
  · simp [prependByte, hbyte]
  · simp [prependByte, hbyte]

/-- The lines of a text that ends with a line feed come in front of those of what
follows. -/
theorem lines_append {text : Bytes} (hends : text = [] ∨ Terminated text)
    (others : Bytes) :
    lines (text ++ others) = lines text ++ lines others := by
  induction text with
  | nil => rfl
  | cons byte text ih =>
      by_cases hlast : text = []
      · subst hlast
        have hbyte : byte = lineFeed := by simpa [Terminated] using hends
        rw [hbyte, List.singleton_append, lines_cons, lines_cons, prependByte_lineFeed,
          prependByte_lineFeed]
        rfl
      · have hinner : Terminated text :=
          (terminated_cons hlast).1 (hends.resolve_left (List.cons_ne_nil byte text))
        have hlines : lines text ≠ [] := fun hnil => hlast (lines_eq_nil_iff.1 hnil)
        rw [List.cons_append, lines_cons, ih (.inr hinner),
          prependByte_append byte hlines, lines_cons]

end Text

theorem linePairs_append {source target : List Bytes}
    (hcount : source.length = target.length) (sourceRest targetRest : List Bytes) :
    linePairs (source ++ sourceRest) (target ++ targetRest) =
      linePairs source target ++ linePairs sourceRest targetRest := by
  induction source generalizing target with
  | nil =>
      have htarget : target = [] := List.eq_nil_of_length_eq_zero hcount.symm
      rw [htarget]
      rfl
  | cons line source ih =>
      cases target with
      | nil => cases hcount
      | cons other target =>
          have hrest := ih (Nat.succ.inj hcount)
          simp only [List.cons_append, linePairs, List.headD_cons, List.tail_cons, hrest]

/-! ## What the outcome tells about alignment -/

namespace Rules

variable {rules : Rules}

theorem aligns_cons_iff {sourceLine targetLine : Bytes} {source target : List Bytes} :
    rules.Aligns (sourceLine :: source) (targetLine :: target) ↔
      rules.Aligns source target := by
  simp [Aligns]

/-- Whether two documents are aligned is decided behind any lines that both have. -/
theorem aligns_append_iff {source target : List Bytes}
    (hcount : source.length = target.length) {sourceRest targetRest : List Bytes} :
    rules.Aligns (source ++ sourceRest) (target ++ targetRest) ↔
      rules.Aligns sourceRest targetRest := by
  simp [Aligns, hcount]

end Rules

/-- A run that succeeds shows that its documents are aligned as they should be, and one
that is stopped for misalignment that they are not. -/
def Rules.Shows (rules : Rules) (source target : List Bytes) : Except Halt Progress → Prop
  | .ok _ => rules.Aligns source target
  | .error ⟨.misaligned _ _, _⟩ => ¬rules.Aligns source target
  | .error _ => True

/-- Only whether documents are aligned matters for what a run shows. -/
theorem Rules.Shows.congr {rules : Rules}
    {source target sourceRest targetRest : List Bytes}
    (haligns : rules.Aligns source target ↔ rules.Aligns sourceRest targetRest)
    {outcome : Except Halt Progress}
    (hshows : rules.Shows sourceRest targetRest outcome) :
    rules.Shows source target outcome := by
  match outcome, hshows with
  | .ok _, haligned => exact haligns.2 haligned
  | .error ⟨.misaligned _ _, _⟩, hmisaligned =>
      exact fun haligned => hmisaligned (haligns.1 haligned)
  | .error ⟨.sourceLine _, _⟩, _ => trivial
  | .error ⟨.targetLine _, _⟩, _ => trivial
  | .error ⟨.sourceOutput _, _⟩, _ => trivial
  | .error ⟨.targetOutput _, _⟩, _ => trivial

section Shows

variable {rules : Rules} {progress : Progress} {halt : Halt} (source target : List Bytes)

theorem Progress.take_error {sourceLine targetLine : Bytes}
    (htake : progress.take rules sourceLine targetLine = .error halt) :
    rules.Shows source target (.error halt) := by
  rw [take] at htake
  simp only at htake
  split at htake
  · split at htake
    · cases htake
      trivial
    · split at htake
      · cases htake
        trivial
      · cases htake
  · cases htake

theorem Progress.flush_error (hflush : progress.flush = .error halt) :
    rules.Shows source target (.error halt) := by
  rw [flush] at hflush
  split at hflush
  · cases hflush
    trivial
  · split at hflush
    · cases hflush
      trivial
    · cases hflush

end Shows

/-- Nothing is wrong with alignment where an input ends, or is not counted. -/
theorem Progress.flush_shows {rules : Rules} {source target : List Bytes}
    (haligned : rules.Aligns source target) (progress : Progress) :
    rules.Shows source target progress.flush := by
  cases hflush : progress.flush with
  | ok after => exact haligned
  | error halt => exact Progress.flush_error source target hflush

/-- Counting goes through the lines that an input offers. -/
theorem Input.length_lines_of_countLines {input : Input} {count : Nat}
    (hcount : input.countLines = .ok count) : input.lines.length = count := by
  cases input with
  | text rest =>
      rw [countLines_text] at hcount
      exact Except.ok.inj hcount
  | failing rest fault =>
      rw [countLines_failing] at hcount
      cases hcount

theorem finish_shows (rules : Rules) (target : Input) (progress : Progress) :
    rules.Shows [] target.lines (finish rules target progress) := by
  rw [finish]
  split
  · rename_i hstrict
    split
    · trivial
    · rename_i hcount
      apply Progress.flush_shows
      intro _
      rw [Input.length_lines_of_countLines hcount]
      rfl
    · rename_i extra hextra hcount
      intro haligned
      rw [Rules.Aligns, Input.length_lines_of_countLines hcount] at haligned
      exact hextra (haligned hstrict).symm
  · rename_i hlenient
    exact Progress.flush_shows (fun hstrict => absurd hstrict hlenient) progress

/-- What a run in lockstep comes to shows whether its documents are aligned, unless a
file is at fault. -/
theorem lockstep_shows (rules : Rules) (source target : Input) (progress : Progress) :
    rules.Shows source.lines target.lines (lockstep rules source target progress) := by
  fun_induction lockstep rules source target progress with
  | case1 => trivial
  | case2 source target progress hend =>
      rw [Input.lines_of_next_none hend]
      exact finish_shows rules target progress
  | case3 => trivial
  | case4 source target progress sourceLine source' hsource targetLine target'
      htarget counted halt htake => exact Progress.take_error _ _ htake
  | case5 source target progress sourceLine source' hsource targetLine target'
      htarget counted taken htake ih =>
      rw [Input.lines_of_next_some hsource, Input.lines_of_next_some htarget]
      exact ih.congr Rules.aligns_cons_iff
  | case6 => trivial
  | case7 source target progress sourceLine source' hsource htarget hstrict
      remaining hremaining =>
      intro haligned
      rw [Input.lines_of_next_some hsource, Input.lines_of_next_none htarget] at haligned
      cases haligned hstrict
  | case8 source target progress sourceLine source' hsource htarget hlenient halt htake =>
      exact Progress.take_error _ _ htake
  | case9 source target progress sourceLine source' hsource htarget hlenient
      taken htake ih =>
      have hany (source target : List Bytes) : rules.Aligns source target :=
        fun hstrict => absurd hstrict hlenient
      exact ih.congr (iff_of_true (hany _ _) (hany _ _))

theorem finish_counts {rules : Rules} {target : Input} {progress reached : Progress}
    {sourceLines targetLines : Nat}
    (hfinish : finish rules target progress =
      .error ⟨.misaligned sourceLines targetLines, reached⟩) :
    sourceLines = progress.tally.lines ∧
      targetLines = progress.targetLines + target.lines.length := by
  -- Handing on what the outputs hold has nothing to do with alignment.
  have hflush : progress.flush ≠
      .error ⟨.misaligned sourceLines targetLines, reached⟩ := by
    intro hflush
    have hshows :
        rules.Shows [] [] (.error ⟨.misaligned sourceLines targetLines, reached⟩) :=
      Progress.flush_error [] [] hflush
    exact hshows fun _ => rfl
  rw [finish] at hfinish
  split at hfinish
  · split at hfinish
    · cases hfinish
    · exact absurd hfinish hflush
    · rename_i extra _ hcount
      cases hfinish
      exact ⟨rfl, by rw [Input.length_lines_of_countLines hcount]⟩
  · exact absurd hfinish hflush

/-- A misalignment is reported with the numbers of all lines, those read so far
included. -/
theorem lockstep_counts {rules : Rules} {source target : Input}
    {progress reached : Progress} {sourceLines targetLines : Nat}
    (hrun : lockstep rules source target progress =
      .error ⟨.misaligned sourceLines targetLines, reached⟩) :
    sourceLines = progress.tally.lines + source.lines.length ∧
      targetLines = progress.targetLines + target.lines.length := by
  fun_induction lockstep rules source target progress with
  | case1 => cases hrun
  | case2 source target progress hend =>
      rw [Input.lines_of_next_none hend]
      exact finish_counts hrun
  | case3 => cases hrun
  | case4 source target progress sourceLine source' hsource targetLine target'
      htarget counted halt htake =>
      cases hrun
      exact absurd (fun _ => rfl) (Progress.take_error [] [] htake)
  | case5 source target progress sourceLine source' hsource targetLine target'
      htarget counted taken htake ih =>
      obtain ⟨hsourceLines, htargetLines⟩ := ih hrun
      obtain ⟨htaken, htakenTarget⟩ := Progress.take_counts htake
      have hcounted : counted.targetLines = progress.targetLines + 1 := rfl
      have htally : counted.tally.lines = progress.tally.lines := rfl
      rw [Input.lines_of_next_some hsource, Input.lines_of_next_some htarget,
        List.length_cons, List.length_cons]
      omega
  | case6 => cases hrun
  | case7 source target progress sourceLine source' hsource htarget hstrict
      remaining hremaining total =>
      have htotal : total = progress.tally.lines + 1 + remaining := rfl
      simp only [Except.error.injEq, Halt.mk.injEq, Stop.misaligned.injEq] at hrun
      rw [Input.lines_of_next_some hsource, Input.lines_of_next_none htarget,
        List.length_cons, Input.length_lines_of_countLines hremaining, List.length_nil]
      omega
  | case8 source target progress sourceLine source' hsource htarget hlenient halt htake =>
      cases hrun
      exact absurd (fun _ => rfl) (Progress.take_error [] [] htake)
  | case9 source target progress sourceLine source' hsource htarget hlenient
      taken htake ih =>
      obtain ⟨hsourceLines, htargetLines⟩ := ih hrun
      obtain ⟨htaken, htakenTarget⟩ := Progress.take_counts htake
      rw [Input.lines_of_next_some hsource, List.length_cons]
      omega

/-! ## Runs that no file disturbs -/

/-- Two documents with these contents are filtered, and no file is at fault if that
fails. -/
structure Undisturbed (rules : Rules) (pair : DocumentPair) (outputs : OutputPaths)
    (tree : FileTree) (source target : Bytes) : Prop where
  source : tree.openInput pair.source = .ok (.text source)
  target : tree.openInput pair.target = .ok (.text target)
  fault : ∀ failure, (filterPair rules pair outputs tree).result = .error failure →
    failure.fault? = none

section Undisturbed

variable {rules : Rules} {pair : DocumentPair} {outputs : OutputPaths} {tree : FileTree}
  {source target : Bytes}

/-- The result of filtering opened documents: a fault of a file, or the answer to
whether they are aligned. -/
theorem filterOpened_shows (rules : Rules) (pair : DocumentPair) (outputs : OutputPaths)
    (source target : Input) (sourceHandle targetHandle : FileTree.Handle)
    (tree : FileTree) :
    let run := filterOpened rules pair outputs source target sourceHandle
      targetHandle tree
    (∃ failure fault, run.result = .error failure ∧ failure.fault? = some fault) ∨
      ((∃ tally, run.result = .ok tally) ↔ rules.Aligns source.lines target.lines) := by
  intro run
  have hshows := lockstep_shows rules source target
    (.start sourceHandle.medium targetHandle.medium)
  cases hran :
    lockstep rules source target (.start sourceHandle.medium targetHandle.medium) with
  | ok progress =>
      have hresult : run.result = .ok progress.tally := by
        simp only [run, result_filterOpened, hran, lockstepResult]
      rw [hran] at hshows
      exact .inr (iff_of_true ⟨_, hresult⟩ hshows)
  | error halt =>
      have hresult : run.result = .error (halt.stop.failure pair outputs) := by
        simp only [run, result_filterOpened, hran, lockstepResult]
      rw [hran] at hshows
      obtain ⟨stop, progress⟩ := halt
      cases stop with
      | misaligned sourceLines targetLines =>
          right
          rw [hresult]
          refine iff_of_false ?_ hshows
          rintro ⟨tally, htally⟩
          cases htally
      | sourceLine fault => exact .inl ⟨_, fault, hresult, rfl⟩
      | targetLine fault => exact .inl ⟨_, fault, hresult, rfl⟩
      | sourceOutput fault => exact .inl ⟨_, fault, hresult, rfl⟩
      | targetOutput fault => exact .inl ⟨_, fault, hresult, rfl⟩

/-- A run that no file disturbs gets to the documents. -/
theorem Undisturbed.opened (hrun : Undisturbed rules pair outputs tree source target) :
    ∃ sourceHandle targetHandle ready, filterPair rules pair outputs tree =
      filterOpened rules pair outputs (.text source) (.text target)
        sourceHandle targetHandle ready := by
  have hfaultless {failure : Failure} {fault : FileFault} {left : FileTree}
      (hunopened : filterPair rules pair outputs tree = .unopened failure left)
      (hfault : failure.fault? = some fault) : False := by
    have hfails : (filterPair rules pair outputs tree).result = .error failure := by
      rw [hunopened, PairRun.unopened]
    cases hfault.symm.trans (hrun.fault failure hfails)
  rcases filterPair_opens pair outputs tree with
    ⟨failure, fault, hfault, hends⟩ | ⟨failure, fault, _, _, hfault, -, hends⟩ |
    ⟨_, _, sourceHandle, _, targetHandle, ready, hsource, htarget, -, -, hopened⟩
  · exact (hfaultless (hends rules) hfault).elim
  · exact (hfaultless (hends rules) hfault).elim
  · cases hsource.symm.trans hrun.source
    cases htarget.symm.trans hrun.target
    exact ⟨sourceHandle, targetHandle, ready, hopened rules⟩

/-- A run that no file disturbs succeeds unless strict alignment objects. -/
theorem Undisturbed.succeeds_iff
    (hrun : Undisturbed rules pair outputs tree source target) :
    (∃ tally, (filterPair rules pair outputs tree).result = .ok tally) ↔
      rules.Aligns (Text.lines source) (Text.lines target) := by
  obtain ⟨sourceHandle, targetHandle, ready, hopened⟩ := hrun.opened
  have hfault := hrun.fault
  rw [hopened] at hfault ⊢
  rcases filterOpened_shows rules pair outputs (.text source) (.text target) sourceHandle
    targetHandle ready with ⟨failure, fault, hfails, hatFault⟩ | hiff
  · rw [hfault failure hfails] at hatFault
    cases hatFault
  · exact hiff

/-- An undisturbed run that fails names the documents with the numbers of all their
lines. -/
theorem Undisturbed.result_error
    (hrun : Undisturbed rules pair outputs tree source target) {failure : Failure}
    (hresult : (filterPair rules pair outputs tree).result = .error failure) :
    failure = .misaligned pair.source pair.target (Text.lines source).length
      (Text.lines target).length := by
  have hfault := hrun.fault failure hresult
  obtain ⟨sourceHandle, targetHandle, ready, hopened⟩ := hrun.opened
  rw [hopened, result_filterOpened] at hresult
  cases hran : lockstep rules (.text source) (.text target)
      (.start sourceHandle.medium targetHandle.medium) with
  | ok progress =>
      rw [hran] at hresult
      cases hresult
  | error halt =>
      obtain ⟨stop, reached⟩ := halt
      rw [hran, lockstepResult, Except.error.injEq] at hresult
      subst hresult
      cases stop with
      | misaligned sourceLines targetLines =>
          obtain ⟨rfl, rfl⟩ := lockstep_counts hran
          simp [Stop.failure, Progress.start, Tally.empty, Input.lines]
      | sourceLine fault => cases hfault
      | targetLine fault => cases hfault
      | sourceOutput fault => cases hfault
      | targetOutput fault => cases hfault

/-- What an undisturbed run that succeeds has tallied and added. -/
theorem Undisturbed.result_ok (hrun : Undisturbed rules pair outputs tree source target)
    {tally : Tally} (hresult : (filterPair rules pair outputs tree).result = .ok tally) :
    let run := filterPair rules pair outputs tree
    let pairs := linePairs (Text.lines source) (Text.lines target)
    let kept := pairs.filter rules.range.keeps
    tally = .ofDocument rules.range pairs ∧
    run.sourceAdded = (kept.map Prod.fst).flatten ∧
      run.targetAdded = (kept.map Prod.snd).flatten := by
  obtain ⟨sourceInput, targetInput, hsource, htarget, hadded⟩ := filterPair_ok hresult
  cases hsource.symm.trans hrun.source
  cases htarget.symm.trans hrun.target
  exact hadded

/-- Four different files are filtered without a fault. -/
theorem PairFiles.undisturbed {sourceKept targetKept : Bytes}
    {sourcePlace targetPlace : Location}
    (hfiles : PairFiles tree pair outputs source target sourceKept targetKept sourcePlace
      targetPlace) : Undisturbed rules pair outputs tree source target where
  source := hfiles.source
  target := hfiles.target
  fault := by
    intro failure hfails
    by_cases haligned : rules.Aligns (Text.lines source) (Text.lines target)
    · rw [(filterPair_of_aligned haligned hfiles).1] at hfails
      cases hfails
    · simp only [Rules.Aligns, Classical.not_imp] at haligned
      rw [(filterPair_misaligned haligned.1 hfiles haligned.2).1] at hfails
      cases hfails
      rfl

end Undisturbed

/-! ## What is added -/

/-- A run hands these bytes on to its outputs.  Where the outputs are two files, new or
not, these grow by exactly the bytes. -/
structure PairRun.Adds (run : PairRun) (outputs : OutputPaths) (tree : FileTree)
    (sourceBytes targetBytes : Bytes) : Prop where
  source : run.sourceAdded = sourceBytes
  target : run.targetAdded = targetBytes
  files : ∀ sourcePlace targetPlace sourceKept targetKept,
    tree.WritesTo outputs.source sourcePlace → tree.WritesTo outputs.target targetPlace →
    sourcePlace ≠ targetPlace → tree.Keeps sourcePlace sourceKept →
    tree.Keeps targetPlace targetKept →
      run.tree.get? sourcePlace = some (.file (sourceKept ++ sourceBytes)) ∧
        run.tree.get? targetPlace = some (.file (targetKept ++ targetBytes))

theorem filterPair_adds {rules : Rules} {pair : DocumentPair} {outputs : OutputPaths}
    {tree : FileTree} {tally : Tally}
    (hresult : (filterPair rules pair outputs tree).result = .ok tally) :
    let run := filterPair rules pair outputs tree
    run.Adds outputs tree run.sourceAdded run.targetAdded := by
  intro run
  obtain ⟨source, target, hsource, htarget, -⟩ := filterPair_ok hresult
  refine ⟨rfl, rfl, ?_⟩
  intro sourcePlace targetPlace sourceKept targetKept hsourceLeads htargetLeads
    hapart hsourceKeeps htargetKeeps
  obtain ⟨opened, hrun, hsourceFile, htargetFile⟩ :=
    filterPair_opened rules hsource htarget hsourceLeads htargetLeads hsourceKeeps
      htargetKeeps hapart
  simp only [run, hrun]
  exact get?_filterOpened rules pair outputs source target hsourceFile htargetFile hapart

/-! ## Documents in two parts -/

section Parts

variable {rules : Rules} {whole first second : DocumentPair}
  {wholeOutputs firstOutputs secondOutputs : OutputPaths}
  {wholeTree firstTree secondTree : FileTree}
  {source target sourceRest targetRest : Bytes}

/-- Two documents that are cut behind as many whole lines each come to what their two
parts come to.  They are filtered successfully exactly when the second parts are.  Then
the first parts are too; what is added to each output is what the first parts add and
behind it what the second parts add, and the tallies of the parts merge, apart from
counting one document. -/
theorem filterPair_split (hsource : source = [] ∨ Terminated source)
    (htarget : target = [] ∨ Terminated target)
    (hcount : (Text.lines source).length = (Text.lines target).length)
    (hwhole : Undisturbed rules whole wholeOutputs wholeTree (source ++ sourceRest)
      (target ++ targetRest))
    (hfirst : Undisturbed rules first firstOutputs firstTree source target)
    (hsecond : Undisturbed rules second secondOutputs secondTree sourceRest targetRest) :
    let run := filterPair rules whole wholeOutputs wholeTree
    let firstRun := filterPair rules first firstOutputs firstTree
    let secondRun := filterPair rules second secondOutputs secondTree
    ((∃ tally, run.result = .ok tally) ↔ ∃ tally, secondRun.result = .ok tally) ∧
      ∀ tally, run.result = .ok tally →
        ∃ firstTally secondTally, firstRun.result = .ok firstTally ∧
          secondRun.result = .ok secondTally ∧
          (firstTally.merge secondTally).documents = 2 ∧
          tally = { firstTally.merge secondTally with documents := 1 } ∧
          firstRun.Adds firstOutputs firstTree firstRun.sourceAdded firstRun.targetAdded ∧
          secondRun.Adds secondOutputs secondTree secondRun.sourceAdded
            secondRun.targetAdded ∧
          run.Adds wholeOutputs wholeTree (firstRun.sourceAdded ++ secondRun.sourceAdded)
            (firstRun.targetAdded ++ secondRun.targetAdded) := by
  intro run firstRun secondRun
  have hsourceLines := Text.lines_append hsource sourceRest
  have htargetLines := Text.lines_append htarget targetRest
  have hpairs :
      linePairs (Text.lines (source ++ sourceRest)) (Text.lines (target ++ targetRest)) =
        linePairs (Text.lines source) (Text.lines target) ++
          linePairs (Text.lines sourceRest) (Text.lines targetRest) := by
    rw [hsourceLines, htargetLines, linePairs_append hcount]
  have hsucceeds : (∃ tally, run.result = .ok tally) ↔
      ∃ tally, secondRun.result = .ok tally := by
    rw [hwhole.succeeds_iff, hsecond.succeeds_iff, hsourceLines, htargetLines,
      Rules.aligns_append_iff hcount]
  refine ⟨hsucceeds, fun tally hresult => ?_⟩
  obtain ⟨firstTally, hfirstResult⟩ := hfirst.succeeds_iff.2 fun _ => hcount
  obtain ⟨secondTally, hsecondResult⟩ := hsucceeds.1 ⟨tally, hresult⟩
  obtain ⟨htally, hsourceAdded, htargetAdded⟩ := hwhole.result_ok hresult
  obtain ⟨hfirstTally, hfirstSource, hfirstTarget⟩ := hfirst.result_ok hfirstResult
  obtain ⟨hsecondTally, hsecondSource, hsecondTarget⟩ := hsecond.result_ok hsecondResult
  have hsourceParts : run.sourceAdded =
      firstRun.sourceAdded ++ secondRun.sourceAdded := by
    rw [hpairs, List.filter_append, List.map_append, List.flatten_append, ← hfirstSource,
      ← hsecondSource] at hsourceAdded
    exact hsourceAdded
  have htargetParts : run.targetAdded =
      firstRun.targetAdded ++ secondRun.targetAdded := by
    rw [hpairs, List.filter_append, List.map_append, List.flatten_append, ← hfirstTarget,
      ← hsecondTarget] at htargetAdded
    exact htargetAdded
  refine ⟨firstTally, secondTally, hfirstResult, hsecondResult, ?_, ?_,
    filterPair_adds hfirstResult, filterPair_adds hsecondResult, ?_⟩
  · rw [hfirstTally, hsecondTally]
    rfl
  · rw [htally, hfirstTally, hsecondTally, hpairs]
    exact Tally.ofDocument_append rules.range _ _
  · rw [← hsourceParts, ← htargetParts]
    exact filterPair_adds hresult

end Parts

/-- Two documents, the target a line shorter, and the same cut behind their first
lines. -/
def cutDocuments : FileTree where
  entries :=
    [ ([⟨"a", by decide⟩], .file (Text.utf8 "x y\nz\nw")),
      ([⟨"b", by decide⟩], .file (Text.utf8 "u\nv")),
      ([⟨"a1", by decide⟩], .file (Text.utf8 "x y\n")),
      ([⟨"b1", by decide⟩], .file (Text.utf8 "u\n")),
      ([⟨"a2", by decide⟩], .file (Text.utf8 "z\nw")),
      ([⟨"b2", by decide⟩], .file (Text.utf8 "v")) ]
  base := []
  distinct := by decide

theorem filterPair_split_cutDocuments :
    let run := fun pair : DocumentPair =>
      filterPair ⟨.standard, false⟩ pair ⟨⟨"p"⟩, ⟨"q"⟩⟩ cutDocuments
    let whole := run ⟨⟨"a"⟩, ⟨"b"⟩⟩
    (run ⟨⟨"a1"⟩, ⟨"b1"⟩⟩).result = .ok ⟨1, 0, 1, 1, ⟨2, 2, some 2⟩, ⟨1, 1, some 1⟩⟩ ∧
      (run ⟨⟨"a2"⟩, ⟨"b2"⟩⟩).result = .ok ⟨1, 1, 2, 1, ⟨2, 1, some 1⟩, ⟨1, 1, some 1⟩⟩ ∧
      whole.result = .ok ⟨2, 1, 3, 1, ⟨4, 2, some 1⟩, ⟨2, 1, some 1⟩⟩ ∧
      whole.tree.get? [⟨"p", by decide⟩] = some (.file (Text.utf8 "x y\nz\n")) ∧
      whole.tree.get? [⟨"q", by decide⟩] = some (.file (Text.utf8 "u\nv")) := by
  intro run whole
  have hsourceLeads : cutDocuments.WritesTo ⟨"p"⟩ [⟨"p", by decide⟩] :=
    ⟨⟨[⟨"p", by decide⟩], true, false⟩, by decide +kernel, rfl⟩
  have htargetLeads : cutDocuments.WritesTo ⟨"q"⟩ [⟨"q", by decide⟩] :=
    ⟨⟨[⟨"q", by decide⟩], true, false⟩, by decide +kernel, rfl⟩
  have hsourceKeeps : cutDocuments.Keeps [⟨"p", by decide⟩] [] :=
    .inr ⟨by decide +kernel, rfl⟩
  have htargetKeeps : cutDocuments.Keeps [⟨"q", by decide⟩] [] :=
    .inr ⟨by decide +kernel, rfl⟩
  have hfirst : (run ⟨⟨"a1"⟩, ⟨"b1"⟩⟩).result =
      .ok ⟨1, 0, 1, 1, ⟨2, 2, some 2⟩, ⟨1, 1, some 1⟩⟩ := by decide +kernel
  have hsecond : (run ⟨⟨"a2"⟩, ⟨"b2"⟩⟩).result =
      .ok ⟨1, 1, 2, 1, ⟨2, 1, some 1⟩, ⟨1, 1, some 1⟩⟩ := by decide +kernel
  have hfiles {pair : DocumentPair} {source target : Bytes}
      (hsource : cutDocuments.openInput pair.source = .ok (.text source))
      (htarget : cutDocuments.openInput pair.target = .ok (.text target))
      (hapart : [pair.source, pair.target, ⟨"p"⟩, ⟨"q"⟩].Pairwise
        fun path other => ¬cutDocuments.SameFile path other) :
      Undisturbed ⟨.standard, false⟩ pair ⟨⟨"p"⟩, ⟨"q"⟩⟩ cutDocuments source target :=
    PairFiles.undisturbed ⟨hsource, htarget, hsourceLeads, htargetLeads, hsourceKeeps,
      htargetKeeps, hapart⟩
  obtain ⟨hsucceeds, hparts⟩ := @filterPair_split ⟨.standard, false⟩ ⟨⟨"a"⟩, ⟨"b"⟩⟩
    ⟨⟨"a1"⟩, ⟨"b1"⟩⟩ ⟨⟨"a2"⟩, ⟨"b2"⟩⟩ ⟨⟨"p"⟩, ⟨"q"⟩⟩ ⟨⟨"p"⟩, ⟨"q"⟩⟩ ⟨⟨"p"⟩, ⟨"q"⟩⟩
    cutDocuments cutDocuments cutDocuments (Text.utf8 "x y\n") (Text.utf8 "u\n")
    (Text.utf8 "z\nw") (Text.utf8 "v") (.inr (by decide +kernel))
    (.inr (by decide +kernel))
    (by decide +kernel)
    (hfiles (by decide +kernel) (by decide +kernel) (by decide +kernel))
    (hfiles (by decide +kernel) (by decide +kernel) (by decide +kernel))
    (hfiles (by decide +kernel) (by decide +kernel) (by decide +kernel))
  obtain ⟨tally, hresult⟩ := hsucceeds.2 ⟨_, hsecond⟩
  obtain ⟨firstTally, secondTally, hfirstTally, hsecondTally, -, htally, -, -, hadds⟩ :=
    hparts tally hresult
  cases hfirstTally.symm.trans hfirst
  cases hsecondTally.symm.trans hsecond
  have hplaces : ([⟨"p", by decide⟩] : Location) ≠ [⟨"q", by decide⟩] := by decide
  obtain ⟨hsource, htarget⟩ :=
    hadds.files _ _ _ _ hsourceLeads htargetLeads hplaces hsourceKeeps htargetKeeps
  refine ⟨hfirst, hsecond, hresult.trans (by rw [htally]; rfl), hsource.trans ?_,
    htarget.trans ?_⟩
  · decide +kernel
  · decide +kernel

end ParallelCorpus
