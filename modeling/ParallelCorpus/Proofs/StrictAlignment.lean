import ParallelCorpus.Proofs.PairFilter

/-!
# Strict alignment

Two documents with as many lines as each other are filtered under strict alignment as
they are without it.  Any others are refused with the numbers of their lines, all of
them, whichever document ends first: the line that shows the source to be longer has
been read already and is counted apart, as are the lines behind it that are not
compared.  What the buffers hold by then still reaches the outputs, so these grow by the
accepted pairs among the lines that both documents have.
-/

namespace ParallelCorpus

open Text (Bytes wordCount)
open Progress (Took)

/-! ## Lockstep with a mismatch -/

/-- The accepted line pairs that both documents have are those at the accepted places. -/
theorem filter_take_linePairs (range : WordRange) (source target : List Bytes) :
    ((linePairs source target).take target.length).filter range.keeps =
      ((List.range (min source.length target.length)).filter fun place =>
        range.accepts (wordCount (source.getD place []))
          (wordCount (target.getD place []))).map fun place =>
          (source.getD place [], target.getD place []) := by
  rw [linePairs_eq_map, ← List.map_take, List.take_range, List.filter_map, Nat.min_comm]
  rfl

namespace Progress

/-- A line pair counts as one line, and as none read from the target. -/
theorem take_counts {rules : Rules} {progress after : Progress}
    {sourceLine targetLine : Bytes}
    (htake : progress.take rules sourceLine targetLine = .ok after) :
    after.tally.lines = progress.tally.lines + 1 ∧
    after.targetLines = progress.targetLines := by
  rw [take] at htake
  simp only at htake
  split at htake
  · split at htake
    · cases htake
    · split at htake
      · cases htake
      · cases htake
        exact ⟨rfl, rfl⟩
  · cases htake
    exact ⟨rfl, rfl⟩

theorem Took.refl (range : WordRange) (progress : Progress) :
    Took range [] progress progress :=
  ⟨rfl, rfl, rfl, by simp, by simp⟩

end Progress

/-- A target that goes on behind the end of the source is counted to its own end. -/
theorem finish_misaligned {rules : Rules} (hstrict : rules.strict = true) {target : Input}
    (htarget : target.Readable) (hmore : target.lines ≠ []) (progress : Progress) :
    finish rules target progress =
      .error
        ⟨.misaligned progress.tally.lines (progress.targetLines + target.lines.length),
          progress⟩ := by
  obtain ⟨line, rest, hlines⟩ := List.exists_cons_of_ne_nil hmore
  have hcount : target.countLines = .ok (rest.length + 1) := by
    rw [htarget.countLines_eq, hlines, List.length_cons]
  rw [finish, if_pos hstrict, hcount, hlines, List.length_cons]
  rfl

/-- Under strict alignment documents of different lengths are read as far as both go,
and then refused with the numbers of all lines. -/
theorem lockstep_misaligned {rules : Rules} (hstrict : rules.strict = true)
    {source target : Input} (hsource : source.Readable) (htarget : target.Readable)
    (hlength : source.lines.length ≠ target.lines.length) {progress : Progress}
    (hfiles : progress.OnFiles) :
    ∃ reached,
      lockstep rules source target progress =
        .error ⟨.misaligned (progress.tally.lines + source.lines.length)
          (progress.targetLines + target.lines.length), reached⟩ ∧
      Took rules.range ((linePairs source.lines target.lines).take target.lines.length)
        progress reached := by
  fun_induction lockstep rules source target progress with
  | case1 source target progress fault hread =>
      exact absurd hread (hsource.next_ne_error fault)
  | case2 source target progress hend =>
      rw [Input.lines_of_next_none hend] at hlength ⊢
      have hmore : target.lines ≠ [] := by
        intro hnil
        rw [hnil] at hlength
        exact hlength rfl
      refine ⟨progress, finish_misaligned hstrict htarget hmore progress, ?_⟩
      rw [linePairs, List.take_nil]
      exact .refl _ _
  | case3 source target progress sourceLine source' hread fault hfail =>
      exact absurd hfail (htarget.next_ne_error fault)
  | case4 source target progress sourceLine source' hread targetLine target'
      hother counted halt htake =>
      obtain ⟨after, hafter, -⟩ :=
        Progress.take_onFiles rules (show counted.OnFiles from hfiles)
          sourceLine targetLine
      rw [hafter] at htake
      cases htake
  | case5 source target progress sourceLine source' hread targetLine target'
      hother counted taken htake ih =>
      obtain ⟨after, hafter, hafterFiles⟩ :=
        Progress.take_onFiles rules (show counted.OnFiles from hfiles)
          sourceLine targetLine
      rw [hafter] at htake
      cases htake
      obtain ⟨hlines, htargetLines⟩ := Progress.take_counts hafter
      have htook := Progress.take_ok hafter
      rw [Input.lines_of_next_some hread, Input.lines_of_next_some hother] at hlength ⊢
      obtain ⟨reached, hrun, hrest⟩ := ih (hsource.of_next hread) (htarget.of_next hother)
        (fun hsame => hlength (congrArg Nat.succ hsame)) hafterFiles
      refine ⟨reached, ?_, ?_⟩
      · have hcounted : counted.targetLines = progress.targetLines + 1 := rfl
        have htally : counted.tally.lines = progress.tally.lines := rfl
        rw [hrun, hlines, htargetLines, hcounted, htally, List.length_cons,
          List.length_cons, Nat.add_right_comm, Nat.add_right_comm progress.targetLines]
        rfl
      · have hfirst : Took rules.range [(sourceLine, targetLine)] progress taken :=
          ⟨htook.tally, htook.sourceMedium, htook.targetMedium,
            htook.source, htook.target⟩
        exact hfirst.trans hrest
  | case6 source target progress sourceLine source' hread hother _ fault hfail =>
      rw [(hsource.of_next hread).countLines_eq] at hfail
      cases hfail
  | case7 source target progress sourceLine source' hread hother _ remaining
      hremaining total =>
      rw [(hsource.of_next hread).countLines_eq] at hremaining
      cases hremaining
      refine ⟨progress, ?_, ?_⟩
      · rw [Input.lines_of_next_some hread, Input.lines_of_next_none hother,
          List.length_cons, Nat.add_comm source'.lines.length, ← Nat.add_assoc]
        rfl
      · rw [Input.lines_of_next_none hother]
        exact .refl _ _
  | case8 source target progress sourceLine source' hread hother hno =>
      exact absurd hstrict hno
  | case9 source target progress sourceLine source' hread hother hno =>
      exact absurd hstrict hno

/-! ## The refused pair -/

/-- What was written to a file is handed on when it is closed, at whatever point. -/
theorem Output.handed_close_file {output : Output} (toFile : output.medium = .file) :
    output.close.handed = output.written := by
  rw [close, flush_file toFile]

theorem filterOpened_misaligned {rules : Rules} (hstrict : rules.strict = true)
    (pair : DocumentPair) (outputs : OutputPaths) {source target : Input}
    (hsource : source.Readable) (htarget : target.Readable)
    (hlength : source.lines.length ≠ target.lines.length)
    (sourcePlace targetPlace : Location) (tree : FileTree) :
    let run := filterOpened rules pair outputs source target ⟨sourcePlace, .file⟩
      ⟨targetPlace, .file⟩ tree
    let shared := (linePairs source.lines target.lines).take target.lines.length
    run.result = .error (.misaligned pair.source pair.target source.lines.length
        target.lines.length) ∧
      run.sourceAdded = ((shared.filter rules.range.keeps).map Prod.fst).flatten ∧
      run.targetAdded = ((shared.filter rules.range.keeps).map Prod.snd).flatten := by
  have hfiles : (Progress.start .file .file).OnFiles := ⟨rfl, rfl⟩
  obtain ⟨reached, hran, htook⟩ :=
    lockstep_misaligned hstrict hsource htarget hlength hfiles
  simp only [filterOpened, hran]
  refine ⟨?_, ?_, ?_⟩
  · simp [Stop.failure, Progress.start, Tally.empty]
  · simp only [Progress.close, lastProgress]
    rw [Output.handed_close_file htook.sourceMedium, htook.source]
    rfl
  · simp only [Progress.close, lastProgress]
    rw [Output.handed_close_file htook.targetMedium, htook.target]
    rfl

section Refused

variable {tree : FileTree} {pair : DocumentPair} {outputs : OutputPaths}
  {source target sourceKept targetKept : Bytes} {sourcePlace targetPlace : Location}

/-- Filtering two readable documents of different lengths, from the line pairs that are
read. -/
theorem filterPair_misaligned {rules : Rules} (hstrict : rules.strict = true)
    (hfiles : PairFiles tree pair outputs source target sourceKept targetKept sourcePlace
      targetPlace)
    (hlength : (Text.lines source).length ≠ (Text.lines target).length) :
    let run := filterPair rules pair outputs tree
    let shared := (linePairs (Text.lines source) (Text.lines target)).take
      (Text.lines target).length
    let kept := shared.filter rules.range.keeps
    run.result = .error (.misaligned pair.source pair.target (Text.lines source).length
        (Text.lines target).length) ∧
      run.tree.get? sourcePlace =
        some (.file (sourceKept ++ (kept.map Prod.fst).flatten)) ∧
      run.tree.get? targetPlace =
        some (.file (targetKept ++ (kept.map Prod.snd).flatten)) := by
  intro run shared kept
  obtain ⟨opened, hrun, hsourceFile, htargetFile⟩ :=
    filterPair_opened rules hfiles.source hfiles.target hfiles.sourceLeads
      hfiles.targetLeads hfiles.sourceKeeps hfiles.targetKeeps hfiles.places_ne
  have hsource : (Input.text source).Readable := trivial
  have htarget : (Input.text target).Readable := trivial
  obtain ⟨hresult, hsourceAdded, htargetAdded⟩ :=
    filterOpened_misaligned hstrict pair outputs hsource htarget hlength sourcePlace
      targetPlace opened
  obtain ⟨hsourceGrows, htargetGrows⟩ :=
    get?_filterOpened rules pair outputs (.text source) (.text target) hsourceFile
      htargetFile hfiles.places_ne
  rw [hsourceAdded] at hsourceGrows
  rw [htargetAdded] at htargetGrows
  simp only [run, hrun]
  exact ⟨hresult, hsourceGrows, htargetGrows⟩

/-- Strict alignment accepts two readable documents exactly when they have as many lines
as each other, and then filters them as if it were not there.  Otherwise it names the
documents with the numbers of all their lines, and the outputs have grown by the
accepted pairs among the lines that both documents have. -/
theorem filterPair_strict (range : WordRange)
    (hfiles : PairFiles tree pair outputs source target sourceKept targetKept sourcePlace
      targetPlace) :
    let sourceLine := fun place => (Text.lines source).getD place []
    let targetLine := fun place => (Text.lines target).getD place []
    let sourceCount := (Text.lines source).length
    let targetCount := (Text.lines target).length
    let strict := filterPair ⟨range, true⟩ pair outputs tree
    let lenient := filterPair ⟨range, false⟩ pair outputs tree
    ((∃ tally, strict.result = .ok tally) ↔ sourceCount = targetCount) ∧
      (sourceCount = targetCount →
        strict.result = lenient.result ∧
          strict.tree.get? sourcePlace = lenient.tree.get? sourcePlace ∧
          strict.tree.get? targetPlace = lenient.tree.get? targetPlace) ∧
      (sourceCount ≠ targetCount →
        let kept := (List.range (min sourceCount targetCount)).filter fun place =>
          range.accepts (wordCount (sourceLine place)) (wordCount (targetLine place))
        strict.result = .error
          (.misaligned pair.source pair.target sourceCount targetCount) ∧
          strict.tree.get? sourcePlace =
            some (.file (sourceKept ++ (kept.map sourceLine).flatten)) ∧
          strict.tree.get? targetPlace =
            some (.file (targetKept ++ (kept.map targetLine).flatten))) := by
  intro sourceLine targetLine sourceCount targetCount strict lenient
  have hstrict : (Rules.mk range true).strict = true := rfl
  have hlenient : (Rules.mk range false).strict = false := rfl
  have haligned (hcount : sourceCount = targetCount) :
      (Rules.mk range true).Aligns (Text.lines source) (Text.lines target) :=
        fun _ => hcount
  refine ⟨⟨?_, ?_⟩, ?_, ?_⟩
  · rintro ⟨tally, hok⟩
    apply Classical.byContradiction
    intro hcount
    rw [(filterPair_misaligned hstrict hfiles hcount).1] at hok
    cases hok
  · intro hcount
    exact ⟨_, (filterPair_of_aligned (haligned hcount) hfiles).1⟩
  · intro hcount
    obtain ⟨hresult, hsourceFile, htargetFile⟩ :=
      filterPair_of_aligned (haligned hcount) hfiles
    obtain ⟨hresult', hsourceFile', htargetFile'⟩ :=
      filterPair_eq_linePairs hlenient hfiles
    exact ⟨hresult.trans hresult'.symm, hsourceFile.trans hsourceFile'.symm,
      htargetFile.trans htargetFile'.symm⟩
  · intro hcount kept
    have hmisaligned := filterPair_misaligned hstrict hfiles hcount
    simp only [filter_take_linePairs, List.map_map] at hmisaligned
    exact hmisaligned

end Refused

/-- A target with a line more than its source: the pair is refused, and the outputs keep
what was accepted by then. -/
theorem filterPair_strict_twoDocuments :
    let run := filterPair ⟨.standard, true⟩ ⟨⟨"s"⟩, ⟨"t"⟩⟩ ⟨⟨"p"⟩, ⟨"q"⟩⟩ twoDocuments
    run.result = .error (.misaligned ⟨"s"⟩ ⟨"t"⟩ 2 3) ∧
      run.tree.get? [⟨"p", by decide⟩] = some (.file (Text.utf8 "oldx y\n")) ∧
      run.tree.get? [⟨"q", by decide⟩] = some (.file (Text.utf8 "u\n")) := by
  have hcount : (Text.lines (Text.utf8 "x y\n\n")).length ≠
      (Text.lines (Text.utf8 "u\nv\nw")).length := by decide +kernel
  obtain ⟨-, -, hmismatch⟩ := filterPair_strict .standard twoDocuments_files
  obtain ⟨hresult, hsource, htarget⟩ := hmismatch hcount
  refine ⟨hresult.trans ?_, hsource.trans ?_, htarget.trans ?_⟩
  · decide +kernel
  · decide +kernel
  · decide +kernel

end ParallelCorpus
