import ParallelCorpus.Filter.Lockstep
import ParallelCorpus.Proofs.LineStructure
import ParallelCorpus.Proofs.TallyOfPairs

/-!
# What lockstep reading accepts

The line pairs of two documents are the lines of the source, each beside the line at the
same place of the target; beyond the end of the target there are empty lines.  Reading
in lockstep, if it succeeds, tallies exactly these pairs and writes exactly the accepted
ones, in order and whatever the outputs lead to.  It does succeed when both documents
can be read, both outputs are files and alignment is not strict or does not matter,
there being as many lines on both sides.
-/

namespace ParallelCorpus

open Text (Bytes wordCount)

/-- The lines of the source, each beside the target line at its place. -/
def linePairs : List Bytes → List Bytes → List (Bytes × Bytes)
  | [], _ => []
  | sourceLine :: source, target =>
      (sourceLine, target.headD []) :: linePairs source target.tail

theorem linePairs_eq_map (source target : List Bytes) :
    linePairs source target =
      (List.range source.length).map fun place =>
        (source.getD place [], target.getD place []) := by
  induction source generalizing target with
  | nil => rfl
  | cons sourceLine source ih =>
      rw [linePairs, ih, List.length_cons, List.range_succ_eq_map,
        List.map_cons, List.map_map]
      cases target <;> simp [Function.comp_def]

/-- Target lines beyond the end of the source do not matter. -/
theorem linePairs_congr {source target other : List Bytes}
    (hsame : ∀ place < source.length, target.getD place [] = other.getD place []) :
    linePairs source target = linePairs source other := by
  rw [linePairs_eq_map, linePairs_eq_map]
  apply List.map_congr_left
  intro place hplace
  rw [hsame place (List.mem_range.1 hplace)]

/-- The accepted line pairs are those at the accepted places. -/
theorem filter_linePairs (range : WordRange) (source target : List Bytes) :
    (linePairs source target).filter range.keeps =
      ((List.range source.length).filter fun place =>
        range.accepts (wordCount (source.getD place []))
          (wordCount (target.getD place []))).map fun place =>
          (source.getD place [], target.getD place []) := by
  rw [linePairs_eq_map, List.filter_map]
  rfl

/-- An empty line has no words, and no range admits that. -/
theorem accepts_empty (range : WordRange) (sourceWords : Nat) :
    range.accepts sourceWords (wordCount []) = false := by
  simp [WordRange.accepts, WordRange.admits, wordCount]

namespace Input

/-- The lines that are still to be read; a line that a fault cuts short is none. -/
def lines : Input → List Bytes
  | text rest => Text.lines rest
  | failing rest _ => (Text.lines rest).filter (Text.Terminated ·)

def Readable : Input → Prop
  | text _ => True
  | failing _ _ => False

theorem readable_of_next_none {input : Input} (hread : input.next? = .ok none) :
    input.Readable := by
  match input, hread with
  | text [], _ => trivial
  | failing rest fault, hread =>
      rw [next?] at hread
      split at hread <;> cases hread

theorem lines_of_next_none {input : Input} (hread : input.next? = .ok none) :
    input.lines = [] := by
  match input, hread with
  | text [], _ => rfl
  | failing rest fault, hread => cases readable_of_next_none hread

theorem lines_of_next_some {input behind : Input} {line : Bytes}
    (hread : input.next? = .ok (some (line, behind))) :
    input.lines = line :: behind.lines := by
  match input, hread with
  | text (byte :: rest), hread =>
      have hne : byte :: rest ≠ [] := List.cons_ne_nil byte rest
      rw [next?_text hne] at hread
      cases hread
      exact Text.lines_eq_cutLine hne
  | failing rest fault, hread =>
      obtain ⟨hne, rfl, hends, rfl⟩ := next?_failing hread
      have hline : Text.Terminated (Text.cutLine rest).1 := hends
      rw [lines, Text.lines_eq_cutLine hne,
        List.filter_cons_of_pos (by simpa using hline), lines]

theorem Readable.next_ne_error {input : Input} (hinput : input.Readable)
    (fault : FileFault) :
    input.next? ≠ .error fault := by
  match input, hinput with
  | text [], _ => simp [next?]
  | text (_ :: _), _ => simp [next?]

theorem Readable.countLines_eq {input : Input} (hinput : input.Readable) :
    input.countLines = .ok input.lines.length := by
  cases input with
  | text rest => exact countLines_text rest
  | failing rest fault => cases hinput

/-- A fault that stands behind an input stands behind what is left of it, too. -/
theorem readable_iff_of_next {input behind : Input} {line : Bytes}
    (hread : input.next? = .ok (some (line, behind))) :
    behind.Readable ↔ input.Readable := by
  match input, hread with
  | text (byte :: rest), hread =>
      rw [next?_text (List.cons_ne_nil byte rest)] at hread
      cases hread
      exact Iff.rfl
  | failing rest fault, hread =>
      obtain ⟨-, -, -, rfl⟩ := next?_failing hread
      exact Iff.rfl

theorem Readable.of_next {input behind : Input} {line : Bytes} (hinput : input.Readable)
    (hread : input.next? = .ok (some (line, behind))) : behind.Readable :=
  (readable_iff_of_next hread).2 hinput

end Input

/-! ## One step of lockstep reading -/

/-- Progress once a line has been read from the target document too. -/
def Progress.counted (progress : Progress) : Progress :=
  { progress with targetLines := progress.targetLines + 1 }

section Step

variable {rules : Rules} {source target source' target' : Input}
  {sourceLine targetLine : Bytes} (progress : Progress)

theorem lockstep_of_sourceFault {fault : FileFault}
    (hsource : source.next? = .error fault) :
    lockstep rules source target progress = .error ⟨.sourceLine fault, progress⟩ := by
  rw [lockstep]
  split
  · rename_i hread
    cases hread.symm.trans hsource
    rfl
  · rename_i hread
    cases hread.symm.trans hsource
  · rename_i hread
    cases hread.symm.trans hsource

theorem lockstep_of_end (hsource : source.next? = .ok none) :
    lockstep rules source target progress = finish rules target progress := by
  rw [lockstep]
  split
  · rename_i hread
    cases hread.symm.trans hsource
  · rfl
  · rename_i hread
    cases hread.symm.trans hsource

/-- What follows a source line depends on what the target offers beside it. -/
theorem lockstep_of_line (hsource : source.next? = .ok (some (sourceLine, source'))) :
    lockstep rules source target progress =
      match target.next? with
      | .error fault => .error ⟨.targetLine fault, progress⟩
      | .ok (some (targetLine, target')) =>
        (progress.counted.take rules sourceLine targetLine).bind
          (lockstep rules source' target')
      | .ok none =>
        if rules.strict then
          match source'.countLines with
          | .error fault => .error ⟨.sourceLine fault, progress⟩
          | .ok remaining =>
            .error
              ⟨.misaligned (progress.tally.lines + 1 + remaining) progress.targetLines,
                progress⟩
        else
          (progress.take rules sourceLine []).bind (lockstep rules source' target) := by
  rw [lockstep]
  split
  · rename_i hread
    cases hread.symm.trans hsource
  · rename_i hread
    cases hread.symm.trans hsource
  · rename_i hread
    cases hread.symm.trans hsource
    cases target.next? with
    | error fault => rfl
    | ok beside? =>
        cases beside? with
        | none =>
            cases rules.strict with
            | true => rfl
            | false =>
                cases htake : progress.take rules sourceLine [] <;> simp [Except.bind]
        | some beside =>
            simp only [Progress.counted]
            cases Progress.take rules _ sourceLine beside.1 <;> simp [Except.bind]

theorem lockstep_of_targetFault {fault : FileFault}
    (hsource : source.next? = .ok (some (sourceLine, source')))
    (htarget : target.next? = .error fault) :
    lockstep rules source target progress = .error ⟨.targetLine fault, progress⟩ := by
  rw [lockstep_of_line progress hsource, htarget]

theorem lockstep_of_both (hsource : source.next? = .ok (some (sourceLine, source')))
    (htarget : target.next? = .ok (some (targetLine, target'))) :
    lockstep rules source target progress =
      (progress.counted.take rules sourceLine targetLine).bind
        (lockstep rules source' target') := by
  rw [lockstep_of_line progress hsource, htarget]

theorem lockstep_of_longer (hstrict : rules.strict = true)
    (hsource : source.next? = .ok (some (sourceLine, source')))
    (htarget : target.next? = .ok none) :
    lockstep rules source target progress =
      match source'.countLines with
      | .error fault => .error ⟨.sourceLine fault, progress⟩
      | .ok remaining =>
        .error ⟨.misaligned (progress.tally.lines + 1 + remaining) progress.targetLines,
          progress⟩ := by
  rw [lockstep_of_line progress hsource, htarget]
  simp only [hstrict, if_true]

theorem lockstep_of_padded (hlenient : rules.strict = false)
    (hsource : source.next? = .ok (some (sourceLine, source')))
    (htarget : target.next? = .ok none) :
    lockstep rules source target progress =
      (progress.take rules sourceLine []).bind (lockstep rules source' target) := by
  rw [lockstep_of_line progress hsource, htarget]
  simp only [hlenient, Bool.false_eq_true, if_false]

end Step

/-! ## Progress by line pairs -/

/-- How progress grows by line pairs: all are tallied, and the accepted ones are
written. -/
structure Progress.Took (range : WordRange) (pairs : List (Bytes × Bytes))
    (before after : Progress) : Prop where
  tally : after.tally = pairs.foldl (Tally.recordPair range) before.tally
  sourceMedium : after.source.medium = before.source.medium
  targetMedium : after.target.medium = before.target.medium
  source : after.source.written =
    before.source.written ++ ((pairs.filter range.keeps).map Prod.fst).flatten
  target : after.target.written =
    before.target.written ++ ((pairs.filter range.keeps).map Prod.snd).flatten

namespace Progress

theorem Took.trans {range : WordRange} {pairs others : List (Bytes × Bytes)}
    {before between after : Progress} (hfirst : Took range pairs before between)
    (hsecond : Took range others between after) :
    Took range (pairs ++ others) before after where
  tally := by rw [hsecond.tally, hfirst.tally, List.foldl_append]
  sourceMedium := hsecond.sourceMedium.trans hfirst.sourceMedium
  targetMedium := hsecond.targetMedium.trans hfirst.targetMedium
  source := by
    rw [hsecond.source, hfirst.source, List.filter_append, List.map_append,
      List.flatten_append, List.append_assoc]
  target := by
    rw [hsecond.target, hfirst.target, List.filter_append, List.map_append,
      List.flatten_append, List.append_assoc]

def Flushed (progress : Progress) : Prop :=
  progress.source.pending = [] ∧ progress.target.pending = []

def OnFiles (progress : Progress) : Prop :=
  progress.source.medium = .file ∧ progress.target.medium = .file

theorem take_ok {rules : Rules} {progress after : Progress}
    {sourceLine targetLine : Bytes}
    (htake : progress.take rules sourceLine targetLine = .ok after) :
    Took rules.range [(sourceLine, targetLine)] progress after := by
  rw [take] at htake
  simp only at htake
  by_cases hkept : rules.range.keeps (sourceLine, targetLine) = true
  · have haccepts := hkept
    rw [WordRange.keeps] at haccepts
    simp only [haccepts, if_true] at htake
    cases hsource : progress.source.write sourceLine with
    | error fault => simp [hsource] at htake
    | ok source =>
        cases htarget : progress.target.write targetLine with
        | error fault => simp [hsource, htarget] at htake
        | ok target =>
            obtain ⟨hsourceMedium, hsourceWritten⟩ := Output.write_ok hsource
            obtain ⟨htargetMedium, htargetWritten⟩ := Output.write_ok htarget
            simp only [hsource, htarget, Except.ok.injEq] at htake
            subst htake
            refine ⟨?_, hsourceMedium, htargetMedium, ?_, ?_⟩
            · simp [Tally.recordPair, hkept]
            · simpa [hkept] using hsourceWritten
            · simpa [hkept] using htargetWritten
  · rw [Bool.not_eq_true] at hkept
    have haccepts := hkept
    rw [WordRange.keeps] at haccepts
    simp only [haccepts, Bool.false_eq_true, if_false, Except.ok.injEq] at htake
    subst htake
    exact ⟨by simp [Tally.recordPair, hkept], rfl, rfl, by simp [hkept], by simp [hkept]⟩

theorem flush_ok {progress after : Progress} (hflush : progress.flush = .ok after)
    (range : WordRange) :
    Took range [] progress after ∧ after.Flushed := by
  rw [flush] at hflush
  cases hsource : progress.source.flush with
  | error fault => simp [hsource] at hflush
  | ok source =>
      cases htarget : progress.target.flush with
      | error fault => simp [hsource, htarget] at hflush
      | ok target =>
          simp only [hsource, htarget, Except.ok.injEq] at hflush
          have hsourceAfter := Output.flush_ok hsource
          have htargetAfter := Output.flush_ok htarget
          subst hflush hsourceAfter htargetAfter
          exact ⟨⟨rfl, rfl, rfl, by simp [Output.written], by simp [Output.written]⟩, rfl,
            rfl⟩

/-- Files take every line pair. -/
theorem take_onFiles (rules : Rules) {progress : Progress} (hfiles : progress.OnFiles)
    (sourceLine targetLine : Bytes) :
    ∃ after, progress.take rules sourceLine targetLine = .ok after ∧ after.OnFiles := by
  obtain ⟨source, hsource, hsourceMedium, -⟩ := Output.write_file sourceLine hfiles.1
  obtain ⟨target, htarget, htargetMedium, -⟩ := Output.write_file targetLine hfiles.2
  rw [take]
  simp only [hsource, htarget]
  split
  · exact ⟨_, rfl, hsourceMedium, htargetMedium⟩
  · exact ⟨_, rfl, hfiles⟩

theorem flush_onFiles {progress : Progress} (hfiles : progress.OnFiles) :
    ∃ after, progress.flush = .ok after := by
  rw [flush]
  rw [Output.flush_file hfiles.1, Output.flush_file hfiles.2]
  exact ⟨_, rfl⟩

end Progress

open Progress (Took)

theorem finish_ok {rules : Rules} {target : Input} {progress after : Progress}
    (hfinish : finish rules target progress = .ok after) :
    Took rules.range [] progress after ∧ after.Flushed := by
  rw [finish] at hfinish
  split at hfinish
  · split at hfinish
    · cases hfinish
    · exact Progress.flush_ok hfinish rules.range
    · cases hfinish
  · exact Progress.flush_ok hfinish rules.range

/-- A successful run takes all line pairs and leaves nothing in the buffers. -/
theorem lockstep_ok {rules : Rules} {source target : Input} {progress after : Progress}
    (hrun : lockstep rules source target progress = .ok after) :
    Took rules.range (linePairs source.lines target.lines) progress after ∧
    after.Flushed := by
  fun_induction lockstep rules source target progress with
  | case1 => cases hrun
  | case2 source target progress hend =>
      rw [Input.lines_of_next_none hend]
      exact finish_ok hrun
  | case3 => cases hrun
  | case4 => cases hrun
  | case5 source target progress sourceLine source' hsource targetLine target'
      htarget counted taken htake ih =>
      obtain ⟨hrest, hflushed⟩ := ih hrun
      have hfirst : Took rules.range [(sourceLine, targetLine)] progress taken := by
        have hcounted := Progress.take_ok htake
        exact ⟨hcounted.tally, hcounted.sourceMedium, hcounted.targetMedium,
          hcounted.source, hcounted.target⟩
      rw [Input.lines_of_next_some hsource, Input.lines_of_next_some htarget]
      exact ⟨hfirst.trans hrest, hflushed⟩
  | case6 => cases hrun
  | case7 => cases hrun
  | case8 => cases hrun
  | case9 source target progress sourceLine source' hsource htarget hstrict
      taken htake ih =>
      obtain ⟨hrest, hflushed⟩ := ih hrun
      rw [Input.lines_of_next_none htarget] at hrest
      rw [Input.lines_of_next_some hsource, Input.lines_of_next_none htarget]
      exact ⟨(Progress.take_ok htake).trans hrest, hflushed⟩

/-- Strict alignment does not object. -/
def Rules.Aligns (rules : Rules) (source target : List Bytes) : Prop :=
  rules.strict = true → source.length = target.length

theorem finish_onFiles {rules : Rules} {target : Input} (htarget : target.Readable)
    (haligned : rules.Aligns [] target.lines) {progress : Progress}
    (hfiles : progress.OnFiles) :
    ∃ after, finish rules target progress = .ok after := by
  rw [finish]
  split
  · rename_i hstrict
    have hnone : target.countLines = .ok 0 := by
      rw [htarget.countLines_eq, ← haligned hstrict]
      rfl
    rw [hnone]
    exact Progress.flush_onFiles hfiles
  · exact Progress.flush_onFiles hfiles

/-- Nothing stops the run of two readable documents onto files but strict alignment. -/
theorem lockstep_onFiles {rules : Rules} {source target : Input}
    (hsource : source.Readable) (htarget : target.Readable)
    (haligned : rules.Aligns source.lines target.lines) {progress : Progress}
    (hfiles : progress.OnFiles) :
    ∃ after, lockstep rules source target progress = .ok after := by
  fun_induction lockstep rules source target progress with
  | case1 source target progress fault hread =>
      exact absurd hread (hsource.next_ne_error fault)
  | case2 source target progress hend =>
      rw [Input.lines_of_next_none hend] at haligned
      exact finish_onFiles htarget haligned hfiles
  | case3 source target progress sourceLine source' hread fault hfail =>
      exact absurd hfail (htarget.next_ne_error fault)
  | case4 source target progress sourceLine source' hread targetLine target'
      hother counted halt htake =>
      obtain ⟨after, hafter, -⟩ :=
        Progress.take_onFiles rules (show counted.OnFiles from hfiles)
          sourceLine targetLine
      rw [hafter] at htake
      cases htake
  | case5 source target progress sourceLine source' hread targetLine target'
      hother counted taken htake ih =>
      obtain ⟨after, hafter, hafterFiles⟩ :=
        Progress.take_onFiles rules (show counted.OnFiles from hfiles)
          sourceLine targetLine
      rw [hafter] at htake
      cases htake
      refine ih (hsource.of_next hread) (htarget.of_next hother)
        (fun hstrict => ?_) hafterFiles
      have hlength := haligned hstrict
      rw [Input.lines_of_next_some hread, Input.lines_of_next_some hother,
        List.length_cons, List.length_cons] at hlength
      exact Nat.succ.inj hlength
  | case6 source target progress sourceLine source' hread hother hstrict =>
      have hlength := haligned hstrict
      rw [Input.lines_of_next_some hread, Input.lines_of_next_none hother] at hlength
      cases hlength
  | case7 source target progress sourceLine source' hread hother hstrict =>
      have hlength := haligned hstrict
      rw [Input.lines_of_next_some hread, Input.lines_of_next_none hother] at hlength
      cases hlength
  | case8 source target progress sourceLine source' hread hother hno halt htake =>
      obtain ⟨after, hafter, -⟩ := Progress.take_onFiles rules hfiles sourceLine []
      rw [hafter] at htake
      cases htake
  | case9 source target progress sourceLine source' hread hother hno taken htake ih =>
      obtain ⟨after, hafter, hafterFiles⟩ :=
        Progress.take_onFiles rules hfiles sourceLine []
      rw [hafter] at htake
      cases htake
      exact ih (hsource.of_next hread) htarget
        (fun hstrict => absurd hstrict hno) hafterFiles

end ParallelCorpus
