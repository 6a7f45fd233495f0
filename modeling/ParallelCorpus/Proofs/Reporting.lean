import ParallelCorpus.Proofs.FigureBounds
import ParallelCorpus.Proofs.SummaryFile

/-!
# What a program run reports

A program run reports three times: a line for every document that is done, a block at
the end, and a JSON text if that is asked for.  The figures of all three agree.  The
exit code is zero only when the run succeeded and the JSON text was written; a run that
fails reports on the documents before the failure and on nothing else.  What is printed
is the same with and without a JSON text, unless that text is itself printed.
-/

namespace ParallelCorpus

open Text (Bytes)
open FileTree (LeafChange)

namespace FileTree

/-- Where one path leads to write, nothing changes for what another file is. -/
theorem LeafChange.status_iff {tree other : FileTree} {path another : Path}
    (hchange : LeafChange (tree.WritesTo path) tree other)
    (hfile : ¬tree.SameFile path another) (entry : Entry) :
    other.status another = .ok entry ↔ tree.status another = .ok entry := by
  simp only [status_eq_ok_iff, hchange.ways.locate_ok_iff]
  apply exists_congr
  intro site
  apply and_congr_right
  intro hsite
  have helsewhere : ¬tree.WritesTo path site.location := by
    rintro ⟨site', hsite', hplace⟩
    exact hfile ⟨site', site, locate_read_of_write hsite', hsite, hplace⟩
  rw [entryAt_eq_ok_iff, entryAt_eq_ok_iff, hchange.elsewhere _ helsewhere]

end FileTree

/-! ## Documents that are done -/

/-- Document pairs that are filtered one after the other, each of them successfully,
with their reports and the tree that they leave. -/
inductive Completes (rules : Rules) (outputs : OutputPaths) :
    FileTree → List DocumentPair → List Report → FileTree → Prop
  | nil {tree} : Completes rules outputs tree [] [] tree
  | cons {tree pair tally pairs reports final}
      (result : (filterPair rules pair outputs tree).result = .ok tally)
      (rest : Completes rules outputs
        (filterPair rules pair outputs tree).tree pairs reports final) :
      Completes rules outputs tree (pair :: pairs)
        (⟨pair.source, tally, (filterPair rules pair outputs tree).sourceAdded,
          (filterPair rules pair outputs tree).targetAdded⟩ :: reports) final

/-- Either all pairs are done, or the pairs before the first failure are. -/
theorem filterPairs_completes (rules : Rules) (outputs : OutputPaths)
    (pairs : List DocumentPair) (tree : FileTree) :
    let run := filterPairs rules outputs pairs tree
    (run.failure? = none ∧ Completes rules outputs tree pairs run.reports run.tree) ∨
      ∃ before pair after now failure, pairs = before ++ pair :: after ∧
        Completes rules outputs tree before run.reports now ∧
        (filterPair rules pair outputs now).result = .error failure ∧
        run.failure? = some failure := by
  induction pairs generalizing tree with
  | nil => exact .inl ⟨rfl, .nil⟩
  | cons pair pairs ih =>
      intro run
      cases hresult : (filterPair rules pair outputs tree).result with
      | error failure =>
          have hrun :
              run = ⟨[], some failure, (filterPair rules pair outputs tree).tree⟩ := by
            simp only [run, filterPairs, hresult]
          rw [hrun]
          exact .inr ⟨[], pair, pairs, tree, failure, rfl, .nil, hresult, rfl⟩
      | ok tally =>
          rcases ih (filterPair rules pair outputs tree).tree with
            ⟨hends, hrest⟩ | ⟨before, failing, after, now, failure, hsplit,
              hrest, hfails, hends⟩
          · left
            simp only [run, filterPairs, hresult]
            exact ⟨hends, .cons hresult hrest⟩
          · right
            simp only [run, filterPairs, hresult]
            exact ⟨pair :: before, failing, after, now, failure, by rw [hsplit]; rfl,
              .cons hresult hrest, hfails, hends⟩

/-- The run of a job goes through all document pairs, with these reports, and leaves
this tree. -/
def Job.FinishesWith (job : Job) (tree : FileTree) (reports : List Report)
    (final : FileTree) : Prop :=
  ∃ range cleared, admitted job tree = .ok range ∧
    clearOutputs job.outputs tree = .ok cleared ∧
    Completes ⟨range, job.strictAlignment⟩ job.outputs cleared
      (job.pairs cleared) reports final

/-- The run of a job fails, after the document pairs that these reports are about: at
once, or at the pair behind them. -/
def Job.FailsAfter (job : Job) (tree : FileTree) (reports : List Report)
    (failure : Failure) : Prop :=
  (reports = [] ∧
    (admitted job tree = .error failure ∨
      clearOutputs job.outputs tree = .error failure)) ∨
  ∃ range cleared before pair after now, admitted job tree = .ok range ∧
    clearOutputs job.outputs tree = .ok cleared ∧
    job.pairs cleared = before ++ pair :: after ∧
    Completes ⟨range, job.strictAlignment⟩ job.outputs cleared before reports now ∧
    (filterPair ⟨range, job.strictAlignment⟩ pair job.outputs now).result = .error failure

/-- A run reports on all document pairs, or on those before the failure. -/
theorem filterCorpus_reports (job : Job) (tree : FileTree) :
    let run := filterCorpus job tree
    (run.result = .ok (totals run.reports) ∧ job.FinishesWith tree run.reports run.tree) ∨
      ∃ failure, run.result = .error failure ∧
        job.FailsAfter tree run.reports failure := by
  intro run
  cases filterCorpus_course job tree with
  | refused refusal result reports _ =>
      exact .inr ⟨_, result, .inl ⟨reports, .inl refusal⟩⟩
  | targetStays _ removal result reports _ =>
      exact .inr ⟨_, result, .inl ⟨reports, .inr (bind_eq_error_iff.2 (.inl removal))⟩⟩
  | sourceStays _ first removal result reports _ =>
      exact .inr
        ⟨_, result, .inl ⟨reports, .inr (bind_eq_error_iff.2 (.inr ⟨_, first, removal⟩))⟩⟩
  | @filters range between cleared admits first second follows =>
      have hclear : clearOutputs job.outputs tree = .ok cleared :=
        bind_eq_ok_iff.2 ⟨between, first, second⟩
      obtain ⟨hreports, htree, hresult⟩ := follows
      rcases filterPairs_completes ⟨range, job.strictAlignment⟩ job.outputs
        (job.pairs cleared) cleared with ⟨hends, hdone⟩ |
        ⟨before, pair, after, now, failure, hsplit, hdone, hfails, hends⟩
      · left
        rw [hreports, htree]
        exact ⟨hresult.trans (PairsRun.verdict_eq_ok_iff.2 ⟨hends, rfl⟩), range,
          cleared, admits, hclear, hdone⟩
      · right
        rw [hreports]
        exact ⟨failure, hresult.trans (PairsRun.verdict_eq_error_iff.2 hends),
          .inr ⟨range, cleared, before, pair, after, now, admits, hclear, hsplit,
            hdone, hfails⟩⟩

theorem Completes.balanced {rules : Rules} {outputs : OutputPaths} {tree final : FileTree}
    {pairs : List DocumentPair} {reports : List Report}
    (hdone : Completes rules outputs tree pairs reports final) :
    ∀ report ∈ reports, report.tally.Balanced rules.range := by
  induction hdone with
  | nil => exact List.forall_mem_nil _
  | cons hresult _ ih => exact List.forall_mem_cons.2 ⟨balanced_of_filterPair hresult, ih⟩

/-- No line has more words than all lines of its side together. -/
theorem SideTally.Balanced.bounded {range : WordRange} {lines accepted : Nat}
    {side : SideTally} (hside : side.Balanced range lines accepted)
    (hwords : side.words < Text.countBound) :
    side.Bounded :=
  ⟨hwords, Nat.lt_of_le_of_lt hside.longest_le hwords, fun shortest hshortest =>
    Nat.lt_of_le_of_lt
      (Nat.le_trans (hside.shortest shortest hshortest).2 hside.longest_le) hwords⟩

/-- Where counts and sums fit in 64 bits, the other figures of a balanced tally do too. -/
theorem Tally.Balanced.bounded {range : WordRange} {tally : Tally}
    (htally : tally.Balanced range) (hfits : tally.Fits) : tally.Bounded :=
  ⟨hfits.1, hfits.2.1, hfits.2.2.1, hfits.2.2.2.1, htally.source.bounded hfits.2.2.2.2.1,
    htally.target.bounded hfits.2.2.2.2.2⟩

/-! ## The program -/

def progressText (reports : List Report) : String :=
  printed (reports.map fun report => report.source.text ++ "   Acceptance: " ++
    toString report.tally.approved ++ "  of  " ++ toString report.tally.classified)

section Job

variable {job : Job} {tree : FileTree} {total : Tally}

def Job.successText (job : Job) (reports : List Report) (total : Tally) : String :=
  progressText reports ++ total.summary job.sourceLang job.targetLang job.maxWords ++ "\n"

/-- A run that fails ends the program, and nothing more is printed or written. -/
theorem runJob_of_error {failure : Failure}
    (hresult : (filterCorpus job tree).result = .error failure) :
    let run := filterCorpus job tree
    let outcome := runJob job tree
    outcome.exitCode = 1 ∧ outcome.output = progressText run.reports ∧
    outcome.tree = run.tree := by
  intro run outcome
  have houtcome : outcome = ⟨1, progressText run.reports,
      some (complaint failure.message failure.cause?),
      (Event.started :: run.events).filter (·.isShown job), run.tree⟩ := by
    simp only [outcome, runJob, hresult, progressText]
    rfl
  rw [houtcome]
  exact ⟨rfl, rfl, rfl⟩

/-- Behind a run that succeeds the totals are printed. -/
theorem runJob_unasked (hresult : (filterCorpus job tree).result = .ok total)
    (hjson : job.summaryJson = none) :
    let run := filterCorpus job tree
    let outcome := runJob job tree
    outcome.exitCode = 0 ∧ outcome.output = job.successText run.reports total ∧
      outcome.tree = run.tree := by
  intro run outcome
  have houtcome : outcome = ⟨0, job.successText run.reports total, none,
      (Event.started :: run.events).filter (·.isShown job), run.tree⟩ := by
    simp only [outcome, runJob, hresult, hjson]
    rfl
  rw [houtcome]
  exact ⟨rfl, rfl, rfl⟩

/-- Where a JSON text is asked for, it is written in the end, and the exit code tells
whether that succeeded. -/
theorem runJob_asked {path : Path} (hresult : (filterCorpus job tree).result = .ok total)
    (hjson : job.summaryJson = some path) :
    let run := filterCorpus job tree
    let outcome := runJob job tree
    let written := writeSummary total path run.tree
    outcome.exitCode = (if written.1.isOk then 0 else 1) ∧
      outcome.output =
        job.successText run.reports total ++ printedSummary total path run.tree ∧
      outcome.tree = written.2 := by
  intro run outcome written
  cases hwritten : written with
  | mk verdict final =>
      have hsummary : writeSummary total path (filterCorpus job tree).tree =
          (verdict, final) :=
        hwritten
      cases verdict with
      | ok done =>
          have houtcome : outcome = ⟨0,
              job.successText run.reports total ++ printedSummary total path run.tree,
              none, (Event.started :: run.events ++ [Event.summaryWritten path]).filter
              (·.isShown job), final⟩ := by
            simp only [outcome, runJob, hresult, hjson, hsummary]
            rfl
          rw [houtcome]
          exact ⟨rfl, rfl, rfl⟩
      | error failure =>
          have houtcome : outcome = ⟨1, job.successText run.reports total,
              some (complaint ("writing summary to " ++ path.text) failure.fault?),
              (Event.started :: run.events).filter (·.isShown job), final⟩ := by
            simp only [outcome, runJob, hresult, hjson, hsummary]
            rfl
          have hsilent : printedSummary total path run.tree = "" := by
            rw [printedSummary, if_neg]
            intro houtput
            cases (writeSummary_of_isStandardOutput houtput total).symm.trans hsummary
          rw [houtcome, hsilent, String.append_empty]
          exact ⟨rfl, rfl, rfl⟩

def Job.PrintsJson (job : Job) (tree : FileTree) : Prop :=
  job.summaryJson.any tree.isStandardOutput = true

instance (job : Job) (tree : FileTree) : Decidable (job.PrintsJson tree) :=
  inferInstanceAs (Decidable (_ = _))

theorem Job.printsJson_iff {path : Path} (hjson : job.summaryJson = some path) :
    job.PrintsJson tree ↔ tree.isStandardOutput path = true := by
  rw [PrintsJson, hjson, Option.any_some]

theorem runJob_output (hresult : (filterCorpus job tree).result = .ok total)
    (hsilent : ¬job.PrintsJson (filterCorpus job tree).tree) :
    (runJob job tree).output = job.successText (filterCorpus job tree).reports total := by
  cases hjson : job.summaryJson with
  | none => exact (runJob_unasked hresult hjson).2.1
  | some path =>
      rw [Job.printsJson_iff hjson] at hsilent
      rw [(runJob_asked hresult hjson).2.1, printedSummary, if_neg hsilent,
        String.append_empty]

theorem runJob_output_of_prints (hresult : (filterCorpus job tree).result = .ok total)
    (hprints : job.PrintsJson (filterCorpus job tree).tree) :
    (runJob job tree).output =
      job.successText (filterCorpus job tree).reports total ++ total.json := by
  cases hjson : job.summaryJson with
  | none =>
      rw [Job.PrintsJson, hjson] at hprints
      cases hprints
  | some path =>
      rw [Job.printsJson_iff hjson] at hprints
      rw [(runJob_asked hresult hjson).2.1, printedSummary, if_pos hprints]

end Job

/-! ## The reports together -/

/-- A run does not look at where its totals are to be written. -/
theorem filterCorpus_unasked (job : Job) (tree : FileTree) :
    filterCorpus { job with summaryJson := none } tree = filterCorpus job tree := by
  -- Unfolded first: the jobs themselves differ, and only what a run looks at is the same.
  rw [filterCorpus, filterCorpus]
  rfl

theorem classified_totals (reports : List Report) :
    (totals reports).classified =
      (reports.map fun report => report.tally.classified).sum := by
  apply totals_eq_sum Tally.classified rfl
  intro tally other
  simp only [Tally.classified, Tally.merge]
  omega

/-- The totals of a run that succeeds are read back from their JSON text, if they fit in
64 bits. -/
theorem Job.FinishesWith.ofJson_json {job : Job} {tree final : FileTree}
    {reports : List Report} (hdone : job.FinishesWith tree reports final)
    (hfits : (totals reports).Fits) :
    Tally.ofJson (totals reports).json = .ok (totals reports) := by
  obtain ⟨range, cleared, -, -, hdone⟩ := hdone
  exact Tally.ofJson_json ((balanced_totals hdone.balanced).bounded hfits)

/-- A job that runs the same but asks for no JSON text prints the same apart from that
text, and leaves what the run leaves. -/
theorem runJob_same {job bare : Job} {tree : FileTree}
    (hrun : filterCorpus bare tree = filterCorpus job tree)
    (hbare : bare.summaryJson = none) (htext : bare.successText = job.successText) :
    let run := filterCorpus job tree
    (runJob bare tree).tree = run.tree ∧
      ((∀ total, run.result = .ok total → ¬job.PrintsJson run.tree) →
        (runJob job tree).output = (runJob bare tree).output) ∧
      ∀ total, run.result = .ok total → job.PrintsJson run.tree →
        (runJob job tree).output = (runJob bare tree).output ++ total.json := by
  intro run
  cases hresult : run.result with
  | error failure =>
      have hresult' : (filterCorpus bare tree).result = .error failure := by
        rw [hrun, hresult]
      obtain ⟨-, houtput, -⟩ := runJob_of_error hresult
      obtain ⟨-, houtput', htree'⟩ := runJob_of_error hresult'
      rw [houtput, houtput', htree', hrun]
      exact ⟨rfl, fun _ => rfl, fun total hok => by cases hok⟩
  | ok total =>
      have hresult' : (filterCorpus bare tree).result = .ok total := by rw [hrun, hresult]
      obtain ⟨-, houtput', htree'⟩ := runJob_unasked hresult' hbare
      rw [houtput', htree', hrun, htext]
      refine ⟨rfl, fun hsilent => runJob_output hresult (hsilent total rfl), ?_⟩
      intro total' hsame hprints
      cases hsame
      exact runJob_output_of_prints hresult hprints

/-- The exit code is zero when the run succeeded and everything that was asked for is
written, and one otherwise. -/
theorem runJob_exitCode (job : Job) (tree : FileTree) :
    let run := filterCorpus job tree
    ((runJob job tree).exitCode = 0 ↔ ∃ total, run.result = .ok total ∧
      ∀ path ∈ job.summaryJson, (writeSummary total path run.tree).1 = .ok ()) ∧
    ((runJob job tree).exitCode = 0 ∨ (runJob job tree).exitCode = 1) := by
  intro run
  cases hresult : run.result with
  | error failure =>
      obtain ⟨hcode, -⟩ := runJob_of_error hresult
      rw [hcode]
      refine ⟨iff_of_false (by decide) ?_, .inr rfl⟩
      rintro ⟨total, hok, -⟩
      cases hok
  | ok total =>
      simp only [Except.ok.injEq, exists_eq_left']
      cases hjson : job.summaryJson with
      | none =>
          obtain ⟨hcode, -⟩ := runJob_unasked hresult hjson
          rw [hcode]
          exact ⟨iff_of_true rfl (by simp), .inl rfl⟩
      | some path =>
          obtain ⟨hcode, -⟩ := runJob_asked hresult hjson
          rw [hcode]
          simp only [Option.mem_some_iff, forall_eq']
          rcases (writeSummary total path (filterCorpus job tree).tree).1
            with failure | done
          · exact ⟨iff_of_false (by simp [Except.isOk, Except.toBool]) (by simp),
              .inr rfl⟩
          · exact ⟨iff_of_true rfl rfl, .inl rfl⟩

/-- Where the JSON text is written to a new or regular file, it is there in the end. -/
theorem runJob_of_keeps {job : Job} {tree : FileTree} {total : Tally}
    (hresult : (filterCorpus job tree).result = .ok total) {path : Path}
    {place : Location} {before : Bytes} (hjson : job.summaryJson = some path)
    (hplace : (filterCorpus job tree).tree.WritesTo path place)
    (hkeeps : (filterCorpus job tree).tree.Keeps place before) :
    (runJob job tree).exitCode = 0 ∧
      (runJob job tree).tree.get? place = some (.file (Text.utf8 total.json)) := by
  obtain ⟨hcode, -, htree⟩ := runJob_asked hresult hjson
  obtain ⟨final, hwritten, hfile⟩ := writeSummary_of_keeps hplace hkeeps total
  rw [hcode, htree, hwritten]
  exact ⟨rfl, hfile⟩

/-- The program changes at most the place of the JSON text behind what the run has
done. -/
theorem leafChange_runJob {job : Job} {tree : FileTree} {path : Path}
    (hjson : job.summaryJson = some path) :
    LeafChange ((filterCorpus job tree).tree.WritesTo path) (filterCorpus job tree).tree
      (runJob job tree).tree := by
  cases hresult : (filterCorpus job tree).result with
  | error failure =>
      rw [(runJob_of_error hresult).2.2]
      exact .refl _ _
  | ok total =>
      rw [(runJob_asked hresult hjson).2.2]
      exact leafChange_writeSummary total path _

theorem runProgram_of_parses {arguments : List String} {job : Job}
    (hparses : Job.ofArguments arguments = .ok job) (tree : FileTree) :
    runProgram arguments tree = runJob job tree := by
  simp only [runProgram, hparses]

/-- The reports of the program agree, and a failure is not reported as success.  The
exit code is zero exactly when the run succeeded and its totals were written wherever a
JSON text was asked for; otherwise it is one.  When the run fails, the program prints
the progress lines of the documents before the failure, and leaves what the run left.
When it succeeds, a closing block follows them, whose figures are the sums over the
progress lines; and a JSON text that is written to a new or regular file is read back as
the same totals.  Nothing of this depends on whether a JSON text is asked for, but that
a JSON text for the standard output is printed behind the block; and what the outputs
hold does not either unless the JSON text goes to one of them. -/
theorem runProgram_reports {arguments : List String} {job : Job}
    (hparses : Job.ofArguments arguments = .ok job) (tree : FileTree) :
    let run := filterCorpus job tree
    let outcome := runProgram arguments tree
    let progress := progressText run.reports
    (outcome.exitCode = 0 ↔ ∃ total, run.result = .ok total ∧
      ∀ path ∈ job.summaryJson, (writeSummary total path run.tree).1 = .ok ()) ∧
    (outcome.exitCode = 0 ∨ outcome.exitCode = 1) ∧
    (∀ failure, run.result = .error failure →
      outcome.output = progress ∧ outcome.tree = run.tree ∧
        job.FailsAfter tree run.reports failure) ∧
    (∀ total, run.result = .ok total →
      let block := total.summaryLines job.sourceLang job.targetLang job.maxWords
      let shown := progress ++ "\n".intercalate block ++ "\n"
      job.FinishesWith tree run.reports run.tree ∧
      (¬job.PrintsJson run.tree → outcome.output = shown) ∧
      (job.PrintsJson run.tree → outcome.output = shown ++ total.json) ∧
      block[3]? = some ("Total: Approved: " ++ toString total.approved ++ "  Discarded "
        ++ toString total.discarded ++ "  Acceptance: " ++
          ratioText total.acceptance? ++ " %") ∧
      total.approved = (run.reports.map fun report => report.tally.approved).sum ∧
      total.approved + total.discarded =
        (run.reports.map fun report => report.tally.classified).sum ∧
      ∀ path place before, job.summaryJson = some path → run.tree.WritesTo path place →
        run.tree.Keeps place before → outcome.exitCode = 0 ∧
          outcome.tree.get? place = some (.file (Text.utf8 total.json)) ∧
          (total.Fits → Tally.ofJson total.json = .ok total)) ∧
    (∀ plain, Job.ofArguments plain = .ok { job with summaryJson := none } →
      let bare := runProgram plain tree
      bare.tree = run.tree ∧
      ((∀ total, run.result = .ok total → ¬job.PrintsJson run.tree) →
        outcome.output = bare.output) ∧
      (∀ total, run.result = .ok total → job.PrintsJson run.tree →
        outcome.output = bare.output ++ total.json) ∧
      ∀ path ∈ job.summaryJson, ∀ output ∈ [job.outputs.source, job.outputs.target],
        ¬run.tree.SameFile path output → ∀ entry,
          outcome.tree.status output = .ok entry ↔
            bare.tree.status output = .ok entry) := by
  intro run outcome progress
  have houtcome : outcome = runJob job tree := runProgram_of_parses hparses tree
  rw [houtcome]
  obtain ⟨hcode, hcodes⟩ := runJob_exitCode job tree
  refine ⟨hcode, hcodes, ?_, ?_, ?_⟩
  · intro failure hresult
    obtain ⟨-, houtput, htree⟩ := runJob_of_error hresult
    refine ⟨houtput, htree, ?_⟩
    rcases filterCorpus_reports job tree with ⟨hok, -⟩ | ⟨failure', hresult', hafter⟩
    · cases hresult.symm.trans hok
    · cases hresult.symm.trans hresult'
      exact hafter
  · intro total hresult block shown
    rcases filterCorpus_reports job tree with ⟨hok, hdone⟩ | ⟨failure, hfails, -⟩
    · cases hresult.symm.trans hok
      refine ⟨hdone, runJob_output hresult, runJob_output_of_prints hresult, rfl,
        totals_eq_sum Tally.approved rfl (fun _ _ => rfl) _, classified_totals _, ?_⟩
      · intro path place before hjson hplace hkeeps
        obtain ⟨hzero, hfile⟩ := runJob_of_keeps hresult hjson hplace hkeeps
        exact ⟨hzero, hfile, hdone.ofJson_json⟩
    · cases hresult.symm.trans hfails
  · intro plain hplain bare
    have hbare : bare = runJob { job with summaryJson := none } tree :=
      runProgram_of_parses hplain tree
    obtain ⟨htree, hsilent, hprints⟩ :=
      runJob_same (filterCorpus_unasked job tree) rfl rfl
    rw [hbare]
    refine ⟨htree, hsilent, hprints, ?_⟩
    intro path hjson output _ hother entry
    rw [htree]
    exact (leafChange_runJob hjson).status_iff hother entry

theorem runProgram_reports_twoPairs :
    let tree := twoPairs (.file (Text.utf8 "x\n"), .file (Text.utf8 "y\n"))
      (.file (Text.utf8 "z"), .file (Text.utf8 "w\nv\n"))
    let asked := runProgram ["c", "news", "--summary-json=s.json"] tree
    let bare := runProgram ["c", "news"] tree
    asked.exitCode = 0 ∧ asked.output = bare.output ∧
      (∃ text, asked.tree.get? [⟨"s.json", by decide⟩] = some (.file (Text.utf8 text)) ∧
        Tally.ofJson text = .ok ⟨2, 0, 2, 2, ⟨2, 1, some 1⟩, ⟨2, 1, some 1⟩⟩) ∧
      asked.tree.status ⟨"c/news_Short.en"⟩ = .ok (.file (Text.utf8 "x\nz")) := by
  intro tree asked bare
  let job : Job :=
    { inputDir := ⟨"c"⟩, outName := "news", summaryJson := some ⟨"s.json"⟩ }
  have hparses : Job.ofArguments ["c", "news", "--summary-json=s.json"] = .ok job := by
    decide +kernel
  have hbare : Job.ofArguments ["c", "news"] = .ok { job with summaryJson := none } := by
    decide +kernel
  have hresult : (filterCorpus job tree).result =
      .ok ⟨2, 0, 2, 2, ⟨2, 1, some 1⟩, ⟨2, 1, some 1⟩⟩ := by decide +kernel
  have hplace :
      (filterCorpus job tree).tree.WritesTo ⟨"s.json"⟩ [⟨"s.json", by decide⟩] :=
    ⟨⟨[⟨"s.json", by decide⟩], true, false⟩, by decide +kernel, rfl⟩
  have hvacant : (filterCorpus job tree).tree.Keeps [⟨"s.json", by decide⟩] [] :=
    .inr ⟨by decide +kernel, rfl⟩
  obtain ⟨-, -, -, hsuccess, hsame⟩ := runProgram_reports hparses tree
  obtain ⟨-, -, -, -, -, -, hwritten⟩ := hsuccess _ hresult
  obtain ⟨hcode, hfile, hread⟩ := hwritten _ _ _ rfl hplace hvacant
  obtain ⟨htree, hsilent, -, hstatus⟩ := hsame _ hbare
  have hprints : ¬job.PrintsJson (filterCorpus job tree).tree := by decide +kernel
  refine ⟨hcode, hsilent fun _ _ => hprints, ⟨_, hfile, hread (by decide)⟩, ?_⟩
  have hsource : job.outputs.source = ⟨"c/news_Short.en"⟩ := by decide +kernel
  rw [← hsource]
  apply (hstatus ⟨"s.json"⟩ rfl job.outputs.source (by simp) (by decide +kernel) _).2
  rw [htree]
  decide +kernel

/-- A corpus of one document pair, and the standard output beside it. -/
def besideStandardOutput : FileTree where
  entries :=
    [ (corpusRoot, .directory), (sourceRoot, .directory), (targetRoot, .directory),
      (⟨"a.ixml", Eq.refl true⟩ :: sourceRoot, .file (Text.utf8 "x\n")),
      (⟨"a.ixml", Eq.refl true⟩ :: targetRoot, .file (Text.utf8 "y\n")),
      (FileTree.devices, .directory),
      (⟨"stdout", Eq.refl true⟩ :: FileTree.devices, .device .standardOutput) ]
  base := []
  distinct := by decide

/-- A JSON text for the standard output is printed behind all that is printed without
it. -/
theorem runProgram_reports_not_printed :
    let asked := runProgram ["c", "news", "--summary-json", "/dev/stdout"]
      besideStandardOutput
    let bare := runProgram ["c", "news"] besideStandardOutput
    asked.exitCode = 0 ∧ bare.exitCode = 0 ∧ asked.output ≠ bare.output := by
  intro asked bare
  let job : Job :=
    { inputDir := ⟨"c"⟩, outName := "news", summaryJson := some ⟨"/dev/stdout"⟩ }
  have hparses :
      Job.ofArguments ["c", "news", "--summary-json", "/dev/stdout"] = .ok job := by
    decide +kernel
  have hbare : Job.ofArguments ["c", "news"] = .ok { job with summaryJson := none } := by
    decide +kernel
  let total : Tally := ⟨1, 0, 1, 1, ⟨1, 1, some 1⟩, ⟨1, 1, some 1⟩⟩
  have hresult : (filterCorpus job besideStandardOutput).result = .ok total := by
    decide +kernel
  have hpath :
      (filterCorpus job besideStandardOutput).tree.isStandardOutput ⟨"/dev/stdout"⟩ =
        true := by decide +kernel
  have hprints : job.PrintsJson (filterCorpus job besideStandardOutput).tree :=
    (Job.printsJson_iff rfl).2 hpath
  have hasked : asked = runJob job besideStandardOutput := runProgram_of_parses hparses _
  have hplain : bare = runJob { job with summaryJson := none } besideStandardOutput :=
    runProgram_of_parses hbare _
  rw [hasked, hplain]
  refine ⟨(runJob_exitCode job _).1.2 ⟨total, hresult, ?_⟩, ?_, fun hsame => ?_⟩
  · intro path hpath
    cases hpath
    rw [writeSummary_of_isStandardOutput hpath]
  · have hresult' := hresult
    rw [← filterCorpus_unasked] at hresult'
    exact (runJob_unasked hresult' rfl).1
  · obtain ⟨-, -, hadds⟩ :=
      runJob_same (filterCorpus_unasked job besideStandardOutput) rfl rfl
    have hlength :=
      congrArg String.length (hsame.symm.trans (hadds total hresult hprints))
    rw [String.length_append] at hlength
    have hjson := total.length_json_pos
    omega

end ParallelCorpus
