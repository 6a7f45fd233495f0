import ParallelCorpus.Discovery
import ParallelCorpus.Filter.Pair
import ParallelCorpus.Journal
import ParallelCorpus.Tally.Report

/-!
# Filtering a corpus

A run first makes sure that the job makes sense and that both languages are there, and
touches nothing otherwise. Then it removes the outputs of an earlier run, looks for
documents, and filters one pair after the other. The first failure ends it; what earlier
pairs added to the outputs stays.
-/

namespace ParallelCorpus

open Text (Bytes)

/-- Removes what an earlier run left under an output path. Where the path leads nowhere
there is nothing to remove. -/
def removeStale (path : Path) (tree : FileTree) : Except Failure FileTree :=
  if tree.holds path then
    match tree.remove path with
    | .ok cleared => .ok cleared
    | .error fault => .error (.removeOutput path fault)
  else
    .ok tree

def staleEvents (path : Path) (tree : FileTree) : List Event :=
  if tree.holds path then [.removing path] else []

structure Report where
  source : Path
  tally : Tally
  /-- What the pair added to each output. -/
  sourceAdded : Bytes
  targetAdded : Bytes
  deriving DecidableEq, Repr

def Report.progressLine (report : Report) : String :=
  report.tally.progressLine report.source.text

/-- What came of filtering some document pairs: those that are done, and what ended the
run. -/
structure PairsRun where
  reports : List Report
  failure? : Option Failure
  tree : FileTree

/-- Filters document pairs in order, up to the first failure. -/
def filterPairs (rules : Rules) (outputs : OutputPaths) :
    List DocumentPair → FileTree → PairsRun
  | [], tree => ⟨[], none, tree⟩
  | pair :: pairs, tree =>
    let run := filterPair rules pair outputs tree
    match run.result with
    | .error failure => ⟨[], some failure, run.tree⟩
    | .ok tally =>
      let others := filterPairs rules outputs pairs run.tree
      { others with
        reports :=
          ⟨pair.source, tally, run.sourceAdded, run.targetAdded⟩ :: others.reports }

structure CorpusRun where
  events : List Event
  reports : List Report
  result : Except Failure Tally
  tree : FileTree

def totals (reports : List Report) : Tally :=
  reports.foldl (fun total report => total.merge report.tally) .empty

/-- Filters the corpus once nothing is left of earlier outputs. -/
def filterCleared (job : Job) (range : WordRange) (events : List Event)
    (tree : FileTree) :
    CorpusRun :=
  let pairs := discoverPairs tree job.sourceDir job.targetDir job.suffix job.lookup
  let run := filterPairs ⟨range, job.strictAlignment⟩ job.outputs pairs tree
  let total := totals run.reports
  let skipped := (passedOver tree job.sourceDir).map fun (inner, cause) =>
    Event.passedOver job.sourceDir inner cause
  let underway := events ++ skipped
    ++ [ .found pairs.length job.suffix job.sourceDir,
      .filtering pairs.length job.inputDir ]
    ++ run.reports.map fun report =>
      .filtered report.source report.tally.approved report.tally.discarded
  match run.failure? with
  | some failure => ⟨underway, run.reports, .error failure, run.tree⟩
  | none =>
    ⟨underway ++ [.finished total.documents total.lines total.approved],
      run.reports, .ok total, run.tree⟩

/-- The range of a job that makes sense and finds both languages in the tree. -/
def admitted (job : Job) (tree : FileTree) : Except Failure WordRange := do
  job.check
  let range ← job.range
  if tree.isDirectory job.sourceDir && tree.isDirectory job.targetDir then
    return range
  else
    throw (.missingLanguage job.inputDir job.sourceLang job.targetLang)

def filterCorpus (job : Job) (tree : FileTree) : CorpusRun :=
  match admitted job tree with
  | .error failure => ⟨[], [], .error failure, tree⟩
  | .ok range =>
    let targetEvents := staleEvents job.outputs.target tree
    match removeStale job.outputs.target tree with
    | .error failure => ⟨targetEvents, [], .error failure, tree⟩
    | .ok tree =>
      let events := targetEvents ++ staleEvents job.outputs.source tree
      match removeStale job.outputs.source tree with
      | .error failure => ⟨events, [], .error failure, tree⟩
      | .ok tree => filterCleared job range events tree

end ParallelCorpus
