import ParallelCorpus.Filter.Corpus
import ParallelCorpus.Job.Arguments
import ParallelCorpus.Tally.Json

/-!
# The program

The program takes arguments and a file tree to what it prints, its exit code and the
tree it leaves behind. A run that succeeds prints the progress lines and the closing
block; one that fails prints the progress lines up to the failure, and the failure
itself on the other channel. The tally that is written as JSON goes to a file, or is
printed behind the closing block where its path leads to the standard output; the error
channel is not reached by a path. Printing does not fail: a standard output that refuses
what it is given is left out.
-/

namespace ParallelCorpus

def writeSummary (tally : Tally) (path : Path) (tree : FileTree) :
    Except Failure Unit × FileTree :=
  let (written, tree) := tree.writeFile path (Text.utf8 tally.json)
  (written.mapError .file, tree)

/-- What writing a tally to a path adds to what is printed. -/
def printedSummary (tally : Tally) (path : Path) (tree : FileTree) : String :=
  if tree.isStandardOutput path then tally.json else ""

structure Outcome where
  exitCode : Nat
  output : String
  /-- The message on the error channel, apart from the journal. -/
  complaint? : Option String
  /-- The journal, as far as it is shown. -/
  journal : List Event
  tree : FileTree

def complaint (message : String) (cause : Option FileFault) : String :=
  match cause with
  | none => "Error: " ++ message
  | some fault => "Error: " ++ message ++ "\n\nCaused by:\n    " ++ fault.text

def stopForArguments (fault : ArgumentFault) (tree : FileTree) : Outcome where
  exitCode := fault.exitCode
  output := if fault.isInformation then fault.message ++ "\n" else ""
  complaint? := if fault.isInformation then none else some fault.messageOnChannel
  journal := []
  tree := tree

/-- The lines of a text, each ended by a line feed. -/
def printed (lines : List String) : String :=
  String.join (lines.map (· ++ "\n"))

def runJob (job : Job) (tree : FileTree) : Outcome :=
  let run := filterCorpus job tree
  let events := .started :: run.events
  let shown := fun (events : List Event) => events.filter (·.isShown job)
  let progress := printed (run.reports.map (·.progressLine))
  match run.result with
  | .error failure =>
    ⟨1, progress, some (complaint failure.message failure.cause?), shown events, run.tree⟩
  | .ok total =>
    let output :=
      progress ++ total.summary job.sourceLang job.targetLang job.maxWords ++ "\n"
    match job.summaryJson with
    | none => ⟨0, output, none, shown events, run.tree⟩
    | some path =>
      match writeSummary total path run.tree with
      | (.ok (), tree) =>
        ⟨0, output ++ printedSummary total path run.tree, none,
          shown (events ++ [.summaryWritten path]), tree⟩
      | (.error failure, tree) =>
        ⟨1, output, some (complaint ("writing summary to " ++ path.text) failure.fault?),
          shown events, tree⟩

def runProgram (arguments : List String) (tree : FileTree) : Outcome :=
  match Job.ofArguments arguments with
  | .error fault => stopForArguments fault tree
  | .ok job => runJob job tree

end ParallelCorpus
