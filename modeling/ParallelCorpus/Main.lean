import ParallelCorpus.Disk
import ParallelCorpus.Program

/-!
# Command line

The program takes the corpus root and the base name of the outputs, with options
anywhere among them. Progress and the closing block are printed on standard output; the
journal and the complaint of a run that failed on standard error.
-/

open ParallelCorpus

/-- The tree that the program is run on. Nothing is looked at when the arguments
describe no job. -/
def startingTree (arguments : List String) : IO FileTree :=
  match Job.ofArguments arguments with
  | .ok job => Disk.read job
  | .error _ => return .fresh

def journalLine (event : Event) : String :=
  event.level.directive.toUpper ++ " " ++ event.message

def main (arguments : List String) : IO UInt32 := do
  let before ← startingTree arguments
  let outcome := runProgram arguments before
  Disk.write before outcome.tree
  IO.print outcome.output
  outcome.journal.forM fun event => IO.eprintln (journalLine event)
  outcome.complaint?.forM IO.eprintln
  return outcome.exitCode.toUInt32
