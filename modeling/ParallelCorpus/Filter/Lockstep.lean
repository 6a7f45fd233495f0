import ParallelCorpus.Stream.Input
import ParallelCorpus.Stream.Output
import ParallelCorpus.Tally.Basic
import ParallelCorpus.Text.Word
import ParallelCorpus.WordRange

/-!
# Filtering in lockstep

The lines of two documents are read side by side until the source document ends. A
target document that ends first gives empty lines for the rest of the source; what it
has beyond the source is not looked at. Under strict alignment either is an error
instead, which names the full number of lines of both. Accepted line pairs are written
unchanged, and every line pair is tallied.
-/

namespace ParallelCorpus

open Text (Bytes wordCount)

structure Rules where
  range : WordRange
  /-- Documents with different numbers of lines are refused. -/
  strict : Bool
  deriving DecidableEq, Repr

inductive Stop
  | sourceLine (fault : FileFault)
  | targetLine (fault : FileFault)
  | sourceOutput (fault : FileFault)
  | targetOutput (fault : FileFault)
  | misaligned (sourceLines targetLines : Nat)
  deriving DecidableEq, Repr

structure Progress where
  tally : Tally
  /-- The number of lines read from the target document. -/
  targetLines : Nat
  source : Output
  target : Output
  deriving DecidableEq, Repr

/-- An early end, with what had been done before it. -/
structure Halt where
  stop : Stop
  progress : Progress
  deriving DecidableEq, Repr

/-- What had been done by the end, early or not. -/
def lastProgress : Except Halt Progress → Progress
  | .ok progress => progress
  | .error halt => halt.progress

namespace Progress

def start (source target : Medium) : Progress where
  tally := { Tally.empty with documents := 1 }
  targetLines := 0
  source := .onto source
  target := .onto target

/-- Judges one line pair: writes it to both outputs when it is accepted, and tallies
it. -/
def take (rules : Rules) (progress : Progress) (sourceLine targetLine : Bytes) :
    Except Halt Progress :=
  let sourceWords := wordCount sourceLine
  let targetWords := wordCount targetLine
  let accepted := rules.range.accepts sourceWords targetWords
  let tallied :=
    { progress with tally := progress.tally.record sourceWords targetWords accepted }
  if accepted then
    match progress.source.write sourceLine with
    | .error fault => .error ⟨.sourceOutput fault, progress⟩
    | .ok source =>
      match progress.target.write targetLine with
      | .error fault => .error ⟨.targetOutput fault, { progress with source }⟩
      | .ok target => .ok { tallied with source, target }
  else
    .ok tallied

def flush (progress : Progress) : Except Halt Progress :=
  match progress.source.flush with
  | .error fault => .error ⟨.sourceOutput fault, progress⟩
  | .ok source =>
    match progress.target.flush with
    | .error fault => .error ⟨.targetOutput fault, { progress with source }⟩
    | .ok target => .ok { progress with source, target }

/-- Both outputs closed, without regard to refusals. -/
def close (progress : Progress) : Progress :=
  { progress with source := progress.source.close, target := progress.target.close }

end Progress

/-- What is left to do when the source document has ended. -/
def finish (rules : Rules) (target : Input) (progress : Progress) :
    Except Halt Progress :=
  if rules.strict then
    match target.countLines with
    | .error fault => .error ⟨.targetLine fault, progress⟩
    | .ok 0 => progress.flush
    | .ok extra =>
      .error ⟨.misaligned progress.tally.lines (progress.targetLines + extra), progress⟩
  else
    progress.flush

/-- Reads two inputs side by side to the end of the source. -/
def lockstep (rules : Rules) (source target : Input) (progress : Progress) :
    Except Halt Progress :=
  match _ : source.next? with
  | .error fault => .error ⟨.sourceLine fault, progress⟩
  | .ok none => finish rules target progress
  | .ok (some (sourceLine, source')) =>
    match target.next? with
    | .error fault => .error ⟨.targetLine fault, progress⟩
    | .ok (some (targetLine, target')) =>
      let progress := { progress with targetLines := progress.targetLines + 1 }
      match progress.take rules sourceLine targetLine with
      | .error halt => .error halt
      | .ok progress => lockstep rules source' target' progress
    | .ok none =>
      if rules.strict then
        match source'.countLines with
        | .error fault => .error ⟨.sourceLine fault, progress⟩
        | .ok remaining =>
          let sourceLines := progress.tally.lines + 1 + remaining
          .error ⟨.misaligned sourceLines progress.targetLines, progress⟩
      else
        match progress.take rules sourceLine [] with
        | .error halt => .error halt
        | .ok progress => lockstep rules source' target progress
termination_by source.size
decreasing_by all_goals exact Input.size_lt_of_next (by assumption)

end ParallelCorpus
