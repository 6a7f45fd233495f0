import ParallelCorpus.Failure
import ParallelCorpus.Text.Line

/-!
# Inputs

An opened input is what has not been read of it yet, and is read line by line. Some
files open but cannot be read to their end: behind the part that can be read every
attempt fails, and a line that has begun there is lost. Reading a line shortens the
input, so that loops over the lines of an input end; what they go through are the lines
of the text.

What an input offers is settled when it is opened. A file that is written to while it is
read, as when a document is an output of the same run, may offer more; how much of it
depends on the sizes of buffers, and is left out here.
-/

namespace ParallelCorpus

open Text (Bytes cutLine lineFeed)

/-- A file opened for reading, from what is still to be read. -/
inductive Input
  | text (rest : Bytes)
  /-- A fault stands behind the rest. -/
  | failing (rest : Bytes) (fault : FileFault)
  deriving DecidableEq, Repr

namespace Input

def size : Input → Nat
  | text rest | failing rest _ => rest.length

/-- The next line, terminator included, and the input behind it; none at the end. -/
def next? : Input → Except FileFault (Option (Bytes × Input))
  | text [] => .ok none
  | text (byte :: rest) =>
    .ok (some ((cutLine (byte :: rest)).1, .text (cutLine (byte :: rest)).2))
  | failing rest fault =>
    if (cutLine rest).1.getLast? = some lineFeed then
      .ok (some ((cutLine rest).1, .failing (cutLine rest).2 fault))
    else
      .error fault

/-- Where a fault stands behind a text, a line that is read has been cut off the text. -/
theorem next?_failing {rest line : Bytes} {fault : FileFault} {behind : Input}
    (read : (failing rest fault).next? = .ok (some (line, behind))) :
    rest ≠ [] ∧ line = (cutLine rest).1 ∧ line.getLast? = some lineFeed ∧
      behind = .failing (cutLine rest).2 fault := by
  rw [next?] at read
  split at read
  · rename_i ends
    cases read
    refine ⟨?_, rfl, ends, rfl⟩
    rintro rfl
    cases ends
  · cases read

theorem size_lt_of_next {input behind : Input} {line : Bytes}
    (read : input.next? = .ok (some (line, behind))) : behind.size < input.size := by
  match input, read with
  | text (byte :: rest), read =>
      simp only [next?, Except.ok.injEq, Option.some.injEq, Prod.mk.injEq] at read
      rw [← read.2]
      exact Text.length_cutLine_lt (List.cons_ne_nil byte rest)
  | failing rest fault, read =>
      obtain ⟨nonempty, -, -, rfl⟩ := next?_failing read
      exact Text.length_cutLine_lt nonempty

def countLines (input : Input) : Except FileFault Nat :=
  match read : input.next? with
  | .error fault => .error fault
  | .ok none => .ok 0
  | .ok (some (_, behind)) => behind.countLines.map (· + 1)
termination_by input.size
decreasing_by exact size_lt_of_next read

theorem next?_text {rest : Bytes} (nonempty : rest ≠ []) :
    (text rest).next? = .ok (some ((cutLine rest).1, .text (cutLine rest).2)) := by
  cases rest with
  | nil => exact absurd rfl nonempty
  | cons byte rest => rfl

/-- Counting goes through the very lines of the text. -/
theorem countLines_text (rest : Bytes) :
    (text rest).countLines = .ok (Text.lines rest).length := by
  by_cases empty : rest = []
  · subst empty
    rw [countLines]
    rfl
  · rw [countLines]
    split
    · rename_i fault failed
      rw [next?_text empty] at failed
      cases failed
    · rename_i ended
      rw [next?_text empty] at ended
      cases ended
    · rename_i line behind read
      rw [next?_text empty] at read
      cases read
      rw [countLines_text (cutLine rest).2, Text.lines_eq_cutLine empty]
      rfl
termination_by rest.length
decreasing_by exact Text.length_cutLine_lt empty

/-- Counting does not get past a fault. -/
theorem countLines_failing (rest : Bytes) (fault : FileFault) :
    (failing rest fault).countLines = .error fault := by
  rw [countLines]
  split
  · rename_i failed
    rw [next?] at failed
    split at failed
    · cases failed
    · cases failed
      rfl
  · rename_i ended
    rw [next?] at ended
    split at ended <;> cases ended
  · rename_i line behind read
    obtain ⟨nonempty, -, -, rfl⟩ := next?_failing read
    rw [countLines_failing (cutLine rest).2 fault]
    rfl
termination_by rest.length
decreasing_by exact Text.length_cutLine_lt nonempty

end Input
end ParallelCorpus
