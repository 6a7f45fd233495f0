import ParallelCorpus.Failure
import ParallelCorpus.Text.Bytes

/-!
# Outputs

Lines written to an output are gathered in a buffer and handed on when it is full, when
a line is too long for it, and at the end. A file takes all that it is handed; a device
may refuse, and then the write that caused the handing on fails. So a refusal can come
later than the line it is about, and an output that is closed early still hands on what
it holds. To a file the buffer makes no difference: what was written is the lines one
after the other.
-/

namespace ParallelCorpus

open Text (Bytes)

inductive Medium
  /-- They are added to a file. -/
  | file
  /-- They are dropped. -/
  | drain
  /-- They are refused. -/
  | refusing (fault : FileFault)
  deriving DecidableEq, Repr

structure Output where
  medium : Medium
  /-- What has been handed on. -/
  handed : Bytes
  /-- What is still in the buffer, the last byte first. -/
  pending : Bytes
  deriving DecidableEq, Repr

namespace Output

def capacity : Nat := 8192

/-- An output that nothing has been written to. -/
def onto (medium : Medium) : Output := ⟨medium, [], []⟩

/-- Hands bytes on. Nothing is refused where there is nothing to hand on. -/
def handOn (output : Output) (bytes : Bytes) : Except FileFault Output :=
  match output.medium with
  | .refusing fault => if bytes.isEmpty then .ok output else .error fault
  | _ => .ok { output with handed := output.handed ++ bytes }

def flush (output : Output) : Except FileFault Output := do
  let emptied ← output.handOn output.pending.reverse
  return { emptied with pending := [] }

/-- Writes a line. One that leaves room in the buffer goes there. Any other first makes
the buffer empty, unless it just fits, and is handed on directly when it is as long as
the whole buffer. -/
def write (output : Output) (line : Bytes) : Except FileFault Output := do
  let room := capacity - output.pending.length
  if line.length < room then
    return { output with pending := line.reverse ++ output.pending }
  else
    let output ← if room < line.length then output.flush else pure output
    if capacity ≤ line.length then
      output.handOn line
    else
      return { output with pending := line.reverse ++ output.pending }

/-- The output after it was closed without regard to refusals. -/
def close (output : Output) : Output :=
  match output.flush with
  | .ok closed => closed
  | .error _ => output

def written (output : Output) : Bytes :=
  output.handed ++ output.pending.reverse

@[simp]
theorem written_onto (medium : Medium) : (onto medium).written = [] := rfl

/-- Bytes that are taken come behind those that were handed on before. -/
theorem handOn_ok {output after : Output} {bytes : Bytes}
    (hhand : output.handOn bytes = .ok after) :
    after = { output with handed := output.handed ++ bytes } := by
  obtain ⟨medium, handed, pending⟩ := output
  cases medium with
  | file => exact (Except.ok.inj hhand).symm
  | drain => exact (Except.ok.inj hhand).symm
  | refusing fault =>
      by_cases hbytes : bytes = []
      · subst hbytes
        simpa [handOn] using hhand.symm
      · simp [handOn, hbytes] at hhand

/-- A flush that succeeds hands on all that was written. -/
theorem flush_ok {output after : Output} (hflush : output.flush = .ok after) :
    after = { output with handed := output.written, pending := [] } := by
  rw [flush] at hflush
  cases hhand : output.handOn output.pending.reverse with
  | error fault => simp [hhand, bind, Except.bind] at hflush
  | ok emptied =>
      simp only [hhand, bind, Except.bind, pure, Except.pure, Except.ok.injEq] at hflush
      rw [← hflush, handOn_ok hhand]
      rfl

/-- A line whose write succeeds comes behind what was written before, on any medium. -/
theorem write_ok {output after : Output} {line : Bytes}
    (hwrite : output.write line = .ok after) :
    after.medium = output.medium ∧ after.written = output.written ++ line := by
  rw [write] at hwrite
  simp only at hwrite
  split at hwrite
  · cases hwrite
    exact ⟨rfl, by simp [written]⟩
  split at hwrite
  · cases hflush : output.flush with
    | error fault => simp [hflush, bind, Except.bind] at hwrite
    | ok flushed =>
        have hflushed := flush_ok hflush
        simp only [hflush, bind, Except.bind] at hwrite
        split at hwrite
        · rw [handOn_ok hwrite, hflushed]
          exact ⟨rfl, by simp [written]⟩
        · cases hwrite
          rw [hflushed]
          exact ⟨rfl, by simp [written]⟩
  · rename_i hroom htight
    simp only [bind, Except.bind, pure, Except.pure] at hwrite
    split at hwrite
    · have hcapacity : 0 < capacity := by decide
      have hempty : output.pending = [] := List.eq_nil_of_length_eq_zero (by omega)
      rw [handOn_ok hwrite]
      exact ⟨rfl, by simp [written, hempty]⟩
    · cases hwrite
      exact ⟨rfl, by simp [written]⟩

/-- Closing an output with an empty buffer hands on nothing more. -/
theorem handed_close {output : Output} (hempty : output.pending = []) :
    output.close.handed = output.written := by
  rw [close]
  cases hflush : output.flush with
  | error fault => simp [written, hempty]
  | ok closed => rw [flush_ok hflush]

/-- A file takes everything: flushing loses nothing and leaves nothing behind. -/
theorem flush_file {output : Output} (toFile : output.medium = .file) :
    output.flush = .ok { output with handed := output.written, pending := [] } := by
  obtain ⟨medium, handed, pending⟩ := output
  subst toFile
  rfl

/-- A line written to a file is added to what was written before, whatever the buffer
does. -/
theorem write_file {output : Output} (line : Bytes) (toFile : output.medium = .file) :
    ∃ after, output.write line = .ok after ∧ after.medium = .file ∧
      after.written = output.written ++ line := by
  obtain ⟨medium, handed, pending⟩ := output
  subst toFile
  by_cases fits : line.length < capacity - pending.length
  · refine ⟨⟨.file, handed, line.reverse ++ pending⟩, ?_, rfl, by simp [written]⟩
    simp [write, fits, pure, Except.pure]
  by_cases tight : capacity - pending.length < line.length
  · by_cases long : capacity ≤ line.length
    · refine ⟨⟨.file, handed ++ pending.reverse ++ line, []⟩, ?_, rfl, by simp [written]⟩
      simp [write, fits, tight, long, flush, handOn, bind, Except.bind, pure, Except.pure]
    · refine ⟨⟨.file, handed ++ pending.reverse, line.reverse⟩, ?_,
        rfl, by simp [written]⟩
      simp [write, fits, tight, long, flush, handOn, bind, Except.bind, pure, Except.pure]
  · by_cases long : capacity ≤ line.length
    · have positive : 0 < capacity := by decide
      have empty : pending = [] := List.eq_nil_of_length_eq_zero (by omega)
      subst empty
      have exact : ¬capacity < line.length := by simpa using tight
      refine ⟨⟨.file, handed ++ line, []⟩, ?_, rfl, by simp [written]⟩
      simp [write, Nat.not_lt.2 long, exact, long, handOn, bind, Except.bind,
        pure, Except.pure]
    · refine ⟨⟨.file, handed, line.reverse ++ pending⟩, ?_, rfl, by simp [written]⟩
      simp [write, fits, tight, long, bind, Except.bind, pure, Except.pure]

end Output
end ParallelCorpus
