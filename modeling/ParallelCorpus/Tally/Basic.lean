import ParallelCorpus.Tally.Side

/-!
# Tallies

A tally sums up filtered lines: how many pairs were approved and how many discarded, how
many lines and documents there were, and the word figures of either side. Each document
pair is tallied on its own, and the tally of a corpus is what merging those gives.
-/

namespace ParallelCorpus

/-- Acceptance counts and the word figures of both sides. -/
structure Tally where
  approved : Nat
  discarded : Nat
  lines : Nat
  documents : Nat
  source : SideTally
  target : SideTally
  deriving DecidableEq, Repr, Inhabited

namespace Tally

def empty : Tally := ⟨0, 0, 0, 0, .empty, .empty⟩

/-- Adds one classified line pair. -/
def record (tally : Tally) (sourceWords targetWords : Nat) (accepted : Bool) : Tally where
  approved := if accepted then tally.approved + 1 else tally.approved
  discarded := if accepted then tally.discarded else tally.discarded + 1
  lines := tally.lines + 1
  documents := tally.documents
  source := tally.source.observe sourceWords
  target := tally.target.observe targetWords

def merge (tally other : Tally) : Tally where
  approved := tally.approved + other.approved
  discarded := tally.discarded + other.discarded
  lines := tally.lines + other.lines
  documents := tally.documents + other.documents
  source := tally.source.merge other.source
  target := tally.target.merge other.target

/-- The tally of nothing makes no difference. -/
theorem empty_merge (tally : Tally) : empty.merge tally = tally := by
  simp only [merge, empty, Nat.zero_add, SideTally.empty_merge]

theorem merge_empty (tally : Tally) : tally.merge empty = tally := by
  simp only [merge, empty, Nat.add_zero, SideTally.merge_empty]

/-- The line pairs that were classified, one way or the other. -/
def classified (tally : Tally) : Nat :=
  tally.approved + tally.discarded

end Tally
end ParallelCorpus
