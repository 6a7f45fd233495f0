/-!
# Word figures of one language

One side of a corpus is summed up by three figures over all its lines, the discarded
ones included: how many words there are, how many the longest line has, and how many the
shortest line that has any.
-/

namespace ParallelCorpus

structure SideTally where
  /-- The number of words in all lines. -/
  words : Nat
  /-- The number of words of the longest line; an empty line counts. -/
  longest : Nat
  /-- The number of words of the shortest line that has any, once there is such a line. -/
  shortest : Option Nat
  deriving DecidableEq, Repr, Inhabited

namespace SideTally

def empty : SideTally := ⟨0, 0, none⟩

/-- The smaller of two figures, where a missing one never lowers the other. -/
def least? : Option Nat → Option Nat → Option Nat
  | some a, some b => some (min a b)
  | some a, none => some a
  | none, b => b

def observe (side : SideTally) (count : Nat) : SideTally where
  words := side.words + count
  longest := max side.longest count
  shortest :=
    if count = 0 then side.shortest
    else some ((side.shortest.map (min · count)).getD count)

def merge (side other : SideTally) : SideTally where
  words := side.words + other.words
  longest := max side.longest other.longest
  shortest := least? side.shortest other.shortest

/-- The figures of no line make no difference. -/
theorem empty_merge (side : SideTally) : empty.merge side = side := by
  obtain ⟨words, longest, shortest⟩ := side
  cases shortest <;> simp [merge, empty, least?]

theorem merge_empty (side : SideTally) : side.merge empty = side := by
  obtain ⟨words, longest, shortest⟩ := side
  cases shortest <;> simp [merge, empty, least?]

/-- What the report prints for the shortest line when no line has a word. -/
def unsetShortest : Nat := 1000

def reportedShortest (side : SideTally) : Nat :=
  side.shortest.getD unsetShortest

end SideTally
end ParallelCorpus
