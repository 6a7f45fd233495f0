import ParallelCorpus.Failure

/-!
# Word ranges

A line is kept when its number of words lies strictly between two limits. A range is
built from limits that leave at least one count between them; as a bare pair of limits
it may be empty, and then it admits nothing.
-/

namespace ParallelCorpus

/-- The counts strictly between two limits. -/
structure WordRange where
  above : Nat
  below : Nat
  deriving DecidableEq, Repr

namespace WordRange

/-- Without other limits a line has from one to ninety-four words. -/
def standard : WordRange := ⟨0, 95⟩

/-- The range between two limits, refused when no count lies between them. -/
def ofLimits (above below : Nat) : Except Failure WordRange :=
  if above + 1 < below then .ok ⟨above, below⟩ else .error (.emptyRange above below)

def admits (range : WordRange) (count : Nat) : Bool :=
  range.above < count && count < range.below

def accepts (range : WordRange) (sourceCount targetCount : Nat) : Bool :=
  range.admits sourceCount && range.admits targetCount

end WordRange
end ParallelCorpus
