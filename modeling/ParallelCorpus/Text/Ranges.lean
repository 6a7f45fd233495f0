/-!
# Tables of code points

A property of characters is stored as the list of the closed ranges of code points that
have it, and a change of case as a list of runs that move by the same distance. The
tables themselves are data; this module says how they are read.
-/

namespace ParallelCorpus.Text

/-- Closed ranges of code points, in increasing order. -/
abbrev Ranges := List (Nat × Nat)

/-- A character has the property when its code point lies in one of the ranges. -/
def Ranges.has (ranges : Ranges) (c : Char) : Bool :=
  ranges.any fun range => range.1 ≤ c.toNat && c.toNat ≤ range.2

/-- Every `step`-th code point from `first` to `last` is mapped `shift` places further
on. -/
structure CaseRun where
  first : Nat
  last : Nat
  step : Nat
  shift : Int

/-- The code point that a run maps `code` to, if the run covers it. -/
def CaseRun.image? (run : CaseRun) (code : Nat) : Option Nat :=
  if run.first ≤ code ∧ code ≤ run.last ∧ (code - run.first) % run.step = 0 then
    some (code + run.shift).toNat
  else
    none

end ParallelCorpus.Text
