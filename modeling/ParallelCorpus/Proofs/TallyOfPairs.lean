import Mathlib.Algebra.GroupWithZero.Nat
import ParallelCorpus.Tally.Basic
import ParallelCorpus.Text.Word
import ParallelCorpus.WordRange

/-!
# The tally of a list of line pairs

Line pairs are tallied one after the other.  What comes out has a closed form: counts,
sums and extrema over the whole list.  Tallying from some start on is merging that form
into the start.
-/

namespace ParallelCorpus

open Text (Bytes wordCount)

/-- The word figures of lines with the given counts. -/
def SideTally.ofCounts (counts : List Nat) : SideTally where
  words := counts.sum
  longest := counts.max?.getD 0
  shortest := (counts.filter (0 < ·)).min?

def WordRange.keeps (range : WordRange) (pair : Bytes × Bytes) : Bool :=
  range.accepts (wordCount pair.1) (wordCount pair.2)

def Tally.recordPair (range : WordRange) (tally : Tally) (pair : Bytes × Bytes) : Tally :=
  tally.record (wordCount pair.1) (wordCount pair.2) (range.keeps pair)

def Tally.ofPairs (range : WordRange) (pairs : List (Bytes × Bytes)) : Tally where
  approved := (pairs.filter range.keeps).length
  discarded := (pairs.filter (!range.keeps ·)).length
  lines := pairs.length
  documents := 0
  source := .ofCounts (pairs.map (wordCount ·.1))
  target := .ofCounts (pairs.map (wordCount ·.2))

def Tally.ofDocument (range : WordRange) (pairs : List (Bytes × Bytes)) : Tally :=
  { Tally.ofPairs range pairs with documents := 1 }

namespace SideTally

/-- A line put in front of others is observed before them. -/
theorem observe_merge_ofCounts (side : SideTally) (count : Nat) (counts : List Nat) :
    (side.observe count).merge (ofCounts counts) =
      side.merge (ofCounts (count :: counts)) := by
  obtain ⟨words, longest, shortest⟩ := side
  simp only [observe, merge, ofCounts, SideTally.mk.injEq]
  refine ⟨by simp only [List.sum_cons]; omega, ?_, ?_⟩
  · rw [List.max?_cons]
    cases counts.max? with
    | none => simp
    | some largest => simp [Nat.max_assoc]
  · by_cases hcount : count = 0
    · simp [hcount]
    have hpositive : 0 < count := Nat.pos_of_ne_zero hcount
    rw [List.filter_cons_of_pos (by simpa using hpositive), List.min?_cons, if_neg hcount]
    cases shortest <;> cases (counts.filter (0 < ·)).min? <;> simp [least?, Nat.min_assoc]

end SideTally

namespace Tally

/-- A line pair put in front of others is recorded before them. -/
theorem recordPair_merge_ofPairs (range : WordRange) (tally : Tally)
    (pair : Bytes × Bytes) (pairs : List (Bytes × Bytes)) :
    (tally.recordPair range pair).merge (ofPairs range pairs) =
      tally.merge (ofPairs range (pair :: pairs)) := by
  simp only [recordPair, record, merge, ofPairs, List.map_cons, List.length_cons,
    SideTally.observe_merge_ofCounts, Tally.mk.injEq]
  cases hkept : range.keeps pair <;> simp [hkept] <;> omega

/-- Recording line pairs one after the other. -/
theorem foldl_recordPair (range : WordRange) (tally : Tally)
    (pairs : List (Bytes × Bytes)) :
    pairs.foldl (recordPair range) tally = tally.merge (ofPairs range pairs) := by
  induction pairs generalizing tally with
  | nil => exact tally.merge_empty.symm
  | cons pair pairs ih => rw [List.foldl_cons, ih, recordPair_merge_ofPairs]

/-- Recording the line pairs of one document. -/
theorem foldl_recordPair_document (range : WordRange) (pairs : List (Bytes × Bytes)) :
    pairs.foldl (recordPair range) { empty with documents := 1 } =
      ofDocument range pairs := by
  rw [foldl_recordPair]
  simp [merge, empty, SideTally.empty_merge, ofDocument, ofPairs]

/-- Line pairs in two parts are tallied part by part. -/
theorem ofPairs_append (range : WordRange) (pairs others : List (Bytes × Bytes)) :
    ofPairs range (pairs ++ others) =
      (ofPairs range pairs).merge (ofPairs range others) := by
  have hempty (pairs : List (Bytes × Bytes)) :
      pairs.foldl (recordPair range) empty = ofPairs range pairs := by
    rw [foldl_recordPair, empty_merge]
  rw [← hempty, List.foldl_append, foldl_recordPair, hempty]

/-- One document of two parts is tallied as two documents are, but counts once. -/
theorem ofDocument_append (range : WordRange) (pairs others : List (Bytes × Bytes)) :
    ofDocument range (pairs ++ others) =
      { (ofDocument range pairs).merge (ofDocument range others)
        with documents := 1 } := by
  rw [ofDocument, ofPairs_append]
  rfl

/-- Every recorded line pair is approved or discarded. -/
theorem discarded_ofPairs (range : WordRange) (pairs : List (Bytes × Bytes)) :
    (ofPairs range pairs).discarded =
      pairs.length - (pairs.filter range.keeps).length := by
  have hsplit := pairs.length_eq_countP_add_countP range.keeps
  simp only [List.countP_eq_length_filter, Bool.not_eq_true, Bool.decide_eq_false]
    at hsplit
  simp only [ofPairs]
  omega

end Tally
end ParallelCorpus
