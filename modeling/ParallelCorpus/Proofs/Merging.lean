import ParallelCorpus.Filter.Corpus

/-!
# Merging tallies

Merging adds up counts and takes extrema, where a side without words has no least figure
to offer. It can be done in any order and grouping, so the total over reports does not
depend on the order in which they come.
-/

namespace ParallelCorpus

namespace SideTally

theorem least?_comm (first second : Option Nat) :
    least? first second = least? second first := by
  cases first with
  | none => cases second <;> rfl
  | some a =>
      cases second with
      | none => rfl
      | some b => rw [least?, least?, Nat.min_comm]

theorem least?_assoc (first second third : Option Nat) :
    least? (least? first second) third = least? first (least? second third) := by
  cases first with
  | none => rfl
  | some a =>
      cases second with
      | none => rfl
      | some b =>
          cases third with
          | none => rfl
          | some c => rw [least?, least?, least?, least?, Nat.min_assoc]

theorem merge_comm (side other : SideTally) : side.merge other = other.merge side := by
  rw [merge, merge, Nat.add_comm, Nat.max_comm, least?_comm]

theorem merge_assoc (first second third : SideTally) :
    (first.merge second).merge third = first.merge (second.merge third) := by
  simp only [merge, Nat.add_assoc, Nat.max_assoc, least?_assoc]

end SideTally

namespace Tally

theorem merge_comm (tally other : Tally) : tally.merge other = other.merge tally := by
  rw [merge, merge, Nat.add_comm tally.approved, Nat.add_comm tally.discarded,
    Nat.add_comm tally.lines, Nat.add_comm tally.documents, tally.source.merge_comm,
    tally.target.merge_comm]

theorem merge_assoc (first second third : Tally) :
    (first.merge second).merge third = first.merge (second.merge third) := by
  simp only [merge, Nat.add_assoc, SideTally.merge_assoc]

theorem merge_right_comm (total tally other : Tally) :
    (total.merge tally).merge other = (total.merge other).merge tally := by
  calc
    (total.merge tally).merge other = total.merge (tally.merge other) := merge_assoc ..
    _ = total.merge (other.merge tally) := by rw [merge_comm tally]
    _ = (total.merge other).merge tally := (merge_assoc ..).symm

end Tally

theorem foldl_merge (total : Tally) (reports : List Report) :
    reports.foldl (fun total report => total.merge report.tally) total =
      total.merge (totals reports) := by
  induction reports generalizing total with
  | nil => exact total.merge_empty.symm
  | cons report reports ih =>
      have htotals : totals (report :: reports) =
          report.tally.merge (totals reports) := by
        rw [totals, List.foldl_cons, Tally.empty_merge, ih]
      rw [List.foldl_cons, ih, htotals, Tally.merge_assoc]

/-- Reports come to what the first and all others come to together. -/
theorem totals_cons (report : Report) (reports : List Report) :
    totals (report :: reports) = report.tally.merge (totals reports) := by
  rw [totals, List.foldl_cons, Tally.empty_merge, foldl_merge]

/-- Reports come to the same total in any order. -/
theorem totals_perm {reports others : List Report} (hperm : others.Perm reports) :
    totals others = totals reports := by
  apply hperm.foldl_eq'
  intro report _ other _ total
  exact total.merge_right_comm report.tally other.tally

end ParallelCorpus
