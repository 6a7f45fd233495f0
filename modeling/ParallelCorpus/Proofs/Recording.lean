import ParallelCorpus.Proofs.Merging
import ParallelCorpus.Text.Digit

/-!
# Recording in parts

Observations can be recorded in parts whose tallies are merged afterwards.  Recording
one more observation is merging its own tally, and tallies merge in any order and
grouping, so the parts come to the tally of all observations recorded one after the
other, however they are cut.  Counts and sums only grow on the way: in 64 bits no
addition overflows unless the whole tally does.
-/

namespace ParallelCorpus

open Text (countBound)

/-- A classified line pair: the words on both sides, and whether it was accepted. -/
structure Observation where
  sourceWords : Nat
  targetWords : Nat
  accepted : Bool
  deriving DecidableEq, Repr

namespace SideTally

/-- A line is observed as a side of its own is merged. -/
theorem observe_eq_merge (side : SideTally) (count : Nat) :
    side.observe count = side.merge (empty.observe count) := by
  obtain ⟨words, longest, shortest⟩ := side
  by_cases hcount : count = 0
  · cases shortest <;> simp [observe, merge, empty, least?, hcount]
  · cases shortest <;> simp [observe, merge, empty, least?, hcount]

end SideTally

namespace Tally

/-! ## Recording -/

def recordOne (tally : Tally) (observation : Observation) : Tally :=
  tally.record observation.sourceWords observation.targetWords observation.accepted

/-- The tally of observations that are recorded one after the other, from nothing. -/
def recordAll (observations : List Observation) : Tally :=
  observations.foldl recordOne empty

/-- An observation is recorded as a tally of its own is merged. -/
theorem recordOne_eq_merge (tally : Tally) (observation : Observation) :
    tally.recordOne observation = tally.merge (empty.recordOne observation) := by
  obtain ⟨sourceWords, targetWords, accepted⟩ := observation
  simp only [recordOne, record, merge, tally.source.observe_eq_merge sourceWords,
    tally.target.observe_eq_merge targetWords]
  cases accepted <;> simp [empty]

/-- Recording from a tally on is merging what is recorded from nothing. -/
theorem foldl_recordOne (tally : Tally) (observations : List Observation) :
    observations.foldl recordOne tally = tally.merge (recordAll observations) := by
  induction observations generalizing tally with
  | nil => exact tally.merge_empty.symm
  | cons observation observations ih =>
      have hrest : recordAll (observation :: observations) =
          (empty.recordOne observation).merge (recordAll observations) := ih _
      calc
        (observation :: observations).foldl recordOne tally =
            (tally.recordOne observation).merge (recordAll observations) := ih _
        _ = (tally.merge (empty.recordOne observation)).merge
            (recordAll observations) := by
          rw [recordOne_eq_merge]
        _ = tally.merge (recordAll (observation :: observations)) := by
            rw [merge_assoc, hrest]

theorem recordAll_append (observations others : List Observation) :
    recordAll (observations ++ others) =
      (recordAll observations).merge (recordAll others) := by
  rw [recordAll, List.foldl_append, foldl_recordOne]
  rfl

/-- Two observations can be recorded in either order. -/
theorem recordOne_right_comm (tally : Tally) (observation other : Observation) :
    (tally.recordOne observation).recordOne other =
      (tally.recordOne other).recordOne observation := by
  have hrecord (first second : Observation) : (tally.recordOne first).recordOne second =
      (tally.merge (empty.recordOne first)).merge (empty.recordOne second) := by
    rw [(tally.recordOne first).recordOne_eq_merge, tally.recordOne_eq_merge]
  rw [hrecord, hrecord, merge_right_comm]

/-- Observations come to the same tally in any order. -/
theorem recordAll_perm {observations others : List Observation}
    (hperm : others.Perm observations) : recordAll others = recordAll observations := by
  apply hperm.foldl_eq'
  intro observation _ other _ tally
  exact tally.recordOne_right_comm observation other

/-! ## Tallies in 64 bits -/

/-- All counts and sums are below the first number that does not fit in 64 bits. -/
def Fits (tally : Tally) : Prop :=
  tally.approved < countBound ∧ tally.discarded < countBound ∧ tally.lines < countBound ∧
    tally.documents < countBound ∧ tally.source.words < countBound ∧
    tally.target.words < countBound

instance (tally : Tally) : Decidable tally.Fits :=
  inferInstanceAs (Decidable (_ ∧ _))

/-- The tally as it is kept in 64 bits; nothing where a count or a sum overflows. -/
def held? (tally : Tally) : Option Tally :=
  if tally.Fits then some tally else none

/-- Both of two tallies fit where the merged one does, since merging never lowers a
figure. -/
theorem Fits.of_merge {tally other : Tally} (hfits : (tally.merge other).Fits) :
    tally.Fits ∧ other.Fits := by
  simp only [Fits, merge, SideTally.merge] at hfits ⊢
  omega

theorem held?_of_fits {tally : Tally} (hfits : tally.Fits) : tally.held? = some tally :=
  if_pos hfits

theorem held?_of_not_fits {tally : Tally} (hfits : ¬tally.Fits) : tally.held? = none :=
  if_neg hfits

/-- Whatever is merged with a tally that does not fit, the result does not fit either. -/
theorem held?_merge_of_not_fits {tally : Tally} (hfits : ¬tally.Fits) (other : Tally) :
    (tally.merge other).held? = none :=
  held?_of_not_fits fun hmerged => hfits hmerged.of_merge.1

/-- A tally is kept on the way to a merged one that is kept. -/
theorem held?_bind_merge (tally other : Tally) :
    (tally.held?.bind fun kept => (kept.merge other).held?) =
      (tally.merge other).held? := by
  by_cases hfits : tally.Fits
  · rw [held?_of_fits hfits]
    rfl
  · rw [held?_of_not_fits hfits, held?_merge_of_not_fits hfits]
    rfl

/-- Two tallies are kept on the way to a merged one that is kept. -/
theorem held?_bind_held? (tally other : Tally) :
    (tally.held?.bind fun kept => other.held?.bind fun added =>
      (kept.merge added).held?) = (tally.merge other).held? := by
  have hother (kept : Tally) : (other.held?.bind fun added => (kept.merge added).held?) =
      (kept.merge other).held? := by
    simp only [merge_comm kept]
    exact other.held?_bind_merge kept
  simp only [hother]
  exact tally.held?_bind_merge other

/-- Recording in 64 bits goes through exactly where the whole tally fits. -/
theorem foldlM_recordOne {tally : Tally} (hfits : tally.Fits)
    (observations : List Observation) :
    observations.foldlM
      (fun tally observation => (tally.recordOne observation).held?) tally =
        (observations.foldl recordOne tally).held? := by
  induction observations generalizing tally with
  | nil => exact (held?_of_fits hfits).symm
  | cons observation observations ih =>
      rw [List.foldlM_cons, List.foldl_cons]
      by_cases hnext : (tally.recordOne observation).Fits
      · rw [held?_of_fits hnext]
        exact ih hnext
      · rw [foldl_recordOne, held?_merge_of_not_fits hnext, held?_of_not_fits hnext]
        rfl

end Tally

/-! ## Groupings -/

/-- Chunks of observations, grouped as their tallies are merged. -/
inductive Grouping
  | chunk (observations : List Observation)
  | merged (first second : Grouping)

namespace Grouping

def observations : Grouping → List Observation
  | chunk observations => observations
  | merged first second => first.observations ++ second.observations

/-- The tallies of the chunks, each recorded from nothing, merged as they are grouped. -/
def tally : Grouping → Tally
  | chunk observations => .recordAll observations
  | merged first second => first.tally.merge second.tally

/-- The same in 64 bits; nothing where any addition on the way overflows. -/
def held? : Grouping → Option Tally
  | chunk observations =>
    observations.foldlM
      (fun tally observation => (tally.recordOne observation).held?) .empty
  | merged first second =>
    first.held?.bind fun tally => second.held?.bind fun other => (tally.merge other).held?

theorem tally_eq (grouping : Grouping) :
    grouping.tally = .recordAll grouping.observations := by
  induction grouping with
  | chunk observations => rfl
  | merged first second hfirst hsecond =>
      rw [tally, observations, Tally.recordAll_append, hfirst, hsecond]

theorem held?_eq (grouping : Grouping) : grouping.held? = grouping.tally.held? := by
  induction grouping with
  | chunk observations =>
      have hempty : Tally.empty.Fits := by decide
      exact Tally.foldlM_recordOne hempty observations
  | merged first second hfirst hsecond =>
      rw [held?, hfirst, hsecond]
      exact first.tally.held?_bind_held? second.tally

end Grouping

/-- However observations are cut into chunks, reordered and grouped, the tallies of the
chunks merge to the tally of all observations recorded one after the other; and in 64
bits this fails only where that tally itself does not fit.  For merging is associative
and commutative, with the tally of nothing as its unit, and it overflows in one grouping
exactly where it does in another. -/
theorem grouping_tally_eq_recordAll :
    (∀ (grouping : Grouping) (observations : List Observation),
      grouping.observations.Perm observations →
        grouping.tally = .recordAll observations ∧
          grouping.held? = (Tally.recordAll observations).held?) ∧
    (∀ tally : Tally, Tally.empty.merge tally = tally ∧ tally.merge .empty = tally) ∧
    (∀ tally other : Tally, tally.merge other = other.merge tally) ∧
    ∀ first second third : Tally,
      (first.merge second).merge third = first.merge (second.merge third) ∧
        ((first.merge second).held?.bind fun merged => (merged.merge third).held?) =
          (second.merge third).held?.bind fun merged => (first.merge merged).held? := by
  refine ⟨?_, ?_, Tally.merge_comm, ?_⟩
  · intro grouping observations hperm
    have htally : grouping.tally = .recordAll observations := by
      rw [grouping.tally_eq, Tally.recordAll_perm hperm]
    exact ⟨htally, by rw [grouping.held?_eq, htally]⟩
  · exact fun tally => ⟨tally.empty_merge, tally.merge_empty⟩
  · intro first second third
    refine ⟨first.merge_assoc second third, ?_⟩
    calc
      ((first.merge second).held?.bind fun merged => (merged.merge third).held?) =
          ((first.merge second).merge third).held? := Tally.held?_bind_merge _ _
      _ = ((second.merge third).merge first).held? := by
        rw [first.merge_assoc, first.merge_comm]
      _ = (second.merge third).held?.bind fun merged => (merged.merge first).held? :=
        (Tally.held?_bind_merge _ _).symm
      _ = (second.merge third).held?.bind fun merged => (first.merge merged).held? := by
        simp only [first.merge_comm]

/-- Three observations, in two chunks that stand in the other order, with a chunk of
none. -/
theorem grouping_tally_threeObservations :
    let first : Observation := ⟨3, 0, false⟩
    let second : Observation := ⟨5, 2, true⟩
    let third : Observation := ⟨0, 4, false⟩
    let grouping := Grouping.merged (.chunk [second, third])
      (.merged (.chunk []) (.chunk [first]))
    [second, third, first].Perm [first, second, third] ∧
      grouping.tally = ⟨1, 2, 3, 0, ⟨8, 5, some 3⟩, ⟨6, 4, some 2⟩⟩ ∧
      grouping.held? = some ⟨1, 2, 3, 0, ⟨8, 5, some 3⟩, ⟨6, 4, some 2⟩⟩ := by
  intro first second third grouping
  have hperm : [second, third, first].Perm [first, second, third] := by decide
  obtain ⟨htally, hheld⟩ :=
    grouping_tally_eq_recordAll.1 grouping [first, second, third] hperm
  exact ⟨hperm, htally.trans (by decide), hheld.trans (by decide)⟩

end ParallelCorpus
