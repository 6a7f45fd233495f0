import ParallelCorpus.Proofs.CorpusRun
import ParallelCorpus.Proofs.Recording

/-!
# How the figures of a tally bound each other

Some figures of a tally that counts lines bound others, and the range by which lines
were accepted bounds them too: the words of all lines are at least those of the accepted
ones, and an accepted line is neither shorter than the shortest nor longer than the
longest one.  Recording a line pair keeps all of this, provided that the range decided
on it, and so does merging; so it holds of whatever documents come to, and of every run.
-/

namespace ParallelCorpus

open Text (Bytes wordCount)

namespace SideTally

/-! ## The least of two figures -/

theorem least?_eq_none_iff {first second : Option Nat} :
    least? first second = none ↔ first = none ∧ second = none := by
  cases first <;> cases second <;> simp [least?]

/-- The least of two figures is one of them. -/
theorem of_mem_least? {first second : Option Nat} {least : Nat}
    (hleast : least ∈ least? first second) :
    least ∈ first ∨ least ∈ second := by
  cases first with
  | none => exact .inr hleast
  | some a =>
      cases second with
      | none => exact .inl hleast
      | some b =>
          rw [least?, Option.mem_some_iff] at hleast
          simp only [Option.mem_some_iff]
          omega

/-- Next to another figure there is still one that is as small. -/
theorem exists_mem_least? {first : Option Nat} (second : Option Nat) {figure : Nat}
    (hfigure : figure ∈ first) : ∃ least ∈ least? first second, least ≤ figure := by
  cases hfigure
  cases second with
  | none => exact ⟨figure, rfl, Nat.le_refl figure⟩
  | some b => exact ⟨min figure b, rfl, Nat.min_le_left figure b⟩

/-! ## One side -/

/-- The word figures of one side of so many lines, some of which a range has accepted. -/
structure Balanced (range : WordRange) (lines accepted : Nat)
    (side : SideTally) : Prop where
  unset_iff : side.shortest = none ↔ side.longest = 0
  longest_iff : side.longest = 0 ↔ side.words = 0
  shortest : ∀ shortest ∈ side.shortest, 1 ≤ shortest ∧ shortest ≤ side.longest
  longest_le : side.longest ≤ side.words
  words_le : side.words ≤ side.longest * lines
  /-- Every accepted line has more words than the lower limit. -/
  accepted_le : accepted * (range.above + 1) ≤ side.words
  /-- An accepted line lies within both limits. -/
  within : 0 < accepted →
    (∃ shortest ∈ side.shortest, shortest < range.below) ∧ range.above < side.longest

section Balanced

variable {range : WordRange} {lines accepted : Nat} {side : SideTally}

theorem Balanced.empty (range : WordRange) : empty.Balanced range 0 0 where
  unset_iff := ⟨fun _ => rfl, fun _ => rfl⟩
  longest_iff := Iff.rfl
  shortest := nofun
  longest_le := Nat.le_refl 0
  words_le := Nat.le_refl 0
  accepted_le := Nat.le_of_eq (Nat.zero_mul _)
  within := nofun

/-- A single line, which may be accepted only if its number of words is admitted. -/
theorem balanced_observe {count : Nat} (haccepted : accepted ≤ 1)
    (hadmits : accepted = 1 → range.admits count = true) :
    (SideTally.empty.observe count).Balanced range 1 accepted := by
  have hwithin : accepted = 1 → range.above < count ∧ count < range.below := by
    intro hone
    simpa [WordRange.admits] using hadmits hone
  have hshortest : (SideTally.empty.observe count).shortest =
      if count = 0 then none else some count := by
    simp [observe, SideTally.empty]
  have hlongest : (SideTally.empty.observe count).longest = count := Nat.zero_max count
  have hwords : (SideTally.empty.observe count).words = count := Nat.zero_add count
  have hset {shortest : Nat} (hmem : shortest ∈
      (SideTally.empty.observe count).shortest) :
      0 < count ∧ shortest = count := by
    rw [hshortest] at hmem
    split at hmem
    · cases hmem
    · rename_i hcount
      cases hmem
      exact ⟨Nat.pos_of_ne_zero hcount, rfl⟩
  constructor
  · rw [hshortest, hlongest]
    split <;> simp [*]
  · rw [hlongest, hwords]
  · intro shortest hmem
    rw [hlongest]
    obtain ⟨hpositive, rfl⟩ := hset hmem
    exact ⟨hpositive, Nat.le_refl _⟩
  · exact Nat.le_of_eq (hlongest.trans hwords.symm)
  · rw [hwords, hlongest]
    exact Nat.le_of_eq (Nat.mul_one count).symm
  · rw [hwords]
    rcases Nat.le_one_iff_eq_zero_or_eq_one.1 haccepted with rfl | rfl
    · rw [Nat.zero_mul]
      exact Nat.zero_le count
    · rw [Nat.one_mul]
      exact (hwithin rfl).1
  · intro hpositive
    obtain ⟨habove, hbelow⟩ := hwithin (Nat.le_antisymm haccepted hpositive)
    rw [hlongest, hshortest, if_neg (Nat.ne_of_gt (Nat.zero_lt_of_lt habove))]
    exact ⟨⟨count, rfl, hbelow⟩, habove⟩

/-- The lines of two parts together. -/
theorem Balanced.merge {other : SideTally} {lines' accepted' : Nat}
    (hside : side.Balanced range lines accepted)
    (hother : other.Balanced range lines' accepted') :
    (side.merge other).Balanced range (lines + lines') (accepted + accepted') where
  unset_iff := by
    have hside := hside.unset_iff
    have hother := hother.unset_iff
    simp only [SideTally.merge, least?_eq_none_iff, hside, hother]
    omega
  longest_iff := by
    have hside := hside.longest_iff
    have hother := hother.longest_iff
    simp only [SideTally.merge]
    omega
  shortest := by
    intro shortest hshortest
    rcases of_mem_least? hshortest with hfirst | hsecond
    · obtain ⟨hpositive, hle⟩ := hside.shortest shortest hfirst
      exact ⟨hpositive, Nat.le_trans hle (Nat.le_max_left ..)⟩
    · obtain ⟨hpositive, hle⟩ := hother.shortest shortest hsecond
      exact ⟨hpositive, Nat.le_trans hle (Nat.le_max_right ..)⟩
  longest_le := by
    have hside := hside.longest_le
    have hother := hother.longest_le
    simp only [SideTally.merge]
    omega
  words_le := by
    calc
      side.words + other.words ≤ side.longest * lines + other.longest * lines' :=
        Nat.add_le_add hside.words_le hother.words_le
      _ ≤ max side.longest other.longest * lines +
          max side.longest other.longest * lines' :=
        Nat.add_le_add (Nat.mul_le_mul_right lines (Nat.le_max_left ..))
          (Nat.mul_le_mul_right lines' (Nat.le_max_right ..))
      _ = max side.longest other.longest * (lines + lines') := (Nat.mul_add ..).symm
  accepted_le := by
    rw [Nat.add_mul]
    exact Nat.add_le_add hside.accepted_le hother.accepted_le
  within := by
    intro hpositive
    rcases Nat.add_pos_iff_pos_or_pos.1 hpositive with haccepted | haccepted
    · obtain ⟨⟨figure, hfigure, hbelow⟩, habove⟩ := hside.within haccepted
      obtain ⟨least, hleast, hle⟩ := exists_mem_least? other.shortest hfigure
      exact ⟨⟨least, hleast, Nat.lt_of_le_of_lt hle hbelow⟩,
        Nat.lt_of_lt_of_le habove (Nat.le_max_left ..)⟩
    · obtain ⟨⟨figure, hfigure, hbelow⟩, habove⟩ := hother.within haccepted
      obtain ⟨least, hleast, hle⟩ := exists_mem_least? side.shortest hfigure
      rw [least?_comm] at hleast
      exact ⟨⟨least, hleast, Nat.lt_of_le_of_lt hle hbelow⟩,
        Nat.lt_of_lt_of_le habove (Nat.le_max_right ..)⟩

end Balanced

end SideTally

namespace Tally

/-! ## Both sides -/

/-- A tally of lines that a range has classified. -/
structure Balanced (range : WordRange) (tally : Tally) : Prop where
  classified : tally.approved + tally.discarded = tally.lines
  source : tally.source.Balanced range tally.lines tally.approved
  target : tally.target.Balanced range tally.lines tally.approved

variable {range : WordRange} {tally other : Tally}

theorem Balanced.empty (range : WordRange) : empty.Balanced range :=
  ⟨rfl, .empty range, .empty range⟩

theorem Balanced.merge (htally : tally.Balanced range) (hother : other.Balanced range) :
    (tally.merge other).Balanced range where
  classified := by
    have htally := htally.classified
    have hother := hother.classified
    simp only [Tally.merge]
    omega
  source := htally.source.merge hother.source
  target := htally.target.merge hother.target

/-- A single line pair, accepted where the range accepts it. -/
theorem balanced_recordPair_empty (range : WordRange) (pair : Bytes × Bytes) :
    (Tally.empty.recordPair range pair).Balanced range := by
  have hsides : range.keeps pair = true →
      range.admits (wordCount pair.1) = true ∧
      range.admits (wordCount pair.2) = true := by
    rw [WordRange.keeps, WordRange.accepts, Bool.and_eq_true]
    exact id
  have hone : (Tally.empty.recordPair range pair).approved ≤ 1 := by
    simp only [recordPair, record, Tally.empty]
    split <;> decide
  have hkeeps : (Tally.empty.recordPair range pair).approved = 1 →
      range.keeps pair = true := by
    simp only [recordPair, record, Tally.empty]
    split
    · exact fun _ => ‹_›
    · intro hzero
      cases hzero
  refine ⟨?_, SideTally.balanced_observe hone fun happroved =>
    (hsides (hkeeps happroved)).1,
      SideTally.balanced_observe hone fun happroved => (hsides (hkeeps happroved)).2⟩
  simp only [recordPair, record, Tally.empty]
  split <;> rfl

/-- Recording a line pair keeps a tally balanced, since it is merging the tally of that
pair. -/
theorem Balanced.recordPair (htally : tally.Balanced range) (pair : Bytes × Bytes) :
    (tally.recordPair range pair).Balanced range := by
  have hmerge :
      tally.recordPair range pair = tally.merge (Tally.empty.recordPair range pair) :=
    tally.recordOne_eq_merge ⟨wordCount pair.1, wordCount pair.2, range.keeps pair⟩
  rw [hmerge]
  exact htally.merge (balanced_recordPair_empty range pair)

theorem Balanced.foldl_recordPair (htally : tally.Balanced range)
    (pairs : List (Bytes × Bytes)) :
    (pairs.foldl (Tally.recordPair range) tally).Balanced range := by
  induction pairs generalizing tally with
  | nil => exact htally
  | cons pair pairs ih => exact ih (htally.recordPair pair)

/-- The tally of a document is balanced. -/
theorem balanced_ofDocument (range : WordRange) (pairs : List (Bytes × Bytes)) :
    (ofDocument range pairs).Balanced range := by
  have hempty : ({ Tally.empty with documents := 1 } : Tally).Balanced range :=
    ⟨rfl, .empty range, .empty range⟩
  rw [← foldl_recordPair_document]
  exact hempty.foldl_recordPair pairs

end Tally

/-- The total over reports is balanced when every report is. -/
theorem balanced_totals {range : WordRange} {reports : List Report}
    (hreports : ∀ report ∈ reports, report.tally.Balanced range) :
    (totals reports).Balanced range := by
  have hfold (reports : List Report)
      (hreports : ∀ report ∈ reports, report.tally.Balanced range) {total : Tally}
      (htotal : total.Balanced range) :
      (reports.foldl (fun total report => total.merge report.tally) total).Balanced
        range := by
    induction reports generalizing total with
    | nil => exact htotal
    | cons report reports ih =>
        obtain ⟨hreport, hreports⟩ := List.forall_mem_cons.1 hreports
        exact ih hreports (htotal.merge hreport)
  exact hfold reports hreports (.empty range)

/-! ## Documents and runs -/

/-- The tallies that come of filtering document pairs by one range, successfully, and of
merging what comes of that, in any order and grouping. -/
inductive Tally.Accumulated (range : WordRange) : Tally → Prop
  | nothing : Accumulated range .empty
  | document {strict : Bool} {pair : DocumentPair} {outputs : OutputPaths}
      {tree : FileTree} {tally : Tally}
      (result : (filterPair ⟨range, strict⟩ pair outputs tree).result = .ok tally) :
      Accumulated range tally
  | merged {tally other : Tally} (first : Accumulated range tally)
      (second : Accumulated range other) : Accumulated range (tally.merge other)

/-- The tally of a document pair that is filtered successfully is balanced. -/
theorem balanced_of_filterPair {rules : Rules} {pair : DocumentPair}
    {outputs : OutputPaths} {tree : FileTree} {tally : Tally}
    (hresult : (filterPair rules pair outputs tree).result = .ok tally) :
    tally.Balanced rules.range := by
  obtain ⟨_, _, _, _, rfl, _⟩ := filterPair_ok hresult
  exact Tally.balanced_ofDocument ..

theorem Tally.Accumulated.balanced {range : WordRange} {tally : Tally}
    (haccumulated : tally.Accumulated range) : tally.Balanced range := by
  induction haccumulated with
  | nothing => exact .empty range
  | document hresult => exact balanced_of_filterPair hresult
  | merged _ _ hfirst hsecond => exact hfirst.merge hsecond

/-- Every report on a document pair that is done is balanced. -/
theorem balanced_of_mem_reports (rules : Rules) (outputs : OutputPaths)
    (pairs : List DocumentPair) (tree : FileTree) :
    ∀ report ∈ (filterPairs rules outputs pairs tree).reports,
      report.tally.Balanced rules.range := by
  induction pairs generalizing tree with
  | nil => exact List.forall_mem_nil _
  | cons pair pairs ih =>
      cases hresult : (filterPair rules pair outputs tree).result with
      | error failure =>
          simp only [filterPairs, hresult]
          exact List.forall_mem_nil _
      | ok tally =>
          simp only [filterPairs, hresult]
          exact List.forall_mem_cons.2 ⟨balanced_of_filterPair hresult, ih _⟩

/-- The range of a job that is admitted has the limits of the job. -/
theorem range_eq_of_admitted {job : Job} {tree : FileTree} {range : WordRange}
    (hadmitted : admitted job tree = .ok range) :
    range = ⟨job.minWords, job.maxWords⟩ := by
  obtain ⟨-, hrange, -⟩ := admitted_eq_ok_iff.1 hadmitted
  rw [Job.range, WordRange.ofLimits] at hrange
  split at hrange
  · exact (Except.ok.inj hrange).symm
  · cases hrange

/-- The figures of documents that were filtered by one range bound each other, however
they have been merged, and so do the totals of every run that succeeds. -/
theorem balanced_of_accumulated_or_run :
    (∀ range tally, Tally.Accumulated range tally → tally.Balanced range) ∧
    ∀ job tree total, (filterCorpus job tree).result = .ok total →
      total.Balanced ⟨job.minWords, job.maxWords⟩ := by
  refine ⟨fun range tally haccumulated => haccumulated.balanced, ?_⟩
  intro job tree total hresult
  cases filterCorpus_course job tree with
  | refused _ hfails | targetStays _ _ hfails | sourceStays _ _ _ hfails =>
      rw [hresult] at hfails
      cases hfails
  | @filters _ _ cleared admits _ _ follows =>
      obtain ⟨-, htotal⟩ := PairsRun.verdict_eq_ok_iff.1 (follows.2.2.symm.trans hresult)
      rw [← htotal, ← range_eq_of_admitted admits]
      exact balanced_totals (balanced_of_mem_reports _ _ _ cleared)

/-- Two documents with a line that is too long on one side and a line without words. -/
theorem balanced_twoPairs :
    let job : Job := { inputDir := ⟨"c"⟩, outName := "news", maxWords := 3 }
    let tree := twoPairs (.file (Text.utf8 "x y\n\n"), .file (Text.utf8 "u\nv\n"))
      (.file (Text.utf8 "a b c"), .file (Text.utf8 "w\n"))
    let range : WordRange := ⟨0, 3⟩
    let first : Tally := ⟨1, 1, 2, 1, ⟨2, 2, some 2⟩, ⟨2, 1, some 1⟩⟩
    let second : Tally := ⟨0, 1, 1, 1, ⟨3, 3, some 3⟩, ⟨1, 1, some 1⟩⟩
    (filterPair ⟨range, true⟩ ⟨⟨"c/en/b.ixml"⟩, ⟨"c/fa/b.ixml"⟩⟩
      job.outputs tree).result = .ok second ∧
      (second.merge .empty).Balanced range ∧
      (filterCorpus job tree).result = .ok (first.merge second) ∧
      (first.merge second).Balanced range := by
  intro job tree range first second
  have hpair : (filterPair ⟨range, true⟩ ⟨⟨"c/en/b.ixml"⟩, ⟨"c/fa/b.ixml"⟩⟩ job.outputs
      tree).result = .ok second := by decide +kernel
  have hresult : (filterCorpus job tree).result = .ok (first.merge second) := by
    decide +kernel
  obtain ⟨haccumulated, hrun⟩ := balanced_of_accumulated_or_run
  exact ⟨hpair, haccumulated range _ (.merged (.document hpair) .nothing), hresult,
    hrun job tree _ hresult⟩

end ParallelCorpus
