import ParallelCorpus.Proofs.InputDirectories

/-!
# What is asked of a job

A job is looked at demand by demand, and the first that it does not meet is what it is
refused for; a job that meets them all is accepted.  The last demand is that some count
lies between the limits.  Looking for one more than the lower limit decides this, also
in 64 bits, where nothing is more than the largest count.
-/

namespace ParallelCorpus

/-! ## Demands in order -/

/-- What is asked of a job, and the failure of a job that does not meet it. -/
structure Demand where
  met : Prop
  failure : Failure

/-- What comes of looking at demands one after the other, up to the first that is not
met. -/
inductive Judged : List Demand → Except Failure Unit → Prop
  | accepted : Judged [] (.ok ())
  | refused {demand rest} (unmet : ¬demand.met) :
    Judged (demand :: rest) (.error demand.failure)
  | passed {demand rest outcome} (met : demand.met) (behind : Judged rest outcome) :
      Judged (demand :: rest) outcome

def FirstUnmet (demands : List Demand) (failure : Failure) : Prop :=
  ∃ before demand after, demands = before ++ demand :: after ∧
    (∀ earlier ∈ before, earlier.met) ∧ ¬demand.met ∧ demand.failure = failure

section Judgement

variable {demand : Demand} {demands : List Demand} {outcome : Except Failure Unit}
  {failure : Failure}

theorem firstUnmet_cons_of_met (hmet : demand.met) :
    FirstUnmet (demand :: demands) failure ↔ FirstUnmet demands failure := by
  constructor
  · rintro ⟨before, unmet, after, hsplit, hbefore, hunmet, hfailure⟩
    cases before with
    | nil =>
        obtain ⟨rfl, -⟩ := List.cons.inj hsplit
        exact absurd hmet hunmet
    | cons first before =>
        obtain ⟨-, hsplit⟩ := List.cons.inj hsplit
        exact ⟨before, unmet, after, hsplit,
          fun earlier hearlier => hbefore earlier (List.mem_cons_of_mem first hearlier),
          hunmet, hfailure⟩
  · rintro ⟨before, unmet, after, rfl, hbefore, hunmet, hfailure⟩
    exact ⟨demand :: before, unmet, after, rfl,
      List.forall_mem_cons.2 ⟨hmet, hbefore⟩, hunmet, hfailure⟩

theorem firstUnmet_cons_of_unmet (hunmet : ¬demand.met) :
    FirstUnmet (demand :: demands) failure ↔ demand.failure = failure := by
  constructor
  · rintro ⟨before, unmet, after, hsplit, hbefore, -, hfailure⟩
    cases before with
    | nil =>
        obtain ⟨rfl, -⟩ := List.cons.inj hsplit
        exact hfailure
    | cons first before =>
        obtain ⟨rfl, -⟩ := List.cons.inj hsplit
        exact absurd (hbefore demand List.mem_cons_self) hunmet
  · intro hfailure
    exact ⟨[], demand, demands, rfl, by simp, hunmet, hfailure⟩

/-- A step that fails exactly where its demand is not met comes before what follows. -/
theorem Judged.step {first : Except Failure Unit} {next : Unit → Except Failure Unit}
    (hmet : demand.met → first = .ok ())
    (hunmet : ¬demand.met → first = .error demand.failure)
    (hnext : Judged demands (next ())) : Judged (demand :: demands) (first >>= next) := by
  by_cases hdemand : demand.met
  · rw [hmet hdemand]
    exact .passed hdemand hnext
  · rw [hunmet hdemand]
    exact .refused hdemand

/-- So does a condition under which nothing follows. -/
theorem Judged.unless {condition : Prop} [Decidable condition]
    {next : Unit → Except Failure Unit} (hcondition : demand.met ↔ ¬condition)
    (hnext : Judged demands (next ())) :
    Judged (demand :: demands)
      (if condition then throw demand.failure >>= next else next ()) := by
  split
  · exact .refused fun hmet => hcondition.1 hmet ‹_›
  · exact .passed (hcondition.2 ‹_›) hnext

theorem Judged.ok_iff (hjudged : Judged demands outcome) :
    outcome = .ok () ↔ ∀ demand ∈ demands, demand.met := by
  induction hjudged with
  | accepted => simp
  | refused unmet => simp [unmet]
  | passed met _ ih => rw [ih, List.forall_mem_cons, and_iff_right met]

theorem Judged.error_iff (hjudged : Judged demands outcome) :
    outcome = .error failure ↔ FirstUnmet demands failure := by
  induction hjudged with
  | accepted => simp [FirstUnmet]
  | refused unmet => rw [firstUnmet_cons_of_unmet unmet, Except.error.injEq]
  | passed met _ ih => rw [ih, firstUnmet_cons_of_met met]

end Judgement

/-! ## Counts between two limits -/

namespace WordRange

theorem admits_iff {above below count : Nat} :
    (mk above below).admits count = true ↔ above < count ∧ count < below := by
  rw [admits, Bool.and_eq_true, decide_eq_true_iff, decide_eq_true_iff]

/-- If any count lies between the limits, the one after the lower limit does, and it
fits in 64 bits when the upper limit does. -/
theorem exists_admits_iff {above : Nat} {below : UInt64} :
    (∃ count : UInt64, (mk above below.toNat).admits count.toNat = true) ↔
      above + 1 < below.toNat := by
  simp only [admits_iff]
  constructor
  · rintro ⟨count, habove, hbelow⟩
    omega
  · intro hroom
    have hfits : above + 1 < 2 ^ 64 := Nat.lt_trans hroom below.toNat_lt
    refine ⟨.ofNat (above + 1), ?_⟩
    rw [UInt64.toNat_ofNat_of_lt' hfits]
    omega

/-- One more than a count in 64 bits; the largest stays as it is. -/
def next (count : UInt64) : UInt64 :=
  if count + 1 = 0 then count else count + 1

/-- Staying at the largest count does no harm, since no limit lies beyond it. -/
theorem next_lt_iff {above below : UInt64} :
    next above < below ↔ above.toNat + 1 < below.toNat := by
  have habove := above.toNat_lt
  have hbelow := below.toNat_lt
  have hsum : (above + 1).toNat = (above.toNat + 1) % 2 ^ 64 := by
    rw [UInt64.toNat_add]
    rfl
  rw [next, UInt64.lt_iff_toNat_lt]
  split
  · rename_i hlargest
    rw [hlargest] at hsum
    have hzero : (above.toNat + 1) % 2 ^ 64 = 0 := hsum.symm
    omega
  · rename_i hmore
    have hpositive : (above + 1).toNat ≠ 0 :=
      fun hzero => hmore (UInt64.toNat_inj.1 hzero)
    omega

end WordRange

/-! ## The demands on a job -/

/-- A text that can name a directory: neither empty nor dots, without a slash of either
kind. -/
def IsDirectoryName (name : String) : Prop :=
  name ≠ "" ∧ name ≠ "." ∧ name ≠ ".." ∧ '/' ∉ name.toList ∧ '\\' ∉ name.toList

namespace Job

variable {job : Job} {above below : UInt64}

/-- What a job has to meet, in the order in which it is looked at. -/
def demands (job : Job) : List Demand :=
  [⟨IsDirectoryName job.sourceLang,
      .setting (.languageName "--source-lang" (Text.quoted job.sourceLang))⟩,
    ⟨IsDirectoryName job.targetLang,
      .setting (.languageName "--target-lang" (Text.quoted job.targetLang))⟩,
    ⟨job.sourceLang ≠ job.targetLang,
      .setting (.sameLanguage (Text.quoted job.sourceLang))⟩,
      ⟨job.outName ≠ "", .setting .emptyBaseName⟩,
    ⟨∃ count : UInt64, (WordRange.mk job.minWords job.maxWords).admits count.toNat = true,
      .emptyRange job.minWords job.maxWords⟩]

theorem checkLanguage_of_name {option language : String}
    (hname : IsDirectoryName language) :
    checkLanguage option language = .ok () :=
  if_pos (isPlainName_iff.2 hname)

theorem checkLanguage_of_no_name {option language : String}
    (hname : ¬IsDirectoryName language) :
    checkLanguage option language =
      .error (.setting (.languageName option (Text.quoted language))) :=
  if_neg fun hplain => hname (isPlainName_iff.1 hplain)

theorem range_eq_ok_iff {range : WordRange} :
    job.range = .ok range ↔
      job.minWords + 1 < job.maxWords ∧ range = ⟨job.minWords, job.maxWords⟩ := by
  rw [Job.range, WordRange.ofLimits]
  split <;> simp [*, eq_comm]

/-- The limits are refused exactly when no count in 64 bits lies between them. -/
theorem judged_range (hbelow : job.maxWords = below.toNat) :
    Judged
      [⟨∃ count : UInt64, (WordRange.mk job.minWords job.maxWords).admits count.toNat =
        true, .emptyRange job.minWords job.maxWords⟩] (discard job.range) := by
  rw [range, WordRange.ofLimits]
  split
  · rename_i hroom
    rw [hbelow] at hroom ⊢
    exact .passed (WordRange.exists_admits_iff.2 hroom) .accepted
  · rename_i hroom
    refine .refused ?_
    rw [hbelow] at hroom ⊢
    exact fun hadmits => hroom (WordRange.exists_admits_iff.1 hadmits)

/-- Checking a job looks at the demands in order. -/
theorem judged_check (hbelow : job.maxWords = below.toNat) :
    Judged job.demands job.check := by
  rw [check]
  exact .step checkLanguage_of_name checkLanguage_of_no_name
    (.step checkLanguage_of_name checkLanguage_of_no_name
      (.unless Iff.rfl (.unless Iff.rfl (judged_range hbelow))))

/-- A job is accepted exactly when its languages are two different directory names, its
base name is not empty and some count in 64 bits lies between its limits.  A run of an
accepted job keeps what lies strictly between these.  Any other job is refused for the
first demand that it does not meet.  Comparing the limits in 64 bits, where the largest
count is followed by itself, comes to the same. -/
theorem check_decides (habove : job.minWords = above.toNat)
    (hbelow : job.maxWords = below.toNat) :
    (job.check = .ok () ↔
      IsDirectoryName job.sourceLang ∧ IsDirectoryName job.targetLang ∧
        job.sourceLang ≠ job.targetLang ∧ job.outName ≠ "" ∧
        ∃ count : UInt64, (WordRange.mk job.minWords job.maxWords).admits
          count.toNat = true) ∧
    (job.check = .ok () → ∃ range, job.range = .ok range ∧
      (∀ tree, admitted job tree = .ok range ∨ admitted job tree =
        .error (.missingLanguage job.inputDir job.sourceLang job.targetLang)) ∧
      ∀ count, range.admits count = true ↔ job.minWords < count ∧ count < job.maxWords) ∧
    (∀ failure, job.check = .error failure ↔ FirstUnmet job.demands failure) ∧
    ((∃ range, job.range = .ok range) ↔ WordRange.next above < below) := by
  have hjudged := job.judged_check hbelow
  refine ⟨?_, ?_, fun failure => hjudged.error_iff, ?_⟩
  · rw [hjudged.ok_iff]
    simp [demands]
  · intro hcheck
    obtain ⟨-, -, -, range, hrange⟩ := check_ok hcheck
    refine ⟨range, hrange, ?_, ?_⟩
    · intro tree
      rw [admitted, hcheck, hrange]
      by_cases hthere :
        (tree.isDirectory job.sourceDir && tree.isDirectory job.targetDir) = true
      · exact .inl (if_pos hthere)
      · exact .inr (if_neg hthere)
    · intro count
      rw [(range_eq_ok_iff.1 hrange).2, WordRange.admits_iff]
  · simp only [range_eq_ok_iff, exists_and_left, exists_eq, and_true]
    rw [WordRange.next_lt_iff, habove, hbelow]

/-- Limits that leave one count below the largest; and the largest count as both limits,
which is named only behind the empty base name. -/
theorem check_decides_largestCounts :
    let narrow : Job := { inputDir := ⟨"c"⟩, outName := "news",
                          minWords := 18446744073709551613,
                          maxWords := 18446744073709551615 }
    let closed : Job := { narrow with minWords := 18446744073709551615, outName := "" }
    (narrow.check = .ok () ∧
      ∃ range, narrow.range = .ok range ∧
        ∀ count, range.admits count = true ↔ count = 18446744073709551614) ∧
    closed.check = .error (.setting .emptyBaseName) ∧
      FirstUnmet closed.demands (.setting .emptyBaseName) ∧
      ¬∃ range, closed.range = .ok range := by
  intro narrow closed
  have hnarrow : narrow.check = .ok () := by decide +kernel
  have hclosed : closed.check = .error (.setting .emptyBaseName) := by decide +kernel
  have hlower : narrow.minWords = (18446744073709551613 : UInt64).toNat := rfl
  have hupper : narrow.maxWords = (18446744073709551615 : UInt64).toNat := rfl
  have hlower' : closed.minWords = (18446744073709551615 : UInt64).toNat := rfl
  have hupper' : closed.maxWords = (18446744073709551615 : UInt64).toNat := rfl
  obtain ⟨-, haccepted, -, -⟩ := check_decides hlower hupper
  obtain ⟨-, -, hrefused, hrange⟩ := check_decides hlower' hupper'
  obtain ⟨range, hnarrowRange, -, hadmits⟩ := haccepted hnarrow
  refine ⟨⟨hnarrow, range, hnarrowRange, ?_⟩, hclosed, (hrefused _).1 hclosed, ?_⟩
  · intro count
    rw [hadmits]
    constructor
    · rintro ⟨habove, hbelow⟩
      exact Nat.le_antisymm (Nat.lt_succ_iff.1 hbelow) habove
    · rintro rfl
      exact ⟨by decide, by decide⟩
  · rw [hrange]
    decide

end Job
end ParallelCorpus
