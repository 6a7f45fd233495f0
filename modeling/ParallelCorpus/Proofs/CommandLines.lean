import Mathlib.Data.List.Nodup
import Mathlib.Data.List.TakeWhile
import ParallelCorpus.Job.Arguments
import ParallelCorpus.Proofs.DecimalCounts

/-!
# Command lines for a job

Every job can be given on the command line, and in many ways: each option at most once,
with its value attached to it or behind it, in any order, and the two operands anywhere
among the options or behind two dashes.  All of them are read as that job.
-/

namespace ParallelCorpus

open Text (countBound)

/-! ## How a job is given -/

/-- The texts that stand for what a job has in a slot. -/
def Slot.Spells (slot : Slot) (job : Job) (value : String) : Prop :=
  match slot with
  | inputDir => value = job.inputDir.text
  | outName => value = job.outName
  | sourceLang => value = job.sourceLang
  | targetLang => value = job.targetLang
  | suffix => value = job.suffix
  | minWords => SpellsCount job.minWords value
  | maxWords => SpellsCount job.maxWords value
  | summaryJson => job.summaryJson = some ⟨value⟩
  | logLevel => value = job.logLevel.name

/-- A job has in a slot what it has there without the option; operands cannot be left
out. -/
def Slot.HasDefault (slot : Slot) (job : Job) : Prop :=
  let standard : Job := { inputDir := job.inputDir, outName := job.outName }
  match slot with
  | inputDir | outName => False
  | sourceLang => job.sourceLang = standard.sourceLang
  | targetLang => job.targetLang = standard.targetLang
  | suffix => job.suffix = standard.suffix
  | minWords => job.minWords = standard.minWords
  | maxWords => job.maxWords = standard.maxWords
  | summaryJson => job.summaryJson = standard.summaryJson
  | logLevel => job.logLevel = standard.logLevel

def Switch.isOn (switch : Switch) (job : Job) : Bool :=
  match switch with
  | mirrorSubdirs => job.mirrorSubdirs
  | strictAlignment => job.strictAlignment
  | debug => job.debug

/-- An argument that does not look like an option: it does not start with a dash, or is
one. -/
def LooksPlain (argument : String) : Prop :=
  argument.toList.head? ≠ some '-' ∨ argument = "-"

instance (argument : String) : Decidable (LooksPlain argument) :=
  inferInstanceAs (Decidable (_ ∨ _))

/-- Arguments that give a job's values for some slots, turn on some switches and have
some operands, all of them in this order. -/
inductive Job.GivenBy (job : Job) :
    List String → List Slot → List Switch → List String → Prop
  | nil : GivenBy job [] [] [] []
  /-- Behind two dashes there are operands only. -/
  | dashes (operands) : GivenBy job ("--" :: operands) [] [] operands
  | attached {slot option value arguments slots switches operands}
      (name : slot.option? = some option) (spells : slot.Spells job value)
      (rest : GivenBy job arguments slots switches operands) :
      GivenBy job ((option ++ "=" ++ value) :: arguments) (slot :: slots)
        switches operands
  | detached {slot option value arguments slots switches operands}
      (name : slot.option? = some option) (spells : slot.Spells job value)
      (plain : LooksPlain value) (rest : GivenBy job arguments slots switches operands) :
      GivenBy job (option :: value :: arguments) (slot :: slots) switches operands
  | switch {switch : Switch} {arguments slots switches operands}
      (rest : GivenBy job arguments slots switches operands) :
      GivenBy job (switch.option :: arguments) slots (switch :: switches) operands
  | operand {value arguments slots switches operands} (plain : LooksPlain value)
      (rest : GivenBy job arguments slots switches operands) :
      GivenBy job (value :: arguments) slots switches (value :: operands)

/-- A command line for a job: every option is given at most once, and those that have
not their default are given; so are the switches that are on, and no others, and the two
operands. -/
def Job.DescribedBy (job : Job) (arguments : List String) : Prop :=
  ∃ slots switches, job.GivenBy arguments slots switches
    [job.inputDir.text, job.outName] ∧
    slots.Nodup ∧ switches.Nodup ∧
    (∀ slot ∈ Slot.valued, slot ∉ slots → slot.HasDefault job) ∧
    ∀ switch : Switch, switch ∈ switches ↔ switch.isOn job = true

/-- What the arguments can express: paths are not empty, and limits fit in 64 bits. -/
structure Job.Expressible (job : Job) : Prop where
  inputDir : job.inputDir.text ≠ ""
  summaryJson : ∀ path ∈ job.summaryJson, path.text ≠ ""
  minWords : job.minWords < countBound
  maxWords : job.maxWords < countBound

/-! ## Jobs given in part -/

/-- What is known of a job when only some slots and switches have been given. -/
def Job.given (job : Job) (slots : List Slot) (switches : List Switch) : Job where
  inputDir := if .inputDir ∈ slots then job.inputDir else Draft.start.job.inputDir
  outName := if .outName ∈ slots then job.outName else Draft.start.job.outName
  sourceLang := if .sourceLang ∈ slots then job.sourceLang else Draft.start.job.sourceLang
  targetLang := if .targetLang ∈ slots then job.targetLang else Draft.start.job.targetLang
  suffix := if .suffix ∈ slots then job.suffix else Draft.start.job.suffix
  minWords := if .minWords ∈ slots then job.minWords else Draft.start.job.minWords
  maxWords := if .maxWords ∈ slots then job.maxWords else Draft.start.job.maxWords
  mirrorSubdirs := decide (.mirrorSubdirs ∈ switches)
  strictAlignment := decide (.strictAlignment ∈ switches)
  summaryJson := if .summaryJson ∈ slots then job.summaryJson
    else Draft.start.job.summaryJson
  logLevel := if .logLevel ∈ slots then job.logLevel else Draft.start.job.logLevel
  debug := decide (.debug ∈ switches)

/-- Nothing is missing of a job once all but defaults is given. -/
theorem Job.given_eq_self {job : Job} {slots : List Slot} {switches : List Switch}
    (hslots : ∀ slot, slot ∉ slots → slot.HasDefault job)
    (hswitches : ∀ switch : Switch, switch ∈ switches ↔ switch.isOn job = true) :
    job.given slots switches = job := by
  have hslot {α : Type} (slot : Slot) {value default : α}
      (hdefault : slot.HasDefault job → value = default) :
      (if slot ∈ slots then value else default) = value := by
    split
    · rfl
    · rename_i hmissing
      exact (hdefault (hslots slot hmissing)).symm
  have hswitch (switch : Switch) : decide (switch ∈ switches) = switch.isOn job := by
    rw [Bool.eq_iff_iff, decide_eq_true_iff]
    exact hswitches switch
  cases job
  simp only [given, mk.injEq]
  exact ⟨hslot .inputDir nofun, hslot .outName nofun, hslot .sourceLang id,
    hslot .targetLang id, hslot .suffix id, hslot .minWords id, hslot .maxWords id,
    hswitch .mirrorSubdirs, hswitch .strictAlignment, hslot .summaryJson id,
    hslot .logLevel id, hswitch .debug⟩

theorem LogLevel.ofName?_name (level : LogLevel) : ofName? level.name = some level := by
  cases level <;> decide

theorem LogLevel.name_ne_empty (level : LogLevel) : level.name ≠ "" := by
  cases level <;> decide

/-- A slot is filled with what the job has there. -/
theorem Slot.fill_given {job : Job} (hjob : job.Expressible) {slot : Slot}
    {value : String} (hspells : slot.Spells job value) (slots : List Slot)
    (switches : List Switch) :
    slot.fill value (job.given slots switches) =
      .ok (job.given (slot :: slots) switches) := by
  cases slot with
  | inputDir =>
      cases hspells
      simp [fill, readPath, hjob.inputDir, Job.given, Except.map]
  | minWords =>
      have hread := readCount_of_spells hspells hjob.minWords
      simp [fill, readLimit, hread, Job.given, Except.map]
  | maxWords =>
      have hread := readCount_of_spells hspells hjob.maxWords
      simp [fill, readLimit, hread, Job.given, Except.map]
  | summaryJson =>
      have hsome : job.summaryJson = some ⟨value⟩ := hspells
      have hvalue : value ≠ "" := hjob.summaryJson _ hsome
      simp [fill, readPath, hvalue, hsome, Job.given, Except.map]
  | logLevel =>
      cases hspells
      simp [fill, readLevel, LogLevel.name_ne_empty, LogLevel.ofName?_name,
        Job.given, Except.map]
  | outName | sourceLang | targetLang | suffix =>
      cases hspells
      simp [fill, Job.given]

/-! ## Names of options -/

/-- Two dashes with a name behind them, and no equals sign. -/
def LongName (option : String) : Prop :=
  ∃ c name, option.toList = '-' :: '-' :: c :: name ∧ '=' ∉ option.toList

theorem longName_of_take {option : String} (hdashes : option.toList.take 2 = ['-', '-'])
    (hname : option.toList.drop 2 ≠ []) (hequals : '=' ∉ option.toList) :
    LongName option := by
  obtain ⟨c, name, hcons⟩ := List.exists_cons_of_ne_nil hname
  refine ⟨c, name, ?_, hequals⟩
  rw [← List.take_append_drop 2 option.toList, hdashes, hcons]
  rfl

theorem Slot.longName {slot : Slot} {option : String}
    (hname : slot.option? = some option) :
    LongName option ∧ Slot.ofOption? option = some slot := by
  cases slot <;> cases hname <;>
    exact ⟨longName_of_take (by decide) (by decide) (by decide), by decide⟩

theorem Switch.longName (switch : Switch) :
    LongName switch.option ∧ Slot.ofOption? switch.option = none ∧
      Switch.ofOption? switch.option = some switch := by
  cases switch <;>
    exact ⟨longName_of_take (by decide) (by decide) (by decide), by decide, by decide⟩

namespace Draft

/-! ## What kind of argument comes next -/

theorem bne_equals_of_mem {option : String} (hequals : '=' ∉ option.toList) :
    ∀ c ∈ option.toList, (c != '=') = true := by
  intro c hc
  rw [bne_iff_ne]
  rintro rfl
  exact hequals hc

theorem cutOption_name {option : String} (hequals : '=' ∉ option.toList) :
    cutOption option.toList = (option, none) := by
  have hkept := bne_equals_of_mem hequals
  rw [cutOption, List.takeWhile_eq_self_iff.2 hkept, List.dropWhile_eq_nil_iff.2 hkept,
    String.ofList_toList]

/-- The first equals sign cuts, whatever stands behind it. -/
theorem cutOption_attached {option : String} (hequals : '=' ∉ option.toList)
    (value : String) :
    cutOption (option ++ "=" ++ value).toList = (option, some value) := by
  have hkept := bne_equals_of_mem hequals
  have htext : (option ++ "=" ++ value).toList =
      option.toList ++ '=' :: value.toList := by
    simp
  rw [cutOption, htext, List.takeWhile_append_of_pos hkept,
    List.dropWhile_append_of_pos hkept]
  simp

variable {draft : Draft}

theorem take_name {option : String} (hlong : LongName option)
    (hopen : draft.operandsOnly = false) :
    draft.take option = draft.takeLong option none := by
  obtain ⟨c, name, hname, hequals⟩ := hlong
  have hcut := cutOption_name hequals
  rw [hname] at hcut
  simp only [take, hopen, Bool.false_eq_true, if_false, hname, hcut]

theorem take_attached {option : String} (hlong : LongName option) (value : String)
    (hopen : draft.operandsOnly = false) :
    draft.take (option ++ "=" ++ value) = draft.takeLong option (some value) := by
  obtain ⟨c, name, hname, hequals⟩ := hlong
  have hcut := cutOption_attached hequals value
  have htext : (option ++ "=" ++ value).toList =
      '-' :: '-' :: c :: (name ++ '=' :: value.toList) := by
    simp [hname]
  rw [htext] at hcut
  simp only [take, hopen, Bool.false_eq_true, if_false, htext, hcut]

theorem take_plain {argument : String} (hplain : LooksPlain argument)
    (hopen : draft.operandsOnly = false) :
    draft.take argument = draft.takePlain argument := by
  simp only [take, hopen, Bool.false_eq_true, if_false]
  rcases hplain with hhead | rfl
  · split
    · rename_i hdashes
      exact absurd (congrArg List.head? hdashes) hhead
    · rename_i hdashes
      exact absurd (congrArg List.head? hdashes) hhead
    · rename_i hdash
      exact absurd (congrArg List.head? hdash) hhead
    · rfl
  · rfl

theorem take_operandsOnly (hclosed : draft.operandsOnly = true) (argument : String) :
    draft.take argument = draft.takeOperand argument := by
  rw [take, if_pos hclosed]

/-! ## Drafts of a job -/

def holding (job : Job) (slots : List Slot) (switches : List Switch)
    (operandsOnly : Bool) :
    Draft :=
  ⟨job.given slots switches, slots, switches, none, operandsOnly⟩

/-- Once its last value is complete, the draft has what a job has in these slots, and
these switches are on. -/
def Holds (draft : Draft) (job : Job) (slots : List Slot) (switches : List Switch)
    (operandsOnly : Bool) : Prop :=
  draft.settle = .ok (holding job slots switches operandsOnly)

theorem holds_start (job : Job) : start.Holds job [] [] false := rfl

theorem holds_holding (job : Job) (slots : List Slot) (switches : List Switch)
    (operandsOnly : Bool) :
    (holding job slots switches operandsOnly).Holds job slots switches operandsOnly := rfl

/-- A draft that settles has nothing left to complete, or a whole value. -/
theorem settle_ok_cases {settled : Draft} (hsettle : draft.settle = .ok settled) :
    (draft.waiting = none ∧ settled = draft) ∨
      ∃ slot value job, draft.waiting = some (slot, some value) ∧ slot ∉ draft.filled ∧
        slot.fill value draft.job = .ok job ∧
        settled =
          { draft with job, filled := slot :: draft.filled, waiting := none } := by
  rw [settle] at hsettle
  split at hsettle
  · rename_i hwaiting
    exact .inl ⟨hwaiting, (Except.ok.inj hsettle).symm⟩
  · cases hsettle
  · rename_i slot value hwaiting
    rw [fill] at hsettle
    split at hsettle
    · cases hsettle
    · rename_i hnew
      cases hfill : slot.fill value draft.job with
      | error fault =>
          simp only [hfill] at hsettle
          cases hsettle
      | ok job =>
          simp only [hfill] at hsettle
          exact .inr ⟨slot, value, job, hwaiting, hnew, hfill,
            (Except.ok.inj hsettle).symm⟩

section Steps

variable {job : Job} {slots : List Slot} {switches : List Switch} {operandsOnly : Bool}

theorem Holds.operandsOnly_eq (hholds : draft.Holds job slots switches operandsOnly) :
    draft.operandsOnly = operandsOnly := by
  rcases settle_ok_cases hholds with ⟨-, hsame⟩ | ⟨_, _, _, -, -, -, hsame⟩
  · rw [← hsame]
    rfl
  · exact (congrArg Draft.operandsOnly hsame).symm

theorem Holds.isGiven_eq (hholds : draft.Holds job slots switches operandsOnly)
    (slot : Slot) :
    draft.isGiven slot = slots.contains slot := by
  rcases settle_ok_cases hholds
    with ⟨hwaiting, hsame⟩ | ⟨last, value, _, hwaiting, -, -, hsame⟩
  · have hfilled : slots = draft.filled := congrArg Draft.filled hsame
    simp [isGiven, hwaiting, hfilled]
  · have hfilled : slots = last :: draft.filled := congrArg Draft.filled hsame
    simp only [isGiven, hwaiting, Option.any_some, hfilled, List.contains_cons]
    rw [Bool.or_comm, BEq.comm]

/-- No value is waited for, so a plain argument is an operand. -/
theorem Holds.takePlain_eq (hholds : draft.Holds job slots switches operandsOnly)
    (argument : String) : draft.takePlain argument = draft.takeOperand argument := by
  rcases settle_ok_cases hholds with ⟨hwaiting, -⟩ | ⟨_, _, _, hwaiting, -⟩ <;>
    simp only [takePlain, hwaiting]

/-- Two dashes change nothing but what may come. -/
theorem Holds.dashes (hholds : draft.Holds job slots switches operandsOnly) :
    { draft with operandsOnly := true }.Holds job slots switches true := by
  rcases settle_ok_cases hholds with ⟨hwaiting, hsame⟩ |
    ⟨slot, value, _, hwaiting, hnew, hfill, hsame⟩
  · rw [← hsame]
    rfl
  · have hsame' :=
      congrArg (fun settled : Draft => { settled with operandsOnly := true }) hsame
    simp only [Holds, settle, hwaiting, fill, hnew, hfill, if_false]
    exact congrArg Except.ok hsame'.symm

/-- A slot that has not been given is filled with what the job has there. -/
theorem fill_holding (hjob : job.Expressible) {slot : Slot} {value : String}
    (hnew : slot ∉ slots) (hspells : slot.Spells job value) :
    (holding job slots switches operandsOnly).fill slot value =
      .ok (holding job (slot :: slots) switches operandsOnly) := by
  have hfill := Slot.fill_given hjob hspells slots switches
  simp only [fill, holding, if_neg hnew, hfill]
  rfl

/-- A value that is complete is filled in later. -/
theorem holds_waiting (hjob : job.Expressible) {slot : Slot} {value : String}
    (hnew : slot ∉ slots) (hspells : slot.Spells job value) :
    { holding job slots switches operandsOnly
      with waiting := some (slot, some value) }.Holds job (slot :: slots) switches
      operandsOnly :=
  fill_holding hjob hnew hspells

/-! ## Steps -/

theorem Holds.take_attached (hjob : job.Expressible)
    (hholds : draft.Holds job slots switches false) {slot : Slot} {option value : String}
    (hname : slot.option? = some option) (hnew : slot ∉ slots)
    (hspells : slot.Spells job value) :
    ∃ next, draft.take (option ++ "=" ++ value) = .ok next ∧
      next.Holds job (slot :: slots) switches false := by
  obtain ⟨hlong, hslot⟩ := Slot.longName hname
  refine ⟨_, ?_, holds_holding job (slot :: slots) switches false⟩
  rw [Draft.take_attached hlong value hholds.operandsOnly_eq]
  have hsettle : draft.settle = .ok _ := hholds
  simp only [takeLong, hslot, hsettle, bind, Except.bind]
  exact fill_holding hjob hnew hspells

theorem Holds.take_detached (hjob : job.Expressible)
    (hholds : draft.Holds job slots switches false) {slot : Slot} {option value : String}
    (hname : slot.option? = some option) (hnew : slot ∉ slots)
    (hspells : slot.Spells job value) (hplain : LooksPlain value) :
    ∃ between next, draft.take option = .ok between ∧ between.take value = .ok next ∧
      next.Holds job (slot :: slots) switches false := by
  obtain ⟨hlong, hslot⟩ := Slot.longName hname
  have hsettle : draft.settle = .ok _ := hholds
  refine ⟨{ holding job slots switches false with waiting := some (slot, none) }, _, ?_,
    ?_, holds_waiting hjob hnew hspells⟩
  · rw [take_name hlong hholds.operandsOnly_eq]
    simp only [takeLong, hslot, hsettle, bind, Except.bind]
    rfl
  · rw [take_plain hplain rfl]
    rfl

theorem Holds.take_switch (hholds : draft.Holds job slots switches false)
    {switch : Switch} (hnew : switch ∉ switches) :
    ∃ next, draft.take switch.option = .ok next ∧
      next.Holds job slots (switch :: switches) false := by
  obtain ⟨hlong, hslot, hswitch⟩ := switch.longName
  have hsettle : draft.settle = .ok _ := hholds
  refine ⟨_, ?_, holds_holding job slots (switch :: switches) false⟩
  rw [take_name hlong hholds.operandsOnly_eq]
  simp only [takeLong, hslot, hswitch, hsettle, bind, Except.bind, switchOn,
    holding, if_neg hnew]
  cases switch <;> simp [Switch.turnOn, Job.given]

end Steps

end Draft

/-! ## Operands -/

/-- The operands of a job that are still to come. -/
inductive Job.OperandsLeft (job : Job) (slots : List Slot) : List String → Prop
  | both (first : .inputDir ∉ slots) (second : .outName ∉ slots) :
      OperandsLeft job slots [job.inputDir.text, job.outName]
  | second (first : .inputDir ∈ slots) (second : .outName ∉ slots) :
      OperandsLeft job slots [job.outName]
  | neither (first : .inputDir ∈ slots) (second : .outName ∈ slots) :
    OperandsLeft job slots []

/-- What is given by options makes no difference for the operands. -/
theorem Job.OperandsLeft.cons {job : Job} {slots : List Slot} {operands : List String}
    (hleft : job.OperandsLeft slots operands) {slot : Slot} {option : String}
    (hname : slot.option? = some option) : job.OperandsLeft (slot :: slots) operands := by
  have hfirst : Slot.inputDir ≠ slot := by
    rintro rfl
    cases hname
  have hsecond : Slot.outName ≠ slot := by
    rintro rfl
    cases hname
  cases hleft with
  | both first second =>
      exact .both (List.not_mem_cons_of_ne_of_not_mem hfirst first)
        (List.not_mem_cons_of_ne_of_not_mem hsecond second)
  | second first second =>
      exact .second (List.mem_cons_of_mem _ first)
        (List.not_mem_cons_of_ne_of_not_mem hsecond second)
  | neither first second =>
      exact .neither (List.mem_cons_of_mem _ first) (List.mem_cons_of_mem _ second)

/-- The next operand is taken for the slot that it is meant for. -/
theorem Draft.Holds.takeOperand {draft : Draft} {job : Job} {slots : List Slot}
    {switches : List Switch} {operandsOnly : Bool} (hjob : job.Expressible)
    (hholds : draft.Holds job slots switches operandsOnly) {value : String}
    {operands : List String} (hleft : job.OperandsLeft slots (value :: operands)) :
    ∃ next slot, draft.takeOperand value = .ok next ∧ slot.option? = none ∧ slot ∉ slots ∧
      next.Holds job (slot :: slots) switches operandsOnly ∧
      job.OperandsLeft (slot :: slots) operands := by
  have hsettle : draft.settle = .ok _ := hholds
  have hfirst := hholds.isGiven_eq .inputDir
  have hsecond := hholds.isGiven_eq .outName
  cases hleft with
  | both first second =>
      refine ⟨_, .inputDir, ?_, rfl, first, holds_waiting hjob first rfl,
        .second List.mem_cons_self (List.not_mem_cons_of_ne_of_not_mem nofun second)⟩
      simp [Draft.takeOperand, hfirst, hsecond, first, second, hsettle, Except.map]
  | second first second =>
      refine ⟨_, .outName, ?_, rfl, second, holds_waiting hjob second rfl,
        .neither (List.mem_cons_of_mem _ first) List.mem_cons_self⟩
      simp [Draft.takeOperand, hfirst, hsecond, first, second, hsettle, Except.map]

/-! ## Whole command lines -/

/-- A draft at the end of a command line: it has these slots and both operands, and only
these switches are on. -/
def Draft.Completes (final : Draft) (job : Job) (slots : List Slot)
    (switches : List Switch) : Prop :=
  ∃ given on operandsOnly, final.Holds job given on operandsOnly ∧ slots ⊆ given ∧
    job.OperandsLeft given [] ∧ ∀ switch, switch ∈ on ↔ switch ∈ switches

theorem Draft.Completes.congr {final : Draft} {job : Job} {slots slots' : List Slot}
    {switches switches' : List Switch} (hcomplete : final.Completes job slots switches)
    (hslots : slots' ⊆ slots)
    (hswitches : ∀ switch, switch ∈ switches ↔ switch ∈ switches') :
    final.Completes job slots' switches' := by
  obtain ⟨given, on, operandsOnly, hholds, hgiven, hleft, hon⟩ := hcomplete
  exact ⟨given, on, operandsOnly, hholds, List.Subset.trans hslots hgiven, hleft,
    fun switch => (hon switch).trans (hswitches switch)⟩

/-- Behind two dashes, the operands that are left are taken. -/
theorem Draft.Holds.take_operands {job : Job} (hjob : job.Expressible)
    {switches : List Switch} {operands : List String} {draft : Draft} {slots : List Slot}
    (hholds : draft.Holds job slots switches true)
    (hleft : job.OperandsLeft slots operands) :
    ∃ final, operands.foldlM Draft.take draft = .ok final ∧
      final.Completes job slots switches := by
  induction operands generalizing draft slots with
  | nil =>
      exact ⟨draft, rfl, slots, switches, true, hholds, List.Subset.refl _,
        hleft, fun _ => .rfl⟩
  | cons value operands ih =>
      obtain ⟨next, slot, htake, -, -, hnext, hleft⟩ := hholds.takeOperand hjob hleft
      obtain ⟨final, hrun, hcomplete⟩ := ih hnext hleft
      refine ⟨final, ?_, hcomplete.congr (List.subset_cons_self slot slots) fun _ => .rfl⟩
      rw [List.foldlM_cons, take_operandsOnly hholds.operandsOnly_eq, htake]
      exact hrun

/-- The slots that arguments give beside the operands have options. -/
theorem Job.GivenBy.option?_ne_none {job : Job} {arguments : List String}
    {slots : List Slot} {switches : List Switch} {operands : List String}
    (hgiven : job.GivenBy arguments slots switches operands) :
    ∀ slot ∈ slots, slot.option? ≠ none := by
  induction hgiven with
  | nil | dashes => exact List.forall_mem_nil _
  | attached name _ _ ih | detached name _ _ _ ih =>
      refine List.forall_mem_cons.2 ⟨?_, ih⟩
      rw [name]
      exact Option.some_ne_none _
  | switch _ ih | operand _ _ ih => exact ih

theorem nodup_handed_on {α : Type} {a : α} {left right : List α}
    (hdistinct : (a :: left ++ right).Nodup) : a ∉ right ∧ (left ++ a :: right).Nodup :=
  ⟨fun hmem => (List.nodup_cons.1 hdistinct).1 (List.mem_append_right left hmem),
    List.nodup_middle.2 hdistinct⟩

/-- What arguments give is added, one by one, to what has been given before. -/
theorem Job.GivenBy.run {job : Job} (hjob : job.Expressible) {arguments : List String}
    {slots given : List Slot} {switches on : List Switch} {operands : List String}
    (hgiven : job.GivenBy arguments slots switches operands) {draft : Draft}
    (hholds : draft.Holds job given on false) (hslots : (slots ++ given).Nodup)
    (hswitches : (switches ++ on).Nodup) (hleft : job.OperandsLeft given operands) :
    ∃ final, arguments.foldlM Draft.take draft = .ok final ∧
      final.Completes job (slots ++ given) (switches ++ on) := by
  -- By induction on the arguments; the draft so far is completed by the steps above.
  induction hgiven generalizing draft given on with
  | nil =>
      exact ⟨draft, rfl, given, on, false, hholds, List.Subset.refl _,
        hleft, fun _ => .rfl⟩
  | dashes operands =>
      obtain ⟨final, hrun, hcomplete⟩ := hholds.dashes.take_operands hjob hleft
      refine ⟨final, ?_, hcomplete⟩
      rw [List.foldlM_cons]
      simp only [Draft.take, hholds.operandsOnly_eq, Bool.false_eq_true, if_false]
      exact hrun
  | attached name spells _ ih =>
      obtain ⟨hnew, hslots'⟩ := nodup_handed_on hslots
      obtain ⟨next, htake, hnext⟩ := hholds.take_attached hjob name hnew spells
      obtain ⟨final, hrun, hcomplete⟩ :=
        ih hnext hslots' hswitches (hleft.cons name)
      refine ⟨final, ?_, hcomplete.congr List.perm_middle.symm.subset fun _ => .rfl⟩
      rw [List.foldlM_cons, htake]
      exact hrun
  | detached name spells plain _ ih =>
      obtain ⟨hnew, hslots'⟩ := nodup_handed_on hslots
      obtain ⟨between, next, hname, htake, hnext⟩ :=
        hholds.take_detached hjob name hnew spells plain
      obtain ⟨final, hrun, hcomplete⟩ :=
        ih hnext hslots' hswitches (hleft.cons name)
      refine ⟨final, ?_, hcomplete.congr List.perm_middle.symm.subset fun _ => .rfl⟩
      rw [List.foldlM_cons, hname]
      change List.foldlM Draft.take between (_ :: _) = _
      rw [List.foldlM_cons, htake]
      exact hrun
  | switch _ ih =>
      obtain ⟨hnew, hswitches'⟩ := nodup_handed_on hswitches
      obtain ⟨next, htake, hnext⟩ := hholds.take_switch hnew
      obtain ⟨final, hrun, hcomplete⟩ := ih hnext hslots hswitches' hleft
      refine ⟨final, ?_, hcomplete.congr (List.Subset.refl _) fun _ =>
        List.perm_middle.mem_iff⟩
      rw [List.foldlM_cons, htake]
      exact hrun
  | @operand _ _ slots _ _ plain rest ih =>
      obtain ⟨next, slot, htake, hoperand, hnew, hnext, hleft⟩ :=
        hholds.takeOperand hjob hleft
      have hnot : slot ∉ slots := fun hmem => rest.option?_ne_none slot hmem hoperand
      have hslots' : (slots ++ slot :: given).Nodup :=
        List.nodup_middle.2 (List.nodup_cons.2 ⟨by simp [hnot, hnew], hslots⟩)
      obtain ⟨final, hrun, hcomplete⟩ := ih hnext hslots' hswitches hleft
      have hkept : slots ++ given ⊆ slots ++ slot :: given :=
        List.Subset.trans (List.subset_cons_self slot _) List.perm_middle.symm.subset
      refine ⟨final, ?_, hcomplete.congr hkept fun _ => .rfl⟩
      rw [List.foldlM_cons, Draft.take_plain plain hholds.operandsOnly_eq,
        hholds.takePlain_eq, htake]
      exact hrun

theorem Slot.mem_valued_iff {slot : Slot} :
    slot ∈ valued ↔ slot ≠ .inputDir ∧ slot ≠ .outName := by
  cases slot <;> decide

/-- A command line for a job is read as that job. -/
theorem Job.ofArguments_of_describedBy {job : Job} (hjob : job.Expressible)
    {arguments : List String} (hdescribed : job.DescribedBy arguments) :
    ofArguments arguments = .ok job := by
  obtain ⟨slots, switches, hgiven, hslots, hswitches, hdefault, hon⟩ := hdescribed
  obtain ⟨final, hrun, given, on, operandsOnly, hholds, hsubset, hleft, honly⟩ :=
    hgiven.run hjob (Draft.holds_start job) (by rwa [List.append_nil])
      (by rwa [List.append_nil]) (.both List.not_mem_nil List.not_mem_nil)
  rw [List.append_nil] at hsubset
  simp only [List.append_nil] at honly
  cases hleft with
  | neither first second =>
      have hself : job.given given on = job := by
        refine given_eq_self (fun slot hmissing => ?_) fun switch =>
          (honly switch).trans (hon switch)
        apply hdefault
        · rw [Slot.mem_valued_iff]
          constructor <;> rintro rfl
          · exact hmissing first
          · exact hmissing second
        · exact fun hmem => hmissing (hsubset hmem)
      have hsettle : final.settle = .ok _ := hholds
      simp only [ofArguments, hrun, bind, Except.bind, Draft.finish,
        hsettle, Draft.holding, List.contains_iff_mem.2 first,
        List.contains_iff_mem.2 second, hself]
      rfl

/-- Slots, switches and operands can be given together. -/
theorem Job.exists_givenBy {job : Job} {slots : List Slot}
    (hslots : ∀ slot ∈ slots,
      (∃ option, slot.option? = some option) ∧ ∃ value, slot.Spells job value)
    (switches : List Switch) (operands : List String) :
    ∃ arguments, job.GivenBy arguments slots switches operands := by
  induction slots with
  | nil =>
      induction switches with
      | nil => exact ⟨_, .dashes operands⟩
      | cons switch switches ih =>
          obtain ⟨arguments, hgiven⟩ := ih
          exact ⟨_, .switch hgiven⟩
  | cons slot slots ih =>
      obtain ⟨⟨⟨option, hname⟩, value, hspells⟩, hslots⟩ := List.forall_mem_cons.1 hslots
      obtain ⟨arguments, hgiven⟩ := ih hslots
      exact ⟨_, .attached hname hspells hgiven⟩

/-- What a job has in a slot stands for itself, except that no text stands for no path. -/
theorem Slot.exists_spells {job : Job} {slot : Slot}
    (hsome : slot = .summaryJson → job.summaryJson.isSome) :
    ∃ value, slot.Spells job value := by
  cases slot with
  | minWords | maxWords => exact ⟨_, "", List.mem_cons_self, 0, rfl⟩
  | summaryJson =>
      obtain ⟨path, hpath⟩ := Option.isSome_iff_exists.1 (hsome rfl)
      exact ⟨path.text, hpath⟩
  | _ => exact ⟨_, rfl⟩

/-- Every job has a command line. -/
theorem Job.exists_describedBy (job : Job) : ∃ arguments, job.DescribedBy arguments := by
  let slots := Slot.valued.filter fun slot => slot != .summaryJson ||
    job.summaryJson.isSome
  let switches := [Switch.mirrorSubdirs, .strictAlignment, .debug].filter (·.isOn job)
  have hslots : ∀ slot ∈ slots,
      (∃ option, slot.option? = some option) ∧ ∃ value, slot.Spells job value := by
    intro slot hslot
    obtain ⟨hvalued, hkept⟩ := List.mem_filter.1 hslot
    constructor
    · cases slot <;> first | exact ⟨_, rfl⟩ | exact absurd hvalued (by decide)
    · apply Slot.exists_spells
      rintro rfl
      simpa using hkept
  obtain ⟨arguments, hgiven⟩ :=
    exists_givenBy hslots switches [job.inputDir.text, job.outName]
  have hdistinct : Slot.valued.Nodup := by decide
  have hdistinct' : [Switch.mirrorSubdirs, .strictAlignment, .debug].Nodup := by decide
  refine ⟨arguments, slots, switches, hgiven, hdistinct.filter _,
    hdistinct'.filter _, ?_, ?_⟩
  · intro slot hvalued hmissing
    have hjson : slot = .summaryJson ∧ job.summaryJson = none := by
      simpa [slots, hvalued] using hmissing
    obtain ⟨rfl, hnone⟩ := hjson
    exact hnone
  · intro switch
    have hall : switch ∈ [Switch.mirrorSubdirs, .strictAlignment, .debug] := by
      cases switch <;> decide
    rw [List.mem_filter, and_iff_right hall]

/-- The command line can express every job, and in whatever way a job is given, it is
read as that job. -/
theorem Job.ofArguments_expresses {job : Job} (hjob : job.Expressible) :
    (∃ arguments, job.DescribedBy arguments) ∧
      ∀ arguments, job.DescribedBy arguments → ofArguments arguments = .ok job :=
  ⟨job.exists_describedBy, fun _ hdescribed => ofArguments_of_describedBy hjob hdescribed⟩

/-- Values that look like options, an operand that is a dash, and one that looks like an
option. -/
theorem Job.ofArguments_expresses_dashes :
    let job : Job := { inputDir := ⟨"-"⟩, outName := "--news", sourceLang := "a=b",
                       suffix := "--help", minWords := 7, logLevel := .info,
                       debug := true }
    ofArguments
      ["--suffix=--help", "-", "--min-words", "+007", "--debug", "--source-lang=a=b",
        "--log-level", "INFO", "--target-lang=fa", "--", "--news"] = .ok job := by
  intro job
  have hjob : job.Expressible := ⟨by decide, nofun, by decide, by decide⟩
  apply (ofArguments_expresses hjob).2
  have hpieces :
      ["--suffix=--help", "-", "--min-words", "+007", "--debug", "--source-lang=a=b",
        "--log-level", "INFO", "--target-lang=fa", "--", "--news"] =
      ["--suffix" ++ "=" ++ "--help", "-", "--min-words", "+007", Switch.debug.option,
        "--source-lang" ++ "=" ++ "a=b", "--log-level", "INFO",
        "--target-lang" ++ "=" ++ "fa", "--", "--news"] := by decide +kernel
  have hcount : Slot.minWords.Spells job "+007" := ⟨"+", by decide, 2, by decide +kernel⟩
  rw [hpieces]
  refine ⟨[.suffix, .minWords, .sourceLang, .logLevel, .targetLang],
    [.debug], ?_, by decide, by decide, ?_, ?_⟩
  · exact .attached rfl rfl (.operand (by decide) (.detached rfl hcount (by decide)
      (.switch (.attached rfl rfl (.detached rfl rfl (by decide)
        (.attached rfl rfl (.dashes ["--news"])))))))
  · intro slot hvalued hmissing
    have hrest : slot = .maxWords ∨ slot = .summaryJson := by
      revert hvalued hmissing
      cases slot <;> decide
    rcases hrest with rfl | rfl <;> rfl
  · intro switch
    cases switch <;> decide

end ParallelCorpus
