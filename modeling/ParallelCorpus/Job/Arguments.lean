import ParallelCorpus.Job.Basic
import ParallelCorpus.Job.Count
import ParallelCorpus.Text.Terminal

/-!
# The command line

Arguments are read from left to right. Options may stand anywhere among the two
operands, with their value attached behind an equals sign or in the next argument; a
next argument that looks like an option is no value. Two dashes alone end the options. A
value is looked at only when it is certain that nothing more belongs to it: when the
next option or operand begins, or at the end. So the first fault met is reported, and an
unknown option before a bad value that stands in front of it.

Arguments are texts. What the program says of an argument that is none, because its
bytes are not UTF-8, is left out.
-/

namespace ParallelCorpus

inductive Slot
  | inputDir
  | outName
  | sourceLang
  | targetLang
  | suffix
  | minWords
  | maxWords
  | summaryJson
  | logLevel
  deriving DecidableEq, Repr

/-- The options without a value. -/
inductive Switch
  | mirrorSubdirs
  | strictAlignment
  | debug
  deriving DecidableEq, Repr

namespace Slot

/-- The option that introduces the value; operands have none. -/
def option? : Slot → Option String
  | inputDir | outName => none
  | sourceLang => some "--source-lang"
  | targetLang => some "--target-lang"
  | suffix => some "--suffix"
  | minWords => some "--min-words"
  | maxWords => some "--max-words"
  | summaryJson => some "--summary-json"
  | logLevel => some "--log-level"

def placeholder : Slot → String
  | inputDir => "<InputDir>"
  | outName => "<OutputBaseName>"
  | sourceLang => "<SOURCE_LANG>"
  | targetLang => "<TARGET_LANG>"
  | suffix => "<SUFFIX>"
  | minWords => "<MIN_WORDS>"
  | maxWords => "<MAX_WORDS>"
  | summaryJson => "<SUMMARY_JSON>"
  | logLevel => "<LOG_LEVEL>"

def usage (slot : Slot) : String :=
  match slot.option? with
  | some option => option ++ " " ++ slot.placeholder
  | none => slot.placeholder

def valued : List Slot :=
  [sourceLang, targetLang, suffix, minWords, maxWords, summaryJson, logLevel]

def ofOption? (option : String) : Option Slot :=
  valued.find? (·.option? == some option)

end Slot

namespace Switch

def option : Switch → String
  | mirrorSubdirs => "--mirror-subdirs"
  | strictAlignment => "--strict-alignment"
  | debug => "--debug"

def ofOption? (option : String) : Option Switch :=
  [mirrorSubdirs, strictAlignment, debug].find? (·.option == option)

def turnOn (switch : Switch) (job : Job) : Job :=
  match switch with
  | mirrorSubdirs => { job with mirrorSubdirs := true }
  | strictAlignment => { job with strictAlignment := true }
  | debug => { job with debug := true }

end Switch

/-- Why the command line describes no job: a fault in it, or a wish for information. -/
inductive ArgumentFault
  | missingOperand
  | unexpected (argument : String)
  | noValue (slot : Slot)
  | unknownLevel (value : String)
  | badCount (slot : Slot) (value : String) (fault : CountFault)
  /-- Something given twice, as messages show it. -/
  | repeated (what : String)
  /-- A value attached to an option that takes none. -/
  | unwantedValue (option value : String)
  | help
  | version
  deriving DecidableEq, Repr

def programVersion : String := "bitext-filter 0.1.0"

def programPurpose : String :=
  "Filter a line-aligned bilingual corpus by per-line word counts"

namespace ArgumentFault

/-- What the user is told, with what was typed quoted by `quote`. -/
def messageWith (quote : String → String) : ArgumentFault → String
  | missingOperand => "error: the following required arguments were not provided:"
  | unexpected argument => "error: unexpected argument '" ++ quote argument ++ "' found"
  | noValue slot =>
    "error: a value is required for '" ++ slot.usage ++ "' but none was supplied"
  | unknownLevel value =>
    "error: invalid value '" ++ quote value ++ "' for '" ++ Slot.logLevel.usage ++ "'"
  | badCount slot value fault =>
    "error: invalid value '" ++ quote value ++ "' for '" ++ slot.usage ++ "': "
      ++ fault.message
  | repeated what => "error: the argument '" ++ what ++ "' cannot be used multiple times"
  | unwantedValue option value =>
    "error: unexpected value '" ++ quote value ++ "' for '" ++ option
      ++ "' found; no more were expected"
  | help => programPurpose
  | version => programVersion

def message (fault : ArgumentFault) : String := fault.messageWith Text.Terminal.plain

def messageOnChannel (fault : ArgumentFault) : String :=
  fault.messageWith Text.Terminal.plainOnChannel

/-- Information that was asked for is no error. -/
def isInformation : ArgumentFault → Bool
  | help | version => true
  | _ => false

def exitCode (fault : ArgumentFault) : Nat :=
  if fault.isInformation then 0 else 2

end ArgumentFault

/-- Reads a value that a path is made of; an empty one counts as none. -/
def readPath (slot : Slot) (value : String) : Except ArgumentFault Path :=
  if value = "" then .error (.noValue slot) else .ok ⟨value⟩

def readLimit (slot : Slot) (value : String) : Except ArgumentFault Nat :=
  match readCount value with
  | .ok count => .ok count
  | .error fault => .error (.badCount slot value fault)

/-- Reads the name of a level; an empty one counts as none. -/
def readLevel (value : String) : Except ArgumentFault LogLevel :=
  if value = "" then .error (.noValue .logLevel)
  else
    match LogLevel.ofName? value with
    | some level => .ok level
    | none => .error (.unknownLevel value)

def Slot.fill (slot : Slot) (value : String) (job : Job) : Except ArgumentFault Job :=
  match slot with
  | inputDir => (readPath slot value).map fun path => { job with inputDir := path }
  | outName => .ok { job with outName := value }
  | sourceLang => .ok { job with sourceLang := value }
  | targetLang => .ok { job with targetLang := value }
  | suffix => .ok { job with suffix := value }
  | minWords => (readLimit slot value).map fun count => { job with minWords := count }
  | maxWords => (readLimit slot value).map fun count => { job with maxWords := count }
  | summaryJson =>
    (readPath slot value).map fun path => { job with summaryJson := some path }
  | logLevel => (readLevel value).map fun level => { job with logLevel := level }

structure Draft where
  /-- The job with what has been filled in, over the defaults. -/
  job : Job
  /-- The slots that have their value. -/
  filled : List Slot
  /-- The switches that are on. -/
  switched : List Switch
  /-- A slot whose value is not yet complete, and the value as far as it goes. -/
  waiting : Option (Slot × Option String)
  /-- Two dashes have ended the options. -/
  operandsOnly : Bool
  deriving DecidableEq, Repr

namespace Draft

def start : Draft where
  job := { inputDir := ⟨""⟩, outName := "" }
  filled := []
  switched := []
  waiting := none
  operandsOnly := false

/-- Fills a slot in, once. -/
def fill (draft : Draft) (slot : Slot) (value : String) : Except ArgumentFault Draft :=
  if slot ∈ draft.filled then .error (.repeated slot.usage)
  else
    (slot.fill value draft.job).map fun job =>
      { draft with job, filled := slot :: draft.filled }

def settle (draft : Draft) : Except ArgumentFault Draft :=
  match draft.waiting with
  | none => .ok draft
  | some (slot, none) => .error (.noValue slot)
  | some (slot, some value) => { draft with waiting := none }.fill slot value

/-- Turns a switch on, once. -/
def switchOn (draft : Draft) (switch : Switch) : Except ArgumentFault Draft :=
  if switch ∈ draft.switched then .error (.repeated switch.option)
  else
    .ok { draft with
      job := switch.turnOn draft.job, switched := switch :: draft.switched }

/-- Whether a slot has a value, complete or not. -/
def isGiven (draft : Draft) (slot : Slot) : Bool :=
  draft.filled.contains slot || draft.waiting.any (·.1 == slot)

/-- The next operand. There are two. -/
def takeOperand (draft : Draft) (value : String) : Except ArgumentFault Draft :=
  if draft.isGiven .outName then .error (.unexpected value)
  else
    let slot := if draft.isGiven .inputDir then Slot.outName else Slot.inputDir
    draft.settle.map fun settled => { settled with waiting := some (slot, some value) }

/-- The option of an argument and the value attached to it: the first equals sign cuts. -/
def cutOption (argument : List Char) : String × Option String :=
  let option := String.ofList (argument.takeWhile (· != '='))
  match argument.dropWhile (· != '=') with
  | [] => (option, none)
  | _ :: value => (option, some (String.ofList value))

def takeLong (draft : Draft) (option : String) (attached : Option String) :
    Except ArgumentFault Draft := do
  match Slot.ofOption? option, attached with
  | some slot, some value => (← draft.settle).fill slot value
  | some slot, none => return { ← draft.settle with waiting := some (slot, none) }
  | none, some value =>
    if (Switch.ofOption? option).isSome || option = "--help" || option = "--version" then
      throw (.unwantedValue option value)
    else
      throw (.unexpected option)
  | none, none =>
    match Switch.ofOption? option with
    | some switch => (← draft.settle).switchOn switch
    | none =>
      if option = "--help" then do let _ ← draft.settle; throw .help
      else if option = "--version" then do let _ ← draft.settle; throw .version
      else throw (.unexpected option)

/-- An option with a short name; only information has one. -/
def takeShort (draft : Draft) (letter : Char) : Except ArgumentFault Draft := do
  if letter = 'h' then do let _ ← draft.settle; throw .help
  else if letter = 'V' then do let _ ← draft.settle; throw .version
  else throw (.unexpected (String.ofList ['-', letter]))

/-- An argument that does not look like an option: the value that was waited for, or an
operand. -/
def takePlain (draft : Draft) (argument : String) : Except ArgumentFault Draft :=
  match draft.waiting with
  | some (slot, none) => .ok { draft with waiting := some (slot, some argument) }
  | _ => draft.takeOperand argument

def take (draft : Draft) (argument : String) : Except ArgumentFault Draft :=
  if draft.operandsOnly then draft.takeOperand argument
  else
    match argument.toList with
    | ['-', '-'] => .ok { draft with operandsOnly := true }
    | '-' :: '-' :: name =>
      let (option, attached) := cutOption ('-' :: '-' :: name)
      draft.takeLong option attached
    | '-' :: letter :: _ => draft.takeShort letter
    | _ => draft.takePlain argument

def finish (draft : Draft) : Except ArgumentFault Job := do
  let settled ← draft.settle
  if settled.filled.contains .inputDir && settled.filled.contains .outName then
    return settled.job
  else
    throw .missingOperand

end Draft

def Job.ofArguments (arguments : List String) : Except ArgumentFault Job := do
  (← arguments.foldlM Draft.take Draft.start).finish

end ParallelCorpus
