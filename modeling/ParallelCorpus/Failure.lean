import ParallelCorpus.Path

/-!
# What can go wrong

Every way in which a run can fail is a constructor, holding what its message shows. The
wording is fixed once, in `Failure.message`; the cause of a failed file operation stands
apart from it.
-/

namespace ParallelCorpus

section Outcomes

variable {ε α β : Type}

instance decidableEqOutcome [DecidableEq ε] [DecidableEq α] : DecidableEq (Except ε α)
  | .ok value, .ok other => decidable_of_iff (value = other) (by simp)
  | .error fault, .error other => decidable_of_iff (fault = other) (by simp)
  | .ok _, .error _ => isFalse (by simp)
  | .error _, .ok _ => isFalse (by simp)

/-- A computation in two steps succeeds when both steps do. -/
theorem bind_eq_ok_iff {first : Except ε α} {next : α → Except ε β} {value : β} :
    (first >>= next) = .ok value ↔
      ∃ between, first = .ok between ∧ next between = .ok value := by
  cases first <;> simp [bind, Except.bind]

/-- A computation in two steps fails where its first or its second step does. -/
theorem bind_eq_error_iff {first : Except ε α} {next : α → Except ε β} {fault : ε} :
    (first >>= next) = .error fault ↔
      first = .error fault ∨
        ∃ between, first = .ok between ∧ next between = .error fault := by
  cases first <;> simp [bind, Except.bind]

end Outcomes

inductive FileFault
  /-- Nothing has that name. -/
  | notFound
  /-- A file stands where the path needs a directory. -/
  | notADirectory
  | isADirectory
  /-- A component of more than 255 bytes, or a path of 4096 bytes or more. -/
  | nameTooLong
  /-- More than forty links on the way. -/
  | tooManyLinks
  /-- A path with a zero byte. -/
  | zeroByte
  /-- No room is left on the device. -/
  | noSpace
  /-- The device does not answer. -/
  | deviceError
  /-- Any other reason, in words. -/
  | other (reason : String)
  deriving DecidableEq, Repr

def FileFault.text : FileFault → String
  | notFound => "No such file or directory (os error 2)"
  | notADirectory => "Not a directory (os error 20)"
  | isADirectory => "Is a directory (os error 21)"
  | nameTooLong => "File name too long (os error 36)"
  | tooManyLinks => "Too many levels of symbolic links (os error 40)"
  | zeroByte => "file name contained an unexpected NUL byte"
  | noSpace => "No space left on device (os error 28)"
  | deviceError => "Input/output error (os error 5)"
  | other reason => reason

inductive SettingFault
  /-- The value of a language option that is no plain directory name, in its quoted
  form. -/
  | languageName (option quoted : String)
  /-- One language, in its quoted form, on both sides. -/
  | sameLanguage (quoted : String)
  | emptyBaseName
  /-- Any other fault, in words. -/
  | other (reason : String)
  deriving DecidableEq, Repr

def SettingFault.message : SettingFault → String
  | languageName option quoted =>
    option ++ " must be a plain directory name, got " ++ quoted
  | sameLanguage quoted => "source and target language are both " ++ quoted
  | emptyBaseName => "output base name is empty"
  | other reason => reason

inductive Failure
  /-- The corpus root lacks the directory of one of the languages. -/
  | missingLanguage (root : Path) (sourceLang targetLang : String)
  /-- No word count lies between the limits. -/
  | emptyRange (above below : Nat)
  | setting (fault : SettingFault)
  | openInput (path : Path) (cause : FileFault)
  | openOutput (path : Path) (cause : FileFault)
  | removeOutput (path : Path) (cause : FileFault)
  | readLine (path : Path) (cause : FileFault)
  | writeLine (path : Path) (cause : FileFault)
  /-- The documents of a pair have different numbers of lines. -/
  | misaligned (source target : Path) (sourceLines targetLines : Nat)
  /-- The summary has no JSON form. -/
  | summaryForm
  /-- A file operation whose path the message does not show. -/
  | file (cause : FileFault)
  deriving DecidableEq, Repr

namespace Failure

def message : Failure → String
  | missingLanguage root sourceLang targetLang =>
    "Invalid input directory " ++ root.text ++ ": must have `" ++ sourceLang ++ "` and `"
      ++ targetLang ++ "` folders. Usage: bitext-filter <InputDir> <OutputBaseName>"
  | emptyRange above below =>
    "Invalid word bounds: no word count lies strictly between " ++ toString above
      ++ " and " ++ toString below
  | setting fault => "Configuration error: " ++ fault.message
  | openInput path _ => "Unable to READ: " ++ path.text
  | openOutput path _ => "Unable to APPEND: " ++ path.text
  | removeOutput path _ => "Unable to remove previous output " ++ path.text
  | readLine path _ => "Failed to read line from " ++ path.text
  | writeLine path _ => "Failed to write to " ++ path.text
  | misaligned source target sourceLines targetLines =>
    "Misaligned document pair: " ++ source.text ++ " has " ++ toString sourceLines
      ++ " lines but " ++ target.text ++ " has " ++ toString targetLines
  | summaryForm => "Failed to serialize summary"
  | file cause => cause.text

def fault? : Failure → Option FileFault
  | openInput _ cause | openOutput _ cause | removeOutput _ cause => some cause
  | readLine _ cause | writeLine _ cause | file cause => some cause
  | _ => none

/-- What the report adds to the message: the fault behind it, unless the message is the
fault. -/
def cause? : Failure → Option FileFault
  | file _ => none
  | failure => failure.fault?

end Failure
end ParallelCorpus
