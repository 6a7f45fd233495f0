import ParallelCorpus.Job.Basic
import ParallelCorpus.Text.Case
import ParallelCorpus.Text.Quoted

/-!
# The journal

A run keeps a journal of what it does. Every event has a level, and a job decides from
which level on its events are shown. Controls that could steer a terminal are written
out in it. The time that a line of the journal opens with is left out, and so are its
colours.
-/

namespace ParallelCorpus

inductive Event
  | started
  | removing (output : Path)
  /-- A directory below `directory` was not searched. -/
  | passedOver (directory inner : Path) (cause : FileFault)
  | found (documents : Nat) (suffix : String) (directory : Path)
  | filtering (pairs : Nat) (root : Path)
  | filtered (source : Path) (approved discarded : Nat)
  | finished (documents lines approved : Nat)
  | summaryWritten (path : Path)
  deriving DecidableEq, Repr

namespace LogLevel

/-- Levels from the most talkative to the most silent. -/
def rank : LogLevel → Nat
  | debug => 0
  | info => 1
  | warning => 2
  | error => 3

def directive : LogLevel → String
  | debug => "debug"
  | info => "info"
  | warning => "warn"
  | error => "error"

/-- The word in a log filter for a level that is named in any case. Names of no level
are passed on in lower case. -/
def directiveOf (name : String) : String :=
  match ofName? (Text.toUpper name) with
  | some level => level.directive
  | none => Text.toLower name

/-- The level that a log filter stands for; filters of no level stand for warnings. -/
def ofDirective (word : String) : LogLevel :=
  ([debug, info, warning, error].find? (·.directive == word)).getD warning

end LogLevel

namespace Event

def level : Event → LogLevel
  | started | removing _ | filtering .. | summaryWritten _ => .info
  | passedOver .. => .warning
  | found .. | filtered .. | finished .. => .debug

def words : Event → String
  | started => "bitext-filter v0.1.0 starting"
  | removing output => "Removing previous output " ++ output.text
  | passedOver directory inner cause =>
    "Skipping unreadable entry under " ++ directory.text ++ ": IO error for operation on "
      ++ inner.text ++ ": " ++ cause.text
  | found documents suffix directory =>
    "Found " ++ toString documents ++ " documents matching " ++ Text.quoted suffix
      ++ " under " ++ directory.text
  | filtering pairs root =>
    "Filtering " ++ toString pairs ++ " document pairs under " ++ root.text
  | filtered source approved discarded =>
    source.text ++ ": " ++ toString approved ++ " approved, " ++ toString discarded
      ++ " discarded"
  | finished documents lines approved =>
    "Corpus done: " ++ toString documents ++ " documents, " ++ toString lines
      ++ " lines, " ++ toString approved ++ " approved"
  | summaryWritten path => "Summary written to " ++ path.text

/-- How a character is written in the journal: the bell, the backspace, the form feed,
the escape character, the delete character and the controls outside ASCII by their code
points. -/
def disarmed (c : Char) : List Char :=
  if [0x07, 0x08, 0x0C, 0x1B, 0x7F].contains c.toNat then
    ['\\', 'x', Nat.digitChar (c.toNat / 16), Nat.digitChar (c.toNat % 16)]
  else if 0x80 ≤ c.toNat ∧ c.toNat ≤ 0x9F then Text.codePointEscape c
  else [c]

def message (event : Event) : String :=
  String.ofList (event.words.toList.flatMap disarmed)

def isShown (event : Event) (job : Job) : Bool :=
  (LogLevel.ofDirective (LogLevel.directiveOf job.effectiveLevel.name)).rank ≤
    event.level.rank

end Event
end ParallelCorpus
