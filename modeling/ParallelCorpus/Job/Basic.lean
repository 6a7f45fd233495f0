import ParallelCorpus.Document
import ParallelCorpus.Filter.Pair
import ParallelCorpus.Text.Quoted
import ParallelCorpus.WordRange

/-!
# Jobs

A job says what to filter: a corpus root with one directory per language, the two
languages, the suffix of documents, the limits on words per line, and where the results
go. The outputs stand at the corpus root under a common base name, one per language. Not
every job makes sense; `check` names the first thing that is wrong with one.
-/

namespace ParallelCorpus

inductive LogLevel
  | debug
  | info
  | warning
  | error
  deriving DecidableEq, Repr

def LogLevel.name : LogLevel → String
  | debug => "DEBUG"
  | info => "INFO"
  | warning => "WARNING"
  | error => "ERROR"

def LogLevel.ofName? (name : String) : Option LogLevel :=
  [debug, info, warning, error].find? (·.name == name)

structure Job where
  /-- The corpus root, which holds one directory per language. -/
  inputDir : Path
  /-- The common base name of the two outputs. -/
  outName : String
  sourceLang : String := "en"
  targetLang : String := "fa"
  /-- The end of the file names of documents. -/
  suffix : String := ".ixml"
  /-- A line has more words than this. -/
  minWords : Nat := WordRange.standard.above
  /-- A line has fewer words than this. -/
  maxWords : Nat := WordRange.standard.below
  /-- Nested documents have their counterparts at the same place below the target
  directory. -/
  mirrorSubdirs : Bool := false
  /-- Documents with different numbers of lines are refused. -/
  strictAlignment : Bool := false
  /-- Where the tally is also written as JSON. -/
  summaryJson : Option Path := none
  logLevel : LogLevel := .warning
  /-- Overrides the level by the most talkative one. -/
  debug : Bool := false
  deriving DecidableEq, Repr

/-- The path below `root` of the output in one language. -/
def outputPath (root : Path) (baseName language : String) : Path :=
  root.join ⟨baseName ++ "_Short." ++ language⟩

namespace Job

def sourceDir (job : Job) : Path :=
  job.inputDir.join ⟨job.sourceLang⟩

def targetDir (job : Job) : Path :=
  job.inputDir.join ⟨job.targetLang⟩

/-- Where the accepted lines of a language go. -/
def output (job : Job) (language : String) : Path :=
  outputPath job.inputDir job.outName language

def outputs (job : Job) : OutputPaths :=
  ⟨job.output job.sourceLang, job.output job.targetLang⟩

def lookup (job : Job) : Lookup :=
  if job.mirrorSubdirs then .mirrored else .flat

def range (job : Job) : Except Failure WordRange :=
  WordRange.ofLimits job.minWords job.maxWords

def effectiveLevel (job : Job) : LogLevel :=
  if job.debug then .debug else job.logLevel

/-- A plain directory name is not empty, is neither of the dots, and has no slash of
either kind. -/
def isPlainName (name : String) : Bool :=
  name != "" && name != "." && name != ".." &&
    !name.toList.any fun c => c == '/' || c == '\\'

/-- Refuses a language that is no plain directory name. -/
def checkLanguage (option language : String) : Except Failure Unit :=
  if isPlainName language then .ok ()
  else .error (.setting (.languageName option (Text.quoted language)))

/-- Refuses a job that makes no sense; of several faults the first is named. -/
def check (job : Job) : Except Failure Unit := do
  checkLanguage "--source-lang" job.sourceLang
  checkLanguage "--target-lang" job.targetLang
  if job.sourceLang = job.targetLang then
    throw (.setting (.sameLanguage (Text.quoted job.sourceLang)))
  if job.outName = "" then
    throw (.setting .emptyBaseName)
  discard job.range

end Job
end ParallelCorpus
