import ParallelCorpus.Json.Record
import ParallelCorpus.Tally.Basic
import ParallelCorpus.WordRange

/-!
# Tallies as JSON

A tally is written as an object with one member to a line, in a fixed order and indented
by two blanks for every level, without a line feed at the end. It is read by the names
of its members. A word figure that no line has set is null; when it is read, it may also
be missing.
-/

namespace ParallelCorpus

namespace Json

/-- A member as it stands on its line. -/
def writeMember (name value : String) : String :=
  "\"" ++ name ++ "\": " ++ value

/-- Members as an object whose closing brace is indented by `indent` blanks. -/
def writeObject (indent : Nat) (members : List String) : String :=
  let outer := String.ofList (List.replicate indent ' ')
  let inner := String.ofList (List.replicate (indent + 2) ' ')
  "\x7b\n" ++ ",\n".intercalate (members.map (inner ++ ·)) ++ "\n" ++ outer ++ "\x7d"

end Json

namespace SideTally

/-- The names of the members of one side, in the order in which they are written. -/
def memberNames : List String :=
  ["sum_of_word_counts", "max_word_count", "min_word_count"]

/-- The figures of one side as an object within another. -/
def json (side : SideTally) : String :=
  Json.writeObject 2
    [ Json.writeMember "sum_of_word_counts" (toString side.words),
      Json.writeMember "max_word_count" (toString side.longest),
      Json.writeMember "min_word_count" ((side.shortest.map toString).getD "null") ]

/-- Reads the value of a member; only the last figure may be null. -/
def readMember (name : String) : Json.Reader (Option Nat) := fun text =>
  if name = "min_word_count" then Json.optionalCount text
  else (Json.count text).map fun (value, text) => (some value, text)

/-- A figure that has to be there and is not null. -/
def requireFigure (name : String) (found : List (String × Option Nat)) :
    Except Json.Fault Nat := do
  match ← Json.require name found with
  | some value => return value
  | none => throw .misshapen

def read : Json.Reader SideTally := fun text => do
  let (found, text) ← Json.record memberNames readMember text
  let words ← requireFigure "sum_of_word_counts" found
  let longest ← requireFigure "max_word_count" found
  return (⟨words, longest, (found.lookup "min_word_count").join⟩, text)

def ofJson (text : String) : Except Json.Fault SideTally :=
  Json.whole read text

end SideTally

namespace Tally

/-- The names of the members of a tally, in the order in which they are written. -/
def memberNames : List String :=
  ["approved", "discarded", "total_lines", "documents", "source", "target"]

def json (tally : Tally) : String :=
  Json.writeObject 0
    [ Json.writeMember "approved" (toString tally.approved),
      Json.writeMember "discarded" (toString tally.discarded),
      Json.writeMember "total_lines" (toString tally.lines),
      Json.writeMember "documents" (toString tally.documents),
      Json.writeMember "source" tally.source.json,
      Json.writeMember "target" tally.target.json ]

inductive Member
  | count (value : Nat)
  | side (figures : SideTally)
  deriving DecidableEq, Repr

def readMember (name : String) : Json.Reader Member := fun text =>
  if name = "source" ∨ name = "target" then
    (SideTally.read text).map fun (figures, text) => (.side figures, text)
  else
    (Json.count text).map fun (value, text) => (.count value, text)

def requireCount (name : String) (found : List (String × Member)) :
    Except Json.Fault Nat := do
  match ← Json.require name found with
  | .count value => return value
  | .side _ => throw .misshapen

def requireSide (name : String) (found : List (String × Member)) :
    Except Json.Fault SideTally := do
  match ← Json.require name found with
  | .side figures => return figures
  | .count _ => throw .misshapen

def read : Json.Reader Tally := fun text => do
  let (found, text) ← Json.record memberNames readMember text
  let approved ← requireCount "approved" found
  let discarded ← requireCount "discarded" found
  let lines ← requireCount "total_lines" found
  let documents ← requireCount "documents" found
  let source ← requireSide "source" found
  let target ← requireSide "target" found
  return (⟨approved, discarded, lines, documents, source, target⟩, text)

def ofJson (text : String) : Except Json.Fault Tally :=
  Json.whole read text

end Tally

namespace WordRange

/-- Reads the limits of a range, which need not leave a count between them. -/
def read : Json.Reader WordRange := fun text => do
  let (found, text) ←
    Json.record ["min_exclusive", "max_exclusive"] (fun _ => Json.count) text
  let above ← Json.require "min_exclusive" found
  let below ← Json.require "max_exclusive" found
  return (⟨above, below⟩, text)

def ofJson (text : String) : Except Json.Fault WordRange :=
  Json.whole read text

end WordRange
end ParallelCorpus
