import ParallelCorpus.Decimal.Positional
import ParallelCorpus.Tally.Basic
import ParallelCorpus.Text.Case

/-!
# Reports in words

The line printed when a document pair is done, and the block that closes a run. Ratios
are floats in their shortest decimal form; where there is nothing to divide by, the
report says so.
-/

namespace ParallelCorpus

/-- The quotient of two counts below `2 ^ 64` as a float, each rounded first; none over
zero. -/
def ratio? (part whole : Nat) : Option Float :=
  if whole = 0 then none else some (part.toUInt64.toFloat / whole.toUInt64.toFloat)

def ratioText : Option Float → String
  | some value => Decimal.text value
  | none => "n/a"

/-- The mean number of words per line over `lines` lines. -/
def SideTally.average? (side : SideTally) (lines : Nat) : Option Float :=
  ratio? side.words lines

/-- The approved pairs among the classified ones, in percent. -/
def Tally.acceptance? (tally : Tally) : Option Float :=
  (ratio? tally.approved tally.classified).map (· * 100.0)

def Tally.progressLine (tally : Tally) (source : String) : String :=
  source ++ "   Acceptance: " ++ toString tally.approved ++ "  of  "
    ++ toString tally.classified

/-- The figures of one side behind the name of its language. -/
def SideTally.describe (side : SideTally) (language : String) (lines : Nat) : String :=
  Text.capitalize language ++ " Max: " ++ toString side.longest ++ ", Avg: "
    ++ ratioText (side.average? lines) ++ ", Min: " ++ toString side.reportedShortest

/-- What introduces the figures of the first side; those of the second are set below
them. -/
def wordsPerLine : String := "Word per line: "

def Tally.summaryLines (tally : Tally) (sourceLang targetLang : String) (maxWords : Nat) :
    List String :=
  [ "",
    "Phrases below " ++ toString maxWords ++ " words:",
    String.ofList (List.replicate 85 '='),
    "Total: Approved: " ++ toString tally.approved ++ "  Discarded "
      ++ toString tally.discarded ++ "  Acceptance: "
      ++ ratioText tally.acceptance? ++ " %",
    wordsPerLine ++ tally.source.describe sourceLang tally.lines,
    String.ofList (List.replicate wordsPerLine.length ' ')
      ++ tally.target.describe targetLang tally.lines ]

def Tally.summary (tally : Tally) (sourceLang targetLang : String)
    (maxWords : Nat) : String :=
  "\n".intercalate (tally.summaryLines sourceLang targetLang maxWords)

end ParallelCorpus
