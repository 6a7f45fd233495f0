/-!
# Names of entries

An entry is known in its directory by a name. Paths are cut at slashes into names, and
the dots stand for directories that are there already, so neither can be a name.
-/

namespace ParallelCorpus

def nameLimit : Nat := 255

/-- Whether a text is a name: not empty, no dots, without a slash and not too long. -/
def isName (text : String) : Bool :=
  text != "" && text != "." && text != ".." && !text.toList.contains '/' &&
    text.utf8ByteSize ≤ nameLimit

structure Name where
  text : String
  valid : isName text
  deriving DecidableEq, Repr

def Name.ofText? (text : String) : Option Name :=
  if valid : isName text then some ⟨text, valid⟩ else none

/-- The names that lead to an entry, innermost first. The root has none. -/
abbrev Location := List Name

def Location.path (location : Location) : String :=
  "/" ++ "/".intercalate (location.reverse.map Name.text)

end ParallelCorpus
