import ParallelCorpus.Text.CaseTable

/-!
# Letter case

The full case mappings of the Unicode standard, which may turn one character into
several. Upper case looks at each character alone. Lower case does too, but for the
capital sigma: at the end of a word, that is after a letter with case and not before
one, it becomes the final form.
-/

namespace ParallelCorpus.Text

def upper (c : Char) : List Char :=
  match upperExpansions.lookup c.toNat with
  | some codes => codes.map Char.ofNat
  | none => [Char.ofNat ((upperRuns.findSome? (·.image? c.toNat)).getD c.toNat)]

def lower (c : Char) : List Char :=
  if c.toNat = 0x130 then
    ['i', Char.ofNat 0x307]
  else
    [Char.ofNat ((lowerRuns.findSome? (·.image? c.toNat)).getD c.toNat)]

/-- The first character that is not ignored between letters has a case. -/
def meetsCase (chars : List Char) : Bool :=
  match chars.dropWhile caseIgnorable.has with
  | [] => false
  | c :: _ => cased.has c

/-- The lower-case form of the text `after`, which stands behind the reversed text
`before`. -/
def lowerAfter (before : List Char) : List Char → List Char
  | [] => []
  | c :: after =>
    let lowered :=
      if c.toNat = 0x3A3 then
        [ if meetsCase before && !meetsCase after then Char.ofNat 0x3C2
          else Char.ofNat 0x3C3 ]
      else
        lower c
    lowered ++ lowerAfter (c :: before) after

def toUpper (s : String) : String :=
  String.ofList (s.toList.flatMap upper)

def toLower (s : String) : String :=
  String.ofList (lowerAfter [] s.toList)

def capitalize (s : String) : String :=
  match s.toList with
  | [] => ""
  | c :: rest => String.ofList (upper c ++ rest)

end ParallelCorpus.Text
