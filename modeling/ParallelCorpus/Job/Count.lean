import ParallelCorpus.Text.Digit

/-!
# Counts on the command line

A limit is given as decimal digits, with or without a plus sign in front and with any
number of zeros, and is below `2 ^ 64`. Digits are read from the left, and the first
thing that goes wrong is what is reported.
-/

namespace ParallelCorpus

open Text (countBound digit?)

inductive CountFault
  | empty
  | badDigit
  | tooLarge
  deriving DecidableEq, Repr

def CountFault.message : CountFault → String
  | empty => "cannot parse integer from empty string"
  | badDigit => "invalid digit found in string"
  | tooLarge => "number too large to fit in target type"

def readDigits (value : Nat) : List Char → Except CountFault Nat
  | [] => .ok value
  | c :: rest =>
    match digit? c with
    | none => .error .badDigit
    | some digit =>
      if value * 10 + digit < countBound then readDigits (value * 10 + digit) rest
      else .error .tooLarge

/-- Reads a count. A sign alone is no count. -/
def readCount (text : String) : Except CountFault Nat :=
  match text.toList with
  | [] => .error .empty
  | '+' :: c :: rest => readDigits 0 (c :: rest)
  | chars => readDigits 0 chars

end ParallelCorpus
