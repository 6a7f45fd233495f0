import ParallelCorpus.Json.Scanner
import ParallelCorpus.Text.Digit

/-!
# JSON numbers

The only numbers that count here are whole, not negative and below `2 ^ 64`; all others
are read to their end and then found to be of another shape. A number beyond all floats
is no number at all. Its digits, as many as stay below `2 ^ 64`, and the power of ten of
the last of them are rounded to floats one by one, and it is their product that must not
go beyond.
-/

namespace ParallelCorpus.Json

open Text (countBound digitValue)

inductive Number
  | count (value : Nat)
  /-- Negative, with a fraction or an exponent, or too large to count. -/
  | other
  deriving DecidableEq, Repr

def spanDigits (text : List Char) : List Char × List Char :=
  (text.takeWhile Char.isDigit, text.dropWhile Char.isDigit)

/-- Puts digits behind `value` while it stays below the bound; also tells how many were
used. -/
def gather (value : Nat) : List Char → Nat × Nat
  | [] => (value, 0)
  | c :: digits =>
    let next := value * 10 + digitValue c
    if next < countBound then
      let (gathered, used) := gather next digits
      (gathered, used + 1)
    else
      (value, 0)

/-- A number rounded to 53 binary digits; a half goes to the even neighbour. -/
def roundBinary (n : Nat) : Nat :=
  let unit := Nat.pow 2 (n.log2 + 1 - 53)
  let below := n / unit
  let remainder := n % unit
  let roundsUp := unit < 2 * remainder || (unit == 2 * remainder && below % 2 == 1)
  (if roundsUp then below + 1 else below) * unit

/-- The least number that is rounded to none of the floats but to infinity. -/
def floatBound : Nat := Nat.pow 2 1024 - Nat.pow 2 970

/-- Whether the float for `significand`, times the one for `10 ^ exponent`, lies beyond
the largest float. -/
def overflows (significand : Nat) (exponent : Int) : Bool :=
  if exponent < 0 ∨ significand = 0 then false
  else if 308 < exponent then true
  else floatBound ≤ roundBinary significand * roundBinary (Nat.pow 10 exponent.toNat)

/-- A number with a fraction or an exponent, or beyond the bound. -/
def inexact (significand : Nat) (exponent : Int) (text : List Char) :
    Except Fault (Number × List Char) :=
  if overflows significand exponent then .error .malformed else .ok (.other, text)

def exponentPart (significand : Nat) (exponent : Int) (text : List Char) :
    Except Fault (Number × List Char) :=
  let (negative, text) := match text with
    | '-' :: rest => (true, rest)
    | '+' :: rest => (false, rest)
    | rest => (false, rest)
  match text, spanDigits text with
  | [], _ => .error .truncated
  | _, ([], _) => .error .malformed
  | _, (digits, rest) =>
    let power : Int := digits.foldl (fun value c => value * 10 + digitValue c) 0
    inexact significand (if negative then exponent - power else exponent + power) rest

def fractionPart (significand : Nat) (exponent : Int) (text : List Char) :
    Except Fault (Number × List Char) :=
  match text, spanDigits text with
  | [], _ => .error .truncated
  | _, ([], _) => .error .malformed
  | _, (digits, rest) =>
    let (significand, used) := gather significand digits
    let exponent := exponent - used
    match rest with
    | 'e' :: rest | 'E' :: rest => exponentPart significand exponent rest
    | rest => inexact significand exponent rest

/-- Reads a number from its first digit on. -/
def unsignedNumber (negative : Bool) (text : List Char) :
    Except Fault (Number × List Char) :=
  match text, spanDigits text with
  | [], _ => .error .truncated
  | _, ([], _) => .error .malformed
  | _, ('0' :: _ :: _, _) => .error .malformed
  | _, (digits, rest) =>
    let (significand, used) := gather 0 digits
    let exponent : Int := digits.length - used
    match rest with
    | '.' :: rest => fractionPart significand exponent rest
    | 'e' :: rest | 'E' :: rest => exponentPart significand exponent rest
    | rest =>
      if exponent = 0 then .ok (if negative then .other else .count significand, rest)
      else inexact significand exponent rest

def number : Reader Number
  | '-' :: text => unsignedNumber true text
  | text => unsignedNumber false text

def skipExponent (text : List Char) : Except Fault (List Char) :=
  let text := match text with
    | '-' :: rest | '+' :: rest => rest
    | rest => rest
  match spanDigits text with
  | ([], _) => .error .malformed
  | (_, rest) => .ok rest

/-- Skips a number from its first digit on, without regard to its size. -/
def skipUnsigned (text : List Char) : Except Fault (List Char) :=
  match spanDigits text with
  | ([], _) => .error .malformed
  | ('0' :: _ :: _, _) => .error .malformed
  | (_, '.' :: rest) =>
    match spanDigits rest with
    | ([], _) => .error .malformed
    | (_, 'e' :: rest) | (_, 'E' :: rest) => skipExponent rest
    | (_, rest) => .ok rest
  | (_, 'e' :: rest) | (_, 'E' :: rest) => skipExponent rest
  | (_, rest) => .ok rest

def skipNumber : List Char → Except Fault (List Char)
  | '-' :: text => skipUnsigned text
  | text => skipUnsigned text

end ParallelCorpus.Json
