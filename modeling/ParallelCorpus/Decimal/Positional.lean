import ParallelCorpus.Decimal.Shortest

/-!
# Floats as positional decimals

A float is written with its shortest digits in place, whatever its size: never with an
exponent, without a point when it is whole, and with the sign of a negative zero.
-/

namespace ParallelCorpus.Decimal

/-- `digits * 10 ^ exponent` with every digit in its place. -/
def place (digits : List Char) (exponent : Int) : List Char :=
  if 0 ≤ exponent then
    digits ++ List.replicate exponent.toNat '0'
  else
    let places := (-exponent).toNat
    if places < digits.length then
      let whole := digits.length - places
      digits.take whole ++ '.' :: digits.drop whole
    else
      '0' :: '.' :: (List.replicate (places - digits.length) '0' ++ digits)

/-- A positive decimal, without zeros behind the last digit that counts. -/
def magnitudeText (digits : Nat) (exponent : Int) : String :=
  let written := Nat.toDigits 10 digits
  let kept := (written.reverse.dropWhile (· == '0')).reverse
  String.ofList (place kept (exponent + (written.length - kept.length : Nat)))

def text (x : Float) : String :=
  let bits := x.toBits.toNat
  let field := bits / Nat.pow 2 52 % Nat.pow 2 11
  let fraction := bits % Nat.pow 2 52
  let sign := if bits < Nat.pow 2 63 then "" else "-"
  if field = 2047 then
    if fraction = 0 then sign ++ "inf" else "NaN"
  else if field = 0 ∧ fraction = 0 then
    sign ++ "0"
  else
    let (digits, exponent) := (Interval.ofBits x.toBits).shortest
    sign ++ magnitudeText digits exponent

end ParallelCorpus.Decimal
