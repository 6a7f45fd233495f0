/-!
# Decimal digits

Numbers are read digit by digit. Only the ten digits of ASCII count, and the numbers
that they make up are kept in 64 bits.
-/

namespace ParallelCorpus.Text

def digitValue (c : Char) : Nat :=
  c.toNat - '0'.toNat

/-- The value of a character that is a decimal digit. -/
def digit? (c : Char) : Option Nat :=
  if c.isDigit then some (digitValue c) else none

/-- Counts are below this, the first number that does not fit in 64 bits. -/
def countBound : Nat := 18446744073709551616

end ParallelCorpus.Text
