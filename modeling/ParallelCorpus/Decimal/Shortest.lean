/-!
# Shortest decimals

A finite float stands for all reals that round to it. They form an interval around its
value, and the decimal to write is the one in that interval with the fewest digits, the
nearest to the value if there are several, the larger one of two that are equally near.
All arithmetic is exact: an interval is kept as natural numbers over one denominator.
-/

namespace ParallelCorpus.Decimal

/-- The reals that round to a positive float: those from `low / unit` to `high / unit`,
around the float itself, which is `value / unit`. The ends belong to it when `closed`. -/
structure Interval where
  low : Nat
  value : Nat
  high : Nat
  unit : Nat
  closed : Bool

/-- The interval of the float with these bits, its sign aside. The numerators count
quarters of the last binary place, so that the halves between neighbours are whole;
below a power of two the neighbour is only half a place away. -/
def Interval.ofBits (bits : UInt64) : Interval :=
  let fraction := bits.toNat % Nat.pow 2 52
  let field := bits.toNat / Nat.pow 2 52 % Nat.pow 2 11
  let mantissa := if field = 0 then fraction else fraction + Nat.pow 2 52
  let exponent : Int := (max field 1 : Nat) - 1077
  let scale := Nat.pow 2 exponent.toNat
  let below := if fraction = 0 ∧ 1 < field then 1 else 2
  { low := (4 * mantissa - below) * scale
    value := 4 * mantissa * scale
    high := (4 * mantissa + 2) * scale
    unit := Nat.pow 2 (-exponent).toNat
    closed := mantissa % 2 == 0 }

/-- Whether `digits * 10 ^ exponent` lies in the interval. -/
def Interval.holds (interval : Interval) (digits : Nat) (exponent : Int) : Bool :=
  let numerator := digits * Nat.pow 10 exponent.toNat * interval.unit
  let denominator := Nat.pow 10 (-exponent).toNat
  if interval.closed then
    interval.low * denominator ≤ numerator && numerator ≤ interval.high * denominator
  else
    interval.low * denominator < numerator && numerator < interval.high * denominator

def digitCount (n : Nat) : Nat :=
  (Nat.toDigits 10 n).length

/-- The power of ten of the first digit of the value. -/
def Interval.leading (interval : Interval) : Int :=
  if interval.unit ≤ interval.value then
    digitCount (interval.value / interval.unit) - 1
  else
    let places := digitCount (interval.unit / interval.value)
    if interval.unit ≤ interval.value * Nat.pow 10 (places - 1) then 1 - places
    else -places

/-- The multiple of `10 ^ exponent` that lies in the interval, if one of the two
neighbours of the value does. -/
def Interval.multiple? (interval : Interval) (exponent : Int) : Option Nat :=
  let numerator := interval.value * Nat.pow 10 (-exponent).toNat
  let denominator := interval.unit * Nat.pow 10 exponent.toNat
  let lower := numerator / denominator
  match interval.holds lower exponent, interval.holds (lower + 1) exponent with
  | true, true =>
    some (if 2 * (numerator % denominator) < denominator then lower else lower + 1)
  | true, false => some lower
  | false, true => some (lower + 1)
  | false, false => none

/-- The digits and the power of ten of the last of them: the coarsest grid with a
multiple in the interval decides. Seventeen digits always suffice; the exact value
stands behind them. -/
def Interval.shortest (interval : Interval) : Nat × Int :=
  let grids := (List.range 17).map fun (place : Nat) => interval.leading - place
  let found := grids.findSome? fun exponent =>
    (interval.multiple? exponent).map fun digits => (digits, exponent)
  found.getD (interval.value * Nat.pow 5 interval.unit.log2, -interval.unit.log2)

end ParallelCorpus.Decimal
