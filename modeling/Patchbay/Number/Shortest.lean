import Patchbay.Number.Numeral

namespace Patchbay

/-- The positional weight of the leading decimal digit of `num / den`. -/
def leadingWeight (num den : Nat) : Int :=
  if den ≤ num then (decimalLength (num / den) : Int) - 1
  else -((decimalLength ((den + num - 1) / num - 1) : Nat) : Int)

structure Decimal where
  coefficient : Nat
  exponent : Int
deriving DecidableEq


namespace Binary64

/-- The reals that round to a number, in quarters of its unit: a quarter below a power of
two the neighbour is nearer. The ends belong to it iff the significand is even. -/
structure Interval where
  low : Nat
  middle : Nat
  high : Nat
  closed : Bool
  exponent : Int

def interval (x : Binary64) : Interval :=
  { low := 4 * x.significand -
      (if x.significand = 0x10000000000000 ∧ -1074 < x.exponent then 1 else 2)
    middle := 4 * x.significand
    high := 4 * x.significand + 2
    closed := x.significand % 2 == 0
    exponent := x.exponent - 2 }

/-- A multiple `coefficient * 10 ^ weight` measured in units of `2 ^ exponent`, as a fraction. -/
def gridPoint (coefficient : Nat) (weight exponent : Int) : Nat × Nat :=
  (coefficient * Nat.pow 10 weight.toNat * Nat.pow 2 (-exponent).toNat,
    Nat.pow 10 (-weight).toNat * Nat.pow 2 exponent.toNat)

def Interval.holds (i : Interval) (point : Nat × Nat) : Bool :=
  if i.closed then i.low * point.2 ≤ point.1 && point.1 ≤ i.high * point.2
  else i.low * point.2 < point.1 && point.1 < i.high * point.2

def Interval.distance (i : Interval) (point : Nat × Nat) : Nat :=
  (i.middle * point.2 - point.1) + (point.1 - i.middle * point.2)

/-- Of the two neighbours on the grid of `10 ^ weight` the nearer one that reads back. -/
def onGrid? (x : Binary64) (weight : Int) : Option Decimal :=
  let i := x.interval
  let (num, den) := x.ratio
  let below := num * Nat.pow 10 (-weight).toNat / (den * Nat.pow 10 weight.toNat)
  let lower := gridPoint below weight i.exponent
  let upper := gridPoint (below + 1) weight i.exponent
  match i.holds lower, i.holds upper with
  | true, true =>
      some ⟨if i.distance upper < i.distance lower then below + 1 else below, weight⟩
  | true, false => some ⟨below, weight⟩
  | false, true => some ⟨below + 1, weight⟩
  | false, false => none

/-- The decimal of fewest digits that reads back as `x`, and of those the nearest to it.
Seventeen digits always suffice. -/
def shortest (x : Binary64) : Decimal :=
  if x.isZero then ⟨0, 0⟩
  else
    let (num, den) := x.ratio
    let top := leadingWeight num den
    ((List.range 17).findSome? fun (count : Nat) => x.onGrid? (top - count)).getD ⟨0, 0⟩

end Binary64

/-- How a decimal is laid out: positional while the leading digit's weight lies in the given
range, else one leading digit and a signed exponent. -/
structure DecimalLayout where
  leastPositional : Int
  mostPositional : Int

namespace DecimalLayout

def zeros (count : Nat) : List Char :=
  List.replicate count '0'

/-- A point is always written, with at least one digit on either side of it. -/
def positional (sign : Sign) (digits : List Char) (weight : Int) : Numeral :=
  if 0 ≤ weight then
    let before := weight.toNat + 1
    let whole := digits.take before ++ zeros (before - digits.length)
    let fraction := digits.drop before
    ⟨sign, whole, some (if fraction.isEmpty then ['0'] else fraction), none⟩
  else ⟨sign, ['0'], some (zeros ((-weight).toNat - 1) ++ digits), none⟩

/-- The exponent always has a sign; the point is left out after a lone digit. -/
def exponential (sign : Sign) (digits : List Char) (weight : Int) : Numeral :=
  let fraction := digits.drop 1
  ⟨sign, digits.take 1, if fraction.isEmpty then none else some fraction,
    some (if weight < 0 then .minus else .plus, Nat.toDigits 10 weight.natAbs)⟩

def numeral (layout : DecimalLayout) (sign : Sign) (d : Decimal) : Numeral :=
  let digits := Nat.toDigits 10 d.coefficient
  let weight := d.exponent + digits.length - 1
  let significant := (digits.reverse.dropWhile (· == '0')).reverse
  let shown := if significant.isEmpty then ['0'] else significant
  if layout.leastPositional ≤ weight && weight ≤ layout.mostPositional then
    positional sign shown weight
  else exponential sign shown weight

end DecimalLayout

end Patchbay
