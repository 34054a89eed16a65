import Patchbay.Json.Basic

namespace Patchbay

namespace Number

/-- Add digits to a significand for as long as it fits in 64 bits; the digits that found
no room are returned. -/
def absorb (significand : Nat) : List Char → Nat × List Char
  | [] => (significand, [])
  | digit :: rest =>
      let grown := 10 * significand + Numeral.digitValue digit
      if grown < 0x10000000000000000 then absorb grown rest else (significand, digit :: rest)

def powerOfTen? (exponent : Nat) : Option Binary64 :=
  Binary64.ofNat? (Nat.pow 10 exponent)

/-- Scale by a power of ten with one rounded multiplication or division; a small value is
first brought nearer by `10 ^ 308` at a time, after two of which it is zero. -/
def scaleByTen? (x : Binary64) : (steps : Nat) → (exponent : Int) → Option Binary64
  | steps, exponent =>
      if exponent.natAbs ≤ 308 then
        match powerOfTen? exponent.natAbs with
        | some power => if 0 ≤ exponent then x.mul? power else x.div? power
        | none => none
      else if x.isZero then some x
      else if 0 ≤ exponent then none
      else
        match steps, powerOfTen? 308 with
        | steps + 1, some power =>
            match x.div? power with
            | some x => scaleByTen? x steps (exponent + 308)
            | none => none
        | _, _ => some x

/-- The exponent that is written after the mark, unless it needs more than 31 bits. -/
def writtenExponent? (digits : List Char) : Option Nat :=
  let value := Numeral.ofDigits digits
  if value < 0x80000000 then some value else none

/-- A float reads up to nineteen or twenty leading digits into a whole significand, drops the
others, and scales the significand, converted to double precision, by the remaining power of
ten. So the last binary digit may differ from the nearest one for long texts. -/
def floatOf? (n : Numeral) : Option Binary64 :=
  let (whole, unreadWhole) := absorb 0 n.whole
  let (significand, unread) := absorb whole (n.fraction.getD [])
  let read := (n.fraction.getD []).length - unread.length
  let shift : Int := (unreadWhole.length : Int) - read
  let magnitude : Option Binary64 :=
    match n.exponent with
    | none => (Binary64.ofNat? significand).bind (scaleByTen? · 3 shift)
    | some (sign, digits) =>
        match writtenExponent? digits with
        | some written =>
            let exponent := if sign.isNegative then shift - written else shift + written
            (Binary64.ofNat? significand).bind (scaleByTen? · 3 exponent)
        | none =>
            if significand ≠ 0 ∧ !sign.isNegative then none else some (.zero false)
  magnitude.map fun x => { x with negative := n.sign.isNegative }

/-- The number that a numeral denotes: a whole number of 64 bits if it is written as one,
else a float. Negative zero is a float, and so is what is too large for 64 bits. There is none
beyond the finite floats. -/
def ofNumeral? (n : Numeral) : Option Number :=
  let value : Int := Numeral.ofDigits n.whole
  let signed := if n.sign.isNegative then -value else value
  if h : -0x8000000000000000 ≤ signed ∧ signed < 0x10000000000000000 then
    if n.fraction = none ∧ n.exponent = none ∧ ¬(n.sign.isNegative ∧ value = 0) then
      some (.integer signed h)
    else (floatOf? n).map .float
  else (floatOf? n).map .float

end Number

end Patchbay
