namespace Patchbay

/-- A finite number in double precision, `± significand * 2 ^ exponent`. Significands below
`2 ^ 52` occur at the least exponent only, so each number has one form; zero has two signs. -/
structure Binary64 where
  negative : Bool
  significand : Nat
  exponent : Int
  significand_lt : significand < 0x20000000000000
  normal : significand < 0x10000000000000 → exponent = -1074
  exponent_bounds : -1074 ≤ exponent ∧ exponent ≤ 971
deriving DecidableEq

namespace Binary64

def zero (negative : Bool) : Binary64 :=
  ⟨negative, 0, -1074, by decide, fun _ => rfl, by decide⟩

instance : Inhabited Binary64 := ⟨zero false⟩

def isZero (x : Binary64) : Bool :=
  x.significand == 0

def roundQuotient (num den : Nat) : Nat :=
  let quotient := num / den
  let rest := num % den
  if 2 * rest < den || (2 * rest == den && quotient % 2 == 0) then quotient else quotient + 1

/-- The numerator and denominator of `num / den / 2 ^ exponent`. -/
def unscale (num den : Nat) (exponent : Int) : Nat × Nat :=
  if 0 ≤ exponent then (num, den * Nat.pow 2 exponent.toNat)
  else (num * Nat.pow 2 (-exponent).toNat, den)

/-- The exponent at which the quotient has a significand of 53 binary digits, or the least
exponent if it has fewer there. -/
def exponentFor (num den : Nat) : Int :=
  let guess : Int := (num.log2 : Int) - den.log2 - 53
  let (scaledNum, scaledDen) := unscale num den guess
  max (if 0x20000000000000 ≤ scaledNum / scaledDen then guess + 1 else guess) (-1074)

def ofParts? (negative : Bool) (significand : Nat) (exponent : Int) : Option Binary64 :=
  if hlt : significand < 0x20000000000000 then
    if hnormal : significand < 0x10000000000000 → exponent = -1074 then
      if hbounds : -1074 ≤ exponent ∧ exponent ≤ 971 then
        some ⟨negative, significand, exponent, hlt, hnormal, hbounds⟩
      else none
    else none
  else none

/-- The nearest number to `± num / den`, ties to the even significand; `none` when it lies
beyond the largest finite one. -/
def ofRatio? (negative : Bool) (num den : Nat) : Option Binary64 :=
  if num = 0 then some (zero negative)
  else
    let exponent := exponentFor num den
    let (scaledNum, scaledDen) := unscale num den exponent
    let significand := roundQuotient scaledNum scaledDen
    if significand = 0x20000000000000 then ofParts? negative 0x10000000000000 (exponent + 1)
    else ofParts? negative significand exponent

def ratio (x : Binary64) : Nat × Nat :=
  if 0 ≤ x.exponent then (x.significand * Nat.pow 2 x.exponent.toNat, 1)
  else (x.significand, Nat.pow 2 (-x.exponent).toNat)

def ofNat? (n : Nat) : Option Binary64 :=
  ofRatio? false n 1

def negate (x : Binary64) : Binary64 :=
  { x with negative := !x.negative }

def ofInt? (i : Int) : Option Binary64 :=
  (ofNat? i.natAbs).map fun x => if i < 0 then x.negate else x

def mul? (x y : Binary64) : Option Binary64 :=
  let (xn, xd) := x.ratio
  let (yn, yd) := y.ratio
  ofRatio? (x.negative != y.negative) (xn * yn) (xd * yd)

def div? (x y : Binary64) : Option Binary64 :=
  let (xn, xd) := x.ratio
  let (yn, yd) := y.ratio
  if yn = 0 then none else ofRatio? (x.negative != y.negative) (xn * yd) (xd * yn)

def truncate (x : Binary64) : Int :=
  let (num, den) := x.ratio
  if x.negative then -((num / den : Nat) : Int) else (num / den : Nat)

end Binary64

end Patchbay
