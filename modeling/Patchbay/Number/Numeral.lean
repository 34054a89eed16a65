import Patchbay.Number.Binary64

namespace Patchbay

inductive Sign where
  | absent
  | plus
  | minus
deriving DecidableEq

namespace Sign

def isNegative : Sign → Bool
  | minus => true
  | _ => false

def text : Sign → List Char
  | absent => []
  | plus => ['+']
  | minus => ['-']

def take : List Char → Sign × List Char
  | '+' :: rest => (plus, rest)
  | '-' :: rest => (minus, rest)
  | text => (absent, text)

end Sign

/-- The parts of a written number: `sign whole [. fraction] [e sign digits]`. -/
structure Numeral where
  sign : Sign
  whole : List Char
  fraction : Option (List Char)
  exponent : Option (Sign × List Char)
deriving DecidableEq

def decimalLength (n : Nat) : Nat :=
  (Nat.toDigits 10 n).length

namespace Numeral

def digitValue (c : Char) : Nat :=
  c.toNat - '0'.toNat

def ofDigits (digits : List Char) : Nat :=
  digits.foldl (fun value digit => 10 * value + digitValue digit) 0

def takeDigits (text : List Char) : List Char × List Char :=
  (text.takeWhile Char.isDigit, text.dropWhile Char.isDigit)

def takeFraction : List Char → Option (List Char) × List Char
  | '.' :: rest =>
      let (digits, rest) := takeDigits rest
      (some digits, rest)
  | text => (none, text)

/-- The parts of a text that is a numeral from end to end. Either side of the point may
lack digits here, an exponent may not. -/
def parse? (text : List Char) : Option Numeral :=
  let (sign, text) := Sign.take text
  let (whole, text) := takeDigits text
  let (fraction, text) := takeFraction text
  match text with
  | [] => some ⟨sign, whole, fraction, none⟩
  | mark :: text =>
      let (exponentSign, text) := Sign.take text
      let (digits, text) := takeDigits text
      if (mark = 'e' ∨ mark = 'E') ∧ digits ≠ [] ∧ text = [] then
        some ⟨sign, whole, fraction, some (exponentSign, digits)⟩
      else none

def text (n : Numeral) : List Char :=
  n.sign.text ++ n.whole
    ++ (match n.fraction with
      | none => []
      | some digits => '.' :: digits)
    ++ (match n.exponent with
      | none => []
      | some (sign, digits) => 'e' :: (sign.text ++ digits))

def ofInt (i : Int) : Numeral :=
  ⟨if i < 0 then .minus else .absent, Nat.toDigits 10 i.natAbs, none, none⟩

def exponentValue (n : Numeral) : Int :=
  match n.exponent with
  | none => 0
  | some (sign, digits) => if sign.isNegative then -(ofDigits digits : Int) else ofDigits digits

/-- The nearest number in double precision; `none` when it is not finite. A value of `10 ^ 310`
or more overflows and one below `10 ^ -330` vanishes, so neither needs its power of ten. -/
def nearest? (n : Numeral) : Option Binary64 :=
  let negative := n.sign.isNegative
  let fraction := n.fraction.getD []
  let coefficient := ofDigits (n.whole ++ fraction)
  let scale := n.exponentValue - fraction.length
  let magnitude := scale + decimalLength coefficient
  if coefficient = 0 ∨ magnitude < -330 then some (.zero negative)
  else if 310 < magnitude then none
  else if 0 ≤ scale then Binary64.ofRatio? negative (coefficient * Nat.pow 10 scale.toNat) 1
  else Binary64.ofRatio? negative coefficient (Nat.pow 10 (-scale).toNat)

/-- The number that a free-standing text denotes, if it is finite: a sign, digits on at least
one side of the point, and an exponent are allowed, blanks are not. -/
def ofText? (text : List Char) : Option Binary64 :=
  match parse? text with
  | some n => if n.whole = [] ∧ n.fraction.getD [] = [] then none else n.nearest?
  | none => none

def wholeNumber? (text : List Char) : Option Int :=
  let (sign, digits) := Sign.take text
  if digits.isEmpty || !digits.all Char.isDigit then none
  else some (if sign.isNegative then -(ofDigits digits : Int) else ofDigits digits)

def int64? (text : List Char) : Option Int :=
  (wholeNumber? text).filter fun i => -0x8000000000000000 ≤ i && i < 0x8000000000000000

/-- A whole number that fits in 64 bits without a sign; a minus sign is refused even before
zero. -/
def nat64? (text : List Char) : Option Nat :=
  if text.head? = some '-' then none
  else ((wholeNumber? text).map Int.toNat).filter fun n => n < 0x10000000000000000

end Numeral

end Patchbay
