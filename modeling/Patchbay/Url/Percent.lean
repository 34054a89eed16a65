import Patchbay.Text.Utf8

namespace Patchbay.Url

def isAlphanumeric (c : Char) : Bool :=
  c.isAlpha || c.isDigit

/-- Characters that a part of an address cannot hold as they are. What is not printable ASCII
belongs to all of these sets. -/
abbrev EscapeSet := Char → Bool

namespace EscapeSet

def control : EscapeSet := fun c => c.toNat < 0x20 || 0x7E < c.toNat

def adding (set : EscapeSet) (more : String) : EscapeSet := fun c => set c || more.toList.contains c

def fragment : EscapeSet := control.adding " \"<>\x60"

def query : EscapeSet := control.adding " \"#<>"

def specialQuery : EscapeSet := query.adding "'"

def path : EscapeSet := fragment.adding "#?\x7b\x7d"

def userinfo : EscapeSet := path.adding "/:;=@[\\]^|"

def form : EscapeSet := fun c => !(isAlphanumeric c || "*-._".toList.contains c)

end EscapeSet

def hexDigit (n : Nat) : Char :=
  if n < 10 then Char.ofNat (0x30 + n) else Char.ofNat (0x41 + (n - 10))

def hexDigitValue? (b : UInt8) : Option Nat :=
  if 0x30 ≤ b && b ≤ 0x39 then some (b.toNat - 0x30)
  else if 0x41 ≤ b && b ≤ 0x46 then some (b.toNat - 0x41 + 10)
  else if 0x61 ≤ b && b ≤ 0x66 then some (b.toNat - 0x61 + 10)
  else none

def escapeByte (b : UInt8) : List Char :=
  ['%', hexDigit (b.toNat / 16), hexDigit (b.toNat % 16)]

def escape (set : EscapeSet) (text : List Char) : List Char :=
  text.flatMap fun c => if set c then (Utf8.encodeChar c).flatMap escapeByte else [c]

/-- Replace escapes by the bytes they stand for. A percent sign without two hexadecimal digits
behind it stands for itself. -/
def unescapeOnto : List UInt8 → (done : List UInt8) → List UInt8
  | [], done => done.reverse
  | [a], done => (a :: done).reverse
  | [a, b], done => (b :: a :: done).reverse
  | a :: b :: c :: rest, done =>
      if a = '%'.toUInt8 then
        match hexDigitValue? b, hexDigitValue? c with
        | some high, some low => unescapeOnto rest ((16 * high + low).toUInt8 :: done)
        | _, _ => unescapeOnto (b :: c :: rest) (a :: done)
      else unescapeOnto (b :: c :: rest) (a :: done)

def unescape (bytes : List UInt8) : List UInt8 :=
  unescapeOnto bytes []

end Patchbay.Url
