namespace Patchbay.Base64

def alphabet : List Char :=
  "ABCDEFGHIJKLMNOPQRSTUVWXYZabcdefghijklmnopqrstuvwxyz0123456789-_".toList

def digit (n : Nat) : Char :=
  alphabet.getD (n % 64) 'A'

def digitValue? (c : Char) : Option Nat :=
  let n := c.toNat
  if 0x41 ≤ n && n ≤ 0x5A then some (n - 0x41)
  else if 0x61 ≤ n && n ≤ 0x7A then some (n - 0x61 + 26)
  else if 0x30 ≤ n && n ≤ 0x39 then some (n - 0x30 + 52)
  else if c = '-' then some 62
  else if c = '_' then some 63
  else none

def encodeOnto : List UInt8 → (done : List Char) → List Char
  | [], done => done.reverse
  | [a], done =>
      let n := a.toNat
      (digit (n % 4 * 16) :: digit (n / 4) :: done).reverse
  | [a, b], done =>
      let n := a.toNat * 256 + b.toNat
      (digit (n % 16 * 4) :: digit (n / 16 % 64) :: digit (n / 1024) :: done).reverse
  | a :: b :: c :: rest, done =>
      let n := (a.toNat * 256 + b.toNat) * 256 + c.toNat
      encodeOnto rest
        (digit (n % 64) :: digit (n / 64 % 64) :: digit (n / 4096 % 64) ::
          digit (n / 262144) :: done)

/-- Four digits for three bytes, without padding at the end. -/
def encode (bytes : List UInt8) : List Char :=
  encodeOnto bytes []

def decodeOnto : List Nat → (done : List UInt8) → Option (List UInt8)
  | [], done => some done.reverse
  | [_], _ => none
  | [a, b], done =>
      if b % 16 = 0 then some ((a * 4 + b / 16).toUInt8 :: done).reverse else none
  | [a, b, c], done =>
      if c % 4 = 0 then
        let n := (a * 64 + b) * 16 + c / 4
        some (n.toUInt8 :: (n / 256).toUInt8 :: done).reverse
      else none
  | a :: b :: c :: d :: rest, done =>
      let n := ((a * 64 + b) * 64 + c) * 64 + d
      decodeOnto rest (n.toUInt8 :: (n / 256).toUInt8 :: (n / 65536).toUInt8 :: done)

/-- The bytes of a text of digits. A lone digit at the end, and bits that belong to no byte and
are not zero, make it no encoding. -/
def decode? (text : List Char) : Option (List UInt8) :=
  (text.mapM digitValue?).bind fun digits => decodeOnto digits []

end Patchbay.Base64
