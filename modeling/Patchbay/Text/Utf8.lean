namespace Patchbay.Utf8

def encodeChar (c : Char) : List UInt8 :=
  let n := c.toNat
  if n < 0x80 then [n.toUInt8]
  else if n < 0x800 then [(0xC0 + n / 64).toUInt8, (0x80 + n % 64).toUInt8]
  else if n < 0x10000 then
    [(0xE0 + n / 4096).toUInt8, (0x80 + n / 64 % 64).toUInt8, (0x80 + n % 64).toUInt8]
  else
    [(0xF0 + n / 262144).toUInt8, (0x80 + n / 4096 % 64).toUInt8, (0x80 + n / 64 % 64).toUInt8,
      (0x80 + n % 64).toUInt8]

def encode (text : List Char) : List UInt8 :=
  text.flatMap encodeChar

def ofString (text : String) : List UInt8 :=
  encode text.toList

/-- What stands in front of a byte sequence: a character, or bytes that begin none. The bad
bytes are the longest run that could still have begun a character. -/
inductive Head where
  | char (c : Char) (rest : List UInt8)
  | bad (rest : List UInt8)

/-- Read the remaining `more` bytes of a character; the next of them lies between `low` and
`high`. -/
def tail (value low high : Nat) : (more : Nat) → List UInt8 → Head
  | 0, rest => .char (Char.ofNat value) rest
  | _ + 1, [] => .bad []
  | more + 1, b :: rest =>
      if low ≤ b.toNat && b.toNat ≤ high then
        tail (64 * value + (b.toNat - 0x80)) 0x80 0xBF more rest
      else .bad (b :: rest)

/-- Split off the first character. The bounds on the second byte rule out overlong forms,
surrogates and numbers beyond the last code point. -/
def head (b : UInt8) (rest : List UInt8) : Head :=
  let n := b.toNat
  if n < 0x80 then .char (Char.ofNat n) rest
  else if n < 0xC2 then .bad rest
  else if n < 0xE0 then tail (n - 0xC0) 0x80 0xBF 1 rest
  else if n = 0xE0 then tail 0 0xA0 0xBF 2 rest
  else if n = 0xED then tail 0xD 0x80 0x9F 2 rest
  else if n < 0xF0 then tail (n - 0xE0) 0x80 0xBF 2 rest
  else if n = 0xF0 then tail 0 0x90 0xBF 3 rest
  else if n < 0xF4 then tail (n - 0xF0) 0x80 0xBF 3 rest
  else if n = 0xF4 then tail 4 0x80 0x8F 3 rest
  else .bad rest

/-- Every character takes at least one byte, so as many rounds as bytes are enough. -/
def decodeRounds (replacement : Option Char) :
    (rounds : Nat) → List UInt8 → List Char → Option (List Char)
  | _, [], done => some done.reverse
  | 0, _ :: _, _ => none
  | rounds + 1, b :: rest, done =>
      match head b rest with
      | .char c rest => decodeRounds replacement rounds rest (c :: done)
      | .bad rest =>
          match replacement with
          | some c => decodeRounds replacement rounds rest (c :: done)
          | none => none

def decode? (bytes : List UInt8) : Option (List Char) :=
  decodeRounds none bytes.length bytes []

/-- The text of the bytes, with U+FFFD for each run of bytes that begins no character. -/
def decodeLossy (bytes : List UInt8) : List Char :=
  (decodeRounds (some '\uFFFD') bytes.length bytes []).getD []

def toString? (bytes : List UInt8) : Option String :=
  (decode? bytes).map String.ofList

end Patchbay.Utf8
