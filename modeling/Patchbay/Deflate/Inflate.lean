import Patchbay.Deflate.Huffman

namespace Patchbay.Deflate

inductive InflateError where
  /-- The bytes are no compressed text, or not all of one. -/
  | corrupt
  | tooLong
deriving DecidableEq

/-- Why unpacking ends early: a fault after some bytes of output, or far too many bytes. -/
inductive Stop where
  | fault (cause : Fault) (size : Nat)
  | passed

abbrev Unpacking := Except Stop

def whileAt {α : Type} (size : Nat) : Reading α → Unpacking α
  | .ok a => .ok a
  | .error cause => .error (.fault cause size)

def window : Nat := 32768

/-- The size of what has been handed on before a fault, which spoils the piece it is found in. What
the bytes give up to a sudden end is handed on. -/
def sizeBefore (cause : Fault) (size : Nat) : Nat :=
  match cause with
  | .cutOff => size
  | .corrupt => (size - 1) / window * window

def checkSize (limit : Nat) (out : ByteArray) : Unpacking Unit :=
  if limit + window < out.size then .error .passed else .ok ()

/-- The least length for each length symbol from 257 on, with the number of extra bits. -/
def lengthBases : List (Nat × Nat) :=
  [(3, 0), (4, 0), (5, 0), (6, 0), (7, 0), (8, 0), (9, 0), (10, 0), (11, 1), (13, 1), (15, 1),
    (17, 1), (19, 2), (23, 2), (27, 2), (31, 2), (35, 3), (43, 3), (51, 3), (59, 3), (67, 4),
    (83, 4), (99, 4), (115, 4), (131, 5), (163, 5), (195, 5), (227, 5), (258, 0)]

def distanceBases : List (Nat × Nat) :=
  [(1, 0), (2, 0), (3, 0), (4, 0), (5, 1), (7, 1), (9, 2), (13, 2), (17, 3), (25, 3), (33, 4),
    (49, 4), (65, 5), (97, 5), (129, 6), (193, 6), (257, 7), (385, 7), (513, 8), (769, 8),
    (1025, 9), (1537, 9), (2049, 10), (3073, 10), (4097, 11), (6145, 11), (8193, 12), (12289, 12),
    (16385, 13), (24577, 13)]

def takeBased (bases : List (Nat × Nat)) (symbol : Nat) (bits : Bits) : Reading (Nat × Bits) := do
  let (base, extra) ← orCorrupt bases[symbol]?
  let (more, bits) ← bits.takeNat extra
  return (base + more, bits)

/-- The byte that lies `distance` bytes back. What would lie before the first byte is zero. -/
def byteBack (out : ByteArray) (distance : Nat) : UInt8 :=
  if h : 0 < distance ∧ distance ≤ out.size then out.get (out.size - distance) (by omega) else 0

def copyBack (out : ByteArray) (distance : Nat) : (count : Nat) → ByteArray
  | 0 => out
  | count + 1 =>
      copyBack (out.push (byteBack out distance)) distance count

structure BlockCodes where
  literals : Code
  distances : Code

inductive Item where
  | byte (b : UInt8)
  | last
  | repetition (length distance : Nat)

def readItem (codes : BlockCodes) (bits : Bits) : Reading (Item × Bits) := do
  let (symbol, bits) ← codes.literals.read bits Code.maxLength
  if symbol < 256 then return (.byte symbol.toUInt8, bits)
  else if symbol = 256 then return (.last, bits)
  else
    let (length, bits) ← takeBased lengthBases (symbol - 257) bits
    let (distanceSymbol, bits) ← codes.distances.read bits Code.maxLength
    let (distance, bits) ← takeBased distanceBases distanceSymbol bits
    return (.repetition length distance, bits)

/-- Read symbols up to the end of the block. Each takes at least one bit, so as many rounds as
bits are enough. -/
def symbols (codes : BlockCodes) (limit : Nat) :
    (rounds : Nat) → Bits → ByteArray → Unpacking (Bits × ByteArray)
  | 0, _, out => .error (.fault .cutOff out.size)
  | rounds + 1, bits, out => do
      checkSize limit out
      let (item, bits) ← whileAt out.size (readItem codes bits)
      match item with
      | .byte b => symbols codes limit rounds bits (out.push b)
      | .last => return (bits, out)
      | .repetition length distance =>
          symbols codes limit rounds bits (copyBack out distance length)

def fixedLengths : List Nat :=
  List.replicate 144 8 ++ List.replicate 112 9 ++ List.replicate 24 7 ++ List.replicate 8 8

def fixedCodes : Option BlockCodes := do
  let literals ← Code.ofLengths? fixedLengths
  let distances ← Code.ofLengths? (List.replicate 32 5)
  return { literals, distances }

/-- The order in which the lengths of the code for lengths are written. -/
def lengthOrder : List Nat :=
  [16, 17, 18, 0, 8, 7, 9, 6, 10, 5, 11, 4, 12, 3, 13, 2, 14, 1, 15]

def takeNats (width : Nat) : (count : Nat) → Bits → Reading (List Nat × Bits)
  | 0, bits => .ok ([], bits)
  | count + 1, bits => do
      let (n, bits) ← bits.takeNat width
      let (ns, bits) ← takeNats width count bits
      return (n :: ns, bits)

/-- Read code lengths, latest first, until there are `total`; runs may repeat the last length or
zero, but not go beyond the end. -/
def codeLengths (code : Code) (total : Nat) :
    (rounds : Nat) → Bits → (done : List Nat) → Reading (List Nat × Bits)
  | 0, _, _ => .error .corrupt
  | rounds + 1, bits, done =>
      if total < done.length then .error .corrupt
      else if done.length = total then .ok (done.reverse, bits)
      else do
        let (symbol, bits) ← code.read bits Code.maxLength
        if symbol < 16 then codeLengths code total rounds bits (symbol :: done)
        else if symbol = 16 then
          let last ← orCorrupt done.head?
          let (more, bits) ← bits.takeNat 2
          codeLengths code total rounds bits (List.replicate (3 + more) last ++ done)
        else
          let (base, extra) := if symbol = 17 then (3, 3) else (11, 7)
          let (more, bits) ← bits.takeNat extra
          codeLengths code total rounds bits (List.replicate (base + more) 0 ++ done)

def ownCodes (bits : Bits) : Reading (BlockCodes × Bits) := do
  let (literalCount, bits) ← bits.takeNat 5
  let (distanceCount, bits) ← bits.takeNat 5
  let (lengthCount, bits) ← bits.takeNat 4
  if 29 < literalCount ∨ 29 < distanceCount then .error .corrupt
  else
    let (written, bits) ← takeNats 3 (lengthCount + 4) bits
    let placed := lengthOrder.zip written
    let lengths := (List.range 19).map fun symbol => (placed.lookup symbol).getD 0
    let code ← orCorrupt (Code.ofLengths? lengths)
    let literals := literalCount + 257
    let total := literals + distanceCount + 1
    let (all, bits) ← codeLengths code total (total + 1) bits []
    let distances ← orCorrupt (Code.ofLengths? (all.drop literals))
    let literals ← orCorrupt (Code.ofLengths? (all.take literals))
    return ({ literals, distances }, bits)

/-- The size of a block that is not compressed, written twice, once inverted. -/
def storedSize : List UInt8 → Reading (Nat × List UInt8)
  | a :: b :: c :: d :: rest =>
      let size := a.toNat + 256 * b.toNat
      if size + (c.toNat + 256 * d.toNat) = 65535 then .ok (size, rest) else .error .corrupt
  | _ => .error .cutOff

def stored (bits : Bits) (out : ByteArray) : Unpacking (Bits × ByteArray) := do
  let (size, rest) ← whileAt out.size (storedSize bits.align.rest)
  if rest.length < size then .error (.fault .cutOff (out.size + rest.length))
  else return (.ofBytes (rest.drop size), (rest.take size).foldl ByteArray.push out)

inductive BlockKind where
  | stored
  | fixed
  | own

def blockHead (bits : Bits) : Reading (Bool × BlockKind × Bits) := do
  let (last, bits) ← bits.takeNat 1
  let (kind, bits) ← bits.takeNat 2
  match kind with
  | 0 => return (last = 1, .stored, bits)
  | 1 => return (last = 1, .fixed, bits)
  | 2 => return (last = 1, .own, bits)
  | _ => .error .corrupt

def blockOf (limit : Nat) (kind : BlockKind) (bits : Bits) (out : ByteArray) :
    Unpacking (Bits × ByteArray) :=
  match kind with
  | .stored => stored bits out
  | .fixed => do
      let codes ← whileAt out.size (orCorrupt fixedCodes)
      symbols codes limit bits.size bits out
  | .own => do
      let (codes, bits) ← whileAt out.size (ownCodes bits)
      symbols codes limit bits.size bits out

/-- Read blocks up to the last one. Each takes at least three bits, so as many rounds as bits
are enough. -/
def blocks (limit : Nat) : (rounds : Nat) → Bits → ByteArray → Unpacking ByteArray
  | 0, _, out => .error (.fault .cutOff out.size)
  | rounds + 1, bits, out => do
      checkSize limit out
      let (last, kind, bits) ← whileAt out.size (blockHead bits)
      let (bits, out) ← blockOf limit kind bits out
      if last then return out else blocks limit rounds bits out

/-- Unpack raw deflate data of at most `limit` bytes. Bytes behind the last block are ignored. Of
data with a fault it is still known that they are too long if that much is handed on before. -/
def inflate (limit : Nat) (bytes : List UInt8) : Except InflateError (List UInt8) :=
  match blocks limit (8 * bytes.length) (.ofBytes bytes) .empty with
  | .ok out => if limit < out.size then .error .tooLong else .ok out.data.toList
  | .error .passed => .error .tooLong
  | .error (.fault cause size) =>
      .error (if limit < sizeBefore cause size then .tooLong else .corrupt)

/-- A way to compress bytes. -/
abbrev Packer := List UInt8 → List UInt8

/-- What is packed is unpacked as it was. -/
def Packer.Restores (deflate : Packer) (bytes : List UInt8) : Prop :=
  inflate bytes.length (deflate bytes) = .ok bytes

end Patchbay.Deflate
