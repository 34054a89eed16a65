namespace Patchbay.Deflate

inductive Fault where
  | cutOff
  | corrupt
deriving DecidableEq

abbrev Reading := Except Fault

def orCorrupt {α : Type} : Option α → Reading α
  | some a => .ok a
  | none => .error .corrupt

/-- A byte sequence read bit by bit, the lowest bit of a byte first: the bits left of the byte
that was begun, and the bytes behind it. -/
structure Bits where
  begun : List Bool
  rest : List UInt8

namespace Bits

def ofBytes (bytes : List UInt8) : Bits :=
  ⟨[], bytes⟩

def ofByte (b : UInt8) : List Bool :=
  (List.range 8).map fun i => b.toNat.testBit i

def size (bits : Bits) : Nat :=
  bits.begun.length + 8 * bits.rest.length

def next : Bits → Reading (Bool × Bits)
  | ⟨bit :: begun, rest⟩ => .ok (bit, ⟨begun, rest⟩)
  | ⟨[], []⟩ => .error .cutOff
  | ⟨[], b :: rest⟩ =>
      match ofByte b with
      | [] => .error .cutOff
      | bit :: begun => .ok (bit, ⟨begun, rest⟩)

/-- The number written in the next `count` bits, lowest bit first. -/
def takeNat (bits : Bits) : (count : Nat) → Reading (Nat × Bits)
  | 0 => .ok (0, bits)
  | count + 1 => do
      let (bit, bits) ← bits.next
      let (n, bits) ← bits.takeNat count
      return (2 * n + bit.toNat, bits)

def align (bits : Bits) : Bits :=
  ⟨[], bits.rest⟩

end Bits

end Patchbay.Deflate
