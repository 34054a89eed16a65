import Patchbay.Deflate.Bits

namespace Patchbay.Deflate

/-- A binary code. Words that lead to `vacant` are no words of the code. -/
inductive Code where
  | vacant
  | symbol (value : Nat)
  | fork (zero one : Code)

namespace Code

/-- Give a symbol a word. Of a word that goes through another symbol nothing is kept. -/
def insert (value : Nat) : List Bool → Code → Code
  | [], _ => symbol value
  | false :: word, fork zero one => fork (zero.insert value word) one
  | true :: word, fork zero one => fork zero (one.insert value word)
  | false :: word, _ => fork (vacant.insert value word) vacant
  | true :: word, _ => fork vacant (vacant.insert value word)

def read : Code → Bits → (fuel : Nat) → Reading (Nat × Bits)
  | symbol value, bits, _ => .ok (value, bits)
  | vacant, _, _ => .error .corrupt
  | fork _ _, _, 0 => .error .corrupt
  | fork zero one, bits, fuel + 1 =>
      match bits.next with
      | .error fault => .error fault
      | .ok (false, bits) => zero.read bits fuel
      | .ok (true, bits) => one.read bits fuel

def maxLength : Nat := 15

/-- The bits of a word as a number is written, highest bit first. -/
def word (value length : Nat) : List Bool :=
  ((List.range length).map fun i => value.testBit i).reverse

def countOf (lengths : List Nat) (length : Nat) : Nat :=
  lengths.count length

/-- The first word of each length: words of one length follow each other, and behind the last of
them comes the first longer one. -/
def firstWord (lengths : List Nat) : Nat → Nat
  | 0 => 0
  | length + 1 =>
      if length = 0 then 0 else 2 * (firstWord lengths length + countOf lengths length)

/-- How much of the space of words is used, in words of the greatest length. -/
def spaceUsed (lengths : List Nat) : Nat :=
  lengths.foldl
    (fun used length => if length = 0 then used else used + Nat.pow 2 (maxLength - length)) 0

def insertAll (lengths : List Nat) : (value : Nat) → (todo taken : List Nat) → Code → Code
  | _, [], _, code => code
  | value, length :: todo, taken, code =>
      if length = 0 then insertAll lengths (value + 1) todo taken code
      else
        let number := firstWord lengths length + taken.count length
        insertAll lengths (value + 1) todo (length :: taken)
          (code.insert value (word number length))

/-- The code in which symbol `i` has a word of the `i`-th length, no word for length zero, and
words are given out by length and then by symbol. The words have to fill the space of words,
unless there is none or a single one of one bit. -/
def ofLengths? (lengths : List Nat) : Option Code :=
  let used := lengths.filter (· ≠ 0)
  if used = [] ∨ used = [1] ∨ spaceUsed lengths = Nat.pow 2 maxLength then
    some (insertAll lengths 0 lengths [] vacant)
  else none

end Code

end Patchbay.Deflate
