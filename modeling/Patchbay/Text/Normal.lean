import Patchbay.Text.Composite
import Patchbay.Text.Mark

namespace Patchbay.Text

/-- Split a character as far as it goes. No composite character holds another more than three
deep. -/
def splitFully : (rounds : Nat) → Char → List Char
  | 0, c => [c]
  | rounds + 1, c =>
      match Composite.split? c with
      | some (base, mark) => splitFully rounds base ++ [mark]
      | none => [c]

abbrev Classed := Nat × Char

def classed (c : Char) : Classed :=
  (combiningClass c, c)

/-- Put a character in front of a text, behind the marks of lower classes that the text begins
with. -/
def insertMark (c : Classed) : List Classed → List Classed
  | [] => [c]
  | d :: rest => if d.1 ≠ 0 ∧ d.1 < c.1 then d :: insertMark c rest else c :: d :: rest

def orderMarks (text : List Classed) : List Classed :=
  text.foldr insertMark []

/-- Merge marks into the character they stand on. A mark does not get past one of its own class or
a higher one; the marks that stay are kept latest first. -/
def mergeOnto : (base : Char) → (kept : List Classed) → List Classed → List Char
  | base, kept, [] => base :: kept.reverse.map (·.2)
  | base, kept, c :: rest =>
      let isBlocked := kept.head?.any fun mark => c.1 ≤ mark.1
      match if isBlocked then none else Composite.compose? base c.2 with
      | some whole => mergeOnto whole kept rest
      | none =>
          if c.1 = 0 then base :: kept.reverse.map (·.2) ++ mergeOnto c.2 [] rest
          else mergeOnto base (c :: kept) rest

/-- Marks at the start of a text stand on nothing and stay. -/
def merge : List Classed → List Char
  | [] => []
  | c :: rest => if c.1 = 0 then mergeOnto c.2 [] rest else c.2 :: merge rest

/-- The text in normalization form C: split as far as it goes, with the marks in order, and put
together again. -/
def normalize (text : List Char) : List Char :=
  merge (orderMarks ((text.flatMap (splitFully 4)).map classed))

end Patchbay.Text
