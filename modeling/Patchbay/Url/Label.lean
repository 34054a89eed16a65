import Patchbay.Text.Direction
import Patchbay.Text.Joining
import Patchbay.Text.Normal
import Patchbay.Url.Folding
import Patchbay.Url.Punycode

namespace Patchbay.Url.Label

open Text

def isAscii (text : List Char) : Bool :=
  text.all fun c => c.toNat < 0x80

def acePrefix : List Char := "xn--".toList

def maxEncodedLength : Nat := 2000

def maxLength : Nat := 1000

/-- The text of a label, which may be written in Punycode. Punycode has to stand for more than
ASCII. -/
def read? (label : List Char) : Option (List Char) :=
  if acePrefix.isPrefixOf label then
    let encoded := label.drop acePrefix.length
    if maxEncodedLength < encoded.length then none
    else (Punycode.decode? encoded).filter fun text => !isAscii text
  else some label

def toAscii (label : List Char) : List Char :=
  if isAscii label then label else acePrefix ++ Punycode.encode label

/-- Whether every joiner stands where it changes how letters are drawn: behind a virama, or, if it
keeps letters apart, between letters that would be joined. The text before is given backwards. -/
def joinersFit : (before : List Char) → List Char → Bool
  | _, [] => true
  | before, c :: rest =>
      let afterVirama := before.head?.any fun b => combiningClass b = viramaClass
      let fits :=
        if c = '\u200c' then afterVirama || joinsAcross before rest
        else if c = '\u200d' then afterVirama
        else true
      fits && joinersFit (c :: before) rest

def isValid (label : List Char) : Bool :=
  (isAscii label || label.length ≤ maxLength) && label.all isNameChar && normalize label = label
    && !label.head?.any isMark && joinersFit [] label

/-- Whether a host name with this label needs its labels to have clear directions. -/
def hasRightToLeft (label : List Char) : Bool :=
  label.any fun c => [.right, .arabicNumber].contains (Direction.ofChar c)

/-- Whether a label is read in one direction: it starts with a letter, ends in a letter or a digit
with its marks, and holds no letters of the other direction. Digits of both kinds do not go
together. -/
def hasOneDirection (label : List Char) : Bool :=
  match label.map Direction.ofChar with
  | [] => true
  | first :: rest =>
      let body := (rest.reverse.dropWhile (· = .mark)).reverse
      match first with
      | .left =>
          body.getLast?.all [.left, .number].contains
            && body.all [.left, .number, .neutral, .mark].contains
      | .right =>
          body.getLast?.all [.right, .number, .arabicNumber].contains
            && body.all [.right, .number, .arabicNumber, .neutral, .mark].contains
            && !(body.contains .number && body.contains .arabicNumber)
      | _ => false

end Patchbay.Url.Label
