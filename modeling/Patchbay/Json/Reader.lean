import Patchbay.Number.Numeral
import Patchbay.Text.Utf8

namespace Patchbay.Json

/-- The smallest parts of a JSON text. A string is kept as it stands between its quotes:
only the form of its escapes has been looked at. -/
inductive Token where
  | beginArray
  | endArray
  | beginObject
  | endObject
  | comma
  | colon
  | null
  | bool (b : Bool)
  | number (n : Numeral)
  | string (escaped : List UInt8)
deriving DecidableEq

def isSpace (b : UInt8) : Bool :=
  b = 0x20 || b = 0x09 || b = 0x0A || b = 0x0D

def isHexDigit (b : UInt8) : Bool :=
  (0x30 ≤ b && b ≤ 0x39) || (0x41 ≤ b && b ≤ 0x46) || (0x61 ≤ b && b ≤ 0x66)

def isEscapeLetter (b : UInt8) : Bool :=
  b = '"'.toUInt8 || b = '\\'.toUInt8 || b = '/'.toUInt8 || b = 'b'.toUInt8 || b = 'f'.toUInt8
    || b = 'n'.toUInt8 || b = 'r'.toUInt8 || b = 't'.toUInt8

def takeString : List UInt8 → (done : List UInt8) → Option (List UInt8 × List UInt8)
  | [], _ => none
  | b :: rest, done =>
      if b = '"'.toUInt8 then some (done.reverse, rest)
      else if b = '\\'.toUInt8 then
        match rest with
        | [] => none
        | letter :: rest =>
            if letter = 'u'.toUInt8 then
              match rest with
              | h₁ :: h₂ :: h₃ :: h₄ :: rest =>
                  if isHexDigit h₁ && isHexDigit h₂ && isHexDigit h₃ && isHexDigit h₄ then
                    takeString rest (h₄ :: h₃ :: h₂ :: h₁ :: letter :: b :: done)
                  else none
              | _ => none
            else if isEscapeLetter letter then takeString rest (letter :: b :: done)
            else none
      else if b < 0x20 then none
      else takeString rest (b :: done)

def isNumberByte (b : UInt8) : Bool :=
  (0x30 ≤ b && b ≤ 0x39) || b = '-'.toUInt8 || b = '+'.toUInt8 || b = '.'.toUInt8
    || b = 'e'.toUInt8 || b = 'E'.toUInt8

/-- A plus sign in front, a leading zero before other digits, and a point without digits on
both sides are not JSON. -/
def isNumber (n : Numeral) : Bool :=
  n.sign ≠ .plus && !n.whole.isEmpty && (n.whole.length = 1 || n.whole.head? ≠ some '0')
    && n.fraction ≠ some []

def takeNumber (text : List UInt8) : Option (Token × List UInt8) :=
  match Numeral.parse? ((text.takeWhile isNumberByte).map fun b => Char.ofNat b.toNat) with
  | some n => if isNumber n then some (.number n, text.dropWhile isNumberByte) else none
  | none => none

def takeWord (word : String) (token : Token) (text : List UInt8) : Option (Token × List UInt8) :=
  let letters := Utf8.ofString word
  if letters.isPrefixOf text then some (token, text.drop letters.length) else none

def takeToken : List UInt8 → Option (Token × List UInt8)
  | [] => none
  | b :: rest =>
      if b = '['.toUInt8 then some (.beginArray, rest)
      else if b = ']'.toUInt8 then some (.endArray, rest)
      else if b = '{'.toUInt8 then some (.beginObject, rest)
      else if b = '}'.toUInt8 then some (.endObject, rest)
      else if b = ','.toUInt8 then some (.comma, rest)
      else if b = ':'.toUInt8 then some (.colon, rest)
      else if b = '"'.toUInt8 then
        (takeString rest []).map fun (escaped, rest) => (.string escaped, rest)
      else if b = 'n'.toUInt8 then takeWord "null" .null (b :: rest)
      else if b = 't'.toUInt8 then takeWord "true" (.bool true) (b :: rest)
      else if b = 'f'.toUInt8 then takeWord "false" (.bool false) (b :: rest)
      else takeNumber (b :: rest)

/-- Every token takes at least one byte, so as many rounds as bytes are enough. -/
def tokenRounds : (rounds : Nat) → List UInt8 → List Token → Option (List Token)
  | 0, text, done => if (text.dropWhile isSpace).isEmpty then some done.reverse else none
  | rounds + 1, text, done =>
      match text.dropWhile isSpace with
      | [] => some done.reverse
      | b :: rest =>
          match takeToken (b :: rest) with
          | some (token, rest) => tokenRounds rounds rest (token :: done)
          | none => none

def tokens (text : List UInt8) : Option (List Token) :=
  tokenRounds text.length text []

/-- A JSON text taken apart, with every number and string still as written and every member
of an object in place. -/
inductive Raw where
  | null
  | bool (b : Bool)
  | number (n : Numeral)
  | string (escaped : List UInt8)
  | array (items : List Raw)
  | object (members : List (List UInt8 × Raw))

/-- A container that is still open, with what it holds so far, latest first. -/
inductive Frame where
  | items (done : List Raw)
  | members (done : List (List UInt8 × Raw))
  | member (done : List (List UInt8 × Raw)) (key : List UInt8)

inductive Expected where
  | value
  | valueOrEnd
  | key
  | keyOrEnd
  | colon
  | commaOrEnd

inductive Progress where
  | inside (expected : Expected) (frames : List Frame)
  | finished (value : Raw)

def complete (value : Raw) : List Frame → Option Progress
  | [] => some (.finished value)
  | .items done :: frames => some (.inside .commaOrEnd (.items (value :: done) :: frames))
  | .member done key :: frames =>
      some (.inside .commaOrEnd (.members ((key, value) :: done) :: frames))
  | .members _ :: _ => none

def beginValue (frames : List Frame) : Token → Option Progress
  | .beginArray => some (.inside .valueOrEnd (.items [] :: frames))
  | .beginObject => some (.inside .keyOrEnd (.members [] :: frames))
  | .null => complete .null frames
  | .bool b => complete (.bool b) frames
  | .number n => complete (.number n) frames
  | .string escaped => complete (.string escaped) frames
  | _ => none

def endContainer (token : Token) : List Frame → Option Progress
  | .items done :: frames =>
      if token = .endArray then complete (.array done.reverse) frames else none
  | .members done :: frames =>
      if token = .endObject then complete (.object done.reverse) frames else none
  | _ => none

def beginMember (token : Token) : List Frame → Option Progress
  | .members done :: frames =>
      match token with
      | .string key => some (.inside .colon (.member done key :: frames))
      | _ => none
  | _ => none

def advance (token : Token) : Progress → Option Progress
  | .finished _ => none
  | .inside .value frames => beginValue frames token
  | .inside .valueOrEnd frames =>
      if token = .endArray then endContainer token frames else beginValue frames token
  | .inside .key frames => beginMember token frames
  | .inside .keyOrEnd frames =>
      if token = .endObject then endContainer token frames else beginMember token frames
  | .inside .colon frames => if token = .colon then some (.inside .value frames) else none
  | .inside .commaOrEnd frames =>
      if token = .comma then
        match frames with
        | .items _ :: _ => some (.inside .value frames)
        | _ => some (.inside .key frames)
      else endContainer token frames

def run : List Token → Progress → Option Progress
  | [], progress => some progress
  | token :: rest, progress =>
      match advance token progress with
      | some progress => run rest progress
      | none => none

/-- The value that a whole text writes. Containers may nest to any depth here. -/
def read? (text : List UInt8) : Option Raw :=
  match tokens text with
  | none => none
  | some ts =>
      match run ts (.inside .value []) with
      | some (.finished value) => some value
      | _ => none

end Patchbay.Json
