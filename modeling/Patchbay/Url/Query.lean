import Patchbay.Url.Percent

namespace Patchbay.Url.Query

/-- A name or a value: plus signs are spaces, escapes are bytes, and bytes that are no UTF-8
become replacement characters. -/
def decodePart (text : List Char) : String :=
  let bytes := (Utf8.encode text).map fun b => if b = '+'.toUInt8 then ' '.toUInt8 else b
  String.ofList (Utf8.decodeLossy (unescape bytes))

def encodePart (text : String) : List Char :=
  text.toList.flatMap fun c => if c = ' ' then ['+'] else escape EscapeSet.form [c]

/-- The name is what stands before the first equals sign; without one there is no value. -/
def decodePair (text : List Char) : String × String :=
  (decodePart (text.takeWhile (· ≠ '=')), decodePart ((text.dropWhile (· ≠ '=')).drop 1))

/-- The names and values of a query, in order. Nothing between two ampersands is no pair. -/
def decode (query : List Char) : List (String × String) :=
  ((query.splitOn '&').filter fun part => !part.isEmpty).map decodePair

def encodePair (pair : String × String) : List Char :=
  encodePart pair.1 ++ '=' :: encodePart pair.2

def encode (pairs : List (String × String)) : List Char :=
  ['&'].intercalate (pairs.map encodePair)

end Patchbay.Url.Query
