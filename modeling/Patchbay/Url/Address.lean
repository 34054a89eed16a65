import Patchbay.Number.Numeral

namespace Patchbay.Url

/-- A number of an IPv4 address: decimal, octal behind a zero, or hexadecimal behind `0x`.
The base alone is zero. -/
def ipv4Number? (text : List Char) : Option Nat :=
  let (base, digits) : Nat × List Char :=
    match text with
    | '0' :: 'x' :: digits => (16, digits)
    | '0' :: 'X' :: digits => (16, digits)
    | '0' :: d :: digits => (8, d :: digits)
    | digits => (10, digits)
  let value? (c : Char) : Option Nat :=
    let n :=
      if c.isDigit then c.toNat - '0'.toNat
      else if 'a'.toNat ≤ c.toNat && c.toNat ≤ 'f'.toNat then c.toNat - 'a'.toNat + 10
      else if 'A'.toNat ≤ c.toNat && c.toNat ≤ 'F'.toNat then c.toNat - 'A'.toNat + 10
      else 16
    if n < base then some n else none
  if text.isEmpty then none
  else (digits.mapM value?).map fun ns => ns.foldl (fun value n => base * value + n) 0

def dropEmptyLast (parts : List (List Char)) : List (List Char) :=
  if parts.getLast? = some [] then parts.dropLast else parts

/-- Whether a host name ends in a number, so that it has to be an IPv4 address. -/
def endsInNumber (host : List Char) : Bool :=
  match (dropEmptyLast (host.splitOn '.')).getLast? with
  | some part => (!part.isEmpty && part.all Char.isDigit) || (ipv4Number? part).isSome
  | none => false

/-- An IPv4 address of one to four numbers. All but the last are bytes; the last one fills the
bytes that are left. -/
def ipv4? (host : List Char) : Option Nat :=
  match (dropEmptyLast (host.splitOn '.')).mapM ipv4Number? with
  | none => none
  | some numbers =>
      let front := numbers.dropLast
      let last := numbers.getLast?.getD 0
      if 3 < front.length ∨ front.any (255 < ·) ∨ Nat.pow 256 (4 - front.length) ≤ last then none
      else
        some (front.zipIdx.foldl
          (fun value entry => value + entry.1 * Nat.pow 256 (3 - entry.2)) last)

def natText (n : Nat) : List Char :=
  Nat.toDigits 10 n

def ipv4Text (address : Nat) : List Char :=
  ['.'].intercalate ([3, 2, 1, 0].map fun place => natText (address / Nat.pow 256 place % 256))

def hexGroup? (text : List Char) : Option Nat :=
  if text.isEmpty || 4 < text.length then none else ipv4Number? ('0' :: 'x' :: text)

/-- A byte of an IPv4 address inside an IPv6 address, without leading zeros. -/
def plainByte? (text : List Char) : Option Nat :=
  if text.isEmpty || !text.all Char.isDigit || (1 < text.length && text.head? = some '0') then none
  else
    let n := Numeral.ofDigits text
    if n < 256 then some n else none

/-- The groups between colons; the last may be an IPv4 address and then counts twice. -/
def ipv6Groups? (text : List Char) : Option (List Nat) :=
  if text.isEmpty then some []
  else
    let parts := text.splitOn ':'
    let front := parts.dropLast
    let last := parts.getLast?.getD []
    if last.contains '.' then
      match front.mapM hexGroup?, (last.splitOn '.').mapM plainByte? with
      | some groups, some [a, b, c, d] => some (groups ++ [256 * a + b, 256 * c + d])
      | _, _ => none
    else parts.mapM hexGroup?

def cutDoubleColon : List Char → (done : List Char) → Option (List Char × List Char)
  | ':' :: ':' :: rest, done => some (done.reverse, rest)
  | c :: rest, done => cutDoubleColon rest (c :: done)
  | [], _ => none

/-- The eight groups of an IPv6 address. A double colon stands for one or more groups of zero. -/
def ipv6? (text : List Char) : Option (List Nat) :=
  match cutDoubleColon text [] with
  | none => (ipv6Groups? text).filter fun groups => groups.length = 8
  | some (before, after) =>
      if before.contains '.' then none
      else
        match ipv6Groups? before, ipv6Groups? after with
        | some front, some back =>
            if front.length + back.length < 8 then
              some (front ++ List.replicate (8 - front.length - back.length) 0 ++ back)
            else none
        | _, _ => none

def zeroRun (groups : List Nat) : Nat :=
  (groups.takeWhile (· = 0)).length

/-- Where the first of the longest runs of at least two zeros starts, and its length. -/
def longestZeroRun (groups : List Nat) : Option (Nat × Nat) :=
  (List.range groups.length).foldl
    (fun best start =>
      let length := zeroRun (groups.drop start)
      if 1 < length && (best.map (·.2)).getD 0 < length then some (start, length) else best)
    none

def groupsText (groups : List Nat) : List Char :=
  [':'].intercalate (groups.map (Nat.toDigits 16))

def ipv6Text (groups : List Nat) : List Char :=
  match longestZeroRun groups with
  | none => groupsText groups
  | some (start, length) =>
      groupsText (groups.take start) ++ ':' :: ':' :: groupsText (groups.drop (start + length))

end Patchbay.Url
