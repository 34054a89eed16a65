import Patchbay.Text.Utf8

namespace Patchbay.Json

/-- A character inside a quoted string. Quotes, backslashes and control characters are
escaped, by a letter where there is one; all others stand for themselves. -/
def escapeChar (c : Char) : List Char :=
  if c = '"' then ['\\', '"']
  else if c = '\\' then ['\\', '\\']
  else if c = '\x08' then ['\\', 'b']
  else if c = '\x0c' then ['\\', 'f']
  else if c = '\n' then ['\\', 'n']
  else if c = '\r' then ['\\', 'r']
  else if c = '\t' then ['\\', 't']
  else if c.toNat < 0x20 then
    ['\\', 'u', '0', '0', (c.toNat / 16).digitChar, (c.toNat % 16).digitChar]
  else [c]

def escape (text : List Char) : List Char :=
  text.flatMap escapeChar

def quote (text : String) : String :=
  String.ofList ('"' :: escape text.toList ++ ['"'])

def hexValue (b : UInt8) : Nat :=
  if b ≤ 0x39 then b.toNat - 0x30
  else if b ≤ 0x46 then b.toNat - 0x41 + 10
  else b.toNat - 0x61 + 10

def hexUnit (h₁ h₂ h₃ h₄ : UInt8) : Nat :=
  ((hexValue h₁ * 16 + hexValue h₂) * 16 + hexValue h₃) * 16 + hexValue h₄

def escapedByte (letter : UInt8) : UInt8 :=
  if letter = 'b'.toUInt8 then 0x08
  else if letter = 'f'.toUInt8 then 0x0C
  else if letter = 'n'.toUInt8 then 0x0A
  else if letter = 'r'.toUInt8 then 0x0D
  else if letter = 't'.toUInt8 then 0x09
  else letter

/-- Replace the escapes of a string, whose form has been looked at, by the bytes they stand
for. Two units of a surrogate pair make one character; a lone one makes none. -/
def unescape : List UInt8 → (done : List UInt8) → Option (List UInt8)
  | [], done => some done.reverse
  | b :: rest, done =>
      if b ≠ '\\'.toUInt8 then unescape rest (b :: done)
      else
        match rest with
        | [] => none
        | letter :: rest =>
            if letter ≠ 'u'.toUInt8 then unescape rest (escapedByte letter :: done)
            else
              match rest with
              | h₁ :: h₂ :: h₃ :: h₄ :: rest =>
                  let unit := hexUnit h₁ h₂ h₃ h₄
                  if unit < 0xD800 || 0xE000 ≤ unit then
                    unescape rest ((Utf8.encodeChar (Char.ofNat unit)).reverse ++ done)
                  else if 0xDC00 ≤ unit then none
                  else
                    match rest with
                    | slash :: letter :: l₁ :: l₂ :: l₃ :: l₄ :: rest =>
                        let low := hexUnit l₁ l₂ l₃ l₄
                        if slash = '\\'.toUInt8 && letter = 'u'.toUInt8 && 0xDC00 ≤ low
                            && low < 0xE000 then
                          let c := Char.ofNat (0x10000 + (unit - 0xD800) * 0x400 + (low - 0xDC00))
                          unescape rest ((Utf8.encodeChar c).reverse ++ done)
                        else none
                    | _ => none
              | _ => none

def unquote (escaped : List UInt8) : Option String :=
  (unescape escaped []).bind Utf8.toString?

end Patchbay.Json
