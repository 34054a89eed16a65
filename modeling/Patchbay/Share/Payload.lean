import Patchbay.Deflate.Inflate
import Patchbay.Share.Base64
import Patchbay.State.Codec

namespace Patchbay

inductive PayloadError where
  | empty
  | notBase64
  | notDeflate
  | tooLong
  | notState
deriving DecidableEq

namespace Payload

def maxStateBytes : Nat := 4194304

def pack (deflate : Deflate.Packer) (text : List UInt8) : String :=
  String.ofList (Base64.encode (deflate text))

/-- The text in a payload. Blanks around the payload and equals signs after it do not count. -/
def unpack (payload : String) : Except PayloadError (List UInt8) :=
  let trimmed := Text.trimChars payload.toList
  if trimmed.isEmpty then .error .empty
  else
    match Base64.decode? (Text.dropTrailing (· = '=') trimmed) with
    | none => .error .notBase64
    | some compressed =>
        match Deflate.inflate maxStateBytes compressed with
        | .ok text => .ok text
        | .error .corrupt => .error .notDeflate
        | .error .tooLong => .error .tooLong

def encode (deflate : Deflate.Packer) (state : State) : String :=
  pack deflate (Utf8.ofString state.compactText)

def decode (payload : String) : Except PayloadError State :=
  match unpack payload with
  | .error error => .error error
  | .ok text =>
      match State.ofBytes? text with
      | some state => .ok state
      | none => .error .notState

end Payload

namespace PayloadError

def message : PayloadError → String
  | empty => "empty payload"
  | notBase64 => "Failed to decode payload"
  | notDeflate => "Failed to decompress payload"
  | tooLong => "payload expands beyond 4194304 bytes"
  | notState => "Failed to parse state"

end PayloadError

end Patchbay
