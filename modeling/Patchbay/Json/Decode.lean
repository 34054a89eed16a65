import Patchbay.Json.Numeral
import Patchbay.Json.Quoted
import Patchbay.Json.Reader

namespace Patchbay

namespace Json

/-- A way to read a value of a type off a JSON text that has been taken apart. The number says
how many more containers may nest. -/
abbrev Decoder (α : Type) := Nat → Raw → Option α

namespace Decoder

def maxDepth : Nat := 127

def run {α : Type} (decoder : Decoder α) (text : List UInt8) : Option α :=
  (read? text).bind (decoder maxDepth)

variable {α : Type}

def string : Decoder String
  | _, .string escaped => unquote escaped
  | _, _ => none

def float : Decoder Binary64
  | _, .number n => (Number.ofNumeral? n).map Number.toBinary64
  | _, _ => none

def uint32 : Decoder UInt32
  | _, .number n =>
      (((Number.ofNumeral? n).bind Number.natural?).filter fun k =>
        k < 0x100000000).map UInt32.ofNat
  | _, _ => none

def nullable (decoder : Decoder α) : Decoder (Option α)
  | _, .null => some none
  | depth, raw => (decoder depth raw).map some

def list (decoder : Decoder α) : Decoder (List α)
  | depth + 1, .array items => items.mapM (decoder depth)
  | _, _ => none

def member (decoder : Raw → Option α) (entry : List UInt8 × Raw) : Option (String × α) :=
  match unquote entry.1, decoder entry.2 with
  | some key, some value => some (key, value)
  | _, _ => none

/-- Values under free keys; of two members with one key the later counts. -/
def table (decoder : Decoder α) : Decoder (Table α)
  | depth + 1, .object members => (members.mapM (member (decoder depth))).map Table.ofList
  | _, _ => none

/-- One of several words, as a string or as the only key of an object that holds `null`. -/
def word (words : List (String × α)) : Decoder α
  | _, .string escaped => (unquote escaped).bind fun text => words.lookup text
  | _ + 1, .object [(key, .null)] => (unquote key).bind fun text => words.lookup text
  | _, _ => none

/-- The raw values of named fields, at most one for each. Fields may come by name in any order,
among others, which are passed over, or by position as an array that stops early. -/
def fields (names : List String) : Raw → Option (List (String × Raw))
  | .object members => do
      let named ← members.mapM (member some)
      let known := named.filter fun field => names.contains field.1
      if (known.map (·.1)).Nodup then some known else none
  | .array items => if items.length ≤ names.length then some (names.zip items) else none
  | _ => none

def required (decoder : Decoder α) (depth : Nat) (fields : List (String × Raw)) (name : String) :
    Option α :=
  (fields.lookup name).bind (decoder depth)

def withDefault (default : α) (decoder : Decoder α) (depth : Nat) (fields : List (String × Raw))
    (name : String) : Option α :=
  match fields.lookup name with
  | some raw => decoder depth raw
  | none => some default

def struct (names : List String) (build : Nat → List (String × Raw) → Option α) : Decoder α
  | 0, _ => none
  | depth + 1, raw => (fields names raw).bind (build depth)

end Decoder

mutual

def valueOf (depth : Nat) : Raw → Option Value
  | .null => some .null
  | .bool b => some (.bool b)
  | .number n => (Number.ofNumeral? n).map .number
  | .string escaped => (unquote escaped).map .string
  | .array items =>
      match depth with
      | 0 => none
      | depth + 1 => (valuesOf depth [] items).map .array
  | .object members =>
      match depth with
      | 0 => none
      | depth + 1 => (membersOf depth [] members).map fun entries => .object (.ofList entries)

def valuesOf (depth : Nat) (done : List Value) : List Raw → Option (List Value)
  | [] => some done.reverse
  | raw :: rest =>
      match valueOf depth raw with
      | some value => valuesOf depth (value :: done) rest
      | none => none

def membersOf (depth : Nat) (done : List (String × Value)) :
    List (List UInt8 × Raw) → Option (List (String × Value))
  | [] => some done.reverse
  | (key, raw) :: rest =>
      match unquote key, valueOf depth raw with
      | some key, some value => membersOf depth ((key, value) :: done) rest
      | _, _ => none

end

namespace Decoder

def value : Decoder Value := valueOf

def record : Decoder Record := table value

end Decoder

end Json

end Patchbay
