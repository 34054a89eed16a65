import Patchbay.Json.Basic
import Patchbay.Text.Blank

namespace Patchbay.Record

def json? (record : Record) (name : String) : Option Json :=
  (record.get? name).map (·.json)

/-- A parameter as a text that is not blank: a string without its outer blanks, or a number as
it is printed. -/
def text? (record : Record) (name : String) : Option String :=
  match record.json? name with
  | some (.string s) =>
      let trimmed := Text.trim s
      if trimmed.isEmpty then none else some trimmed
  | some (.number n) => some n.text
  | _ => none

def numberText? (record : Record) (name : String) : Option String :=
  (record.text? name).filter fun text => (Numeral.ofText? text.toList).isSome

/-- A parameter as a switch: `true`, the word for it in any case, or a number but zero. -/
def flag (record : Record) (name : String) : Bool :=
  match record.json? name with
  | some (.bool b) => b
  | some (.string s) => Text.lowerAscii (Text.trim s) == "true"
  | some (.number n) => !n.isZero
  | _ => false

def array? (record : Record) (name : String) : Option (List Json) :=
  match record.json? name with
  | some (.array items) => some items
  | _ => none

end Patchbay.Record
