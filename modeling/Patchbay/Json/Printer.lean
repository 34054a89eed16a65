import Patchbay.Json.Basic
import Patchbay.Json.Quoted

namespace Patchbay.Json

mutual

def compactOnto (out : String) : Json → String
  | null => out ++ "null"
  | bool b => out ++ (if b then "true" else "false")
  | number n => out ++ n.text
  | string s => out ++ quote s
  | array items => compactItems (out ++ "[") "" items ++ "]"
  | object members => compactMembers (out ++ "\x7b") "" members ++ "\x7d"

def compactItems (out separator : String) : List Json → String
  | [] => out
  | item :: rest => compactItems (compactOnto (out ++ separator) item) "," rest

def compactMembers (out separator : String) : List (String × Json) → String
  | [] => out
  | (key, value) :: rest =>
      compactMembers (compactOnto (out ++ separator ++ quote key ++ ":") value) "," rest

end

def compact (value : Json) : String :=
  compactOnto "" value

def newline (level : Nat) : String :=
  String.ofList ('\n' :: List.replicate (2 * level) ' ')

mutual

/-- Append the text with a line for each item and member. Empty containers stay closed up. -/
def indentedOnto (level : Nat) (out : String) : Json → String
  | null => out ++ "null"
  | bool b => out ++ (if b then "true" else "false")
  | number n => out ++ n.text
  | string s => out ++ quote s
  | array [] => out ++ "[]"
  | array (item :: rest) =>
      indentedItems (level + 1) (out ++ "[") "" (item :: rest) ++ newline level ++ "]"
  | object [] => out ++ "\x7b\x7d"
  | object (member :: rest) =>
      indentedMembers (level + 1) (out ++ "\x7b") "" (member :: rest) ++ newline level ++ "\x7d"

def indentedItems (level : Nat) (out separator : String) : List Json → String
  | [] => out
  | item :: rest =>
      indentedItems level (indentedOnto level (out ++ separator ++ newline level) item) "," rest

def indentedMembers (level : Nat) (out separator : String) : List (String × Json) → String
  | [] => out
  | (key, value) :: rest =>
      indentedMembers level
        (indentedOnto level (out ++ separator ++ newline level ++ quote key ++ ": ") value) "," rest

end

def indented (value : Json) : String :=
  indentedOnto 0 "" value

end Patchbay.Json
