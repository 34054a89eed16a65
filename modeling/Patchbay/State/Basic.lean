import Patchbay.Graph.Basic
import Patchbay.Store
import Patchbay.Text.Blank

namespace Patchbay

inductive ColorMode where
  | light
  | dark
  | system
deriving DecidableEq

namespace ColorMode

def word : ColorMode → String
  | light => "light"
  | dark => "dark"
  | system => "system"

def words : List (String × ColorMode) :=
  [light, dark, system].map fun mode => (mode.word, mode)

def parse? (text : String) : Option ColorMode :=
  words.lookup (Text.lowerAscii (Text.trim text))

end ColorMode

structure State where
  version : UInt32 := 1
  nodes : List Node
  edges : List Edge
  config : Store := {}
  theme : String := ""
  colorMode : ColorMode := .dark
  cpm : Option String := none
deriving DecidableEq

end Patchbay
