import Patchbay.Program.Basic
import Patchbay.Runner
import Patchbay.State.Codec

namespace Patchbay

structure Settings where
  debounceMs : UInt64 := 30
  defaultCpm : String := Program.defaultTempo
  shareParam : String := "flow"
  theme : String := "strudel"
  colorMode : ColorMode := .dark
  benignErrors : List String := ({} : RunnerSettings).benignErrors
deriving DecidableEq

namespace Settings

def knownKeys : List String :=
  ["debounce_ms", "default_cpm", "share_param", "theme", "color_mode", "benign_errors"]

def maxDebounce : Nat := 5000

def debounce? (text : String) : Option UInt64 :=
  (Numeral.nat64? (Text.trim text).toList).map fun n => (min n maxDebounce).toUInt64

def notBlank? (text : String) : Option String :=
  let trimmed := Text.trim text
  if trimmed.isEmpty then none else some trimmed

def strings? (text : String) : Option (List String) :=
  (Json.Decoder.list .string).run (Utf8.ofString text)

/-- Settings from a table of texts. An entry that is missing or does not read gives its
default. -/
def ofTable (table : Table String) : Settings :=
  let default : Settings := {}
  { debounceMs := ((table.get? "debounce_ms").bind debounce?).getD default.debounceMs
    defaultCpm := ((table.get? "default_cpm").bind notBlank?).getD default.defaultCpm
    shareParam := ((table.get? "share_param").bind notBlank?).getD default.shareParam
    theme := (table.get? "theme").getD default.theme
    colorMode := ((table.get? "color_mode").bind ColorMode.parse?).getD default.colorMode
    benignErrors := ((table.get? "benign_errors").bind strings?).getD default.benignErrors }

def runnerSettings (settings : Settings) : RunnerSettings :=
  { debounce := settings.debounceMs.toNat, benignErrors := settings.benignErrors }

end Settings

end Patchbay
