import Patchbay.FileEntry
import Patchbay.Settings.Basic

namespace Patchbay

inductive SettingsError where
  | unknownKey (key : String)
  | unreadable
  | malformed
  | noDirectory
  | unwritable
deriving DecidableEq

namespace SettingsError

def message (path directory : String) : SettingsError → String
  | unknownKey key => "Unknown setting '" ++ key ++ "'"
  | unreadable => "Failed to read settings " ++ path
  | malformed => "Failed to parse settings " ++ path
  | noDirectory => "Failed to create settings dir " ++ directory
  | unwritable => "Failed to write settings " ++ path

end SettingsError

namespace Settings

def debounceNumber (milliseconds : UInt64) : Number :=
  .integer milliseconds.toNat (by have := milliseconds.toNat_lt; omega)

def toJson (settings : Settings) : Json :=
  .object [("debounce_ms", .number (debounceNumber settings.debounceMs)),
    ("default_cpm", .string settings.defaultCpm),
    ("share_param", .string settings.shareParam),
    ("theme", .string settings.theme),
    ("color_mode", settings.colorMode.toJson),
    ("benign_errors", .array (settings.benignErrors.map .string))]

/-- The entries of a settings file. A file that is missing or blank has none. -/
def readEntries (entry : FileEntry) : Except SettingsError (Table String) :=
  match entry, entry.text? with
  | .missing _, _ => .ok ∅
  | _, none => .error .unreadable
  | _, some text =>
      if Text.allBlank text.toList then .ok ∅
      else
        match (Json.Decoder.table .string).run (Utf8.ofString text) with
        | some entries => .ok entries
        | none => .error .malformed

def load (entry : FileEntry) : Except SettingsError Settings :=
  (readEntries entry).map ofTable

def fileText (entries : Table String) : String :=
  (entries.toJson Json.string).indented

def update (entry : FileEntry) (key value : String) : Except SettingsError String :=
  if knownKeys.contains key then
    match readEntries entry with
    | .error error => .error error
    | .ok entries =>
        match entry.access with
        | .free => .ok (fileText (entries.insert key value))
        | .noDirectory => .error .noDirectory
        | .denied => .error .unwritable
  else .error (.unknownKey key)

def set (entry : FileEntry) (key value : String) : FileEntry × Except SettingsError Unit :=
  match update entry key value with
  | .ok text => (.file (Utf8.ofString text) true, .ok ())
  | .error error => (entry, .error error)

def directory (configDirectory : String) : String :=
  configDirectory ++ "/patternflow"

def path (configDirectory : String) : String :=
  directory configDirectory ++ "/settings.json"

end Settings

end Patchbay
