import Patchbay.Transform.Basic

namespace Patchbay

inductive ParamType where
  | number
  | text
  | toggle
  | grid
  | notes
deriving DecidableEq

namespace ParamType

def word : ParamType → String
  | number => "number"
  | text => "text"
  | toggle => "toggle"
  | grid => "grid"
  | notes => "notes"

end ParamType

structure ParamDef where
  id : String
  name : String
  paramType : ParamType
  default : Json

structure NodeType where
  id : String
  name : String
  description : String
  category : String
  params : List ParamDef

namespace Catalog

def strings (words : List String) : Json :=
  .array (words.map .string)

def smallNumber (n : Fin 1000) : Json :=
  .number (.integer n (by omega))

def instruments : List NodeType :=
  [⟨"drum_sounds", "Drum Sounds", "Plays a mini-notation sequence of drum samples.", "Instruments",
      [⟨"sound", "Sound", .text, .string "bd sd"⟩]⟩,
    ⟨"pad", "Beat Pad", "Step grid with one row per sample.", "Instruments",
      [⟨"sounds", "Sounds", .text, strings ["bd", "sd", "hh"]⟩,
        ⟨"grid", "Grid", .grid, .array []⟩]⟩,
    ⟨"piano_roll", "Piano Roll", "Note grid; stacked notes on the same step play as a chord.",
      "Instruments",
      [⟨"notes", "Notes", .notes, .array []⟩, ⟨"steps", "Steps", .number, smallNumber 8⟩]⟩,
    ⟨"arpeggiator", "Arpeggiator", "Walks scale degrees up, down or both, across octaves.",
      "Instruments",
      [⟨"notes", "Degrees", .text, .string "0 2 4"⟩, ⟨"mode", "Mode", .text, .string "up"⟩,
        ⟨"octaves", "Octaves", .number, smallNumber 1⟩]⟩,
    ⟨"custom", "Custom Code", "Raw pattern code. Start with '.' to chain onto upstream nodes.",
      "Instruments", [⟨"code", "Code", .text, .string ""⟩]⟩]

def synths : List NodeType :=
  [⟨"synth", "Synth", "Basic oscillator with attack/release.", "Synths",
      [⟨"sound", "Waveform", .text, .string "sawtooth"⟩, ⟨"attack", "Attack", .number, .string ""⟩,
        ⟨"release", "Release", .number, .string ""⟩]⟩,
    ⟨"bank", "Sample Bank", "Selects the drum machine bank used by upstream sounds.", "Synths",
      [⟨"bank", "Bank", .text, .string "RolandTR909"⟩]⟩]

def numericEffect (effect : NumericEffect) : NodeType :=
  { id := effect.typeId
    name := effect.name
    description := "Applies ." ++ effect.lead.1 ++ "() to the incoming pattern."
    category := "Effects"
    params := effect.params.map fun param => ⟨param.1, param.2, .number, .string ""⟩ }

def effects : List NodeType :=
  NumericEffect.all.map numericEffect
    ++ [⟨"scale", "Scale", "Maps note degrees onto a scale, e.g. C:minor.", "Effects",
        [⟨"scale", "Scale", .text, .string "C:major"⟩]⟩,
      ⟨"jux", "Jux", "Applies a function to the right channel only.", "Effects",
        [⟨"jux", "Function", .text, .string "rev"⟩]⟩,
      ⟨"palindrome", "Palindrome", "Plays the pattern forwards then backwards.", "Effects",
        [⟨"enabled", "Enabled", .toggle, .bool false⟩]⟩]

def utilities : List NodeType :=
  [⟨"label", "Label", "Free-text note for annotating the canvas. Produces no sound.", "Utility",
    [⟨"text", "Text", .text, .string ""⟩]⟩]

def all : List NodeType :=
  instruments ++ synths ++ effects ++ utilities

end Catalog

namespace ParamDef

def toJson (param : ParamDef) : Json :=
  .object [("id", .string param.id), ("name", .string param.name),
    ("paramType", .string param.paramType.word), ("defaultValue", param.default)]

end ParamDef

namespace NodeType

def toJson (nodeType : NodeType) : Json :=
  .object [("id", .string nodeType.id), ("name", .string nodeType.name),
    ("description", .string nodeType.description), ("category", .string nodeType.category),
    ("params", .array (nodeType.params.map ParamDef.toJson))]

end NodeType

end Patchbay
