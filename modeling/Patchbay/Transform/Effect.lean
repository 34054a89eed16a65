import Patchbay.Transform.Chain
import Patchbay.Transform.Param

namespace Patchbay

open Chain

def pushNumber (record : Record) (chain name : String) : String :=
  match record.numberText? name with
  | some value => pushCall chain name value
  | none => chain

/-- An oscillator voice: it sounds the notes before it, or a drone of its own. -/
def synth (record : Record) (chain : String) : String :=
  match record.text? "sound" with
  | none => chain
  | some sound =>
      let voice := call "sound" (quoted sound)
      let voiced := if chain.isEmpty then voice else chain ++ "." ++ voice
      ["attack", "release"].foldl (pushNumber record) voiced

def bank (record : Record) (chain : String) : String :=
  match record.text? "bank" with
  | some name => pushCall chain "bank" (quoted name)
  | none => chain

structure NumericEffect where
  typeId : String
  name : String
  lead : String × String
  others : List (String × String) := []

namespace NumericEffect

def params (effect : NumericEffect) : List (String × String) :=
  effect.lead :: effect.others

def apply (effect : NumericEffect) (record : Record) (chain : String) : String :=
  (effect.params.map (·.1)).foldl (pushNumber record) chain

def all : List NumericEffect :=
  [⟨"gain", "Gain", ("gain", "Gain"), []⟩,
    ⟨"lpf", "Low-pass Filter", ("lpf", "Cutoff"), [("lpq", "Resonance")]⟩,
    ⟨"hpf", "High-pass Filter", ("hpf", "Cutoff"), []⟩,
    ⟨"room", "Reverb", ("room", "Amount"), [("roomsize", "Size")]⟩,
    ⟨"delay", "Delay", ("delay", "Amount"), [("delaytime", "Time"), ("delayfeedback", "Feedback")]⟩,
    ⟨"distort", "Distortion", ("distort", "Drive"), []⟩,
    ⟨"crush", "Bit Crush", ("crush", "Bits"), []⟩,
    ⟨"pan", "Pan", ("pan", "Position"), []⟩,
    ⟨"speed", "Playback Speed", ("speed", "Speed"), []⟩,
    ⟨"postgain", "Post Gain", ("postgain", "Gain"), []⟩,
    ⟨"fast", "Fast", ("fast", "Factor"), []⟩,
    ⟨"slow", "Slow", ("slow", "Factor"), []⟩]

def ofTypeId? (typeId : String) : Option NumericEffect :=
  all.find? fun effect => effect.typeId == typeId

end NumericEffect

def scale (record : Record) (chain : String) : String :=
  match record.text? "scale" with
  | some name => pushCall chain "scale" (quoted name)
  | none => chain

/-- The argument is a function of the pattern language, so it is not quoted. -/
def jux (record : Record) (chain : String) : String :=
  match record.text? "jux" with
  | some function => pushCall chain "jux" function
  | none => chain

def palindrome (record : Record) (chain : String) : String :=
  if record.flag "enabled" then pushCall chain "palindrome" "" else chain

end Patchbay
