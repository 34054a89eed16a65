import Patchbay.Transform.Effect
import Patchbay.Transform.Instrument

namespace Patchbay

/-- What a node does to the pattern that reaches it. A transform that has nothing to add hands
the pattern on as it is. -/
inductive Transform where
  | drumSounds
  | pad
  | pianoRoll
  | arpeggiator
  | customCode
  | synth
  | bank
  | numeric (effect : NumericEffect)
  | scale
  | jux
  | palindrome

namespace Transform

def named : List (String × Transform) :=
  [("drum_sounds", drumSounds), ("pad", pad), ("piano_roll", pianoRoll),
    ("arpeggiator", arpeggiator), ("custom", customCode), ("synth", synth), ("bank", bank),
    ("scale", scale), ("jux", jux), ("palindrome", palindrome)]

def ofTypeId? (typeId : String) : Option Transform :=
  match named.lookup typeId with
  | some transform => some transform
  | none => (NumericEffect.ofTypeId? typeId).map numeric

def apply : Transform → Record → String → String
  | drumSounds => Patchbay.drumSounds
  | pad => Patchbay.pad
  | pianoRoll => Patchbay.pianoRoll
  | arpeggiator => Patchbay.arpeggiator
  | customCode => Patchbay.customCode
  | synth => Patchbay.synth
  | bank => Patchbay.bank
  | numeric effect => effect.apply
  | scale => Patchbay.scale
  | jux => Patchbay.jux
  | palindrome => Patchbay.palindrome

end Transform

def hasTransform (typeId : String) : Bool :=
  (Transform.ofTypeId? typeId).isSome

def applyType (typeId : String) (record : Record) (chain : String) : String :=
  match Transform.ofTypeId? typeId with
  | some transform => transform.apply record chain
  | none => chain

end Patchbay
