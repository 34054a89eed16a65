import Patchbay.Transform.Chain
import Patchbay.Transform.Param

namespace Patchbay

open Chain

def drumSounds (record : Record) (chain : String) : String :=
  match record.text? "sound" with
  | some sound => pushSource chain (call "sound" (quoted sound))
  | none => chain

namespace Pad

def isActive : Json → Bool
  | .bool b => b
  | .number n => !n.isZero
  | _ => false

/-- The sequence of one row: its sound on active steps and a rest on the others. A row without
an active step or without a sound is left out. -/
def row? (steps sound : Json) : Option String :=
  match sound, steps with
  | .string s, .array steps =>
      let sound := Text.trim s
      if sound.isEmpty || !steps.any isActive then none
      else
        let columns := steps.map fun step => if isActive step then sound else "~"
        some (call "sound" (quoted (" ".intercalate columns)))
  | _, _ => none

end Pad

def pad (record : Record) (chain : String) : String :=
  match record.array? "sounds", record.array? "grid" with
  | some sounds, some grid =>
      match (grid.zip sounds).filterMap fun entry => Pad.row? entry.1 entry.2 with
      | [] => chain
      | [row] => pushSource chain row
      | rows => pushSource chain (call "stack" (", ".intercalate rows))
  | _, _ => chain

namespace PianoRoll

def defaultSteps : Nat := 8

def maxSteps : Nat := 256

/-- The number of columns: a positive whole number, as a number or a text, but at most 256;
what does not read as one counts as 8. -/
def stepCount (record : Record) : Nat :=
  let written :=
    match record.json? "steps" with
    | some (.number n) => n.natural?
    | some (.string s) => Numeral.nat64? (Text.trim s).toList
    | _ => none
  match written with
  | some steps => if steps = 0 then defaultSteps else min steps maxSteps
  | none => defaultSteps

def member? (value : Json) (name : String) : Option Json :=
  match value with
  | .object members => members.lookup name
  | _ => none

def note? (value : Json) : Option (Nat × String) :=
  match member? value "step", member? value "pitch" with
  | some (.number n), some (.string s) =>
      let pitch := Text.trim s
      if pitch.isEmpty then none else n.natural?.map fun step => (step, pitch)
  | _, _ => none

def place (columns : List (List String)) (note : Nat × String) : List (List String) :=
  columns.modify note.1 fun pitches => pitches ++ [note.2]

def columnText : List String → String
  | [] => "~"
  | [pitch] => pitch
  | pitches => "[" ++ ",".intercalate pitches ++ "]"

end PianoRoll

/-- A note grid. Notes on one step sound as a chord. -/
def pianoRoll (record : Record) (chain : String) : String :=
  match record.array? "notes" with
  | none => chain
  | some notes =>
      let columns := (notes.filterMap PianoRoll.note?).foldl PianoRoll.place
        (List.replicate (PianoRoll.stepCount record) [])
      if columns.all List.isEmpty then chain
      else pushSource chain
        (call "note" (quoted (" ".intercalate (columns.map PianoRoll.columnText))))

namespace Arpeggio

def maxOctaves : Int := 4

def octaves (record : Record) : Nat :=
  match (record.numberText? "octaves").bind fun text => Numeral.ofText? text.toList with
  | some x => (min (max x.truncate 1) maxOctaves).toNat
  | none => 1

def intText (i : Int) : String :=
  String.ofList (Numeral.ofInt i).text

/-- A degree some octaves up, seven degrees an octave, while it fits in 64 bits. -/
def raised? (degree : Int) (octave : Nat) : Option Int :=
  let raised := degree + 7 * octave
  if -0x8000000000000000 ≤ raised ∧ raised < 0x8000000000000000 then some raised else none

/-- The degrees of all octaves, lowest octave first; `none` if one of them does not fit. -/
def stacked? (degrees : List Int) (octaves : Nat) : Option (List Int) :=
  ((List.range octaves).flatMap fun octave => degrees.map fun degree => (degree, octave)).mapM
    fun entry => raised? entry.1 entry.2

/-- The upward walk. Tokens that are not all degrees, or do not all fit, are taken as they
are. -/
def upward (tokens : List (List Char)) (octaves : Nat) : List String :=
  match (tokens.mapM Numeral.int64?).bind fun degrees => stacked? degrees octaves with
  | some degrees => degrees.map intText
  | none => tokens.map String.ofList

def thereAndBack (steps : List String) : List String :=
  if 2 < steps.length then steps ++ (steps.drop 1).dropLast.reverse else steps

end Arpeggio

def arpeggiator (record : Record) (chain : String) : String :=
  match record.text? "notes" with
  | none => chain
  | some notes =>
      let walk := Arpeggio.upward (Text.words notes.toList) (Arpeggio.octaves record)
      let steps :=
        match record.text? "mode" with
        | some "down" => walk.reverse
        | some "updown" => Arpeggio.thereAndBack walk
        | _ => walk
      pushSource chain (call "n" (quoted (" ".intercalate steps)))

/-- Pattern code as it is. A point in front chains it onto what is there. -/
def customCode (record : Record) (chain : String) : String :=
  match record.text? "code" with
  | none => chain
  | some code =>
      if code.toList.head? = some '.' then if chain.isEmpty then chain else chain ++ code
      else pushSource chain code

end Patchbay
