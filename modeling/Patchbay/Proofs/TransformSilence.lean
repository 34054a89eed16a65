import Patchbay.Proofs.ChainShape
import Patchbay.Proofs.RecordMerge

namespace Patchbay

namespace Chain

def Blank (chain : String) : Prop := Text.allBlank chain.toList

instance (chain : String) : Decidable (Blank chain) :=
  inferInstanceAs (Decidable (Text.allBlank chain.toList = true))

theorem blank_empty : Blank "" := by decide

theorem ne_empty {chain : String} (h : ¬ Blank chain) : chain.isEmpty = false := by
  rw [Bool.eq_false_iff, ne_eq, String.isEmpty_iff]
  rintro rfl
  exact h blank_empty

theorem blank_append (a b : String) : Blank (a ++ b) ↔ Blank a ∧ Blank b := by
  simp [Blank, Text.allBlank, String.toList_append, List.all_append]

theorem not_blank_append_left {a : String} (h : ¬ Blank a) (b : String) : ¬ Blank (a ++ b) :=
  fun hab => h ((blank_append a b).mp hab).1

theorem not_blank_append_right (a : String) {b : String} (h : ¬ Blank b) : ¬ Blank (a ++ b) :=
  fun hab => h ((blank_append a b).mp hab).2

theorem not_blank_call {function : String} (h : ¬ Blank function) (argument : String) :
    ¬ Blank (call function argument) := by
  rw [call, String.append_assoc, String.append_assoc]
  exact not_blank_append_left h _

theorem not_blank_of_infix {chain result : String} (hpart : chain.toList <:+: result.toList)
    (h : ¬ Blank chain) : ¬ Blank result := by
  intro hblank
  apply h
  exact List.all_eq_true.mpr fun c hc => List.all_eq_true.mp hblank c (hpart.subset hc)

theorem not_blank_stack (argument : String) : ¬ Blank (call "stack" argument) :=
  not_blank_call (by decide) argument

theorem not_blank_pushSource_of_source (chain : String) {source : String} (h : ¬ Blank source) :
    ¬ Blank (pushSource chain source) := by
  unfold pushSource
  split
  · exact h
  · exact not_blank_stack _

end Chain

open Chain

section Effects

theorem GoesOn.empty {step : String → String} {text : String} (h : GoesOn step text) :
    step "" = "" :=
  h.step_eq ""

theorem GoesOn.not_blank {step : String → String} {text : String} (h : GoesOn step text)
    {chain : String}
    (hchain : ¬ Blank chain) : ¬ Blank (step chain) := by
  have hne : chain ≠ "" := by
    rintro rfl
    exact hchain blank_empty
  rw [h.step_eq, if_neg hne]
  exact not_blank_append_left hchain text

theorem pushNumber_empty_record (chain name : String) : pushNumber ∅ chain name = chain := rfl

theorem foldl_pushNumber_empty_record (names : List String) (chain : String) :
    names.foldl (pushNumber ∅) chain = chain := by
  induction names generalizing chain with
  | nil => rfl
  | cons name rest ih => rw [List.foldl_cons, pushNumber_empty_record, ih]

end Effects

namespace Transform

/-- Whether a transform can start a pattern. The others only go on with one. -/
def startsPattern : Transform → Bool
  | drumSounds | pad | pianoRoll | arpeggiator | customCode | synth => true
  | bank | numeric _ | scale | jux | palindrome => false

theorem apply_empty_record (transform : Transform) (chain : String) :
    transform.apply ∅ chain = chain := by
  cases transform with
  | numeric effect => exact foldl_pushNumber_empty_record _ chain
  | _ => rfl

theorem apply_empty_chain {transform : Transform} (h : transform.startsPattern = false)
    (record : Record) : transform.apply record "" = "" := by
  cases transform with
  | drumSounds | pad | pianoRoll | arpeggiator | customCode | synth => cases h
  | numeric effect =>
    obtain ⟨_, hgoes⟩ :=
      exists_goesOn_foldl (exists_goesOn_pushNumber record) (effect.params.map (·.1))
    exact hgoes.empty
  | bank => simp only [apply, Patchbay.bank]; split <;> rfl
  | scale => simp only [apply, Patchbay.scale]; split <;> rfl
  | jux => simp only [apply, Patchbay.jux]; split <;> rfl
  | palindrome => simp only [apply, Patchbay.palindrome]; split <;> rfl

theorem not_blank_apply (transform : Transform) (record : Record) {chain : String}
    (h : ¬ Blank chain) : ¬ Blank (transform.apply record chain) := by
  obtain ⟨shape, _, hshape⟩ := transform.hasShape_apply record
  rw [hshape]
  exact not_blank_of_infix (shape.infix_apply chain) h

def startingNote : Value :=
  .object (.ofList [("pitch", .string "c"), ("step", .number (.integer 0 (by decide)))])

def startingChanges : Transform → Record
  | drumSounds | synth => .ofList [("sound", .string "bd")]
  | pad => .ofList [("grid", .array [.array [.bool true]]), ("sounds", .array [.string "bd"])]
  | pianoRoll => .ofList [("notes", .array [startingNote])]
  | arpeggiator => .ofList [("notes", .string "0")]
  | customCode => .ofList [("code", .string "x")]
  | bank | numeric _ | scale | jux | palindrome => ∅

theorem json?_merge (record : Record) {changes : Record} {name : String} {value : Value}
    (h : changes.get? name = some value) (hvalue : value.isNull = false) :
    (record.merge changes).json? name = some value.json := by
  rw [Record.json?, Record.get?_merge, h]
  simp [Record.changed?, hvalue]

theorem text?_merge (record : Record) {changes : Record} {name text : String}
    (h : changes.get? name = some (.string text)) (htrim : Text.trim text = text)
    (hne : text.isEmpty = false) : (record.merge changes).text? name = some text := by
  have hjson := json?_merge record h rfl
  simp only [Record.text?, hjson, Value.string, htrim, hne]
  rfl

theorem array?_merge (record : Record) {changes : Record} {name : String} (items : List Value)
    (h : changes.get? name = some (.array items)) :
    (record.merge changes).array? name = some (items.map (·.json)) := by
  have hjson := json?_merge record h rfl
  simp only [Record.array?, hjson, Value.array]

theorem stepCount_pos (record : Record) : 0 < PianoRoll.stepCount record := by
  unfold PianoRoll.stepCount
  simp only
  split
  · split
    · decide
    · next steps _ hne =>
      have hcap : 0 < PianoRoll.maxSteps := by decide
      omega
  · decide

theorem place_first {steps : Nat} (h : 0 < steps) (pitch : String) :
    (PianoRoll.place (List.replicate steps []) (0, pitch)).all List.isEmpty = false := by
  cases steps with
  | zero => omega
  | succ rest => simp [PianoRoll.place, List.replicate_succ]

theorem not_blank_apply_starting {transform : Transform} (h : transform.startsPattern)
    (record : Record) (chain : String) :
    ¬ Blank (transform.apply (record.merge transform.startingChanges) chain) := by
  cases transform with
  | bank | numeric _ | scale | jux | palindrome => cases h
  | drumSounds =>
    have htext : (record.merge drumSounds.startingChanges).text? "sound" = some "bd" :=
      text?_merge record (by decide +kernel) (by decide +kernel) (by decide)
    simp only [apply, Patchbay.drumSounds, htext]
    exact not_blank_pushSource_of_source chain (not_blank_call (by decide) _)
  | synth =>
    have htext : (record.merge synth.startingChanges).text? "sound" = some "bd" :=
      text?_merge record (by decide +kernel) (by decide +kernel) (by decide)
    obtain ⟨_, hgoes⟩ := exists_goesOn_foldl
      (exists_goesOn_pushNumber (record.merge synth.startingChanges)) ["attack", "release"]
    simp only [apply, Patchbay.synth, htext]
    refine hgoes.not_blank ?_
    have hvoice : ¬ Blank (call "sound" (quoted "bd")) := not_blank_call (by decide) _
    split
    · exact hvoice
    · exact not_blank_append_right _ hvoice
  | pad =>
    have hsounds : (record.merge pad.startingChanges).array? "sounds" = some [.string "bd"] :=
      array?_merge record [.string "bd"] (by decide +kernel)
    have hgrid : (record.merge pad.startingChanges).array? "grid" = some [.array [.bool true]] :=
      array?_merge record [.array [.bool true]] (by decide +kernel)
    have hrows : ([.array [.bool true]].zip [.string "bd"]).filterMap
        (fun entry => Pad.row? entry.1 entry.2) = ["sound(\"bd\")"] := by decide +kernel
    simp only [apply, Patchbay.pad, hsounds, hgrid, hrows]
    exact not_blank_pushSource_of_source chain (by decide)
  | pianoRoll =>
    have hget : pianoRoll.startingChanges.get? "notes" = some (.array [startingNote]) := by
      decide +kernel
    have hnotes := array?_merge record [startingNote] hget
    have hnote : ([startingNote].map (·.json)).filterMap PianoRoll.note? = [(0, "c")] := by
      decide +kernel
    have hcolumns := place_first (stepCount_pos (record.merge pianoRoll.startingChanges)) "c"
    simp only [apply, Patchbay.pianoRoll, hnotes, hnote, List.foldl_cons, List.foldl_nil]
    rw [hcolumns]
    exact not_blank_pushSource_of_source chain (not_blank_call (by decide) _)
  | arpeggiator =>
    have htext : (record.merge arpeggiator.startingChanges).text? "notes" = some "0" :=
      text?_merge record (by decide +kernel) (by decide +kernel) (by decide)
    simp only [apply, Patchbay.arpeggiator, htext]
    exact not_blank_pushSource_of_source chain (not_blank_call (by decide) _)
  | customCode =>
    have htext : (record.merge customCode.startingChanges).text? "code" = some "x" :=
      text?_merge record (by decide +kernel) (by decide +kernel) (by decide)
    have hhead : "x".toList.head? ≠ some '.' := by decide
    simp only [apply, Patchbay.customCode, htext, hhead]
    exact not_blank_pushSource_of_source chain (by decide)

end Transform

end Patchbay
