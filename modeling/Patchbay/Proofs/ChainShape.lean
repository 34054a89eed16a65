import Patchbay.Transform.Basic
import Patchbay.Proofs.JsonNumbers

namespace Patchbay

open Chain

/-- What a node can make of the chain that reaches it. -/
inductive Shape where
  /-- Hand the chain on. -/
  | identity
  /-- Start a chain, or be layered over the one that is there. -/
  | source (text : String)
  /-- Go on with a chain, if there is one. -/
  | calls (text : String)
  /-- Start a chain, or be called on the one that is there. -/
  | voice (text : String)

namespace Shape

def apply : Shape → String → String
  | identity, chain => chain
  | source text, chain => if chain = "" then text else "stack(" ++ chain ++ ", " ++ text ++ ")"
  | calls text, chain => if chain = "" then "" else chain ++ text
  | voice text, chain => if chain = "" then text else chain ++ "." ++ text

def Proper : Shape → Prop
  | identity => True
  | source text | voice text => text ≠ ""
  | calls text => text.toList.head? = some '.'

theorem infix_apply (shape : Shape) (chain : String) :
    chain.toList <:+: (shape.apply chain).toList := by
  by_cases hempty : chain = ""
  · rw [hempty]
    exact List.nil_infix
  · cases shape with
    | identity => exact List.infix_refl _
    | source text =>
      rw [apply, if_neg hempty]
      simp only [String.toList_append, List.append_assoc]
      exact ⟨"stack(".toList, ", ".toList ++ (text.toList ++ ")".toList), by simp⟩
    | calls text =>
      rw [apply, if_neg hempty, String.toList_append]
      exact (List.prefix_append _ _).isInfix
    | voice text =>
      rw [apply, if_neg hempty, String.append_assoc, String.toList_append]
      exact (List.prefix_append _ _).isInfix

end Shape

def HasShape (step : String → String) : Prop :=
  ∃ shape : Shape, shape.Proper ∧ ∀ chain, step chain = shape.apply chain

theorem hasShape_id : HasShape fun chain => chain :=
  ⟨.identity, trivial, fun _ => rfl⟩

theorem hasShape_pushSource {source : String} (h : source ≠ "") :
    HasShape fun chain => pushSource chain source := by
  refine ⟨.source source, h, fun chain => ?_⟩
  simp only [pushSource, String.isEmpty_iff, Shape.apply, call, String.append_assoc]
  rfl

theorem call_ne_empty (function argument : String) : call function argument ≠ "" := by
  simp [call]

/-- A step that goes on with a chain by a text, if there is a chain. -/
structure GoesOn (step : String → String) (text : String) : Prop where
  step_eq : ∀ chain, step chain = if chain = "" then "" else chain ++ text
  point : text ≠ "" → text.toList.head? = some '.'

section GoesOn

variable {first second : String → String} {text later : String}

theorem goesOn_id : GoesOn (fun chain => chain) "" := by
  refine ⟨fun chain => ?_, fun h => absurd rfl h⟩
  by_cases hchain : chain = "" <;> simp [hchain]

theorem goesOn_append {text : String} (h : text.toList.head? = some '.') :
    GoesOn (fun chain => if chain.isEmpty then chain else chain ++ text) text := by
  refine ⟨fun chain => ?_, fun _ => h⟩
  by_cases hchain : chain = "" <;> simp [hchain]

theorem goesOn_pushCall (method argument : String) :
    GoesOn (fun chain => pushCall chain method argument) ("." ++ call method argument) := by
  have hpush :
    GoesOn (fun chain => if chain.isEmpty then chain else chain ++ ("." ++ call method argument))
      ("." ++ call method argument) := goesOn_append (by simp)
  simp only [← String.append_assoc] at hpush
  exact hpush

theorem GoesOn.comp (h : GoesOn first text) (hsecond : GoesOn second later) :
    GoesOn (fun chain => second (first chain)) (text ++ later) := by
  refine ⟨fun chain => ?_, fun hne => ?_⟩
  · rw [h.step_eq, hsecond.step_eq]
    by_cases hchain : chain = ""
    · simp [hchain]
    · simp [hchain, String.append_assoc]
  · by_cases htext : text = ""
    · rw [htext, String.empty_append] at hne ⊢
      exact hsecond.point hne
    · rw [String.toList_append, List.head?_append, h.point htext]
      rfl

theorem exists_goesOn_foldl {step : String → String → String}
    (h : ∀ name, ∃ text, GoesOn (step · name) text)
    (names : List String) : ∃ text, GoesOn (fun chain => names.foldl step chain) text := by
  induction names with
  | nil => exact ⟨"", goesOn_id⟩
  | cons name rest ih =>
    obtain ⟨text, htext⟩ := h name
    obtain ⟨later, hlater⟩ := ih
    exact ⟨text ++ later, htext.comp hlater⟩

theorem exists_goesOn_pushNumber (record : Record) (name : String) :
    ∃ text, GoesOn (fun chain => pushNumber record chain name) text := by
  unfold pushNumber
  split
  · exact ⟨_, goesOn_pushCall name _⟩
  · exact ⟨"", goesOn_id⟩

theorem GoesOn.hasShape (h : GoesOn first text) : HasShape first := by
  by_cases htext : text = ""
  · refine ⟨.identity, trivial, fun chain => ?_⟩
    rw [h.step_eq, htext, String.append_empty]
    split
    · next hchain => exact hchain.symm
    · rfl
  · exact ⟨.calls text, h.point htext, h.step_eq⟩

theorem GoesOn.hasShape_voice {voice : String} (h : GoesOn second text) (hvoice : voice ≠ "") :
    HasShape fun chain => second (if chain.isEmpty then voice else chain ++ "." ++ voice) := by
  have hne : voice ++ text ≠ "" := by
    simp [hvoice]
  refine ⟨.voice (voice ++ text), hne, fun chain => ?_⟩
  simp only [h.step_eq]
  by_cases hchain : chain = ""
  · simp [hchain, hvoice, Shape.apply]
  · simp [hchain, Shape.apply, String.append_assoc]

end GoesOn

section Parameters

theorem Numeral.text_ne_nil {n : Numeral} (h : n.whole ≠ []) : n.text ≠ [] := by
  rw [Numeral.text_eq_markedText, Numeral.markedText]
  simp [h]

theorem Number.text_ne_empty (n : Number) : n.text ≠ "" := by
  have hwhole : n.numeral.whole ≠ [] := by
    intro hnil
    have hnumber := n.printed_numeral.number
    simp [Json.isNumber, hnil] at hnumber
  rw [Number.text, ne_eq, String.ofList_eq_empty_iff]
  exact Numeral.text_ne_nil hwhole

theorem Record.ne_empty_of_text? {record : Record} {name text : String}
    (h : record.text? name = some text) :
    text ≠ "" := by
  unfold Record.text? at h
  split at h
  · next s _ =>
    simp only at h
    split at h
    · cases h
    · next hne =>
      obtain rfl := Option.some.inj h
      simpa using hne
  · next n _ =>
    obtain rfl := Option.some.inj h
    exact n.text_ne_empty
  · cases h

end Parameters

section Transforms

variable (record : Record)

theorem hasShape_drumSounds : HasShape (drumSounds record) := by
  unfold drumSounds
  split
  · exact hasShape_pushSource (call_ne_empty _ _)
  · exact hasShape_id

theorem Pad.row_ne_empty {steps sound : Json} {row : String} (h : Pad.row? steps sound = some row) :
    row ≠ "" := by
  unfold Pad.row? at h
  split at h
  · simp only at h
    split at h
    · cases h
    · exact Option.some.inj h ▸ call_ne_empty _ _
  · cases h

theorem hasShape_pad : HasShape (pad record) := by
  unfold pad
  split
  · split
    · exact hasShape_id
    · next row hrow =>
      obtain ⟨entry, _, hentry⟩ := List.mem_filterMap.mp (hrow ▸ List.mem_singleton_self row)
      exact hasShape_pushSource (Pad.row_ne_empty hentry)
    · exact hasShape_pushSource (call_ne_empty _ _)
  · exact hasShape_id

theorem hasShape_pianoRoll : HasShape (pianoRoll record) := by
  unfold pianoRoll
  split
  · exact hasShape_id
  · simp only
    split
    · exact hasShape_id
    · exact hasShape_pushSource (call_ne_empty _ _)

theorem hasShape_arpeggiator : HasShape (arpeggiator record) := by
  unfold arpeggiator
  split
  · exact hasShape_id
  · exact hasShape_pushSource (call_ne_empty _ _)

theorem hasShape_customCode : HasShape (customCode record) := by
  unfold customCode
  split
  · exact hasShape_id
  · next code hcode =>
    split
    · next hpoint => exact (goesOn_append hpoint).hasShape
    · exact hasShape_pushSource (Record.ne_empty_of_text? hcode)

theorem hasShape_synth : HasShape (synth record) := by
  unfold synth
  split
  · exact hasShape_id
  · obtain ⟨text, htext⟩ :=
      exists_goesOn_foldl (exists_goesOn_pushNumber record) ["attack", "release"]
    exact htext.hasShape_voice (call_ne_empty _ _)

theorem hasShape_bank : HasShape (bank record) := by
  unfold bank
  split
  · exact (goesOn_pushCall _ _).hasShape
  · exact hasShape_id

theorem NumericEffect.hasShape_apply (effect : NumericEffect) : HasShape (effect.apply record) := by
  obtain ⟨text, htext⟩ :=
    exists_goesOn_foldl (exists_goesOn_pushNumber record) (effect.params.map (·.1))
  exact htext.hasShape

theorem hasShape_scale : HasShape (scale record) := by
  unfold scale
  split
  · exact (goesOn_pushCall _ _).hasShape
  · exact hasShape_id

theorem hasShape_jux : HasShape (jux record) := by
  unfold jux
  split
  · exact (goesOn_pushCall _ _).hasShape
  · exact hasShape_id

theorem hasShape_palindrome : HasShape (palindrome record) := by
  unfold palindrome
  split
  · exact (goesOn_pushCall _ _).hasShape
  · exact hasShape_id

/-- With the record of a node at hand, each transform does one of four things to every chain. -/
theorem Transform.hasShape_apply (transform : Transform) : HasShape (transform.apply record) := by
  cases transform with
  | drumSounds => exact hasShape_drumSounds record
  | pad => exact hasShape_pad record
  | pianoRoll => exact hasShape_pianoRoll record
  | arpeggiator => exact hasShape_arpeggiator record
  | customCode => exact hasShape_customCode record
  | synth => exact hasShape_synth record
  | bank => exact hasShape_bank record
  | numeric effect => exact effect.hasShape_apply record
  | scale => exact hasShape_scale record
  | jux => exact hasShape_jux record
  | palindrome => exact hasShape_palindrome record

end Transforms

end Patchbay
