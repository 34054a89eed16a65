import Patchbay.Proofs.ChainShape
import Patchbay.Proofs.WholeNumbers

namespace Patchbay

open Chain

theorem Chain.pushSource_ne {source : String} (h : source ≠ "") (chain : String) :
    pushSource chain source ≠ chain := by
  unfold pushSource
  split
  · next hempty =>
    rw [String.isEmpty_iff.mp hempty]
    exact h
  · intro heq
    have hlength := congrArg String.length heq
    have hname : "stack".length = 5 := rfl
    simp only [call, String.length_append, hname] at hlength
    omega

namespace PianoRoll

/-- The note plays the pitch on the step: it holds the step as a whole number, and the pitch as a
text that is not blank. -/
def Plays (note : Json) (step : Nat) (pitch : String) : Prop :=
  ∃ members text fits, note = .object members ∧
    members.lookup "step" = some (.number (.integer step fits)) ∧
    members.lookup "pitch" = some (.string text) ∧ pitch = Text.trim text ∧ pitch ≠ ""

/-- The pitches that notes play on a step, in the order of the notes. -/
inductive PitchesOn (step : Nat) : List Json → List String → Prop where
  | nil : PitchesOn step [] []
  | plays {note : Json} {pitch : String} {notes : List Json} {pitches : List String}
      (h : Plays note step pitch) (hrest : PitchesOn step notes pitches) :
      PitchesOn step (note :: notes) (pitch :: pitches)
  | silent {note : Json} {notes : List Json} {pitches : List String}
      (h : ∀ pitch, ¬ Plays note step pitch) (hrest : PitchesOn step notes pitches) :
      PitchesOn step (note :: notes) pitches

theorem natural?_eq_some_iff (n : Number) (step : Nat) :
    n.natural? = some step ↔ ∃ fits, n = .integer step fits := by
  cases n with
  | float x => exact ⟨fun h => (Option.some_ne_none _ h.symm).elim, fun ⟨_, h⟩ => by cases h⟩
  | integer i fits =>
    rw [Number.natural?]
    constructor
    · intro h
      split at h
      · obtain rfl := Option.some.inj h
        next hpos => exact ⟨by omega, by simp [Int.toNat_of_nonneg hpos]⟩
      · cases h
    · rintro ⟨_, h⟩
      obtain rfl := (Number.integer.inj h)
      simp

theorem member?_eq_some_iff (note : Json) (name : String) (value : Json) :
    member? note name = some value ↔
      ∃ members, note = .object members ∧ members.lookup name = some value := by
  cases note with
  | object members => exact ⟨fun h => ⟨members, rfl, h⟩, fun ⟨_, heq, h⟩ => by cases heq; exact h⟩
  | _ => exact ⟨by rintro ⟨⟩, by rintro ⟨_, ⟨⟩, _⟩⟩

theorem note?_eq_some_iff (note : Json) (step : Nat) (pitch : String) :
    note? note = some (step, pitch) ↔ Plays note step pitch := by
  constructor
  · intro h
    unfold note? at h
    split at h
    · next n text hstep hpitch =>
      obtain ⟨members, rfl, hstep⟩ := (member?_eq_some_iff note _ _).mp hstep
      simp only at h
      split at h
      · cases h
      · next hne =>
        obtain ⟨_, hn, heq⟩ := Option.map_eq_some_iff.mp h
        obtain ⟨fits, rfl⟩ := (natural?_eq_some_iff n _).mp hn
        cases heq
        exact ⟨members, text, fits, rfl, hstep, hpitch, rfl, by simpa using hne⟩
    · cases h
  · rintro ⟨members, text, fits, rfl, hstep, hpitch, rfl, hne⟩
    have hn := (natural?_eq_some_iff _ step).mpr ⟨fits, rfl⟩
    simp only [note?, member?, hstep, hpitch, hn, String.isEmpty_iff, hne, if_false,
      Option.map_some]

section Columns

def chord (notes : List (Nat × String)) (step : Nat) : List String :=
  (notes.filter fun note => note.1 == step).map (·.2)

theorem chord_cons (note : Nat × String) (notes : List (Nat × String)) (step : Nat) :
    chord (note :: notes) step = (if note.1 = step then [note.2] else []) ++ chord notes step := by
  by_cases h : note.1 = step <;> simp [chord, h]

theorem getElem?_place (columns : List (List String)) (note : Nat × String) (step : Nat) :
    (place columns note)[step]? =
      columns[step]?.map (· ++ if note.1 = step then [note.2] else []) := by
  rw [place, List.getElem?_modify]
  by_cases h : note.1 = step <;> simp [h]

theorem getElem?_foldl_place (notes : List (Nat × String)) (columns : List (List String))
    (step : Nat) :
    (notes.foldl place columns)[step]? = columns[step]?.map (· ++ chord notes step) := by
  induction notes generalizing columns with
  | nil => simp [chord]
  | cons note rest ih =>
    rw [List.foldl_cons, ih, getElem?_place, Option.map_map, chord_cons]
    simp [Function.comp_def, List.append_assoc]

theorem foldl_place_replicate (notes : List (Nat × String)) (steps : Nat) :
    notes.foldl place (List.replicate steps []) = (List.range steps).map (chord notes) := by
  refine List.ext_getElem? fun step => ?_
  rw [getElem?_foldl_place, List.getElem?_map, List.getElem?_replicate]
  by_cases hstep : step < steps
  · simp [hstep]
  · simp [hstep]

theorem chord_eq_nil_iff (notes : List (Nat × String)) (step : Nat) :
    chord notes step = [] ↔ ∀ note ∈ notes, note.1 ≠ step := by
  simp [chord]

theorem pitchesOn_chord (notes : List Json) (step : Nat) :
    PitchesOn step notes (chord (notes.filterMap note?) step) := by
  induction notes with
  | nil => exact .nil
  | cons note rest ih =>
    cases hnote : note? note with
    | none =>
      rw [List.filterMap_cons_none hnote]
      refine .silent (fun pitch hplays => ?_) ih
      rw [(note?_eq_some_iff note step pitch).mpr hplays] at hnote
      cases hnote
    | some played =>
      rw [List.filterMap_cons_some hnote, chord_cons]
      by_cases hstep : played.1 = step
      · rw [if_pos hstep]
        exact .plays ((note?_eq_some_iff note step played.2).mp (hstep ▸ hnote)) ih
      · rw [if_neg hstep]
        refine .silent (fun pitch hplays => hstep ?_) ih
        rw [(note?_eq_some_iff note step pitch).mpr hplays] at hnote
        exact congrArg Prod.fst (Option.some.inj hnote).symm

/-- Add a note behind the test that its step is below the number of steps. There is no result if the
test lets a note pass that has no column. -/
def placeBelow? (steps : Nat) (columns : List (List String)) (note : Nat × String) :
    Option (List (List String)) :=
  if note.1 < steps then
    if h : note.1 < columns.length then some
      (columns.set note.1 (columns[note.1] ++ [note.2])) else none
  else some columns

theorem placeBelow?_eq (columns : List (List String)) (note : Nat × String) :
    placeBelow? columns.length columns note = some (place columns note) := by
  unfold placeBelow? place
  by_cases h : note.1 < columns.length
  · rw [if_pos h, dif_pos h, List.modify_eq_set_getElem?, List.getElem?_eq_getElem h]
    rfl
  · rw [if_neg h, List.modify_eq_self (Nat.not_lt.mp h)]

theorem length_place (columns : List (List String)) (note : Nat × String) :
    (place columns note).length = columns.length :=
  List.length_modify _ _ _

/-- The number of columns never changes, so the test never lets a note pass that has none. -/
theorem foldlM_placeBelow? (notes : List (Nat × String)) (columns : List (List String)) :
    notes.foldlM (placeBelow? columns.length) columns = some (notes.foldl place columns) := by
  induction notes generalizing columns with
  | nil => rfl
  | cons note rest ih =>
    have hrest := ih (place columns note)
    rw [length_place] at hrest
    rw [List.foldlM_cons, placeBelow?_eq]
    exact hrest

end Columns

/-- The value writes a positive number of steps, as a whole number or as a text. -/
inductive WritesSteps : Json → Nat → Prop where
  | number {n : Nat} (fits) (hpos : 0 < n) : WritesSteps (.number (.integer n fits)) n
  | text {text : String} {n : Nat} (h : Numeral.Natural64 (Text.trim text).toList n)
    (hpos : 0 < n) :
      WritesSteps (.string text) n

/-- The number of steps of a record: what is written, but at most 256, or else 8. -/
structure CountsSteps (record : Record) (steps : Nat) : Prop where
  written : ∀ value n, record.json? "steps" = some value → WritesSteps value n → steps = min n 256
  unwritten : (∀ value n, record.json? "steps" = some value → ¬ WritesSteps value n) → steps = 8

def steps? : Json → Option Nat
  | .number n => n.natural?
  | .string text => Numeral.nat64? (Text.trim text).toList
  | _ => none

theorem writesSteps_iff (value : Json) (n : Nat) :
    WritesSteps value n ↔ steps? value = some n ∧ 0 < n := by
  cases value with
  | number number =>
    rw [steps?, natural?_eq_some_iff]
    constructor
    · rintro ⟨fits, hpos⟩
      exact ⟨⟨fits, rfl⟩, hpos⟩
    · rintro ⟨⟨fits, rfl⟩, hpos⟩
      exact .number fits hpos
  | string text =>
    rw [steps?, Numeral.nat64?_eq_some_iff]
    constructor
    · intro hwrites
      cases hwrites with
      | text h hpos => exact ⟨h, hpos⟩
    · rintro ⟨h, hpos⟩
      exact .text h hpos
  | _ => exact ⟨by rintro ⟨⟩, by rintro ⟨⟨⟩, _⟩⟩

theorem stepCount_eq (record : Record) :
    stepCount record =
      match (record.json? "steps").bind steps? with
      | some steps => if steps = 0 then 8 else min steps 256
      | none => 8 := by
  simp only [stepCount, defaultSteps, maxSteps]
  cases record.json? "steps" with
  | none => rfl
  | some value =>
    cases value with
    | number n =>
      cases hsteps : n.natural? <;> simp [steps?, hsteps]
    | string text =>
      cases hsteps : Numeral.nat64? (Text.trim text).toList <;> simp [steps?, hsteps]
    | _ => rfl

theorem countsSteps_stepCount (record : Record) : CountsSteps record (stepCount record) := by
  rw [stepCount_eq]
  constructor
  · intro value n hjson hwrites
    obtain ⟨hsteps, hpos⟩ := (writesSteps_iff value n).mp hwrites
    rw [hjson, Option.bind_some, hsteps]
    exact if_neg (Nat.ne_of_gt hpos)
  · intro hnone
    cases hsteps : (record.json? "steps").bind steps? with
    | none => rfl
    | some n =>
      obtain ⟨value, hjson, hvalue⟩ := Option.bind_eq_some_iff.mp hsteps
      have hzero : n = 0 := by
        by_contra hne
        exact hnone value n hjson ((writesSteps_iff value n).mpr ⟨hvalue, Nat.pos_of_ne_zero hne⟩)
      exact if_pos hzero

theorem pianoRoll_eq (record : Record) (chain : String) :
    let columns := (List.range (stepCount record)).map
      (chord (((record.array? "notes").getD []).filterMap note?))
    pianoRoll record chain =
      if columns.all List.isEmpty then chain
      else pushSource chain (call "note" (quoted (" ".intercalate (columns.map columnText)))) := by
  intro columns
  unfold pianoRoll
  cases hnotes : record.array? "notes" with
  | none =>
    have hempty : columns.all List.isEmpty := by
      simp [columns, hnotes, chord]
    rw [if_pos hempty]
  | some notes =>
    have hcolumns :
        (notes.filterMap note?).foldl place (List.replicate (stepCount record) []) = columns := by
      rw [foldl_place_replicate]
      simp only [columns, hnotes, Option.getD_some]
    simp only [hcolumns]

theorem all_isEmpty_iff (notes : List Json) (steps : Nat) :
    ((List.range steps).map (chord (notes.filterMap note?))).all List.isEmpty ↔
      ∀ note ∈ notes, ∀ step < steps, ∀ pitch, ¬ Plays note step pitch := by
  rw [List.all_map, List.all_eq_true]
  simp only [List.mem_range, Function.comp_apply, List.isEmpty_iff, chord_eq_nil_iff,
    List.mem_filterMap]
  constructor
  · intro h note hnote step hstep pitch hplays
    exact h step hstep (step, pitch) ⟨note, hnote,
      (note?_eq_some_iff note step pitch).mpr hplays⟩ rfl
  · rintro h step hstep ⟨_, pitch⟩ ⟨note, hnote, hplays⟩ rfl
    exact h note hnote _ hstep pitch ((note?_eq_some_iff note _ pitch).mp hplays)

end PianoRoll

open PianoRoll

/-- A roll has as many columns as its record has steps, and in the column of each step the pitches
that the notes play on it. No note is added to a column that is not there. With nothing to play on
these steps the roll hands the chain on, and with something to play it adds the texts of its columns
as a source. -/
theorem pianoRoll_plays_notes_on_steps (record : Record) (chain : String) :
    let notes := (record.array? "notes").getD []
    let steps := stepCount record
    CountsSteps record steps ∧ ∃ columns : List (List String),
      (notes.filterMap note?).foldlM (placeBelow? steps) (List.replicate steps []) = some columns ∧
      columns.length = steps ∧
      (∀ step (h : step < columns.length), PitchesOn step notes columns[step]) ∧
      (pianoRoll record chain = chain ↔ ∀ note ∈ notes, ∀ step < steps, ∀ pitch,
        ¬ Plays note step pitch) ∧
      ((∃ note ∈ notes, ∃ step < steps, ∃ pitch, Plays note step pitch) →
        pianoRoll record chain =
          pushSource chain (call "note" (quoted (" ".intercalate (columns.map columnText))))) := by
  intro notes steps
  have hroll := pianoRoll_eq record chain
  have hempty := all_isEmpty_iff notes steps
  refine ⟨countsSteps_stepCount record, (List.range steps).map (chord (notes.filterMap note?)),
    ?_, by simp, ?_, ?_, ?_⟩
  · have hplaced := foldlM_placeBelow? (notes.filterMap note?) (List.replicate steps [])
    rwa [List.length_replicate, foldl_place_replicate] at hplaced
  · intro step h
    rw [List.getElem_map, List.getElem_range]
    exact pitchesOn_chord notes step
  · rw [← hempty, hroll]
    split
    · next hall => exact iff_of_true rfl hall
    · next hall => exact iff_of_false (pushSource_ne (call_ne_empty _ _) chain) hall
  · rintro ⟨note, hnote, step, hstep, pitch, hplays⟩
    rw [hroll, if_neg fun hall => hempty.mp hall note hnote step hstep pitch hplays]

def rollNote (pitch : String) (step : Json) : Json :=
  .object [("pitch", .string pitch), ("step", step)]

def chordRoll : Record :=
  .ofList [("steps", .string " +4 "),
    ("notes", ⟨.array [rollNote " c " (.number (.integer 1 (by decide))),
      rollNote "g" (.number (.integer 4 (by decide))), .null,
      rollNote "e" (.number (.integer 1 (by decide)))], by decide +kernel⟩)]

theorem chordRoll_is_heard :
    (∃ note ∈ (chordRoll.array? "notes").getD [], ∃ step < stepCount chordRoll, ∃ pitch,
      Plays note step pitch) ∧
      pianoRoll chordRoll "" = "note(\"~ [c,e] ~ ~\")" := by
  have hcount : stepCount chordRoll = 4 := by decide +kernel
  have hnotes :
      rollNote " c " (.number (.integer 1 (by decide))) ∈ (chordRoll.array? "notes").getD [] := by
    decide +kernel
  have hplays : Plays (rollNote " c " (.number (.integer 1 (by decide)))) 1 "c" :=
    (note?_eq_some_iff _ 1 "c").mp (by decide +kernel)
  have hheard : ∃ note ∈ (chordRoll.array? "notes").getD [], ∃ step < stepCount chordRoll, ∃ pitch,
      Plays note step pitch := ⟨_, hnotes, 1, by rw [hcount]; decide, "c", hplays⟩
  obtain ⟨_, columns, hplaced, _, _, _, hsource⟩ := pianoRoll_plays_notes_on_steps chordRoll ""
  have hcolumns : columns = [[], ["c", "e"], [], []] := by
    refine Option.some.inj (hplaced.symm.trans ?_)
    decide +kernel
  subst hcolumns
  exact ⟨hheard, (hsource hheard).trans (by decide +kernel)⟩

end Patchbay
