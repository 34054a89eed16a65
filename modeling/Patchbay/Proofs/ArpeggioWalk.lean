import Patchbay.Transform.Instrument
import Patchbay.Proofs.WholeNumbers

namespace Patchbay

open Chain

structure Binary64.TruncatesTo (x : Binary64) (i : Int) : Prop where
  le : i.natAbs * x.ratio.2 ≤ x.ratio.1
  lt : x.ratio.1 < (i.natAbs + 1) * x.ratio.2
  sign : if x.negative then i ≤ 0 else 0 ≤ i

theorem Binary64.truncatesTo_truncate (x : Binary64) : x.TruncatesTo x.truncate := by
  have hpos : 0 < x.ratio.2 := by
    rw [ratio]
    split
    · exact Nat.one_pos
    · exact Nat.pow_pos (by decide)
  have htruncate : x.truncate =
      if x.negative then -((x.ratio.1 / x.ratio.2 : Nat) : Int) else (x.ratio.1 /
        x.ratio.2 : Nat) := rfl
  have habs : x.truncate.natAbs = x.ratio.1 / x.ratio.2 := by
    rw [htruncate]
    split <;> simp only [Int.natAbs_neg, Int.natAbs_natCast]
  constructor
  · rw [habs]
    exact Nat.div_mul_le_self _ _
  · rw [habs, Nat.mul_comm]
    exact Nat.lt_mul_div_succ _ hpos
  · rw [htruncate]
    generalize x.ratio.1 / x.ratio.2 = quotient
    split <;> omega

namespace Arpeggio

variable {tokens : List (List Char)} {octaves : Nat} {degrees : List Int}

/-- The number of octaves of a record: what is written, cut off behind the point and brought into
the range from 1 to 4, or else 1. -/
structure CountsOctaves (record : Record) (octaves : Nat) : Prop where
  written : ∀ text x, record.text? "octaves" = some text → Numeral.ofText? text.toList = some x →
    ∃ i, x.TruncatesTo i ∧ (octaves : Int) = min (max i 1) 4
  unwritten : (∀ text x,
    record.text? "octaves" = some text → Numeral.ofText? text.toList ≠ some x) →
    octaves = 1

theorem numberText?_bind (record : Record) (name : String) :
    ((record.numberText? name).bind fun text => Numeral.ofText? text.toList) =
      (record.text? name).bind fun text => Numeral.ofText? text.toList := by
  rw [Record.numberText?]
  cases record.text? name with
  | none => rfl
  | some text =>
    rw [Option.filter_some]
    cases hread : Numeral.ofText? text.toList <;> simp [hread]

theorem countsOctaves_octaves (record : Record) :
    CountsOctaves record (Arpeggio.octaves record) := by
  rw [octaves, numberText?_bind]
  constructor
  · intro text x htext hread
    rw [htext, Option.bind_some, hread]
    refine ⟨x.truncate, x.truncatesTo_truncate, ?_⟩
    rw [maxOctaves]
    simp only
    omega
  · intro hnone
    cases hread : (record.text? "octaves").bind fun text => Numeral.ofText? text.toList with
    | none => rfl
    | some x =>
      obtain ⟨text, htext, hx⟩ := Option.bind_eq_some_iff.mp hread
      exact absurd hx (hnone text x htext)

/-- The tokens write degrees of 64 bits, which still fit in 64 bits in each of the octaves. -/
structure Stacks (tokens : List (List Char)) (octaves : Nat) (degrees : List Int) : Prop where
  written : List.Forall₂ Numeral.Integer64 tokens degrees
  fits : ∀ octave < octaves, ∀ degree ∈ degrees, Numeral.Fits64 (degree + 7 * octave)

/-- The degrees octave by octave, seven higher in each. -/
def stack (degrees : List Int) (octaves : Nat) : List Int :=
  (List.range octaves).flatMap fun (octave : Nat) => degrees.map fun degree =>
    degree + 7 * (octave : Int)

theorem raised?_eq (degree : Int) (octave : Nat) :
    raised? degree octave =
      if Numeral.Fits64 (degree + 7 * octave) then some (degree + 7 * octave) else none := rfl

theorem stacked?_eq (degrees : List Int) (octaves : Nat)
    [Decidable (∀ octave < octaves, ∀ degree ∈ degrees, Numeral.Fits64 (degree + 7 * octave))] :
    stacked? degrees octaves =
      if ∀ octave < octaves, ∀ degree ∈ degrees, Numeral.Fits64 (degree + 7 * octave) then
        some (stack degrees octaves)
      else none := by
  let entries := (List.range octaves).flatMap fun octave => degrees.map fun degree =>
    (degree, octave)
  have hstack : stack degrees octaves = entries.map fun entry => entry.1 + 7 * (entry.2 : Int) := by
    simp [entries, stack, List.map_flatMap, Function.comp_def]
  have hfits : (∀ octave < octaves, ∀ degree ∈ degrees, Numeral.Fits64 (degree + 7 * octave)) ↔
      ∀ entry ∈ entries, Numeral.Fits64 (entry.1 + 7 * (entry.2 : Int)) := by
    simp only [entries, List.mem_flatMap, List.mem_range, List.mem_map]
    constructor
    · rintro h _ ⟨octave, hoctave, degree, hdegree, rfl⟩
      exact h octave hoctave degree hdegree
    · intro h octave hoctave degree hdegree
      exact h (degree, octave) ⟨octave, hoctave, degree, hdegree, rfl⟩
  have hguard := Json.mapM_guard (f := fun entry : Int × Nat => raised? entry.1 entry.2) (c := id)
    (fun entry _ => raised?_eq entry.1 entry.2) hfits
  rw [List.map_id] at hguard
  rw [hstack]
  exact hguard

theorem mapM_int64?_eq_some_iff (tokens : List (List Char)) (degrees : List Int) :
    tokens.mapM Numeral.int64? = some degrees ↔ List.Forall₂ Numeral.Integer64 tokens degrees := by
  rw [Json.mapM_eq_some_iff]
  simp only [Numeral.int64?_eq_some_iff]

/-- The upward walk over tokens: their degrees in all octaves, or else the tokens as they are. -/
inductive Upward (tokens : List (List Char)) (octaves : Nat) : List String → Prop where
  | stacked {degrees : List Int} (h : Stacks tokens octaves degrees) :
      Upward tokens octaves ((stack degrees octaves).map intText)
  | typed (h : ∀ degrees, ¬ Stacks tokens octaves degrees) :
      Upward tokens octaves (tokens.map String.ofList)

theorem upward_upward (tokens : List (List Char)) (octaves : Nat) :
    Upward tokens octaves (upward tokens octaves) := by
  classical
  by_cases hstacks : ∃ degrees, Stacks tokens octaves degrees
  · obtain ⟨degrees, h⟩ := hstacks
    have hup : upward tokens octaves = (stack degrees octaves).map intText := by
      rw [upward, (mapM_int64?_eq_some_iff tokens degrees).mpr h.written, Option.bind_some,
        stacked?_eq, if_pos h.fits]
    exact hup ▸ .stacked h
  · have hnone := not_exists.mp hstacks
    have hup : upward tokens octaves = tokens.map String.ofList := by
      rw [upward]
      cases hwritten : tokens.mapM Numeral.int64? with
      | none => rfl
      | some degrees =>
        rw [Option.bind_some, stacked?_eq, if_neg]
        exact fun hfits =>
          hnone degrees ⟨(mapM_int64?_eq_some_iff tokens degrees).mp hwritten, hfits⟩
    exact hup ▸ .typed hnone

theorem Stacks.length_stack (h : Stacks tokens octaves degrees) :
    (stack degrees octaves).length = octaves * tokens.length := by
  simp [stack, h.written.length_eq]

/-- Nothing that is stacked is wrapped: its text reads back as the degree raised by its octaves. -/
theorem Stacks.integer64_intText (h : Stacks tokens octaves degrees) :
    ∀ i ∈ stack degrees octaves, Numeral.Integer64 (intText i).toList i := by
  intro i hi
  obtain ⟨octave, hoctave, hi⟩ := List.mem_flatMap.mp hi
  obtain ⟨degree, hdegree, rfl⟩ := List.mem_map.mp hi
  rw [intText, String.toList_ofList]
  exact ⟨Numeral.writesWhole_ofInt _, h.fits octave (List.mem_range.mp hoctave) degree hdegree⟩

/-- The steps that are played of an upward walk. There and back, neither turning point is
repeated. -/
inductive Walked (mode : Option String) (up : List String) : List String → Prop where
  | down (hmode : mode = some "down") : Walked mode up up.reverse
  | thereAndBack {first last : String} {inner : List String} (hmode : mode = some "updown")
      (hup : up = first :: (inner ++ [last])) (hinner : inner ≠ []) :
        Walked mode up (up ++ inner.reverse)
  | short (hmode : mode = some "updown") (hup : up.length ≤ 2) : Walked mode up up
  | up (hdown : mode ≠ some "down") (hback : mode ≠ some "updown") : Walked mode up up

theorem exists_turningPoints {up : List String} (h : 2 < up.length) :
    ∃ first inner last, up = first :: (inner ++ [last]) ∧ inner ≠ [] := by
  obtain ⟨first, rest, rfl⟩ := List.exists_cons_of_length_pos (Nat.zero_lt_of_lt h)
  have hrest : rest ≠ [] := by
    rintro rfl
    rw [List.length_singleton] at h
    omega
  refine ⟨first, rest.dropLast, rest.getLast hrest, by rw [List.dropLast_append_getLast hrest], ?_⟩
  rw [List.length_cons] at h
  exact List.ne_nil_of_length_pos (by rw [List.length_dropLast]; omega)

theorem walked_thereAndBack {mode : Option String} (hmode : mode = some "updown")
    (up : List String) :
    Walked mode up (Arpeggio.thereAndBack up) := by
  unfold Arpeggio.thereAndBack
  split
  · next hlong =>
    obtain ⟨first, inner, last, rfl, hinner⟩ := exists_turningPoints hlong
    rw [List.drop_succ_cons, List.drop_zero, List.dropLast_concat]
    exact .thereAndBack hmode rfl hinner
  · next hshort => exact .short hmode (Nat.not_lt.mp hshort)

end Arpeggio

open Arpeggio

/-- An arpeggiator walks over the degrees of its tokens in all octaves, if every token is a degree
and each one fits in 64 bits in each octave; each step then reads back as the degree raised by its
octaves. Otherwise it walks over the tokens as they are. -/
theorem arpeggiator_walks_all_or_nothing (record : Record) (chain : String) {notes : String}
    (h : record.text? "notes" = some notes) :
    let tokens := Text.words notes.toList
    let octaves := Arpeggio.octaves record
    CountsOctaves record octaves ∧
      (∀ degrees, Stacks tokens octaves degrees →
        (stack degrees octaves).length = octaves * tokens.length ∧
        ∀ i ∈ stack degrees octaves, Numeral.Integer64 (intText i).toList i) ∧
      ∃ up steps, Upward tokens octaves up ∧ Walked (record.text? "mode") up steps ∧
        arpeggiator record chain =
          pushSource chain (call "n" (quoted (" ".intercalate steps))) := by
  intro tokens octaves
  refine ⟨countsOctaves_octaves record,
    fun degrees hstacks =>
      ⟨hstacks.length_stack, hstacks.integer64_intText⟩, upward tokens octaves, ?_⟩
  have hup := upward_upward tokens octaves
  simp only [arpeggiator, h]
  split
  · next hmode => exact ⟨_, hup, .down hmode, rfl⟩
  · next hmode => exact ⟨_, hup, walked_thereAndBack hmode _, rfl⟩
  · next hdown hback => exact ⟨_, hup, .up hdown hback, rfl⟩

def highArpeggio : Record :=
  .ofList [("mode", .string "updown"), ("notes", .string "1 +2  9223372036854775801"),
    ("octaves", .number (.integer 2 (by decide)))]

theorem highArpeggio_keeps_tokens :
    highArpeggio.text? "notes" = some "1 +2  9223372036854775801" ∧
      ∃ steps, Walked (some "updown") ["1", "+2", "9223372036854775801"] steps ∧
        arpeggiator highArpeggio "" =
          pushSource "" (call "n" (quoted (" ".intercalate steps))) := by
  have hnotes : highArpeggio.text? "notes" = some "1 +2  9223372036854775801" := by decide +kernel
  have hmode : highArpeggio.text? "mode" = some "updown" := by decide +kernel
  have hoctaves : Arpeggio.octaves highArpeggio = 2 := by decide +kernel
  obtain ⟨_, _, up, steps, hup, hsteps, hplayed⟩ :=
    arpeggiator_walks_all_or_nothing highArpeggio "" hnotes
  rw [hmode] at hsteps
  refine ⟨hnotes, steps, ?_, hplayed⟩
  cases hup with
  | @stacked degrees h =>
    have hwritten := (mapM_int64?_eq_some_iff _ degrees).mpr h.written
    have hdegrees : [1, 2, 9223372036854775801] = degrees := by
      refine Option.some.inj (Eq.trans ?_ hwritten)
      decide +kernel
    subst hdegrees
    have hfits := h.fits 1 (by rw [hoctaves]; decide) 9223372036854775801 (by decide)
    exact absurd hfits (by decide)
  | typed _ =>
    have htokens : (Text.words "1 +2  9223372036854775801".toList).map String.ofList =
        ["1", "+2", "9223372036854775801"] := by decide +kernel
    exact htokens ▸ hsteps

example : arpeggiator highArpeggio "" = "n(\"1 +2 9223372036854775801 +2\")" := by
  decide +kernel

end Patchbay
