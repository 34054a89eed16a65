import Patchbay.Proofs.ProgramStatements

namespace Patchbay

open Chain

namespace Shape

variable {shape other : Shape}

theorem eq_of_apply (h : shape.Proper) (hother : other.Proper)
    (hsame : ∀ chain, shape.apply chain = other.apply chain) : shape = other := by
  have hempty := hsame ""
  have hletter := congrArg String.toList (hsame "x")
  clear hsame
  cases shape <;> cases other <;> simp_all [apply, Proper, String.toList_inj]

end Shape

theorem hasShape_applyType (typeId : String) (record : Record) :
    HasShape (applyType typeId record) := by
  unfold applyType
  split
  · exact Transform.hasShape_apply record _
  · exact hasShape_id

theorem HasShape.existsUnique {step : String → String} (h : HasShape step) :
    ∃! shape : Shape, shape.Proper ∧ ∀ chain, step chain = shape.apply chain := by
  obtain ⟨shape, hproper, hshape⟩ := h
  refine ⟨shape, ⟨hproper, hshape⟩, ?_⟩
  rintro other ⟨hother, hsame⟩
  exact Shape.eq_of_apply hother hproper fun chain => (hsame chain).symm.trans (hshape chain)

theorem NumericEffect.exists_apply_ne (effect : NumericEffect) :
    ∃ record chain, effect.apply record chain ≠ chain := by
  let record : Record := (∅ : Record).insert effect.lead.1 (.string "1")
  have hlead : record.numberText? effect.lead.1 = some "1" := by
    rw [Record.numberText?, Record.text?, Record.json?, Table.get?_insert, if_pos rfl]
    decide +kernel
  obtain ⟨later, hlater⟩ :=
    exists_goesOn_foldl (exists_goesOn_pushNumber record) (effect.others.map (·.1))
  have hgoes := (goesOn_pushCall effect.lead.1 "1").comp hlater
  have happly : effect.apply record "x" = "x" ++ ("." ++ call effect.lead.1 "1" ++ later) := by
    rw [NumericEffect.apply, params, List.map_cons, List.foldl_cons, pushNumber, hlead]
    exact hgoes.step_eq "x"
  refine ⟨record, "x", fun h => ?_⟩
  simpa [← String.toList_inj, call] using happly.symm.trans h

theorem Transform.exists_apply_ne (transform : Transform) :
    ∃ record chain, transform.apply record chain ≠ chain := by
  by_cases hstarts : transform.startsPattern
  · refine ⟨(∅ : Record).merge transform.startingChanges, "", fun h => ?_⟩
    refine not_blank_apply_starting hstarts ∅ "" ?_
    rw [h]
    exact blank_empty
  · cases transform with
    | drumSounds | pad | pianoRoll | arpeggiator | customCode | synth => exact absurd rfl hstarts
    | bank => exact ⟨.ofList [("bank", .string "tr")], "x", by decide +kernel⟩
    | numeric effect => exact effect.exists_apply_ne
    | scale => exact ⟨.ofList [("scale", .string "major")], "x", by decide +kernel⟩
    | jux => exact ⟨.ofList [("jux", .string "rev")], "x", by decide +kernel⟩
    | palindrome => exact ⟨.ofList [("enabled", .bool true)], "x", by decide +kernel⟩

theorem hasTransform_iff (typeId : String) :
    hasTransform typeId ↔ ∃ record chain, applyType typeId record chain ≠ chain := by
  constructor
  · intro h
    obtain ⟨transform, htransform⟩ := Option.isSome_iff_exists.mp h
    obtain ⟨record, chain, hne⟩ := transform.exists_apply_ne
    refine ⟨record, chain, ?_⟩
    rw [applyType, htransform]
    exact hne
  · rintro ⟨record, chain, hne⟩
    by_contra hnot
    exact hne (applyType_of_not_hasTransform (Bool.eq_false_of_not_eq_true hnot) record chain)

theorem infix_applyType (typeId : String) (record : Record) (chain : String) :
    chain.toList <:+: (applyType typeId record chain).toList := by
  obtain ⟨shape, _, hshape⟩ := hasShape_applyType typeId record
  rw [hshape]
  exact shape.infix_apply chain

/-- What a node does to a chain is of one shape, whatever the chain: it hands it on, layers a source
over it, goes on with it, or puts a voice behind it. Without parameters it hands it on, and with
every record only if its type has no transform. The chain is always a part of what comes out, and a
group without live records has no statement. -/
theorem applyType_has_one_shape :
    (∀ typeId record, ∃! shape : Shape, shape.Proper ∧
        ∀ chain, applyType typeId record chain = shape.apply chain) ∧
      (∀ typeId chain, applyType typeId ∅ chain = Shape.identity.apply chain) ∧
      (∀ typeId, hasTransform typeId ↔ ∃ record chain, applyType typeId record chain ≠ chain) ∧
      (∀ typeId record chain, chain.toList <:+: (applyType typeId record chain).toList) ∧
      ∀ nodes store (group : Group), (∀ id ∈ group.nodeIds, store.liveRecord id = ∅) →
        Program.statement? nodes store group = none :=
  ⟨fun typeId record => (hasShape_applyType typeId record).existsUnique, applyType_empty_record,
    hasTransform_iff, infix_applyType, fun _ _ _ h => Program.statement?_of_silent h⟩

theorem muted_drum_has_no_statement :
    let nodes : List Node :=
      [{ id := "kick", typeId := "drum_sounds" }, { id := "gain", typeId := "gain" }]
    let edges : List Edge := [⟨"1", "kick", "gain"⟩]
    let store : Store :=
      { live := .ofList [("kick", ∅)]
        muted := .ofList [("kick", .ofList [("sound", .string "bd")])] }
    let group : Group := ⟨"gain-kick", ["kick", "gain"]⟩
    Group.all nodes edges store = [group] ∧ (∀ id ∈ group.nodeIds, store.liveRecord id = ∅) ∧
      Program.statement? nodes store group = none := by
  intro nodes edges store group
  have hsilent : ∀ id ∈ group.nodeIds, store.liveRecord id = ∅ := by decide +kernel
  exact ⟨by decide +kernel, hsilent, applyType_has_one_shape.2.2.2.2 nodes store group hsilent⟩

end Patchbay
