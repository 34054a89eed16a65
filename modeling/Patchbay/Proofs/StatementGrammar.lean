import Patchbay.Proofs.ProgramStatements

namespace Patchbay

namespace Chain

/-- A sound of its own: samples, notes, scale degrees, or the rows of a beat grid. -/
inductive IsSource : String → Prop where
  | sound (text : String) : IsSource (call "sound" (quoted text))
  | note (text : String) : IsSource (call "note" (quoted text))
  | degrees (text : String) : IsSource (call "n" (quoted text))
  | rows (texts : List String) (h : 2 ≤ texts.length) :
      IsSource (call "stack" (", ".intercalate (texts.map fun text => call "sound" (quoted text))))

/-- What a method is called with: nothing, a quoted text, or a text that reads as a
finite number. -/
inductive IsArgument : String → Prop where
  | nothing : IsArgument ""
  | text (text : String) : IsArgument (quoted text)
  | number {text : String} (h : (Numeral.ofText? text.toList).isSome) : IsArgument text

def methods : List String :=
  ["sound", "attack", "release", "bank", "scale", "palindrome"] ++
    NumericEffect.all.flatMap fun effect => effect.params.map (·.1)

/-- A well-formed chain: a source, a source layered over a chain, or a method called on a chain. -/
inductive IsPattern : String → Prop where
  | source {source : String} (h : IsSource source) : IsPattern source
  | layer {chain source : String} (h : IsPattern chain) (hsource : IsSource source) :
      IsPattern (call "stack" (chain ++ ", " ++ source))
  | method {chain method argument : String} (h : IsPattern chain) (hmethod : method ∈ methods)
      (hargument : IsArgument argument) : IsPattern (chain ++ "." ++ call method argument)

theorem IsSource.head? {source : String} (h : IsSource source) :
    source.toList.head? = some 's' ∨ source.toList.head? = some 'n' := by
  cases h <;> simp [call]

theorem IsPattern.head? {chain : String} (h : IsPattern chain) :
    chain.toList.head? = some 's' ∨ chain.toList.head? = some 'n' := by
  induction h with
  | source h => exact h.head?
  | layer => simp [call]
  | method _ _ _ ih =>
    simpa [List.head?_append] using ih.imp (by simp +contextual) (by simp +contextual)

theorem IsPattern.not_blank {chain : String} (h : IsPattern chain) : ¬ Blank chain := by
  intro hblank
  have hall (c : Char) (hc : chain.toList.head? = some c) : Text.isBlank c :=
    List.all_eq_true.mp hblank c (List.mem_of_mem_head? hc)
  rcases h.head? with hhead | hhead
  · exact absurd (hall _ hhead) (by decide)
  · exact absurd (hall _ hhead) (by decide)

/-- A step that starts a well-formed chain or none, and goes on with one so that it stays
well-formed. -/
structure KeepsPattern (step : String → String) : Prop where
  starts : step "" = "" ∨ IsPattern (step "")
  goesOn : ∀ chain, IsPattern chain → IsPattern (step chain)

theorem keepsPattern_id : KeepsPattern fun chain => chain :=
  ⟨.inl rfl, fun _ h => h⟩

theorem KeepsPattern.comp {first second : String → String} (h : KeepsPattern first)
    (hsecond : KeepsPattern second) : KeepsPattern fun chain => second (first chain) := by
  refine ⟨?_, fun chain hchain => hsecond.goesOn _ (h.goesOn chain hchain)⟩
  rcases h.starts with hempty | hpattern
  · rw [hempty]
    exact hsecond.starts
  · exact .inr (hsecond.goesOn _ hpattern)

theorem KeepsPattern.foldl {α : Type} {step : String → α → String} {as : List α}
    (h : ∀ a ∈ as, KeepsPattern fun chain => step chain a) :
    KeepsPattern fun chain => as.foldl step chain := by
  induction as with
  | nil => exact keepsPattern_id
  | cons a rest ih =>
    exact (h a List.mem_cons_self).comp
      (ih fun other hother => h other (List.mem_cons_of_mem a hother))

theorem keepsPattern_pushSource {source : String} (h : IsSource source) :
    KeepsPattern fun chain => pushSource chain source := by
  refine ⟨.inr (.source h), fun chain hchain => ?_⟩
  rw [pushSource, Chain.ne_empty hchain.not_blank]
  exact .layer hchain h

theorem keepsPattern_pushCall {method argument : String} (hmethod : method ∈ methods)
    (hargument : IsArgument argument) :
    KeepsPattern fun chain => pushCall chain method argument := by
  refine ⟨.inl rfl, fun chain hchain => ?_⟩
  rw [pushCall, Chain.ne_empty hchain.not_blank]
  exact .method hchain hmethod hargument

end Chain

open Chain

section Steps

variable (record : Record)

theorem keepsPattern_pushNumber {name : String} (hname : name ∈ methods) :
    KeepsPattern fun chain => pushNumber record chain name := by
  unfold pushNumber
  split
  · next value hvalue =>
    exact keepsPattern_pushCall hname (.number (Option.filter_eq_some_iff.mp hvalue).2)
  · exact keepsPattern_id

theorem keepsPattern_synth : KeepsPattern (synth record) := by
  unfold synth
  split
  · exact keepsPattern_id
  · next sound _ =>
    have hvoice : KeepsPattern fun chain =>
        if chain.isEmpty then call "sound" (quoted sound)
        else chain ++ "." ++ call "sound" (quoted sound) := by
      refine ⟨.inr (.source (.sound sound)), fun chain hchain => ?_⟩
      rw [Chain.ne_empty hchain.not_blank]
      exact .method hchain (by simp [methods]) (.text sound)
    refine hvoice.comp (.foldl fun name hname => keepsPattern_pushNumber record ?_)
    rw [methods]
    simp at hname ⊢
    tauto

theorem NumericEffect.keepsPattern_apply {effect : NumericEffect} (h : effect ∈ NumericEffect.all) :
    KeepsPattern (effect.apply record) := by
  refine .foldl fun name hname => keepsPattern_pushNumber record ?_
  exact List.mem_append_right _ (List.mem_flatMap.mpr ⟨effect, h, hname⟩)

theorem keepsPattern_drumSounds : KeepsPattern (drumSounds record) := by
  unfold drumSounds
  split
  · exact keepsPattern_pushSource (.sound _)
  · exact keepsPattern_id

theorem Pad.exists_of_row? {entry : Json × Json} {row : String}
    (h : Pad.row? entry.1 entry.2 = some row) : ∃ text, row = call "sound" (quoted text) := by
  unfold Pad.row? at h
  split at h
  · simp only at h
    split at h
    · cases h
    · exact ⟨_, (Option.some.inj h).symm⟩
  · cases h

theorem Pad.exists_texts (grid : List (Json × Json)) :
    ∃ texts : List String, grid.filterMap (fun entry => Pad.row? entry.1 entry.2) =
      texts.map fun text => call "sound" (quoted text) := by
  induction grid with
  | nil => exact ⟨[], rfl⟩
  | cons entry rest ih =>
    obtain ⟨texts, htexts⟩ := ih
    cases hrow : Pad.row? entry.1 entry.2 with
    | none => exact ⟨texts, by rw [List.filterMap_cons, hrow, htexts]⟩
    | some row =>
      obtain ⟨text, rfl⟩ := Pad.exists_of_row? hrow
      exact ⟨text :: texts, by rw [List.filterMap_cons, hrow, htexts, List.map_cons]⟩

theorem keepsPattern_pad : KeepsPattern (pad record) := by
  unfold pad
  split
  · next sounds grid _ _ =>
    obtain ⟨texts, htexts⟩ := Pad.exists_texts (grid.zip sounds)
    simp only [htexts]
    match texts with
    | [] => exact keepsPattern_id
    | [text] => exact keepsPattern_pushSource (.sound text)
    | first :: second :: rest =>
      exact keepsPattern_pushSource (.rows (first :: second :: rest) (by simp))
  · exact keepsPattern_id

theorem keepsPattern_pianoRoll : KeepsPattern (pianoRoll record) := by
  unfold pianoRoll
  split
  · exact keepsPattern_id
  · simp only
    split
    · exact keepsPattern_id
    · exact keepsPattern_pushSource (.note _)

theorem keepsPattern_arpeggiator : KeepsPattern (arpeggiator record) := by
  unfold arpeggiator
  split
  · exact keepsPattern_id
  · exact keepsPattern_pushSource (.degrees _)

theorem keepsPattern_bank : KeepsPattern (bank record) := by
  unfold bank
  split
  · exact keepsPattern_pushCall (by simp [methods]) (.text _)
  · exact keepsPattern_id

theorem keepsPattern_scale : KeepsPattern (scale record) := by
  unfold scale
  split
  · exact keepsPattern_pushCall (by simp [methods]) (.text _)
  · exact keepsPattern_id

theorem keepsPattern_palindrome : KeepsPattern (palindrome record) := by
  unfold palindrome
  split
  · exact keepsPattern_pushCall (by simp [methods]) .nothing
  · exact keepsPattern_id

end Steps

namespace Transform

/-- The transforms that put code of the user into the pattern as it stands. -/
def isRaw : Transform → Bool
  | customCode | jux => true
  | _ => false

theorem mem_all_of_ofTypeId? {typeId : String} {effect : NumericEffect}
    (h : ofTypeId? typeId = some (numeric effect)) : effect ∈ NumericEffect.all := by
  unfold ofTypeId? at h
  split at h
  · next transform hnamed =>
    obtain rfl := Option.some.inj h
    obtain ⟨_, _, hsplit, _⟩ := List.lookup_eq_some_iff.mp hnamed
    have hmem : (typeId, numeric effect) ∈ named := hsplit ▸ by simp
    simp [named] at hmem
  · obtain ⟨found, hfound, heq⟩ := Option.map_eq_some_iff.mp h
    obtain rfl := numeric.inj heq
    exact List.mem_of_find?_eq_some hfound

theorem typeId_of_isRaw {typeId : String} {transform : Transform}
    (h : ofTypeId? typeId = some transform) (hraw : transform.isRaw) :
    typeId = "custom" ∨ typeId = "jux" := by
  unfold ofTypeId? at h
  split at h
  · next found hnamed =>
    obtain rfl := Option.some.inj h
    obtain ⟨_, _, hsplit, _⟩ := List.lookup_eq_some_iff.mp hnamed
    have hmem : (typeId, found) ∈ named := hsplit ▸ by simp
    cases found with
    | customCode => exact .inl (by simpa [named] using hmem)
    | jux => exact .inr (by simpa [named] using hmem)
    | _ => cases hraw
  · obtain ⟨effect, _, rfl⟩ := Option.map_eq_some_iff.mp h
    cases hraw

theorem keepsPattern_apply {typeId : String} {transform : Transform}
    (h : ofTypeId? typeId = some transform) (hraw : transform.isRaw = false) (record : Record) :
    KeepsPattern (transform.apply record) := by
  cases transform with
  | customCode | jux => cases hraw
  | drumSounds => exact keepsPattern_drumSounds record
  | pad => exact keepsPattern_pad record
  | pianoRoll => exact keepsPattern_pianoRoll record
  | arpeggiator => exact keepsPattern_arpeggiator record
  | synth => exact keepsPattern_synth record
  | numeric effect => exact effect.keepsPattern_apply record (mem_all_of_ofTypeId? h)
  | bank => exact keepsPattern_bank record
  | scale => exact keepsPattern_scale record
  | palindrome => exact keepsPattern_palindrome record

end Transform

namespace Program

variable {nodes : List Node} {edges : List Edge} {store : Store}

def NoRawCode (nodes : List Node) : Prop :=
  ∀ node ∈ nodes, node.typeId ≠ "custom" ∧ node.typeId ≠ "jux"

theorem keepsPattern_voice (h : NoRawCode nodes) (store : Store) (id : String) :
    KeepsPattern fun chain => voice nodes store chain id := by
  unfold voice typeOf?
  cases hlast : lastNode? nodes id with
  | none => exact keepsPattern_id
  | some node =>
    have hmem : node ∈ nodes := List.mem_reverse.mp (List.mem_of_find?_eq_some hlast)
    simp only [Option.map_some, applyType]
    cases htransform : Transform.ofTypeId? node.typeId with
    | none => exact keepsPattern_id
    | some transform =>
      refine Transform.keepsPattern_apply htransform ?_ _
      by_contra hraw
      rw [Bool.not_eq_false] at hraw
      rcases Transform.typeId_of_isRaw htransform hraw with htype | htype
      · exact (h node hmem).1 htype
      · exact (h node hmem).2 htype

def isHeardAlone (nodes : List Node) (store : Store) (id : String) : Bool :=
  !(voice nodes store "" id).isEmpty

theorem isHeardAlone_eq_false (id : String) :
    isHeardAlone nodes store id = false ↔ voice nodes store "" id = "" := by
  rw [isHeardAlone, Bool.not_eq_false', String.isEmpty_iff]

def sounds (nodes : List Node) (store : Store) (group : Group) : Bool :=
  group.nodeIds.any (isHeardAlone nodes store)

theorem foldl_voice_empty {ids : List String}
    (h : ∀ id ∈ ids, isHeardAlone nodes store id = false) :
    ids.foldl (voice nodes store) "" = "" :=
  List.foldlRecOn (motive := fun chain => chain = "") ids _ rfl fun _ hchain id hid => by
    rw [hchain, ← isHeardAlone_eq_false]
    exact h id hid

theorem isPattern_foldl_voice (h : NoRawCode nodes) {ids : List String} {id : String}
    (hid : id ∈ ids)
    (hheard : isHeardAlone nodes store id) : IsPattern (ids.foldl (voice nodes store) "") := by
  obtain ⟨before, after, rfl⟩ := List.append_of_mem hid
  have hvoices (ids : List String) : KeepsPattern fun chain =>
      ids.foldl (voice nodes store) chain :=
    .foldl fun id _ => keepsPattern_voice h store id
  rw [List.foldl_append, List.foldl_cons]
  refine (hvoices after).goesOn _ ?_
  rcases (hvoices before).starts with hempty | hpattern
  · rw [hempty]
    refine (keepsPattern_voice h store id).starts.resolve_left fun hnone => ?_
    rw [(isHeardAlone_eq_false id).mpr hnone] at hheard
    cases hheard
  · exact (keepsPattern_voice h store id).goesOn _ hpattern

theorem isPattern_pattern (h : NoRawCode nodes) {group : Group}
    (hsounds : sounds nodes store group) :
    IsPattern (pattern nodes store group.nodeIds) := by
  obtain ⟨id, hid, hheard⟩ := List.any_eq_true.mp hsounds
  rw [pattern_eq_foldl]
  exact isPattern_foldl_voice h hid hheard

theorem statement?_eq (h : NoRawCode nodes) (group : Group) :
    statement? nodes store group =
      if sounds nodes store group then some (statementMark ++ pattern nodes store group.nodeIds)
      else none := by
  cases hsounds : sounds nodes store group with
  | true =>
    have hnot := (isPattern_pattern h hsounds).not_blank
    exact if_neg hnot
  | false =>
    have hsilent : pattern nodes store group.nodeIds = "" := by
      rw [pattern_eq_foldl]
      exact foldl_voice_empty fun id hid =>
        Bool.eq_false_iff.mpr (List.any_eq_false.mp hsounds id hid)
    rw [if_neg Bool.false_ne_true, statement?_eq_none, hsilent]
    exact blank_empty

theorem statements_eq_map (h : NoRawCode nodes) (edges : List Edge) (store : Store) :
    statements nodes edges store =
      ((Group.all nodes edges store).filter (sounds nodes store)).map fun group =>
        statementMark ++ pattern nodes store group.nodeIds := by
  unfold statements
  induction Group.all nodes edges store with
  | nil => rfl
  | cons group rest ih =>
    rw [List.filterMap_cons, statement?_eq h, ih]
    cases hsounds : sounds nodes store group <;> simp [hsounds]

/-- Without code of the user, a program is empty or the tempo line with one statement for each group
that sounds, in the order of the groups. Every statement is the mark and a well-formed chain, which
starts with a source and never with a method call. -/
theorem compile_wellFormed (nodes : List Node) (edges : List Edge) (store : Store) (tempo : String)
    (h : NoRawCode nodes) :
    let patterns := ((Group.all nodes edges store).filter (sounds nodes store)).map fun group =>
      pattern nodes store group.nodeIds
    compile nodes edges store tempo =
        (if patterns = [] then ""
        else tempoStatement tempo ++ "\n" ++ "\n".intercalate (patterns.map (statementMark ++ ·))) ∧
      ∀ chain ∈ patterns, IsPattern chain ∧ chain.toList.head? ≠ some '.' := by
  intro patterns
  refine ⟨?_, fun chain hchain => ?_⟩
  · have hlines : statements nodes edges store = patterns.map (statementMark ++ ·) := by
      rw [statements_eq_map h, List.map_map]
      rfl
    rw [compile, hlines]
    cases patterns <;> rfl
  · obtain ⟨group, hgroup, rfl⟩ := List.mem_map.mp hchain
    have hpattern := isPattern_pattern h (List.mem_filter.mp hgroup).2
    refine ⟨hpattern, fun hhead => ?_⟩
    rcases hpattern.head? with hstart | hstart <;> cases hhead.symm.trans hstart

theorem drums_behind_gain_wellFormed :
    let nodes : List Node :=
      [{ id := "gain", typeId := "gain" }, { id := "kick", typeId := "drum_sounds" },
        { id := "hats", typeId := "drum_sounds" }]
    let edges : List Edge := [⟨"1", "gain", "kick"⟩, ⟨"2", "kick", "hats"⟩]
    let store : Store := { live := .ofList [("gain", .ofList [("gain", .string "0.8")]),
      ("kick", .ofList [("sound", .string "bd")]), ("hats", .ofList [("sound", .string "hh*8")])] }
    NoRawCode nodes ∧
      compile nodes edges store "30" = "setcpm(30)\n$: stack(sound(\"bd\"), sound(\"hh*8\"))" ∧
      IsPattern "stack(sound(\"bd\"), sound(\"hh*8\"))" := by
  intro nodes edges store
  have hraw : NoRawCode nodes := by simp [NoRawCode, nodes]
  have hpatterns : ((Group.all nodes edges store).filter (sounds nodes store)).map
      (fun group => pattern nodes store group.nodeIds) =
          ["stack(sound(\"bd\"), sound(\"hh*8\"))"] := by
    decide +kernel
  obtain ⟨hcompile, hwords⟩ := compile_wellFormed nodes edges store "30" hraw
  rw [hpatterns] at hcompile hwords
  exact ⟨hraw, hcompile.trans (by decide +kernel), (hwords _ List.mem_cons_self).1⟩

end Program

end Patchbay
