import Patchbay.Proofs.CallLines
import Patchbay.Proofs.RunnerOutcomes

namespace Patchbay

namespace Program

variable {line blanks : List Char} {program edited : String}

/-- The lines of a program without comment lines and blank lines, and without blanks at
their ends. -/
def keptLines (program : String) : List (List Char) :=
  let kept := (Text.lines program.toList).filter fun line => !isComment line
  (kept.filter fun line => !Text.allBlank line).map Text.dropTrailingBlanks

section Comparison

theorem comparisonLine_append (hblanks : Text.allBlank blanks) (line : List Char) :
    comparisonLine (line ++ blanks) = comparisonLine line := by
  have hcut := cutInto_cutCalls tempoOpening_ne_nil line
  obtain ⟨longer, tail, hlonger, htail, hcalls, hrest⟩ :=
    hcut.append_blanks tempoOpening_ne_nil not_blank_tempoOpening hblanks
  rw [comparisonLine, comparisonLine, hlonger.unique tempoOpening_ne_nil,
    remainder_append hcalls htail hrest, Text.dropTrailingBlanks_append htail]

theorem comparisonLine_dropTrailingBlanks (line : List Char) :
    comparisonLine (Text.dropTrailingBlanks line) = comparisonLine line := by
  obtain ⟨blanks, hblanks, hline⟩ := Text.exists_trailingBlanks line
  rw [← comparisonLine_append hblanks, ← hline]

theorem comparisonLine_of_blank (h : Text.allBlank line) : comparisonLine line = [] :=
  comparisonLine_append h []

theorem comparisonForm_eq_keptLines (program : String) :
    comparisonForm program = String.ofList (['\n'].intercalate
      (((keptLines program).map comparisonLine).filter fun line => !Text.allBlank line)) := by
  rw [comparisonForm, keptLines]
  refine congrArg (fun shown => String.ofList (['\n'].intercalate shown)) ?_
  induction (Text.lines program.toList).filter fun line => !isComment line with
  | nil => rfl
  | cons line rest ih =>
    cases hblank : Text.allBlank line with
    | true =>
      rw [List.filter_cons_of_neg (by simp [hblank]), ← ih, List.map_cons,
        comparisonLine_of_blank hblank, List.filter_cons_of_neg (by decide)]
    | false =>
      rw [List.filter_cons_of_pos (by simp [hblank]), List.map_cons, List.map_cons, List.map_cons,
        comparisonLine_dropTrailingBlanks, List.filter_cons, List.filter_cons, ih]

end Comparison

section Tempo

/-- The tempo calls of a program stand on lines that are kept, and are closed there. -/
structure OwnsTempos (program : String) : Prop where
  silent : ∀ line ∈ Text.lines program.toList, isComment line → ¬ tempoOpening <:+: line
  closed : ∀ line ∈ keptLines program, ∀ call ∈ tempoCalls line, closesAll 0 call

theorem mem_keptLines (hline : line ∈ Text.lines program.toList) (hcomment : isComment line = false)
    (hblank : Text.allBlank line = false) : Text.dropTrailingBlanks line ∈ keptLines program := by
  have hshown : line ∈ (Text.lines program.toList).filter fun line => !isComment line :=
    List.mem_filter.mpr ⟨hline, by rw [hcomment]; rfl⟩
  rw [keptLines]
  exact List.mem_map.mpr ⟨line, List.mem_filter.mpr ⟨hshown, by rw [hblank]; rfl⟩, rfl⟩

theorem OwnsTempos.tempoCalls_line (h : OwnsTempos program)
    (hline : line ∈ Text.lines program.toList) :
    tempoCalls line = if isComment line || Text.allBlank line then []
      else tempoCalls (Text.dropTrailingBlanks line) := by
  cases hcomment : isComment line with
  | true =>
    have hnone := h.silent line hline hcomment
    rw [tempoCalls, Cut.callTexts, (calls_eq_nil_iff tempoOpening_ne_nil line).mpr hnone]
    rfl
  | false =>
    cases hblank : Text.allBlank line with
    | true => exact tempoCalls_of_blank hblank
    | false =>
      obtain ⟨blanks, hblanks, hsplit⟩ := Text.exists_trailingBlanks line
      have hsame :=
        tempoCalls_append_blanks (h.closed _ (mem_keptLines hline hcomment hblank)) hblanks
      rwa [← hsplit] at hsame

theorem OwnsTempos.closed_line (h : OwnsTempos program) (hline : line ∈ Text.lines program.toList) :
    ∀ call ∈ tempoCalls line, closesAll 0 call := by
  rw [h.tempoCalls_line hline]
  split
  · exact List.forall_mem_nil _
  · next hshown =>
    obtain ⟨hcomment, hblank⟩ := Bool.or_eq_false_iff.mp (Bool.not_eq_true _ ▸ hshown)
    exact h.closed _ (mem_keptLines hline hcomment hblank)

theorem OwnsTempos.tempoCalls_eq (h : OwnsTempos program) :
    tempoCalls program.toList = (keptLines program).flatMap tempoCalls := by
  rw [tempoCalls_lines _ fun line hline => h.closed_line hline,
    List.flatMap_congr fun line hline => h.tempoCalls_line hline, keptLines]
  induction Text.lines program.toList with
  | nil => rfl
  | cons line rest ih =>
    rw [List.flatMap_cons, ih, List.filter_cons]
    cases isComment line with
    | true => rfl
    | false => cases hblank : Text.allBlank line <;> simp [hblank]

theorem OwnsTempos.lastTempo?_eq (h : OwnsTempos program) (hedited : OwnsTempos edited)
    (hkept : keptLines edited = keptLines program) : lastTempo? edited = lastTempo? program := by
  have hcalls : tempoCalls edited.toList = tempoCalls program.toList := by
    rw [hedited.tempoCalls_eq, h.tempoCalls_eq, hkept]
  exact congrArg (fun calls => calls.getLast?.map String.ofList) hcalls

end Tempo

end Program

theorem getLast?_of_playingAfter {calls : List EngineCall} {program : String}
    (h : playingAfter none calls = some program) :
    (calls.filterMap EngineCall.program?).getLast? = some program := by
  induction calls using List.reverseRecOn with
  | nil => cases h
  | append_singleton calls call _ =>
    have hlast : call.program? = some program := by
      rw [playingAfter_append] at h
      exact h
    rw [List.filterMap_append, List.filterMap_cons_some hlast, List.filterMap_nil,
      List.getLast?_concat]

namespace Runner

open Program

/-- Handing in the program is of no consequence: the engine is asked for nothing, and
nothing waits. -/
structure Ignores (runner : Runner) (program : String) : Prop where
  outcome : (runner.submit program).2 = .unchanged
  calls : (runner.submit program).1.engine.calls = runner.engine.calls
  idle : (runner.submit program).1.pending = none

variable {runner : Runner} {program edited : String}

theorem Consistent.submit_of_playing (h : runner.Consistent (some program))
    (hrunning : runner.status = .running)
    (hsame : comparisonForm edited = comparisonForm program) :
    runner.submit edited =
      if lastTempo? edited = lastTempo? program then
        ({ runner with latest := some edited, pending := none }, .unchanged)
      else { runner with latest := some edited, pending := none }.evaluate edited := by
  obtain ⟨form, hform⟩ := Option.isSome_iff_exists.mp (h.status.mp hrunning)
  obtain ⟨hplaying, _, ⟨⟩, rfl, htempo⟩ := h.remembered form hform
  have hne : comparisonForm edited ≠ "" := by rwa [hsame]
  rw [submit_of_last (h.active_of_running hrunning) hne hform, hsame, htempo]
  by_cases htempos : lastTempo? edited = lastTempo? program
  · rw [if_pos ⟨rfl, htempos⟩, if_pos htempos]
  · rw [if_neg fun hboth => htempos hboth.2, if_pos (.inl htempos), if_neg htempos]

theorem Consistent.ignores_of_playing (h : runner.Consistent (some program))
    (hrunning : runner.status = .running) (hsame : comparisonForm edited = comparisonForm program)
    (htempos : lastTempo? edited = lastTempo? program) : runner.Ignores edited := by
  have hsubmit := h.submit_of_playing hrunning hsame
  rw [if_pos htempos] at hsubmit
  exact ⟨by rw [hsubmit], by rw [hsubmit], by rw [hsubmit]⟩

theorem Consistent.hears_of_playing (h : runner.Consistent (some program))
    (hrunning : runner.status = .running) (hsame : comparisonForm edited = comparisonForm program)
    (htempos : lastTempo? edited ≠ lastTempo? program) :
    (runner.submit edited).1.engine.calls = runner.engine.calls ++ [.evaluate edited] := by
  rw [h.submit_of_playing hrunning hsame, if_neg htempos, calls_runner_evaluate]

/-- To a runner that plays a program, another with the same kept lines is news only by its
last tempo. -/
theorem comment_edit_ignored_iff (settings : RunnerSettings) (timed : Bool)
    (steps : List (Step Action))
    (hrunning : (runSteps { settings, timed } steps).status = .running)
    (hlast : ((heard { settings, timed } steps).filterMap EngineCall.program?).getLast? =
      some program)
    (hkept : keptLines edited = keptLines program) :
    let runner := runSteps { settings, timed } steps
    (runner.Ignores edited ↔ lastTempo? edited = lastTempo? program) ∧
      (lastTempo? edited ≠ lastTempo? program →
        (runner.submit edited).1.engine.calls = runner.engine.calls ++ [.evaluate edited]) ∧
      (OwnsTempos program → OwnsTempos edited → runner.Ignores edited) := by
  intro runner
  have hsame : comparisonForm edited = comparisonForm program := by
    rw [comparisonForm_eq_keptLines edited, comparisonForm_eq_keptLines program, hkept]
  have hconsistent : runner.Consistent (some program) := by
    have hplayed : runner.Consistent _ := (consistent_fresh settings timed).runSteps steps
    obtain ⟨playing, hplaying⟩ := Option.isSome_iff_exists.mp (hplayed.isSome_playing hrunning)
    obtain rfl := Option.some.inj ((getLast?_of_playingAfter hplaying).symm.trans hlast)
    rwa [hplaying] at hplayed
  have hignored := hconsistent.ignores_of_playing hrunning hsame
  have hheard := hconsistent.hears_of_playing hrunning hsame
  refine ⟨⟨fun hignores => ?_, hignored⟩, hheard, fun howns hedited => ?_⟩
  · by_contra hdiffers
    have hcalls := (hheard hdiffers).symm.trans hignores.calls
    simp at hcalls
  · exact hignored (howns.lastTempo?_eq hedited hkept)

theorem commented_kick_is_ignored :
    let kick := "setcpm(30)\n$: s(\"bd\")"
    let commented := "// louder?\n\nsetcpm(30)  \r\n$: s(\"bd\")\n  // hats\n"
    let steps : List (Step Action) := [.act (.submit kick), .act (.sleep 30)]
    (runSteps {} steps).status = .running ∧ keptLines commented = keptLines kick ∧
      (runSteps {} steps).Ignores commented := by
  intro kick commented steps
  have hrunning : (runSteps {} steps).status = .running := by decide +kernel
  have hlast : ((heard {} steps).filterMap EngineCall.program?).getLast? = some kick := by
    decide +kernel
  have hkept : keptLines commented = keptLines kick := by decide +kernel
  have howns : OwnsTempos kick := ⟨by decide +kernel, by decide +kernel⟩
  have hcommented : OwnsTempos commented := ⟨by decide +kernel, by decide +kernel⟩
  obtain ⟨_, _, hignored⟩ := comment_edit_ignored_iff {} true steps hrunning hlast hkept
  exact ⟨hrunning, hkept, hignored howns hcommented⟩

/-- A tempo in a comment is taken for the last one, so the edit that adds it is heard at once. -/
theorem commented_tempo_reaches_engine :
    let kick := "setcpm(30)\n$: s(\"bd\")"
    let commented := "setcpm(30)\n// setcpm(60)\n$: s(\"bd\")"
    let steps : List (Step Action) := [.act (.submit kick), .act (.sleep 30)]
    let runner := runSteps {} steps
    runner.status = .running ∧
      ((heard {} steps).filterMap EngineCall.program?).getLast? = some kick ∧
      keptLines commented = keptLines kick ∧
      (runner.submit commented).2 = .evaluated ∧
      (runner.submit commented).1.engine.calls = runner.engine.calls ++ [.evaluate commented] := by
  decide +kernel

end Runner

end Patchbay
