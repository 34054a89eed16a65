import Patchbay.Proofs.RunnerConsistency

namespace Patchbay

open Program

section Calls

/-- What is evaluated always sounds different from what plays then. -/
def NeverRepeats : Option String → List EngineCall → Prop
  | _, [] => True
  | playing, call :: rest =>
      (∀ program, call.program? = some program →
        ∀ other, playing = some other → ¬ SoundsLike program other) ∧
        NeverRepeats call.program? rest

theorem neverRepeats_append {playing : Option String} {calls later : List EngineCall}
    (hcalls : NeverRepeats playing calls)
    (hlater : NeverRepeats (playingAfter playing calls) later) :
    NeverRepeats playing (calls ++ later) := by
  induction calls generalizing playing with
  | nil => exact hlater
  | cons call rest ih => exact ⟨hcalls.1, ih hcalls.2 hlater⟩

theorem NeverRepeats.of_append {playing : Option String} {calls later : List EngineCall}
    (h : NeverRepeats playing (calls ++ later)) :
    NeverRepeats (playingAfter playing calls) later := by
  induction calls generalizing playing with
  | nil => exact h
  | cons call rest ih => exact ih h.2

theorem playingAfter_of_soundsLike {playing program : String} {calls : List EngineCall}
    (hplaying : SoundsLike playing program) (hhush : .hush ∉ calls)
    (hsame : ∀ other, .evaluate other ∈ calls → SoundsLike other program) :
    ∃ other, playingAfter (some playing) calls = some other ∧ SoundsLike other program := by
  induction calls generalizing playing with
  | nil => exact ⟨playing, rfl, hplaying⟩
  | cons call rest ih =>
    cases call with
    | hush => exact absurd List.mem_cons_self hhush
    | evaluate next =>
      exact ih (hsame next List.mem_cons_self) (fun hmem => hhush (List.mem_cons_of_mem _ hmem))
        fun other hmem => hsame other (List.mem_cons_of_mem _ hmem)

/-- Before a program is evaluated once more, the engine is hushed or something else is evaluated. -/
theorem NeverRepeats.between {playing : Option String} {program again : String}
    {before between after : List EngineCall}
    (h : NeverRepeats playing
      (before ++ .evaluate program :: (between ++ .evaluate again :: after)))
    (hsounds : SoundsLike again program) :
    .hush ∈ between ∨ ∃ other, .evaluate other ∈ between ∧ ¬ SoundsLike other program := by
  by_contra hnothing
  obtain ⟨hhush, hothers⟩ := not_or.mp hnothing
  have hsame (other : String) (hmem : .evaluate other ∈ between) : SoundsLike other program :=
    not_not.mp fun hdiffers => hothers ⟨other, hmem, hdiffers⟩
  obtain ⟨other, hplaying, hother⟩ := playingAfter_of_soundsLike ⟨rfl, rfl⟩ hhush hsame
  -- Then what plays when the program comes again still sounds like it.
  have hnew := h.of_append.2.of_append.1 again rfl other hplaying
  exact hnew ⟨hsounds.1.trans hother.1.symm, hsounds.2.trans hother.2.symm⟩

end Calls

namespace Runner

variable {runner : Runner} {playing : Option String} {program : String}

/-- The runner knows what plays, and waits only with something that sounds different. -/
structure Aware (runner : Runner) (playing : Option String) :
    Prop extends Consistent runner playing where
  silent : runner.status = .idle → playing = none
  fresh : ∀ timer, runner.pending = some timer →
    ∀ other, playing = some other → ¬ SoundsLike timer.program other

def KeepsAware (playing : Option String) (runner next : Runner) : Prop :=
  next.Aware (playingAfter playing (runner.engine.heardUntil next.engine)) ∧
    NeverRepeats playing (runner.engine.heardUntil next.engine)

theorem Aware.remembers (h : runner.Aware playing) {other : String}
    (hplaying : playing = some other) :
    runner.lastEvaluated = some (comparisonForm other) ∧ runner.lastTempo = lastTempo? other := by
  have hrunning : runner.status = .running := by
    cases hstatus : runner.status with
    | idle => cases (h.silent hstatus).symm.trans hplaying
    | running => rfl
  obtain ⟨form, hform⟩ := Option.isSome_iff_exists.mp (h.status.mp hrunning)
  obtain ⟨_, program, hprogram, rfl, htempo⟩ := h.remembered form hform
  obtain rfl := Option.some.inj (hprogram.symm.trans hplaying)
  exact ⟨hform, htempo⟩

theorem Aware.not_soundsLike (h : runner.Aware playing)
    (hnew : runner.lastEvaluated = some (comparisonForm program) →
      runner.lastTempo ≠ lastTempo? program) {other : String} (hplaying : playing = some other) :
    ¬ SoundsLike program other := by
  obtain ⟨hlast, htempo⟩ := h.remembers hplaying
  intro hsounds
  exact hnew (hlast.trans (congrArg some hsounds.1.symm)) (htempo.trans hsounds.2.symm)

theorem KeepsConsistent.aware_of_log_eq {next : Runner} (h : KeepsConsistent playing runner next)
    (hlog : next.engine.log = runner.engine.log) (hsilent : next.status = .idle → playing = none)
    (hfresh : ∀ timer, next.pending = some timer →
      ∀ other, playing = some other → ¬ SoundsLike timer.program other) :
    KeepsAware playing runner next := by
  unfold KeepsConsistent at h
  unfold KeepsAware
  rw [Engine.heardUntil_of_log_eq hlog] at h ⊢
  exact ⟨⟨h, hsilent, hfresh⟩, trivial⟩

theorem Aware.keepsAware_self (h : runner.Aware playing) : KeepsAware playing runner runner :=
  (keepsConsistent_of_log_eq h.toConsistent rfl).aware_of_log_eq rfl h.silent h.fresh

theorem keepsAware_hush {next : Runner} (hengine : next.engine = runner.engine.hush)
    (hstatus : next.status = .idle) (hlast : next.lastEvaluated = none)
    (hpending : next.pending = none) :
    KeepsAware playing runner next := by
  unfold KeepsAware
  rw [hengine, Engine.heardUntil_hush]
  refine ⟨⟨consistent_of_idle hstatus hlast hpending none, fun _ => rfl, nofun⟩, nofun, trivial⟩

theorem Aware.evaluate (h : runner.Aware playing) (hactive : runner.halted = false)
    (hpending : runner.pending = none) (hlatest : runner.latest = some program)
    (hform : comparisonForm program ≠ "")
    (hnew : ∀ other, playing = some other → ¬ SoundsLike program other) :
    KeepsAware playing runner (runner.evaluate program).1 := by
  have hconsistent := h.toConsistent.evaluate hactive hpending hlatest hform
  unfold KeepsConsistent at hconsistent
  unfold KeepsAware
  have hcase := runner.evaluated program
  generalize runner.evaluate program = result at hcase hconsistent ⊢
  cases hcase with
  | accepted hworking =>
    rw [Engine.heardUntil_evaluate hworking] at hconsistent ⊢
    refine ⟨⟨hconsistent, nofun, fun timer htimer => ?_⟩, ?_, trivial⟩
    · cases hpending.symm.trans htimer
    · rintro _ ⟨⟩
      exact hnew
  | refused message hfailing =>
    rw [Engine.heardUntil_evaluate_of_failure hfailing] at hconsistent ⊢
    exact ⟨⟨hconsistent, h.silent, h.fresh⟩, trivial⟩

theorem Aware.submit (h : runner.Aware playing) (program : String) :
    KeepsAware playing runner (runner.submit program).1 := by
  have hconsistent := h.toConsistent.submit program
  have hcase := runner.submitted program
  generalize runner.submit program = result at hcase hconsistent ⊢
  cases hcase with
  | halted _ => exact hconsistent.aware_of_log_eq rfl h.silent h.fresh
  | hushed _ _ _ => exact keepsAware_hush rfl rfl rfl rfl
  | forgotten _ _ hidle _ => exact hconsistent.aware_of_log_eq rfl (fun _ => h.silent hidle) nofun
  | same _ _ _ _ => exact hconsistent.aware_of_log_eq rfl h.silent nofun
  | evaluated generation hactive hform hnew =>
    have htaken :
        Aware { runner with latest := some program, pending := none, generation } playing :=
      ⟨h.take_submitted generation hactive hform, h.silent, nofun⟩
    exact htaken.evaluate hactive rfl rfl hform fun _ => h.not_soundsLike hnew
  | scheduled _ _ _ hnew =>
    refine hconsistent.aware_of_log_eq rfl h.silent ?_
    rintro _ ⟨⟩ _
    exact h.not_soundsLike hnew

theorem Aware.resume (h : runner.Aware playing) (hhalted : runner.halted = true)
    (given : Option String) : KeepsAware playing runner (runner.resume given).1 := by
  have hidle := h.stopped hhalted
  obtain rfl : playing = none := h.silent hidle.1
  have hconsistent := h.toConsistent.resume given
  have hcase := runner.resumed given
  generalize runner.resume given = result at hcase hconsistent ⊢
  cases hcase with
  | nothing _ => exact hconsistent.aware_of_log_eq rfl h.silent h.fresh
  | forgotten _ _ _ => exact hconsistent.aware_of_log_eq rfl (fun _ => rfl) nofun
  | evaluated program _ hform =>
    have htaken :
        Aware { runner with halted := false, latest := some program, pending := none } none :=
      ⟨h.take_resumed hform, h.silent, nofun⟩
    exact htaken.evaluate rfl rfl rfl hform nofun

theorem Aware.sleep (h : runner.Aware playing) (milliseconds : Nat) :
    KeepsAware playing runner (runner.sleep milliseconds) := by
  have hconsistent := h.toConsistent.sleep milliseconds
  have hcase := runner.slept milliseconds
  generalize runner.sleep milliseconds = next at hcase hconsistent ⊢
  cases hcase with
  | untimed _ => exact hconsistent.aware_of_log_eq rfl h.silent h.fresh
  | waited _ _ => exact hconsistent.aware_of_log_eq rfl h.silent h.fresh
  | fired timer _ hpending _ =>
    obtain ⟨_, hlatest, hform⟩ := h.waiting timer hpending
    have htaken :
        Aware { runner with clock := runner.clock + milliseconds, pending := none } playing :=
      ⟨h.take_pending hpending _, h.silent, nofun⟩
    exact htaken.evaluate (h.active_of_pending hpending) rfl hlatest hform (h.fresh timer hpending)

theorem Aware.failWith (h : runner.Aware playing) (message : Option String) :
    KeepsAware playing runner (runner.failWith message) :=
  KeepsConsistent.aware_of_log_eq (h.toConsistent.step (.failWith message)) rfl h.silent h.fresh

section Halted

theorem halted_evaluate (runner : Runner) (program : String) :
    (runner.evaluate program).1.halted = runner.halted := by
  unfold Runner.evaluate
  split <;> rfl

theorem halted_submit (runner : Runner) (program : String) :
    (runner.submit program).1.halted = runner.halted := by
  have hcase := runner.submitted program
  generalize runner.submit program = result at hcase ⊢
  cases hcase with
  | halted | hushed | forgotten | same | scheduled => rfl
  | evaluated => exact halted_evaluate _ program

theorem halted_sleep (runner : Runner) (milliseconds : Nat) :
    (runner.sleep milliseconds).halted = runner.halted := by
  have hcase := runner.slept milliseconds
  generalize runner.sleep milliseconds = next at hcase ⊢
  cases hcase with
  | untimed | waited => rfl
  | fired timer => exact halted_evaluate _ timer.program

end Halted

theorem aware_fresh (settings : RunnerSettings) (timed : Bool) : Aware { settings, timed } none :=
  ⟨consistent_fresh settings timed, fun _ => rfl, nofun⟩

end Runner

end Patchbay
