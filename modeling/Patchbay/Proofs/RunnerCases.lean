import Patchbay.Proofs.RunnerMemory

namespace Patchbay.Runner

open Program

inductive Evaluated (runner : Runner) (program : String) : Runner × Outcome → Prop where
  | accepted (hworking : runner.engine.failure = none) :
      Evaluated runner program
        ({ runner with
            engine := runner.engine.evaluate program
            status := .running
            lastEvaluated := some (comparisonForm program)
            lastTempo := lastTempo? program },
          .evaluated)
  | refused (message : String) (hfailing : runner.engine.failure = some message) :
      Evaluated runner program
        ({ runner with engine := runner.engine.evaluate program },
          if RunnerSettings.isBenign runner.settings.benignErrors message then .suppressed message
          else .failed message)

theorem evaluated (runner : Runner) (program : String) :
    runner.Evaluated program (runner.evaluate program) := by
  cases hfailure : runner.engine.failure with
  | none =>
    rw [evaluate, hfailure]
    exact .accepted hfailure
  | some message =>
    rw [evaluate, hfailure]
    exact .refused message hfailure

/-- What comes of a program that is handed in. One that is not heard as the playing one is evaluated
at once or, with timers, perhaps later. -/
inductive Submitted (runner : Runner) (program : String) : Runner × Outcome → Prop where
  | halted (hhalted : runner.halted = true) :
      Submitted runner program ({ runner with latest := some program }, .halted)
  | hushed (hactive : runner.halted = false) (hform : comparisonForm program = "")
      (hbusy : runner.status = .running ∨ runner.pending.isSome) :
      Submitted runner program ({ runner with latest := some program }.reset.hush, .stopped)
  | forgotten (hactive : runner.halted = false) (hform : comparisonForm program = "")
      (hidle : runner.status = .idle) (hpending : runner.pending = none) :
      Submitted runner program ({ runner with latest := some program }.reset, .unchanged)
  | same (hactive : runner.halted = false) (hform : comparisonForm program ≠ "")
      (hlast : runner.lastEvaluated = some (comparisonForm program))
      (htempo : runner.lastTempo = lastTempo? program) :
      Submitted runner program ({ runner with latest := some program, pending := none }, .unchanged)
  | evaluated (generation : Nat) (hactive : runner.halted = false)
    (hform : comparisonForm program ≠ "")
      (hnew : runner.lastEvaluated = some (comparisonForm program) →
        runner.lastTempo ≠ lastTempo? program) :
      Submitted runner program
        ({ runner with latest := some program, pending := none, generation }.evaluate program)
  | scheduled (htimed : runner.timed = true) (hactive : runner.halted = false)
      (hform : comparisonForm program ≠ "")
      (hnew : runner.lastEvaluated = some (comparisonForm program) →
        runner.lastTempo ≠ lastTempo? program) :
      Submitted runner program
        ({ runner with
            latest := some program
            pending := some ⟨runner.generation + 1,
              runner.clock + runner.settings.debounce, program⟩
            generation := runner.generation + 1 },
          .scheduled)

theorem submitted_schedule {runner : Runner} {program : String} (hactive : runner.halted = false)
    (hform : comparisonForm program ≠ "")
    (hnew : runner.lastEvaluated = some (comparisonForm program) →
      runner.lastTempo ≠ lastTempo? program) :
    runner.Submitted program ({ runner with latest := some program }.schedule program) := by
  unfold schedule
  simp only
  split
  · next htimed => exact .scheduled htimed hactive hform hnew
  · exact .evaluated (runner.generation + 1) hactive hform hnew

theorem submitted (runner : Runner) (program : String) :
    runner.Submitted program (runner.submit program) := by
  unfold submit
  simp only
  split
  · next hhalted => exact .halted hhalted
  · next hhalted =>
    have hactive : runner.halted = false := Bool.eq_false_iff.mpr hhalted
    split
    · next hform =>
      have hform : comparisonForm program = "" := String.isEmpty_iff.mp hform
      split
      · next hbusy => exact .hushed hactive hform hbusy
      · next hidle =>
        obtain ⟨hstatus, hpending⟩ := not_or.mp hidle
        refine .forgotten hactive hform ?_ (Option.not_isSome_iff_eq_none.mp hpending)
        cases hrunner : runner.status with
        | idle => rfl
        | running => exact absurd hrunner hstatus
    · next hform =>
      have hform : comparisonForm program ≠ "" :=
        fun hempty => hform (String.isEmpty_iff.mpr hempty)
      split
      · next hlast => exact submitted_schedule hactive hform fun hsome =>
          nomatch hlast.symm.trans hsome
      · next last hlast =>
        split
        · next hsame => exact .same hactive hform (hsame.1 ▸ hlast) hsame.2.symm
        · next hdiffers =>
          have hnew : runner.lastEvaluated = some (comparisonForm program) →
              runner.lastTempo ≠ lastTempo? program := fun hsome htempo =>
            hdiffers ⟨Option.some.inj (hlast.symm.trans hsome), htempo.symm⟩
          split
          · exact .evaluated runner.generation hactive hform hnew
          · exact submitted_schedule hactive hform hnew

theorem submit_of_none {runner : Runner} {program : String} (hactive : runner.halted = false)
    (hform : comparisonForm program ≠ "") (hnone : runner.lastEvaluated = none) :
    runner.submit program = { runner with latest := some program }.schedule program := by
  have hsound : ¬ (comparisonForm program).isEmpty :=
    fun hempty => hform (String.isEmpty_iff.mp hempty)
  unfold submit
  dsimp only
  rw [if_neg (Bool.eq_false_iff.mp hactive), if_neg hsound]
  simp only [hnone]

theorem submit_of_last {runner : Runner} {program last : String} (hactive : runner.halted = false)
    (hform : comparisonForm program ≠ "") (hlast : runner.lastEvaluated = some last) :
    runner.submit program =
      if last = comparisonForm program ∧ lastTempo? program = runner.lastTempo then
        ({ runner with latest := some program, pending := none }, .unchanged)
      else if lastTempo? program ≠ runner.lastTempo ∨
          scaleCalls (comparisonForm program) ≠ scaleCalls last then
        { runner with latest := some program, pending := none }.evaluate program
      else { runner with latest := some program }.schedule program := by
  have hsound : ¬ (comparisonForm program).isEmpty :=
    fun hempty => hform (String.isEmpty_iff.mp hempty)
  unfold submit
  dsimp only
  rw [if_neg (Bool.eq_false_iff.mp hactive), if_neg hsound]
  simp only [hlast]
  rfl

inductive Resumed (runner : Runner) (given : Option String) : Runner × Outcome → Prop where
  | nothing (hnone : given.or runner.latest = none) :
      Resumed runner given ({ runner with halted := false }, .unchanged)
  | forgotten (program : String) (hsome : given.or runner.latest = some program)
      (hform : comparisonForm program = "") :
      Resumed runner given
        ({ runner with halted := false, latest := some program }.reset, .unchanged)
  | evaluated (program : String) (hsome : given.or runner.latest = some program)
      (hform : comparisonForm program ≠ "") :
      Resumed runner given
        ({ runner with halted := false, latest := some program, pending := none }.evaluate program)

theorem resumed (runner : Runner) (given : Option String) :
    runner.Resumed given (runner.resume given) := by
  unfold resume
  simp only
  split
  · next hnone => exact .nothing hnone
  · next program hsome =>
    split
    · next hform => exact .forgotten program hsome (String.isEmpty_iff.mp hform)
    · next hform =>
      exact .evaluated program hsome fun hempty => hform (String.isEmpty_iff.mpr hempty)

inductive Slept (runner : Runner) (milliseconds : Nat) : Runner → Prop where
  | untimed (huntimed : runner.timed = false) : Slept runner milliseconds runner
  | waited (htimed : runner.timed = true)
      (hlate : ∀ timer, runner.pending = some timer → runner.clock + milliseconds < timer.due) :
      Slept runner milliseconds { runner with clock := runner.clock + milliseconds }
  | fired (timer : Timer) (htimed : runner.timed = true) (hpending : runner.pending = some timer)
      (hdue : timer.due ≤ runner.clock + milliseconds) :
      Slept runner milliseconds
        ({ runner with clock := runner.clock + milliseconds, pending := none }.evaluate
          timer.program).1

theorem slept (runner : Runner) (milliseconds : Nat) :
    runner.Slept milliseconds (runner.sleep milliseconds) := by
  cases htimed : runner.timed with
  | false =>
    rw [sleep_untimed htimed]
    exact .untimed htimed
  | true =>
    cases hpending : runner.pending with
    | none =>
      rw [sleep_of_idle htimed hpending]
      exact .waited htimed fun timer htimer => nomatch hpending.symm.trans htimer
    | some timer =>
      by_cases hdue : timer.due ≤ runner.clock + milliseconds
      · rw [sleep_of_due htimed hpending hdue]
        exact .fired timer htimed hpending hdue
      · have hlate := Nat.not_le.mp hdue
        rw [sleep_of_late htimed hpending hlate]
        refine .waited htimed fun other hother => ?_
        obtain rfl := Option.some.inj (hpending.symm.trans hother)
        exact hlate

end Patchbay.Runner
