import Patchbay.Proofs.RunnerConsistency
import Mathlib.Data.List.Induction

namespace Patchbay.Runner

open Program

variable {runner later : Runner} {playing : Option String} {next : Step Action}

inductive Shifts (runner : Runner) (next : Step Action) (later : Runner) : Prop where
  | kept (hheard : runner.engine.heardUntil later.engine = [])
    (hstatus : later.status = runner.status)
  | hushed (hheard : runner.engine.heardUntil later.engine = [.hush]) (hidle : later.status = .idle)
  | started (program : String)
    (hheard : runner.engine.heardUntil later.engine = [.evaluate program])
      (hrunning : later.status = .running)
  | dropped (program : String) (hnext : next = .act (.resume (some program)))
      (hform : comparisonForm program = "") (hheard : runner.engine.heardUntil later.engine = [])
      (hidle : later.status = .idle)

theorem shifts_evaluate {asked : Runner} (hengine : asked.engine = runner.engine)
    (hstatus : asked.status = runner.status) (program : String) :
    runner.Shifts next (asked.evaluate program).1 := by
  have hcase := asked.evaluated program
  generalize asked.evaluate program = result at hcase ⊢
  cases hcase with
  | accepted hworking =>
    rw [hengine] at hworking
    refine .started program ?_ rfl
    rw [← Engine.heardUntil_evaluate hworking program, hengine]
  | refused message hfailing =>
    rw [hengine] at hfailing
    refine .kept ?_ hstatus
    rw [← Engine.heardUntil_evaluate_of_failure hfailing program, hengine]

theorem shifts_submit (runner : Runner) (program : String) :
    runner.Shifts next (runner.submit program).1 := by
  have hcase := runner.submitted program
  generalize runner.submit program = result at hcase ⊢
  cases hcase with
  | halted | same | scheduled => exact .kept (Engine.heardUntil_of_log_eq rfl) rfl
  | hushed => exact .hushed (Engine.heardUntil_hush runner.engine) rfl
  | forgotten _ _ hidle _ => exact .kept (Engine.heardUntil_of_log_eq rfl) hidle.symm
  | evaluated generation _ _ _ => refine shifts_evaluate ?_ ?_ program <;> rfl

theorem Consistent.shifts_resume (h : runner.Consistent playing) (given : Option String) :
    runner.Shifts (.act (.resume given)) (runner.resume given).1 := by
  have hcase := runner.resumed given
  generalize runner.resume given = result at hcase ⊢
  cases hcase with
  | nothing _ => exact .kept (Engine.heardUntil_of_log_eq rfl) rfl
  | forgotten program hsome hform =>
    cases given with
    | some given =>
      obtain rfl : given = program := Option.some.inj hsome
      exact .dropped given rfl hform (Engine.heardUntil_of_log_eq rfl) rfl
    | none =>
      refine .kept (Engine.heardUntil_of_log_eq rfl) ?_
      cases hstatus : runner.status with
      | idle => rfl
      | running =>
        -- The latest program of a running runner is not blank.
        obtain ⟨latest, hlatest, hne⟩ := h.sounding hstatus
        obtain rfl : latest = program := Option.some.inj (hlatest.symm.trans hsome)
        exact absurd hform hne
  | evaluated program _ _ => refine shifts_evaluate ?_ ?_ program <;> rfl

theorem shifts_sleep (runner : Runner) (milliseconds : Nat) :
    runner.Shifts next (runner.sleep milliseconds) := by
  have hcase := runner.slept milliseconds
  generalize runner.sleep milliseconds = result at hcase ⊢
  cases hcase with
  | untimed | waited => exact .kept (Engine.heardUntil_of_log_eq rfl) rfl
  | fired timer _ _ _ => refine shifts_evaluate ?_ ?_ timer.program <;> rfl

theorem Consistent.shifts (h : runner.Consistent playing) (next : Step Action) :
    runner.Shifts next (runner.step next) := by
  cases next with
  | act action =>
    cases action with
    | submit program => exact runner.shifts_submit program
    | stop => exact .hushed (Engine.heardUntil_hush runner.engine) rfl
    | resume given => exact h.shifts_resume given
    | sleep milliseconds => exact runner.shifts_sleep milliseconds
  | failWith message => exact .kept (Engine.heardUntil_of_log_eq rfl) rfl

theorem Consistent.idle_runSteps (h : runner.Consistent playing) (hidle : runner.status = .idle)
    {after : List (Step Action)} (hheard : runner.heard after = []) :
    (runner.runSteps after).status = .idle := by
  induction after generalizing runner playing with
  | nil => exact hidle
  | cons next rest ih =>
    obtain ⟨hnone, hrest⟩ := List.append_eq_nil_iff.mp hheard
    refine ih (h.step next) ?_ hrest
    cases h.shifts next with
    | kept _ hstatus => exact hstatus.trans hidle
    | hushed _ hidle | dropped _ _ _ _ hidle => exact hidle
    | started program hstarted _ => cases hstarted.symm.trans hnone

/-- The runner was given a blank program to resume with while it was running, and nothing has been
heard since. -/
def Dropped (runner : Runner) (steps : List (Step Action)) : Prop :=
  ∃ before program after, steps = before ++ .act (.resume (some program)) :: after ∧
    comparisonForm program = "" ∧ (runner.runSteps before).status = .running ∧
    ((runner.runSteps before).step (.act (.resume (some program)))).heard after = []

theorem Dropped.append {steps more : List (Step Action)} (h : runner.Dropped steps)
    (hheard : (runner.runSteps steps).heard more = []) : runner.Dropped (steps ++ more) := by
  obtain ⟨before, program, after, rfl, hform, hrunning, hnone⟩ := h
  rw [runSteps_append, runSteps_cons] at hheard
  refine ⟨before, program, after ++ more, by simp, hform, hrunning, ?_⟩
  rw [heard_append, hnone, List.nil_append]
  exact hheard

theorem step_resume_blank (runner : Runner) {program : String}
    (hform : comparisonForm program = "") :
    (runner.step (.act (.resume (some program)))).status = .idle ∧
      runner.engine.heardUntil (runner.step (.act (.resume (some program)))).engine = [] := by
  have hcase := runner.resumed (some program)
  rw [step, act]
  generalize runner.resume (some program) = result at hcase ⊢
  cases hcase with
  | nothing hnone => cases hnone
  | forgotten other _ _ => exact ⟨rfl, Engine.heardUntil_of_log_eq rfl⟩
  | evaluated other hsome hne =>
    obtain rfl := Option.some.inj hsome
    exact absurd hform hne

theorem Dropped.idle_and_playing (h : runner.Consistent playing) {steps : List (Step Action)}
    (hdropped : runner.Dropped steps) :
    (runner.runSteps steps).status = .idle ∧
    (playingAfter playing (runner.heard steps)).isSome := by
  obtain ⟨before, program, after, rfl, hform, hrunning, hnone⟩ := hdropped
  have hbefore := h.runSteps before
  obtain ⟨hidle, hunheard⟩ := (runner.runSteps before).step_resume_blank hform
  constructor
  · rw [runSteps_append, runSteps_cons]
    exact Consistent.idle_runSteps (hbefore.step _) hidle hnone
  · rw [heard_append, heard_cons, hunheard, hnone, List.append_nil, List.append_nil]
    exact hbefore.isSome_playing hrunning

theorem Consistent.dropped (h : runner.Consistent playing)
    (hsilent : runner.status = .idle → playing = none) (steps : List (Step Action))
    (hidle : (runner.runSteps steps).status = .idle)
    (hplays : (playingAfter playing (runner.heard steps)).isSome) : runner.Dropped steps := by
  induction steps using List.reverseRecOn with
  | nil =>
    rw [hsilent hidle] at hplays
    cases hplays
  | append_singleton steps next ih =>
    rw [runSteps_append] at hidle
    rw [heard_append, playingAfter_append, heard_singleton] at hplays
    cases (h.runSteps steps).shifts next with
    | kept hheard hstatus =>
      rw [hheard] at hplays
      exact (ih (hstatus.symm.trans hidle) hplays).append ((heard_singleton _ next).trans hheard)
    | hushed hheard _ =>
      rw [hheard] at hplays
      cases hplays
    | started program _ hrunning => cases hrunning.symm.trans hidle
    | dropped program hnext hform hheard _ =>
      subst hnext
      rw [hheard] at hplays
      cases hstatus : (runner.runSteps steps).status with
      | idle =>
        exact (ih hstatus hplays).append ((heard_singleton _ _).trans hheard)
      | running => exact ⟨steps, program, [], rfl, hform, hstatus, rfl⟩

/-- An idle runner means a silent engine, except that a running one becomes idle without a hush
when it is given a blank program to resume with; what played then plays on until something else
is heard. -/
theorem idle_while_playing_iff (settings : RunnerSettings) (timed : Bool)
    (steps : List (Step Action)) :
    let fresh : Runner := { settings, timed }
    (fresh.runSteps steps).status = .idle ∧ (playingAfter none (fresh.heard steps)).isSome ↔
      fresh.Dropped steps := by
  intro fresh
  have hfresh : fresh.Consistent none := consistent_fresh settings timed
  exact ⟨fun h => hfresh.dropped (fun _ => rfl) steps h.1 h.2, fun h => h.idle_and_playing hfresh⟩

/-- A playing program plays on when a blank one is resumed with. -/
theorem blank_resume_leaves_program_playing :
    let fresh : Runner := {}
    let steps : List (Step Action) :=
      [.act (.submit "$: sound(\"bd\")"), .act (.sleep 30), .act (.resume (some ""))]
    (fresh.runSteps steps).status = .idle ∧
      playingAfter none (fresh.heard steps) = some "$: sound(\"bd\")" := by
  decide +kernel

end Patchbay.Runner
