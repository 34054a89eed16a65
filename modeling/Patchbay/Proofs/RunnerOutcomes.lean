import Patchbay.Proofs.RunnerDebounce

namespace Patchbay

def Outcome.isAttempt : Outcome → Bool
  | .evaluated | .suppressed _ | .failed _ => true
  | .unchanged | .halted | .scheduled | .stopped => false

def Outcome.isSilent : Outcome → Bool
  | .unchanged | .halted | .scheduled => true
  | .evaluated | .suppressed _ | .failed _ | .stopped => false

def Step.action? {α : Type} : Step α → Option α
  | .act action => some action
  | .failWith _ => none

namespace Runner

open Program

variable {runner : Runner} {playing : Option String} {program : String} {next : Step Action}

def answer (runner : Runner) : Outcome :=
  match runner.engine.failure with
  | none => .evaluated
  | some message =>
      if RunnerSettings.isBenign runner.settings.benignErrors message then .suppressed message
      else .failed message

/-- The outcome tells what the engine was asked: to evaluate the given program once, to hush once,
or nothing. -/
structure Accounts (runner : Runner) (given : Option String)
    (result : Runner × Outcome) : Prop where
  attempt : result.2.isAttempt ↔ ∃ program, given = some program ∧
    result.1.engine.calls = runner.engine.calls ++ [.evaluate program]
  answered : result.2.isAttempt → result.2 = runner.answer
  stopped : result.2 = .stopped ↔ result.1.engine.calls = runner.engine.calls ++ [.hush]
  silent : result.2.isSilent ↔ result.1.engine.calls = runner.engine.calls

theorem isAttempt_answer (runner : Runner) : runner.answer.isAttempt = true := by
  unfold answer
  split
  · rfl
  · split <;> rfl

theorem outcome_evaluate (runner : Runner) (program : String) :
    (runner.evaluate program).2 = runner.answer := by
  rw [evaluate, answer]
  cases runner.engine.failure <;> rfl

theorem calls_runner_evaluate (runner : Runner) (program : String) :
    (runner.evaluate program).1.engine.calls = runner.engine.calls ++ [.evaluate program] := by
  rw [engine_evaluate, Engine.calls_evaluate]

theorem accounts_evaluate {asked : Runner} {given : Option String}
    (hengine : asked.engine = runner.engine)
    (hsettings : asked.settings = runner.settings) (hgiven : given = some program) :
    runner.Accounts given (asked.evaluate program) := by
  have hanswer : asked.answer = runner.answer := by rw [answer, answer, hengine, hsettings]
  have hcalls := asked.calls_runner_evaluate program
  have hattempt := runner.isAttempt_answer
  rw [hengine] at hcalls
  have houtcome : (asked.evaluate program).2 = runner.answer :=
    (outcome_evaluate asked program).trans hanswer
  refine ⟨?_, fun _ => houtcome, ?_, ?_⟩
  · rw [houtcome]
    exact iff_of_true hattempt ⟨program, hgiven, hcalls⟩
  · rw [houtcome, hcalls]
    refine iff_of_false (fun hstopped => ?_) (by simp)
    rw [hstopped] at hattempt
    cases hattempt
  · rw [houtcome, hcalls]
    refine iff_of_false (fun hsilent => ?_) (by simp)
    cases houtcome : runner.answer <;> simp_all [Outcome.isAttempt, Outcome.isSilent]

theorem accounts_silent {later : Runner} {outcome : Outcome} (given : Option String)
    (houtcome : outcome.isSilent) (hengine : later.engine = runner.engine) :
    runner.Accounts given (later, outcome) := by
  have hcalls : later.engine.calls = runner.engine.calls := by rw [hengine]
  cases outcome with
  | unchanged | halted | scheduled =>
    exact ⟨by simp [Outcome.isAttempt, hcalls], nofun, by simp [hcalls], iff_of_true rfl hcalls⟩
  | evaluated | suppressed _ | failed _ | stopped => cases houtcome

theorem accounts_hush {later : Runner} (given : Option String)
    (hengine : later.engine = runner.engine.hush) :
    runner.Accounts given (later, .stopped) := by
  have hcalls : later.engine.calls = runner.engine.calls ++ [.hush] := by
    rw [hengine, Engine.calls_hush]
  exact ⟨by simp [Outcome.isAttempt, hcalls], nofun, iff_of_true rfl hcalls,
    by simp [Outcome.isSilent, hcalls]⟩

theorem accounts_submit (runner : Runner) (program : String) :
    runner.Accounts (some program) (runner.submit program) := by
  have hcase := runner.submitted program
  generalize runner.submit program = result at hcase ⊢
  cases hcase with
  | halted | forgotten | same | scheduled => exact accounts_silent _ rfl rfl
  | hushed => exact accounts_hush _ rfl
  | evaluated => exact accounts_evaluate rfl rfl rfl

theorem accounts_resume (runner : Runner) (given : Option String) :
    runner.Accounts (given.or runner.latest) (runner.resume given) := by
  have hcase := runner.resumed given
  generalize runner.resume given = result at hcase ⊢
  cases hcase with
  | nothing | forgotten => exact accounts_silent _ rfl rfl
  | evaluated program hsome => exact accounts_evaluate rfl rfl hsome

section Failure

def Fails (runner : Runner) (next : Step Action) (program : String) : Prop :=
  runner.engine.failure.isSome ∧
    (runner.step next).engine.calls = runner.engine.calls ++ [.evaluate program]

structure SameMemory (runner later : Runner) : Prop where
  status : later.status = runner.status
  form : later.lastEvaluated = runner.lastEvaluated
  tempo : later.lastTempo = runner.lastTempo

theorem sameMemory_evaluate (hfailing : runner.engine.failure.isSome) (program : String) :
    runner.SameMemory (runner.evaluate program).1 := by
  have hcase := runner.evaluated program
  generalize runner.evaluate program = result at hcase ⊢
  cases hcase with
  | accepted hworking => simp [hworking] at hfailing
  | refused => exact ⟨rfl, rfl, rfl⟩

/-- What a step asks the engine: nothing, a hush, or to evaluate a program that could be heard, on a
runner that remembers the same. -/
inductive Asks (runner later : Runner) : Prop where
  | nothing (hengine : later.engine.calls = runner.engine.calls)
  | hush (hengine : later.engine.calls = runner.engine.calls ++ [.hush])
  | evaluate (asked : Runner) (program : String) (hlater : later = (asked.evaluate program).1)
      (hengine : asked.engine = runner.engine) (hsame : runner.SameMemory asked)
      (hform : comparisonForm program ≠ "")

theorem asks_submit (runner : Runner) (program : String) :
    runner.Asks (runner.submit program).1 := by
  have hcase := runner.submitted program
  generalize runner.submit program = result at hcase ⊢
  cases hcase with
  | halted | forgotten | same | scheduled => exact .nothing rfl
  | hushed => exact .hush (Engine.calls_hush _)
  | evaluated generation _ hform => exact .evaluate _ program rfl rfl ⟨rfl, rfl, rfl⟩ hform

theorem asks_resume (runner : Runner) (given : Option String) :
    runner.Asks (runner.resume given).1 := by
  have hcase := runner.resumed given
  generalize runner.resume given = result at hcase ⊢
  cases hcase with
  | nothing | forgotten => exact .nothing rfl
  | evaluated program _ hform => exact .evaluate _ program rfl rfl ⟨rfl, rfl, rfl⟩ hform

theorem Consistent.asks_sleep (h : runner.Consistent playing) (milliseconds : Nat) :
    runner.Asks (runner.sleep milliseconds) := by
  have hcase := runner.slept milliseconds
  generalize runner.sleep milliseconds = later at hcase ⊢
  cases hcase with
  | untimed | waited => exact .nothing rfl
  | fired timer _ hpending _ =>
    exact .evaluate _ timer.program rfl rfl ⟨rfl, rfl, rfl⟩ (h.waiting timer hpending).2.2

theorem Consistent.asks (h : runner.Consistent playing) (next : Step Action) :
    runner.Asks (runner.step next) := by
  cases next with
  | act action =>
    cases action with
    | submit program => exact runner.asks_submit program
    | stop => exact .hush (Engine.calls_hush _)
    | resume given => exact runner.asks_resume given
    | sleep milliseconds => exact h.asks_sleep milliseconds
  | failWith message => exact .nothing rfl

theorem Consistent.sameMemory_of_fails (h : runner.Consistent playing)
    (hfails : runner.Fails next program) :
    runner.SameMemory (runner.step next) ∧ comparisonForm program ≠ "" := by
  obtain ⟨hfailing, hcalls⟩ := hfails
  cases h.asks next with
  | nothing hnone => simp [hnone] at hcalls
  | hush hhush => simp [hhush] at hcalls
  | evaluate asked other hlater hengine hsame hform =>
    rw [hlater, calls_runner_evaluate, hengine] at hcalls
    obtain rfl : other = program := by simpa using hcalls
    have hkept := sameMemory_evaluate (hengine ▸ hfailing) other
    rw [← hlater] at hkept
    exact ⟨⟨hkept.status.trans hsame.status, hkept.form.trans hsame.form,
      hkept.tempo.trans hsame.tempo⟩, hform⟩

/-- A program that is handed in is put on the timer, or the engine is asked to evaluate it. -/
def Takes (runner : Runner) (program : String) : Prop :=
  ((runner.submit program).2 = .scheduled ∧
      ∃ timer, (runner.submit program).1.pending = some timer ∧ timer.program = program) ∨
    (runner.submit program).2.isAttempt

theorem takes_iff (hactive : runner.halted = false) (hform : comparisonForm program ≠ "") :
    runner.Takes program ↔
      ¬ (runner.lastEvaluated = some (comparisonForm program) ∧
        runner.lastTempo = lastTempo? program) := by
  have hcase := runner.submitted program
  unfold Takes
  generalize runner.submit program = result at hcase ⊢
  cases hcase with
  | halted hhalted => cases hactive.symm.trans hhalted
  | hushed _ hempty | forgotten _ hempty => exact absurd hempty hform
  | same _ _ hlast htempo =>
    refine iff_of_false (fun htakes => ?_) fun hnot => hnot ⟨hlast, htempo⟩
    rcases htakes with ⟨hscheduled, _⟩ | hattempt
    · cases hscheduled
    · cases hattempt
  | evaluated generation _ _ hnew =>
    refine iff_of_true (.inr ?_) fun hsame => hnew hsame.1 hsame.2
    rw [outcome_evaluate, isAttempt_answer]
  | scheduled _ _ _ hnew =>
    exact iff_of_true (.inl ⟨rfl, _, rfl, rfl⟩) fun hsame => hnew hsame.1 hsame.2

end Failure

theorem latest_runSteps (runner : Runner) (steps : List (Step Action)) :
    (runner.runSteps steps).latest = latestAfter runner.latest (steps.filterMap Step.action?) := by
  induction steps generalizing runner with
  | nil => rfl
  | cons next rest ih =>
    rw [runSteps_cons, ih]
    cases next with
    | act action =>
      rw [step, latest_act]
      rfl
    | failWith message => rfl

/-- Whatever was done before and however the engine answers, an outcome tells exactly what the
engine was asked. An evaluation that fails leaves no mark; and at any later time at which the runner
is not stopped, the program is scheduled or tried again when it is handed in again, unless it is
remembered as the playing one. -/
theorem outcome_tells_calls (settings : RunnerSettings) (timed : Bool)
    (steps : List (Step Action)) :
    let runner := runSteps { settings, timed } steps
    (∀ program, runner.Accounts (some program) (runner.submit program)) ∧
      (∀ given, runner.Accounts (given.or (latestAfter none (steps.filterMap Step.action?)))
        (runner.resume given)) ∧
      ∀ next program, runner.Fails next program →
        runner.SameMemory (runner.step next) ∧
          ∀ more, let later := (runner.step next).runSteps more
            later.halted = false →
              (later.Takes program ↔ ¬ (later.lastEvaluated = some (comparisonForm program) ∧
                later.lastTempo = lastTempo? program)) := by
  intro runner
  have hconsistent : runner.Consistent _ := (consistent_fresh settings timed).runSteps steps
  refine ⟨runner.accounts_submit, fun given => ?_, fun next program hfails => ?_⟩
  · have haccounts := runner.accounts_resume given
    rwa [latest_runSteps] at haccounts
  · obtain ⟨hsame, hform⟩ := hconsistent.sameMemory_of_fails hfails
    exact ⟨hsame, fun more hactive => takes_iff hactive hform⟩

theorem failed_hats_are_tried_again :
    let kick := "$: sound(\"bd\")"
    let hats := "$: sound(\"hh\")"
    let steps : List (Step Action) :=
      [.act (.submit kick), .act (.sleep 30), .failWith (some "broken"), .act (.submit hats)]
    let runner := runSteps {} steps
    let failed := runner.step (.act (.sleep 30))
    let later := failed.runSteps [.failWith none]
    runner.Fails (.act (.sleep 30)) hats ∧ later.halted = false ∧
      failed.lastEvaluated = some kick ∧ later.Takes hats := by
  intro kick hats steps runner failed later
  have hfails : runner.Fails (.act (.sleep 30)) hats := ⟨by decide +kernel, by decide +kernel⟩
  have hactive : later.halted = false := by decide +kernel
  have hplaying : runner.lastEvaluated = some kick := by decide +kernel
  have hdiffers : some kick ≠ some (comparisonForm hats) := by decide +kernel
  obtain ⟨_, _, htold⟩ := outcome_tells_calls {} true steps
  obtain ⟨hsame, htakes⟩ := htold (.act (.sleep 30)) hats hfails
  have hlast : failed.lastEvaluated = some kick := hsame.form.trans hplaying
  have hkept (runner : Runner) : (runner.runSteps [.failWith none]).lastEvaluated =
      runner.lastEvaluated := rfl
  refine ⟨hfails, hactive, hlast, (htakes [.failWith none] hactive).mpr fun hremembered => ?_⟩
  exact hdiffers (hlast.symm.trans ((hkept failed).symm.trans hremembered.1))

end Runner

end Patchbay
