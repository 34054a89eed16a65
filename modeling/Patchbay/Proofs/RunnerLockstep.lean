import Patchbay.Proofs.RunnerDebounce

namespace Patchbay.Runner

open Program

variable {runner : Runner} {program : String} {waits : List Nat}

/-- A time in which a runner is left alone, at least for the debounce. Even without a debounce a
timer takes a wait to run out. -/
structure Rest (debounce : Nat) where
  waits : List Nat
  waits_ne_nil : waits ≠ []
  debounce_le : debounce ≤ waits.sum

def runRested (runner : Runner) {debounce : Nat} (steps : List (Step Action × Rest debounce)) :
    Runner :=
  steps.foldl (fun runner step => step.2.waits.foldl sleep (runner.step step.1)) runner

def onClock (runner : Runner) (clock : Nat) : Runner :=
  { runner with timed := true, clock }

section OnClock

variable (runner : Runner) (clock : Nat)

@[simp] theorem evaluate_onClock (program : String) :
    ((runner.onClock clock).evaluate program).1 = (runner.evaluate program).1.onClock clock := by
  unfold evaluate onClock
  dsimp only
  split <;> rfl

theorem foldl_sleep_onClock (hpending : runner.pending = none) (waits : List Nat) :
    waits.foldl sleep (runner.onClock clock) = runner.onClock (clock + waits.sum) :=
  foldl_sleep_of_early rfl fun _ htimer => nomatch hpending.symm.trans htimer

variable {runner clock}

/-- However a rest is split up, the timer that is due in it runs out once. -/
theorem foldl_sleep_of_due (timer : Timer) (hpending : runner.pending = none) (hwaits : waits ≠ [])
    (hdue : timer.due ≤ clock + waits.sum) :
    waits.foldl sleep (onClock { runner with pending := some timer } clock) =
      (runner.evaluate timer.program).1.onClock (clock + waits.sum) := by
  induction waits generalizing clock with
  | nil => exact absurd rfl hwaits
  | cons wait rest ih =>
    have htimer (clock : Nat) :
        (onClock { runner with pending := some timer } clock).pending = some timer :=
      rfl
    rw [List.foldl_cons, List.sum_cons, ← Nat.add_assoc]
    by_cases hnow : timer.due ≤ clock + wait
    · have hidle : onClock { runner with pending := none } (clock + wait) =
          runner.onClock (clock + wait) := by
        rw [← hpending]
      have hslept : (onClock { runner with pending := some timer } clock).sleep wait =
          ((runner.onClock (clock + wait)).evaluate timer.program).1 := by
        rw [← hidle]
        exact sleep_of_due rfl (htimer clock) hnow
      rw [hslept, evaluate_onClock]
      exact foldl_sleep_onClock _ _ ((runner.pending_evaluate _).trans hpending) rest
    · have hslept : (onClock { runner with pending := some timer } clock).sleep wait =
          onClock { runner with pending := some timer } (clock + wait) :=
        sleep_of_late rfl (htimer clock) (Nat.not_le.mp hnow)
      rw [hslept]
      refine ih ?_ ?_
      · rintro rfl
        exact hnow hdue
      · rwa [List.sum_cons, ← Nat.add_assoc] at hdue

theorem foldl_sleep_schedule_onClock (huntimed : runner.timed = false)
    (rest : Rest runner.settings.debounce) (program : String) :
    rest.waits.foldl sleep ((runner.onClock clock).schedule program).1 =
      (runner.schedule program).1.onClock (clock + rest.waits.sum) := by
  let cleared : Runner := { runner with pending := none, generation := runner.generation + 1 }
  have hnow : runner.schedule program = cleared.evaluate program :=
    if_neg (Bool.eq_false_iff.mp huntimed)
  have hidle : cleared.pending = none := rfl
  rw [hnow]
  exact foldl_sleep_of_due ⟨runner.generation + 1, clock + runner.settings.debounce, program⟩ hidle
    rest.waits_ne_nil (Nat.add_le_add_left rest.debounce_le clock)

theorem pending_schedule (huntimed : runner.timed = false) (program : String) :
    (runner.schedule program).1.pending = none := by
  rw [schedule, if_neg (Bool.eq_false_iff.mp huntimed)]
  exact pending_evaluate _ program

theorem submit_onClock (hpending : runner.pending = none) (program : String) :
    ((runner.onClock clock).submit program =
          (onClock { runner with latest := some program } clock).schedule program ∧
        runner.submit program = { runner with latest := some program }.schedule program) ∨
      (((runner.onClock clock).submit program).1 = (runner.submit program).1.onClock clock ∧
        (runner.submit program).1.pending = none) := by
  by_cases hhalted : runner.halted = true
  · have hhalted' : (runner.onClock clock).halted = true := hhalted
    rw [submit_of_halted hhalted, submit_of_halted hhalted']
    exact .inr ⟨rfl, hpending⟩
  · have hactive : runner.halted = false := Bool.eq_false_iff.mpr hhalted
    have hactive' : (runner.onClock clock).halted = false := hactive
    by_cases hform : comparisonForm program = ""
    · refine .inr ?_
      cases hstatus : runner.status <;>
        simp [submit, onClock, hactive, hform, hstatus, hpending, reset, hush]
    · obtain hlast | ⟨last, hlast⟩ := Option.eq_none_or_eq_some runner.lastEvaluated
      · exact .inl ⟨submit_of_none hactive' hform hlast, submit_of_none hactive hform hlast⟩
      · rw [submit_of_last hactive hform hlast, submit_of_last hactive' hform hlast]
        have htempo : (runner.onClock clock).lastTempo = runner.lastTempo := rfl
        rw [htempo]
        by_cases hsame : last = comparisonForm program ∧ lastTempo? program = runner.lastTempo
        · rw [if_pos hsame, if_pos hsame]
          exact .inr ⟨rfl, rfl⟩
        · rw [if_neg hsame, if_neg hsame]
          by_cases hnow : lastTempo? program ≠ runner.lastTempo ∨
            scaleCalls (comparisonForm program) ≠ scaleCalls last
          · rw [if_pos hnow, if_pos hnow]
            exact .inr ⟨evaluate_onClock { runner with latest := some program, pending := none }
              clock program, pending_evaluate _ program⟩
          · rw [if_neg hnow, if_neg hnow]
            exact .inl ⟨rfl, rfl⟩

theorem resume_onClock (given : Option String) :
    ((runner.onClock clock).resume given).1 = (runner.resume given).1.onClock clock := by
  cases hgiven : given.or runner.latest with
  | none => simp [Runner.resume, onClock, hgiven]
  | some program =>
    by_cases hform : (comparisonForm program).isEmpty
    · simp [Runner.resume, onClock, hgiven, hform, reset]
    · have hresume (runner : Runner) (hgiven : given.or runner.latest = some program) :
          runner.resume given =
            { runner with halted := false, latest := some program, pending := none }.evaluate
              program := by
        simp only [Runner.resume, hgiven, if_neg hform]
        rfl
      rw [hresume runner hgiven, hresume (runner.onClock clock) hgiven]
      exact evaluate_onClock
        { runner with halted := false, latest := some program, pending := none } clock program

end OnClock

structure Immediate (debounce : Nat) (runner : Runner) : Prop where
  untimed : runner.timed = false
  idle : runner.pending = none
  debounce : runner.settings.debounce = debounce

section Immediate

variable {debounce : Nat} (rest : Rest debounce)

theorem Immediate.submit (h : runner.Immediate debounce) (clock : Nat) (program : String) :
    (runner.submit program).1.pending = none ∧
      rest.waits.foldl sleep ((runner.onClock clock).submit program).1 =
        (runner.submit program).1.onClock (clock + rest.waits.sum) := by
  obtain ⟨huntimed, hidle, rfl⟩ := h
  rcases submit_onClock hidle program with ⟨hlater, hnow⟩ | ⟨hlater, hidle⟩
  · let taken : Runner := { runner with latest := some program }
    have hstill : taken.timed = false := huntimed
    rw [hlater, hnow]
    exact ⟨pending_schedule hstill program, foldl_sleep_schedule_onClock hstill rest program⟩
  · rw [hlater]
    exact ⟨hidle, foldl_sleep_onClock _ clock hidle rest.waits⟩

theorem Immediate.resume (h : runner.Immediate debounce) (given : Option String) :
    (runner.resume given).1.pending = none := by
  have hcase := runner.resumed given
  generalize runner.resume given = result at hcase ⊢
  cases hcase with
  | nothing => exact h.idle
  | forgotten => rfl
  | evaluated program => exact pending_evaluate _ program

theorem Immediate.act (h : runner.Immediate debounce) (clock : Nat) (action : Action) :
    (runner.act action).pending = none ∧ ∃ later,
      rest.waits.foldl sleep ((runner.onClock clock).act action) =
        (runner.act action).onClock later := by
  cases action with
  | submit program =>
    obtain ⟨hidle, hrested⟩ := h.submit rest clock program
    exact ⟨hidle, _, hrested⟩
  | stop => exact ⟨rfl, _, foldl_sleep_onClock runner.stop clock rfl rest.waits⟩
  | resume given =>
    have hidle := h.resume given
    refine ⟨hidle, clock + rest.waits.sum, ?_⟩
    rw [Runner.act, Runner.act, resume_onClock]
    exact foldl_sleep_onClock _ clock hidle rest.waits
  | sleep milliseconds =>
    have hslept : (runner.onClock clock).sleep milliseconds =
        runner.onClock (clock + milliseconds) :=
      sleep_of_idle (show (runner.onClock clock).timed from rfl) h.idle milliseconds
    rw [Runner.act, Runner.act, hslept, sleep_untimed h.untimed]
    exact ⟨h.idle, _, foldl_sleep_onClock runner _ h.idle rest.waits⟩

/-- One step of the simulation: when it has been left alone, the runner with timers has come to
where the one without them is at once. -/
theorem Immediate.step (h : runner.Immediate debounce) (clock : Nat) (next : Step Action) :
    (runner.step next).Immediate debounce ∧ ∃ later,
      rest.waits.foldl sleep ((runner.onClock clock).step next) =
        (runner.step next).onClock later := by
  cases next with
  | failWith message =>
    exact ⟨⟨h.untimed, h.idle, h.debounce⟩, _,
      foldl_sleep_onClock (runner.failWith message) clock h.idle rest.waits⟩
  | act action =>
    have hsetup := runner.setup_act action
    obtain ⟨hidle, hrested⟩ := h.act rest clock action
    refine ⟨⟨(timed_of_setup hsetup).trans h.untimed, hidle, ?_⟩, hrested⟩
    exact (congrArg RunnerSettings.debounce (settings_of_setup hsetup)).trans h.debounce

theorem Immediate.runRested (h : runner.Immediate debounce) (clock : Nat)
    (steps : List (Step Action × Rest debounce)) :
    (runner.runSteps (steps.map (·.1))).Immediate debounce ∧ ∃ later,
      (runner.onClock clock).runRested steps =
        (runner.runSteps (steps.map (·.1))).onClock later := by
  induction steps generalizing runner clock with
  | nil => exact ⟨h, clock, rfl⟩
  | cons step rest ih =>
    obtain ⟨hnext, later, hrested⟩ := h.step step.2 clock step.1
    rw [Runner.runRested, List.foldl_cons, hrested]
    exact ih hnext later

end Immediate

/-- A runner with timers that is left alone for at least the debounce after each step, and one
without timers that takes the same steps, differ in nothing but the clock after each of them: their
engines have had the same calls, they show and remember the same, and nothing is pending. -/
theorem rested_agrees_with_immediate (settings : RunnerSettings) (engine : Engine)
    (steps : List (Step Action × Rest settings.debounce)) :
    let immediate := runSteps { settings, engine, timed := false } (steps.map (·.1))
    let rested := runRested { settings, engine } steps
    rested.pending = none ∧ rested = { immediate with timed := true, clock := rested.clock } := by
  intro immediate rested
  have hfresh : Immediate settings.debounce { settings, engine, timed := false } := ⟨rfl, rfl, rfl⟩
  obtain ⟨⟨_, hidle, _⟩, later, hlater⟩ := hfresh.runRested 0 steps
  have hrested : rested = immediate.onClock later := hlater
  rw [hrested]
  exact ⟨hidle, rfl⟩

def drumsAtRest : List (Step Action × Rest ({} : RunnerSettings).debounce) :=
  [(.act (.submit "setcpm(30)\n$: s(\"bd\")"), ⟨[20, 10], by decide, by decide⟩),
    (.failWith (some "no device"), ⟨[0, 50], by decide, by decide⟩),
    (.act (.submit "setcpm(30)\n$: s(\"hh\")"), ⟨[29, 1, 30], by decide, by decide⟩),
    (.act .stop, ⟨[30], by decide, by decide⟩),
    (.failWith none, ⟨[40], by decide, by decide⟩),
    (.act (.resume none), ⟨[15, 15], by decide, by decide⟩)]

theorem stopped_drum_is_resumed_at_rest :
    let immediate := runSteps { timed := false } (drumsAtRest.map (·.1))
    let rested := runRested {} drumsAtRest
    rested = { immediate with timed := true, clock := 240 } ∧
      rested.engine.calls =
        [.evaluate "setcpm(30)\n$: s(\"bd\")", .evaluate "setcpm(30)\n$: s(\"hh\")", .hush,
          .evaluate "setcpm(30)\n$: s(\"hh\")"] := by
  intro immediate rested
  have hagree : rested = { immediate with timed := true, clock := rested.clock } :=
    (rested_agrees_with_immediate {} {} drumsAtRest).2
  have hclock : rested.clock = 240 := by decide +kernel
  have hcalls : immediate.engine.calls =
      [.evaluate "setcpm(30)\n$: s(\"bd\")", .evaluate "setcpm(30)\n$: s(\"hh\")", .hush,
        .evaluate "setcpm(30)\n$: s(\"hh\")"] := by
    decide +kernel
  rw [hclock] at hagree
  exact ⟨hagree, (congrArg (·.engine.calls) hagree).trans hcalls⟩

end Patchbay.Runner
