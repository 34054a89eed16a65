import Patchbay.Proofs.EngineHeard
import Patchbay.Proofs.RunnerCases

namespace Patchbay.Runner

open Program

inductive Action where
  | submit (program : String)
  | stop
  | resume (program : Option String)
  | sleep (milliseconds : Nat)

def act (runner : Runner) : Action → Runner
  | .submit program => (runner.submit program).1
  | .stop => runner.stop
  | .resume program => (runner.resume program).1
  | .sleep milliseconds => runner.sleep milliseconds

def run (runner : Runner) (actions : List Action) : Runner :=
  actions.foldl act runner

def step (runner : Runner) : Step Action → Runner
  | .act action => runner.act action
  | .failWith message => runner.failWith message

def runSteps (runner : Runner) (steps : List (Step Action)) : Runner :=
  steps.foldl step runner

def heard (runner : Runner) (steps : List (Step Action)) : List EngineCall :=
  heardAlong Runner.engine step runner steps

variable {runner : Runner} {playing : Option String} {program : String}

/-- How the fields of a runner belong together, given what its engine plays: what it remembers is
the program that plays, and a timer is for the latest program. -/
structure Consistent (runner : Runner) (playing : Option String) : Prop where
  status : runner.status = .running ↔ runner.lastEvaluated.isSome
  remembered : ∀ form, runner.lastEvaluated = some form → form ≠ "" ∧
    ∃ program, playing = some program ∧ form = comparisonForm program ∧
      runner.lastTempo = lastTempo? program
  sounding : runner.status = .running →
    ∃ program, runner.latest = some program ∧ comparisonForm program ≠ ""
  waiting : ∀ timer, runner.pending = some timer → timer.generation = runner.generation ∧
    runner.latest = some timer.program ∧ comparisonForm timer.program ≠ ""
  stopped : runner.halted = true → runner.status = .idle ∧ runner.pending = none

def KeepsConsistent (playing : Option String) (runner next : Runner) : Prop :=
  next.Consistent (playingAfter playing (runner.engine.heardUntil next.engine))

theorem keepsConsistent_of_log_eq {next : Runner} (h : next.Consistent playing)
    (hlog : next.engine.log = runner.engine.log) : KeepsConsistent playing runner next := by
  unfold KeepsConsistent
  rwa [Engine.heardUntil_of_log_eq hlog]

theorem consistent_of_idle (hstatus : runner.status = .idle) (hlast : runner.lastEvaluated = none)
    (hpending : runner.pending = none) (playing : Option String) : runner.Consistent playing := by
  refine ⟨?_, fun form hform => ?_, fun hrunning => ?_, fun timer htimer => ?_,
    fun _ => ⟨hstatus, hpending⟩⟩
  · rw [hstatus, hlast]
    exact ⟨nofun, nofun⟩
  · cases hlast.symm.trans hform
  · cases hstatus.symm.trans hrunning
  · cases hpending.symm.trans htimer

theorem Consistent.take (h : runner.Consistent playing) {next : Runner}
    (hstatus : next.status = runner.status) (hlast : next.lastEvaluated = runner.lastEvaluated)
    (htempo : next.lastTempo = runner.lastTempo) (hactive : next.halted = false)
    (hlatest : next.latest = some program) (hform : comparisonForm program ≠ "")
    (hwaiting : ∀ timer, next.pending = some timer →
      timer.generation = next.generation ∧ timer.program = program) :
    next.Consistent playing := by
  refine ⟨?_, ?_, fun _ => ⟨program, hlatest, hform⟩, fun timer htimer => ?_, fun hhalted => ?_⟩
  · rw [hstatus, hlast]
    exact h.status
  · rw [hlast, htempo]
    exact h.remembered
  · obtain ⟨hgeneration, rfl⟩ := hwaiting timer htimer
    exact ⟨hgeneration, hlatest, hform⟩
  · cases hactive.symm.trans hhalted

theorem Consistent.active_of_pending (h : runner.Consistent playing) {timer : Timer}
    (hpending : runner.pending = some timer) : runner.halted = false := by
  by_contra hhalted
  cases hpending.symm.trans (h.stopped (Bool.not_eq_false _ ▸ hhalted)).2

theorem Consistent.active_of_running (h : runner.Consistent playing)
    (hrunning : runner.status = .running) :
    runner.halted = false := by
  by_contra hhalted
  cases hrunning.symm.trans (h.stopped (Bool.not_eq_false _ ▸ hhalted)).1

theorem Consistent.isSome_playing (h : runner.Consistent playing)
    (hrunning : runner.status = .running) :
    playing.isSome := by
  obtain ⟨form, hform⟩ := Option.isSome_iff_exists.mp (h.status.mp hrunning)
  obtain ⟨_, program, hplaying, _⟩ := h.remembered form hform
  rw [hplaying]
  rfl

section Taken

theorem Consistent.take_submitted (h : runner.Consistent playing) (generation : Nat)
    (hactive : runner.halted = false) (hform : comparisonForm program ≠ "") :
    Consistent { runner with latest := some program, pending := none, generation } playing :=
  h.take rfl rfl rfl hactive rfl hform nofun

theorem Consistent.take_resumed (h : runner.Consistent playing)
    (hform : comparisonForm program ≠ "") :
    Consistent { runner with halted := false, latest := some program, pending := none } playing :=
  h.take rfl rfl rfl rfl rfl hform nofun

theorem Consistent.take_pending (h : runner.Consistent playing) {timer : Timer}
    (hpending : runner.pending = some timer) (clock : Nat) :
    Consistent { runner with clock, pending := none } playing := by
  obtain ⟨_, hlatest, hform⟩ := h.waiting timer hpending
  exact h.take rfl rfl rfl (h.active_of_pending hpending) hlatest hform nofun

end Taken

theorem Consistent.evaluate (h : runner.Consistent playing) (hactive : runner.halted = false)
    (hpending : runner.pending = none) (hlatest : runner.latest = some program)
    (hform : comparisonForm program ≠ "") :
    KeepsConsistent playing runner (runner.evaluate program).1 := by
  unfold KeepsConsistent
  have hcase := runner.evaluated program
  generalize runner.evaluate program = result at hcase ⊢
  cases hcase with
  | accepted hworking =>
    rw [Engine.heardUntil_evaluate hworking]
    refine ⟨⟨fun _ => rfl, fun _ => rfl⟩, ?_, fun _ => ⟨program, hlatest, hform⟩,
      fun timer htimer => ?_, fun hhalted => ?_⟩
    · intro form hsome
      obtain rfl : comparisonForm program = form := Option.some.inj hsome
      exact ⟨hform, program, rfl, rfl, rfl⟩
    · cases hpending.symm.trans htimer
    · cases hactive.symm.trans hhalted
  | refused message hfailing =>
    rw [Engine.heardUntil_evaluate_of_failure hfailing]
    exact ⟨h.status, h.remembered, h.sounding, h.waiting, h.stopped⟩

theorem Consistent.submit (h : runner.Consistent playing) (program : String) :
    KeepsConsistent playing runner (runner.submit program).1 := by
  have hcase := runner.submitted program
  generalize runner.submit program = result at hcase ⊢
  cases hcase with
  | halted hhalted =>
    obtain ⟨hidle, hpending⟩ := h.stopped hhalted
    have hlast : runner.lastEvaluated = none := by
      rw [← Option.not_isSome_iff_eq_none, ← h.status, hidle]
      exact nofun
    refine consistent_of_idle ?_ ?_ ?_ _
    · exact hidle
    · exact hlast
    · exact hpending
  | hushed | forgotten => exact consistent_of_idle rfl rfl rfl _
  | same hactive hform _ _ =>
    exact keepsConsistent_of_log_eq (h.take rfl rfl rfl hactive rfl hform nofun) rfl
  | evaluated generation hactive hform _ =>
    exact (h.take_submitted generation hactive hform).evaluate hactive rfl rfl hform
  | scheduled _ hactive hform _ =>
    refine keepsConsistent_of_log_eq (h.take rfl rfl rfl hactive rfl hform ?_) rfl
    rintro _ ⟨⟩
    exact ⟨rfl, rfl⟩

theorem Consistent.resume (h : runner.Consistent playing) (given : Option String) :
    KeepsConsistent playing runner (runner.resume given).1 := by
  have hcase := runner.resumed given
  generalize runner.resume given = result at hcase ⊢
  cases hcase with
  | nothing _ =>
    exact keepsConsistent_of_log_eq ⟨h.status, h.remembered, h.sounding, h.waiting, nofun⟩ rfl
  | forgotten program _ _ => exact consistent_of_idle rfl rfl rfl _
  | evaluated program _ hform => exact (h.take_resumed hform).evaluate rfl rfl rfl hform

theorem Consistent.sleep (h : runner.Consistent playing) (milliseconds : Nat) :
    KeepsConsistent playing runner (runner.sleep milliseconds) := by
  have hcase := runner.slept milliseconds
  generalize runner.sleep milliseconds = result at hcase ⊢
  cases hcase with
  | untimed _ =>
    exact keepsConsistent_of_log_eq h rfl
  | waited _ _ =>
    exact keepsConsistent_of_log_eq ⟨h.status, h.remembered, h.sounding, h.waiting, h.stopped⟩ rfl
  | fired timer _ hpending _ =>
    obtain ⟨_, hlatest, hform⟩ := h.waiting timer hpending
    exact (h.take_pending hpending _).evaluate (h.active_of_pending hpending) rfl hlatest hform

theorem Consistent.step (h : runner.Consistent playing) (next : Step Action) :
    KeepsConsistent playing runner (runner.step next) := by
  cases next with
  | act action =>
    cases action with
    | submit program => exact h.submit program
    | stop => exact consistent_of_idle rfl rfl rfl _
    | resume given => exact h.resume given
    | sleep milliseconds => exact h.sleep milliseconds
  | failWith message =>
    exact keepsConsistent_of_log_eq ⟨h.status, h.remembered, h.sounding, h.waiting, h.stopped⟩ rfl

theorem Consistent.runSteps (h : runner.Consistent playing) (steps : List (Step Action)) :
    (runner.runSteps steps).Consistent (playingAfter playing (runner.heard steps)) :=
  foldl_keeps Runner.engine Runner.step (fun _ _ next hbefore => hbefore.step next) h steps

theorem consistent_fresh (settings : RunnerSettings) (timed : Bool) :
    Consistent { settings, timed } none :=
  consistent_of_idle rfl rfl rfl none

theorem runSteps_append (runner : Runner) (before after : List (Step Action)) :
    runner.runSteps (before ++ after) = (runner.runSteps before).runSteps after :=
  List.foldl_append

theorem heard_append (runner : Runner) (before after : List (Step Action)) :
    runner.heard (before ++ after) = runner.heard before ++ (runner.runSteps before).heard after :=
  heardAlong_append Runner.engine step runner before after

theorem runSteps_cons (runner : Runner) (next : Step Action) (rest : List (Step Action)) :
    runner.runSteps (next :: rest) = (runner.step next).runSteps rest :=
  rfl

theorem heard_cons (runner : Runner) (next : Step Action) (rest : List (Step Action)) :
    runner.heard (next :: rest) =
      runner.engine.heardUntil (runner.step next).engine ++ (runner.step next).heard rest :=
  rfl

theorem heard_singleton (runner : Runner) (next : Step Action) :
    runner.heard [next] = runner.engine.heardUntil (runner.step next).engine :=
  List.append_nil _

end Patchbay.Runner
