import Patchbay.Proofs.RunnerMemory
import Patchbay.Proofs.SessionRequests

namespace Patchbay.Session

open Program

variable {session : Session} {setup : RunnerSettings × Bool}

/-- What plays is what the session compiles to, but for what cannot be heard; nothing plays while
everything is paused or when there is nothing to play. -/
structure InStep (session : Session) : Prop where
  silent : session.isPausedAll ∨ session.compile = "" → session.runner.engine.inForce? = none
  playing : ¬ (session.isPausedAll ∨ session.compile = "") →
    ∃ program, session.runner.engine.inForce? = some program ∧ SoundsLike program session.compile

/-- The runner is stopped while everything is paused, and is on its way to the program otherwise. -/
structure Attuned (setup : RunnerSettings × Bool) (session : Session) : Prop where
  setup : session.runner.setup = setup
  paused : session.isPausedAll → session.runner.Stopped
  playing : session.isPausedAll = false → session.runner.Follows session.compile

theorem Attuned.remembers (h : session.Attuned setup) : session.runner.Remembers := by
  cases hpaused : session.isPausedAll with
  | true => exact (h.paused hpaused).toRemembers
  | false => exact (h.playing hpaused).toRemembers

theorem Attuned.inStep (h : session.Attuned setup) (hidle : session.runner.pending = none) :
    session.InStep := by
  cases hpaused : session.isPausedAll with
  | true => exact ⟨fun _ => (h.paused hpaused).silent, fun hnot => absurd (.inl hpaused) hnot⟩
  | false =>
    have hplays := (h.playing hpaused).arrived hidle
    have hempty : comparisonForm session.compile = "" ↔ session.compile = "" :=
      comparisonForm_compile _ _ _ _
    refine ⟨fun hsilent => hplays.silent (hempty.mpr ?_),
      fun hnot => hplays.playing fun hform => ?_⟩
    · exact hsilent.resolve_left (by rw [hpaused]; exact Bool.false_ne_true)
    · exact hnot (.inr (hempty.mp hform))

theorem Attuned.pending (h : session.Attuned setup) {timer : Timer}
    (htimer : session.runner.pending = some timer) :
    session.runner.timed ∧ timer.due ≤ session.runner.clock + setup.1.debounce := by
  cases hpaused : session.isPausedAll with
  | true => cases (h.paused hpaused).idle.symm.trans htimer
  | false =>
    obtain ⟨htimed, hdue, _⟩ := (h.playing hpaused).waiting timer htimer
    rw [← h.setup]
    exact ⟨htimed, hdue⟩

/-- Every action keeps the runner attuned: it hands over what it changed of the program. -/
theorem Attuned.act (h : session.Attuned setup) (action : Action) :
    (session.act action).Attuned setup := by
  have hcase := session.requests_act action
  generalize session.act action = next at hcase ⊢
  cases hcase with
  | nothing hrunner hsame hcompile =>
    refine ⟨hrunner ▸ h.setup, fun hpaused => ?_, fun hactive => ?_⟩
    · rw [hrunner]
      exact h.paused (hsame.symm.trans hpaused)
    · rw [hrunner, hcompile]
      exact h.playing (hsame.symm.trans hactive)
  | submit hrunner hsame =>
    refine ⟨?_, fun hpaused => ?_, fun hactive => ?_⟩
    · rw [hrunner]
      exact (session.runner.setup_submit next.compile).trans h.setup
    · rw [hrunner]
      exact (h.paused (hsame.symm.trans hpaused)).submit next.compile
    · have hfollows := h.playing (hsame.symm.trans hactive)
      rw [hrunner]
      exact hfollows.toRemembers.follows_submit hfollows.active next.compile
  | stop hrunner hpaused =>
    refine ⟨hrunner ▸ h.setup, fun _ => ?_, fun hactive => nomatch hpaused.symm.trans hactive⟩
    rw [hrunner]
    exact h.remembers.stop
  | resume hrunner hpausedBefore hactive =>
    refine ⟨?_, fun hpaused => ?_, fun _ => ?_⟩
    · rw [hrunner]
      exact (session.runner.setup_resume (some next.compile)).trans h.setup
    · cases hactive.symm.trans hpaused
    · rw [hrunner]
      exact (h.paused hpausedBefore).resume next.compile
  | sleep milliseconds hrunner hsame hcompile =>
    refine ⟨?_, fun hpaused => ?_, fun hactive => ?_⟩
    · rw [hrunner]
      exact (session.runner.setup_sleep milliseconds).trans h.setup
    · rw [hrunner]
      exact (h.paused (hsame.symm.trans hpaused)).sleep milliseconds
    · rw [hrunner, hcompile]
      exact (h.playing (hsame.symm.trans hactive)).sleep milliseconds

theorem Attuned.sleep (h : session.Attuned setup) (milliseconds : Nat) :
    (session.sleep milliseconds).Attuned setup :=
  h.act (.sleep milliseconds)

theorem Attuned.run (h : session.Attuned setup) (actions : List Action) :
    (session.run actions).Attuned setup := by
  induction actions generalizing session with
  | nil => exact h
  | cons action rest ih => exact ih (h.act action)

theorem attuned_withSettings (runnerSettings : RunnerSettings) (timed : Bool)
    (settings : Settings) :
    (withSettings { settings := runnerSettings, timed } settings).Attuned
    (runnerSettings, timed) := by
  have hempty : (withSettings { settings := runnerSettings, timed } settings).compile = "" := rfl
  refine ⟨rfl, nofun, fun _ => ⟨⟨rfl, ⟨nofun, nofun⟩, rfl, nofun⟩, rfl, nofun, fun _ => ?_⟩⟩
  exact ⟨fun _ => rfl, fun hne => absurd (by rw [hempty, comparisonForm_empty]) hne⟩

theorem runner_run_sleep (session : Session) (waits : List Nat) :
    (session.run (waits.map .sleep)).runner = waits.foldl Runner.sleep session.runner := by
  induction waits generalizing session with
  | nil => rfl
  | cons wait rest ih => exact ih (session.sleep wait)

/-- However the waiting is split up, nothing is pending any more when the debounce has passed. -/
theorem Attuned.inStep_sleep (h : session.Attuned setup) (waits : List Nat) {last : Nat}
    (hlong : setup.1.debounce ≤ waits.sum + last) :
    ((session.run (waits.map .sleep)).sleep last).InStep := by
  have hrun := h.run (waits.map .sleep)
  refine (hrun.sleep last).inStep ?_
  cases hpending : ((session.run (waits.map .sleep)).sleep last).runner.pending with
  | none => rfl
  | some timer =>
    have htimed (session : Session) (h : session.Attuned setup) : session.runner.timed = setup.2 :=
      congrArg Prod.snd h.setup
    have hyes : setup.2 :=
      (htimed _ (hrun.sleep last)).symm.trans ((hrun.sleep last).pending hpending).1
    obtain ⟨hbefore, hlate⟩ := Runner.lt_due_of_sleep ((htimed _ hrun).trans hyes) hpending
    rw [runner_run_sleep] at hbefore hlate
    obtain ⟨hfirst, hclock⟩ := Runner.pending_foldl_sleep ((htimed _ h).trans hyes) waits hbefore
    have hdue := (h.pending hfirst).2
    omega

theorem Attuned.inStep_untimed (h : session.Attuned setup) (huntimed : setup.2 = false) :
    session.InStep := by
  refine h.inStep ?_
  cases hpending : session.runner.pending with
  | none => rfl
  | some timer =>
    have htimed := (congrArg Prod.snd h.setup).symm.trans (h.pending hpending).1
    exact absurd (huntimed.symm.trans htimed) Bool.false_ne_true

/-- Whatever is done to a session, its engine plays what the session compiles to: at once without
timers, and with them when the debounce has passed since, in however many waits. -/
theorem engine_in_step (runnerSettings : RunnerSettings) (settings : Settings)
    (actions : List Action) :
    ((withSettings { settings := runnerSettings, timed := false } settings).run actions).InStep ∧
      ∀ (timed : Bool) (waits : List Nat) (extra : Nat),
        let session := (withSettings { settings := runnerSettings, timed } settings).run actions
        ((session.run (waits.map .sleep)).sleep
            (runnerSettings.debounce - waits.sum + extra)).InStep := by
  constructor
  · exact ((attuned_withSettings runnerSettings false settings).run actions).inStep_untimed rfl
  · intro timed waits extra session
    have hattuned := (attuned_withSettings runnerSettings timed settings).run actions
    exact hattuned.inStep_sleep waits (by simp only; omega)

end Patchbay.Session
