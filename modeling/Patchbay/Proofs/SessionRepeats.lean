import Patchbay.Proofs.RunnerRepeats
import Patchbay.Proofs.SessionRequests

namespace Patchbay.Session

open Program

variable {session : Session} {playing : Option String}

def step (session : Session) : Step Action → Session
  | .act action => session.act action
  | .failWith message => session.failWith message

def heard (session : Session) (steps : List (Step Action)) : List EngineCall :=
  heardAlong (fun session => session.runner.engine) step session steps

structure Aware (session : Session) (playing : Option String) : Prop where
  runner : session.runner.Aware playing
  halted : session.isPausedAll = true → session.runner.halted = true

structure KeepsAware (playing : Option String) (session next : Session) : Prop where
  runner : Runner.KeepsAware playing session.runner next.runner
  halted : next.isPausedAll = true → next.runner.halted = true

theorem Aware.requests (h : session.Aware playing) {next : Session}
    (hcase : session.Requests next) :
    KeepsAware playing session next := by
  cases hcase with
  | nothing hrunner hsame _ =>
    refine ⟨?_, fun hpaused => ?_⟩
    · rw [hrunner]
      exact h.runner.keepsAware_self
    · rw [hrunner]
      exact h.halted (hsame.symm.trans hpaused)
  | submit hrunner hsame =>
    refine ⟨?_, fun hpaused => ?_⟩
    · rw [hrunner]
      exact h.runner.submit next.compile
    · rw [hrunner, Runner.halted_submit]
      exact h.halted (hsame.symm.trans hpaused)
  | stop hrunner _ =>
    refine ⟨?_, fun _ => ?_⟩
    · rw [hrunner]
      exact Runner.keepsAware_hush rfl rfl rfl rfl
    · rw [hrunner]
      rfl
  | resume hrunner hpaused hactive =>
    refine ⟨?_, fun hnext => nomatch hactive.symm.trans hnext⟩
    rw [hrunner]
    exact h.runner.resume (h.halted hpaused) (some next.compile)
  | sleep milliseconds hrunner hsame _ =>
    refine ⟨?_, fun hpaused => ?_⟩
    · rw [hrunner]
      exact h.runner.sleep milliseconds
    · rw [hrunner, Runner.halted_sleep]
      exact h.halted (hsame.symm.trans hpaused)

theorem Aware.step (h : session.Aware playing) (next : Step Action) :
    KeepsAware playing session (session.step next) := by
  cases next with
  | act action => exact h.requests (session.requests_act action)
  | failWith message => exact ⟨h.runner.failWith message, h.halted⟩

theorem Aware.neverRepeats (h : session.Aware playing) (steps : List (Step Action)) :
    NeverRepeats playing (session.heard steps) := by
  induction steps generalizing session playing with
  | nil => trivial
  | cons next rest ih =>
    obtain ⟨⟨haware, hnew⟩, hhalted⟩ := h.step next
    exact neverRepeats_append hnew (ih ⟨haware, hhalted⟩)

theorem aware_withSettings (runnerSettings : RunnerSettings) (timed : Bool) (settings : Settings) :
    (withSettings { settings := runnerSettings, timed } settings).Aware none :=
  ⟨Runner.aware_fresh runnerSettings timed, nofun⟩

/-- Whatever is done to a session, and however the engine fails on the way: a program that was heard
is heard again only after a hush, or after a program that sounds different. -/
theorem heard_again_only_after_change (runnerSettings : RunnerSettings) (timed : Bool)
    (settings : Settings) (steps : List (Step Action)) {before between after : List EngineCall}
    {program again : String}
    (hheard : (withSettings { settings := runnerSettings, timed } settings).heard steps =
      before ++ .evaluate program :: (between ++ .evaluate again :: after))
    (hsounds : SoundsLike again program) :
    .hush ∈ between ∨ ∃ other, .evaluate other ∈ between ∧ ¬ SoundsLike other program := by
  have hnever := (aware_withSettings runnerSettings timed settings).neverRepeats steps
  rw [hheard] at hnever
  exact hnever.between hsounds

def pausedDrum : List (Step Action) :=
  oneDrum.map .act ++ [.failWith (some "busy"), .act (.setCpm "40"), .act (.setCpm "30"),
    .failWith none, .act .pauseAll, .act .resumeAll]

theorem paused_drum_is_hushed_between :
    let program := "setcpm(30)\n$: sound(\"bd\")"
    let blank := withSettings { timed := false } {}
    blank.heard pausedDrum = [.evaluate program, .hush, .evaluate program] ∧
      (.hush ∈ [EngineCall.hush] ∨
        ∃ other, .evaluate other ∈ [EngineCall.hush] ∧ ¬ SoundsLike other program) := by
  intro program blank
  have hheard : blank.heard pausedDrum =
      [] ++ .evaluate program :: ([.hush] ++ .evaluate program :: []) := by
    decide +kernel
  refine ⟨hheard, ?_⟩
  exact heard_again_only_after_change {} false {} pausedDrum hheard ⟨rfl, rfl⟩

end Patchbay.Session
