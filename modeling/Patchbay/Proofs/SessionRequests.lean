import Patchbay.Proofs.ComparisonForm
import Patchbay.Proofs.SessionRun

namespace Patchbay.Session

open Program

variable {session : Session}

theorem compile_setRunner (session : Session) (runner : Runner) :
    Session.compile { session with runner } = session.compile :=
  rfl

theorem compile_updateNodeData (session : Session) (id : String) (changes : Record) :
    (session.updateNodeData id changes).1.compile = session.compile := by
  have hkinds := kinds_updateNodeData session id changes
  unfold updateNodeData at hkinds ⊢
  split
  · next hnode =>
    rw [if_pos hnode] at hkinds
    exact compile_congr session.cpm hkinds fun _ _ _ _ => rfl
  · rfl

/-- What an action asks of the runner: nothing if the program is as it was, and otherwise one thing.
It is handed each new program, is stopped when everything is paused, and resumes only then. -/
inductive Requests (session next : Session) : Prop where
  | nothing (hrunner : next.runner = session.runner)
    (hpaused : next.isPausedAll = session.isPausedAll)
      (hcompile : next.compile = session.compile)
  | submit (hrunner : next.runner = (session.runner.submit next.compile).1)
      (hpaused : next.isPausedAll = session.isPausedAll)
  | stop (hrunner : next.runner = session.runner.stop) (hpaused : next.isPausedAll = true)
  | resume (hrunner : next.runner = (session.runner.resume (some next.compile)).1)
      (hpaused : session.isPausedAll = true) (hactive : next.isPausedAll = false)
  | sleep (milliseconds : Nat) (hrunner : next.runner = session.runner.sleep milliseconds)
      (hpaused : next.isPausedAll = session.isPausedAll) (hcompile : next.compile = session.compile)

theorem requests_self (session : Session) : session.Requests session :=
  .nothing rfl rfl rfl

theorem requests_refreshed {edited : Session} (hrunner : edited.runner = session.runner)
    (hpaused : edited.isPausedAll = session.isPausedAll) : session.Requests edited.refreshed := by
  refine .submit ?_ hpaused
  rw [← hrunner]
  rfl

theorem requests_act (session : Session) (action : Action) :
    session.Requests (session.act action) := by
  cases action with
  | addNode token typeId position => exact requests_refreshed rfl rfl
  | insertNode node =>
    rw [act, insertNode]
    split
    · exact session.requests_self
    · exact requests_refreshed rfl rfl
  | updateNodeData id changes =>
    refine .nothing ?_ ?_ (compile_updateNodeData session id changes) <;>
      · rw [act, updateNodeData]
        split <;> rfl
  | updateNodeConfig id changes =>
    rw [act, updateNodeConfig]
    split
    · exact requests_refreshed rfl rfl
    · exact session.requests_self
  | removeNode id =>
    rw [act, removeNode]
    split
    · exact requests_refreshed rfl Option.isSome_map
    · exact session.requests_self
  | connect token source target =>
    rw [act, connect]
    split
    · exact session.requests_self
    · exact requests_refreshed rfl rfl
  | disconnect edgeId =>
    rw [act, disconnect]
    split
    · exact requests_refreshed rfl rfl
    · exact session.requests_self
  | setCpm cpm => exact requests_refreshed rfl rfl
  | setTheme theme => exact .nothing rfl rfl rfl
  | setColorMode colorMode => exact .nothing rfl rfl rfl
  | pauseGroup groupId =>
    rw [act]
    by_cases hdone : (session.pauseGroup groupId).2
    · obtain ⟨group, store, _, _, heq⟩ := pauseGroup_done hdone
      rw [heq]
      exact requests_refreshed rfl rfl
    · rw [(pauseGroup_refused (Bool.eq_false_iff.mpr hdone)).1]
      exact session.requests_self
  | playGroup groupId =>
    rw [act, playGroup]
    split
    · exact requests_refreshed rfl rfl
    · exact session.requests_self
  | muteNode id =>
    rw [act, muteNode]
    split
    · split
      · exact requests_refreshed rfl rfl
      · exact session.requests_self
    · exact session.requests_self
  | unmuteNode id =>
    rw [act, unmuteNode]
    split
    · exact requests_refreshed rfl rfl
    · exact session.requests_self
  | pauseAll =>
    rw [act, pauseAll]
    split
    · exact session.requests_self
    · exact .stop rfl rfl
  | resumeAll =>
    rw [act]
    cases hrunning : session.runningBefore with
    | none =>
      rw [resumeAll, hrunning]
      exact session.requests_self
    | some running =>
      have hpaused : session.isPausedAll = true := by rw [isPausedAll, hrunning]; rfl
      rw [resumeAll_eq hrunning]
      have hcompile := compile_setRunner (session.unpaused running)
        (session.runner.resume (some (session.unpaused running).compile)).1
      exact .resume (by rw [hcompile]) hpaused rfl
  | refresh => exact requests_refreshed rfl rfl
  | sleep milliseconds => exact .sleep milliseconds rfl rfl rfl

end Patchbay.Session
