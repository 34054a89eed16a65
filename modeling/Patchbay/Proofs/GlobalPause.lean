import Patchbay.Proofs.RunnerDebounce
import Patchbay.Proofs.SessionRepeats
import Mathlib.Data.List.Forall2

namespace Patchbay

open Program

namespace Engine

theorem evaluations_hush (engine : Engine) : engine.hush.evaluations = engine.evaluations := by
  rw [evaluations, calls_hush, List.filterMap_append]
  exact List.append_nil _

theorem evaluations_evaluate (engine : Engine) (program : String) :
    (engine.evaluate program).evaluations = engine.evaluations ++ [program] := by
  rw [evaluations, calls_evaluate, List.filterMap_append]
  rfl

end Engine

namespace Runner

variable {runner : Runner}

structure AtRest (runner : Runner) : Prop where
  halted : runner.halted = true
  idle : runner.pending = none

structure StaysAtRest (runner next : Runner) : Prop extends AtRest next where
  quiet : next.engine.evaluations = runner.engine.evaluations

theorem stop_staysAtRest (runner : Runner) : runner.StaysAtRest runner.stop :=
  ⟨⟨rfl, rfl⟩, runner.engine.evaluations_hush⟩

theorem AtRest.self (h : runner.AtRest) : runner.StaysAtRest runner :=
  ⟨h, rfl⟩

theorem AtRest.submit (h : runner.AtRest) (program : String) :
    runner.StaysAtRest (runner.submit program).1 := by
  rw [submit_of_halted h.halted]
  exact ⟨⟨h.halted, h.idle⟩, rfl⟩

theorem AtRest.sleep (h : runner.AtRest) (milliseconds : Nat) :
    runner.StaysAtRest (runner.sleep milliseconds) := by
  have hcase := runner.slept milliseconds
  generalize runner.sleep milliseconds = next at hcase ⊢
  cases hcase with
  | untimed _ => exact h.self
  | waited _ _ => exact ⟨⟨h.halted, h.idle⟩, rfl⟩
  | fired timer _ hpending _ => cases h.idle.symm.trans hpending

theorem evaluations_resume (runner : Runner) (program : String) :
    (runner.resume (some program)).1.pending = none ∧
      (runner.resume (some program)).1.engine.evaluations =
        runner.engine.evaluations ++ (if comparisonForm program = "" then [] else [program]) := by
  have hcase := runner.resumed (some program)
  generalize runner.resume (some program) = result at hcase ⊢
  cases hcase with
  | nothing hnone => cases hnone
  | forgotten other hsome hform =>
    obtain rfl := Option.some.inj hsome
    rw [if_pos hform, List.append_nil]
    exact ⟨rfl, rfl⟩
  | evaluated other hsome hform =>
    obtain rfl := Option.some.inj hsome
    rw [if_neg hform, pending_evaluate, engine_evaluate]
    exact ⟨rfl, runner.engine.evaluations_evaluate program⟩

end Runner

namespace Session

variable {session : Session} {ran : String → Prop}

def rememberedAfter (session : Session) : Action → Option (List String)
  | .pauseAll => session.runningBefore.or (some ((session.nodes.filter Node.isRunning).map (·.id)))
  | .resumeAll => none
  | .removeNode id =>
      if session.hasNode id then session.runningBefore.map fun ids => ids.filter (· ≠ id)
      else session.runningBefore
  | _ => session.runningBefore

theorem runningBefore_act (session : Session) (action : Action) :
    (session.act action).runningBefore = session.rememberedAfter action := by
  cases action with
  | addNode | setCpm | setTheme | setColorMode | refresh | sleep => rfl
  | insertNode node =>
    rw [act, insertNode]
    split <;> rfl
  | updateNodeData id changes =>
    rw [act, updateNodeData]
    split <;> rfl
  | updateNodeConfig id changes =>
    rw [act, updateNodeConfig]
    split <;> rfl
  | removeNode id =>
    rw [act, removeNode, rememberedAfter]
    split <;> rfl
  | connect token source target =>
    rw [act, connect]
    split <;> rfl
  | disconnect edgeId =>
    rw [act, disconnect]
    split <;> rfl
  | pauseGroup groupId =>
    rw [act]
    by_cases hdone : (session.pauseGroup groupId).2
    · obtain ⟨group, store, _, _, heq⟩ := pauseGroup_done hdone
      rw [heq]
      rfl
    · rw [(pauseGroup_refused (Bool.eq_false_iff.mpr hdone)).1]
      rfl
  | playGroup groupId =>
    rw [act, playGroup]
    split <;> rfl
  | muteNode id =>
    rw [act, muteNode]
    split
    · split <;> rfl
    · rfl
  | unmuteNode id =>
    rw [act, unmuteNode]
    split <;> rfl
  | pauseAll =>
    rw [act, pauseAll, rememberedAfter, isPausedAll]
    cases hrunning : session.runningBefore with
    | none => rfl
    | some running => exact hrunning
  | resumeAll =>
    rw [act, resumeAll]
    cases hrunning : session.runningBefore with
    | none => exact hrunning
    | some running => rfl

theorem hasNode_act_of_ne {action : Action} {id : String} (h : session.hasNode id)
    (hkeeps : action ≠ .removeNode id) : (session.act action).hasNode id := by
  refine (hasNode_act action h).resolve_right fun hremove => hkeeps ?_
  cases action with
  | removeNode other =>
    rw [operation?] at hremove
    split at hremove
    · obtain ⟨rfl⟩ := hremove
      rfl
    · cases hremove
  | updateNodeConfig | muteNode =>
    rw [operation?] at hremove
    split at hremove <;> cases hremove
  | pauseGroup groupId =>
    obtain ⟨_, _, hgroup⟩ := Option.map_eq_some_iff.mp hremove
    cases hgroup
  | _ => cases hremove

/-- Everything has been paused since the nodes of some ids were running. -/
structure PausedSince (session : Session) (ran : String → Prop) : Prop where
  atRest : session.runner.AtRest
  remembered : ∃ ids, session.runningBefore = some ids ∧ ∀ id, id ∈ ids ↔ ran id
  known : ∀ id, ran id → session.hasNode id

theorem PausedSince.congr (h : session.PausedSince ran) {others : String → Prop}
    (hsame : ∀ id, ran id ↔ others id) : session.PausedSince others :=
  funext (fun id => propext (hsame id)) ▸ h

theorem Requests.staysAtRest {next : Session} (h : session.Requests next)
    (hrest : session.runner.AtRest) (hpaused : next.isPausedAll = true) :
    session.runner.StaysAtRest next.runner := by
  cases h with
  | nothing hrunner _ _ =>
    rw [hrunner]
    exact hrest.self
  | submit hrunner _ =>
    rw [hrunner]
    exact hrest.submit next.compile
  | stop hrunner _ =>
    rw [hrunner]
    exact session.runner.stop_staysAtRest
  | resume _ _ hactive => cases hactive.symm.trans hpaused
  | sleep milliseconds hrunner _ _ =>
    rw [hrunner]
    exact hrest.sleep milliseconds

theorem PausedSince.exists_rememberedAfter (h : session.PausedSince ran) {action : Action}
    (hnext : action ≠ .resumeAll) : ∃ ids, session.rememberedAfter action = some ids ∧
      ∀ id, id ∈ ids ↔ ran id ∧ action ≠ .removeNode id := by
  obtain ⟨ids, hids, hran⟩ := h.remembered
  cases action with
  | resumeAll => exact absurd rfl hnext
  | removeNode other =>
    by_cases hother : session.hasNode other
    · have hafter :
          session.rememberedAfter (.removeNode other) = some (ids.filter (· ≠ other)) := by
        rw [rememberedAfter, if_pos hother, hids]
        rfl
      refine ⟨ids.filter (· ≠ other), hafter, fun id => ?_⟩
      rw [List.mem_filter, hran, decide_eq_true_iff, ne_comm, ne_eq, ne_eq, Action.removeNode.injEq]
    · refine ⟨ids, by rw [rememberedAfter, if_neg hother, hids], fun id => ?_⟩
      rw [hran, iff_self_and]
      rintro hid ⟨⟩
      exact hother (h.known other hid)
  | pauseAll => exact ⟨ids, by rw [rememberedAfter, hids]; rfl, by simpa using hran⟩
  | _ => exact ⟨ids, hids, by simpa using hran⟩

theorem PausedSince.act (h : session.PausedSince ran) {action : Action}
    (hnext : action ≠ .resumeAll) :
    (session.act action).PausedSince (fun id => ran id ∧ action ≠ .removeNode id) ∧
      session.runner.StaysAtRest (session.act action).runner := by
  obtain ⟨ids, hids, hran⟩ := h.exists_rememberedAfter hnext
  rw [← runningBefore_act] at hids
  have hpaused : (session.act action).isPausedAll = true := by
    rw [Session.isPausedAll, hids]
    rfl
  have hrest := (session.requests_act action).staysAtRest h.atRest hpaused
  refine ⟨⟨hrest.toAtRest, ⟨ids, hids, hran⟩, fun id hid => ?_⟩, hrest⟩
  exact hasNode_act_of_ne (h.known id hid.1) hid.2

theorem PausedSince.step (h : session.PausedSince ran) {next : Step Action}
    (hnext : next ≠ .act .resumeAll) :
    (session.step next).PausedSince (fun id => ran id ∧ next ≠ .act (.removeNode id)) ∧
      session.runner.StaysAtRest (session.step next).runner := by
  cases next with
  | act action =>
    obtain ⟨hpaused, hrest⟩ := h.act fun hresume => hnext (congrArg _ hresume)
    exact ⟨hpaused.congr (by simp), hrest⟩
  | failWith message =>
    have hrest : (session.runner.failWith message).AtRest := ⟨h.atRest.halted, h.atRest.idle⟩
    have hpaused : (session.failWith message).PausedSince ran := ⟨hrest, h.remembered, h.known⟩
    exact ⟨hpaused.congr (by simp), hrest, rfl⟩

def runSteps (session : Session) (steps : List (Step Action)) : Session :=
  steps.foldl step session

/-- A pause lasts through a run, and forgets only the nodes that are removed. -/
theorem PausedSince.runSteps (h : session.PausedSince ran) {steps : List (Step Action)}
    (hsteps : .act .resumeAll ∉ steps) :
    (session.runSteps steps).PausedSince (fun id => ran id ∧ .act (.removeNode id) ∉ steps) ∧
      session.runner.StaysAtRest (session.runSteps steps).runner := by
  induction steps generalizing session ran with
  | nil => exact ⟨h.congr (by simp), h.atRest.self⟩
  | cons next rest ih =>
    obtain ⟨hnext, hrest⟩ := List.ne_and_not_mem_of_not_mem_cons hsteps
    obtain ⟨hpaused, hquiet⟩ := h.step hnext.symm
    obtain ⟨hpaused', hquiet'⟩ := ih hpaused hrest
    refine ⟨hpaused'.congr fun id => ?_, hquiet'.toAtRest, hquiet'.quiet.trans hquiet.quiet⟩
    rw [List.mem_cons, not_or, and_assoc, ne_comm]

theorem pausedSince_pauseAll (hplaying : session.isPausedAll = false) :
    session.pauseAll.1.PausedSince (fun id => ∃ node ∈ session.nodes,
      node.id = id ∧ node.isRunning) ∧
      session.runner.StaysAtRest session.pauseAll.1.runner := by
  rw [pauseAll, if_neg (Bool.eq_false_iff.mp hplaying)]
  have hrest := session.runner.stop_staysAtRest
  refine ⟨⟨hrest.toAtRest, ⟨_, rfl, fun id => ?_⟩, fun id hid => ?_⟩, hrest⟩
  · simp only [List.mem_map, List.mem_filter]
    exact exists_congr fun node => and_right_comm.trans and_assoc
  · obtain ⟨node, hmem, rfl, _⟩ := hid
    have hnode : session.hasNode node.id :=
      (hasNode_iff_mem_ids session node.id).mpr (List.mem_map_of_mem hmem)
    rw [hasNode_iff] at hnode ⊢
    exact kinds_setState session _ .paused ▸ hnode

theorem forall₂_unpaused (session : Session) (running : List String) :
    List.Forall₂
      (fun before after => after.id = before.id ∧
        (after.isRunning ↔ before.isRunning ∨ after.id ∈ running))
      session.nodes (session.unpaused running).nodes := by
  rw [unpaused, setState, List.forall₂_map_right_iff]
  refine List.forall₂_same.mpr fun node _ => ?_
  by_cases hid : node.id ∈ running <;> simp [hid, Node.setState, Node.isRunning]

theorem compile_unpaused (session : Session) (running : List String) :
    (session.unpaused running).compile = session.compile :=
  compile_congr session.cpm (kinds_setState { session with runningBefore := none } running .running)
    fun _ _ _ _ => rfl

theorem PausedSince.resumeAll (h : session.PausedSince ran) :
    session.resumeAll.1.runner.pending = none ∧
      session.resumeAll.1.runner.engine.evaluations =
        session.runner.engine.evaluations ++
          (if session.compile = "" then [] else [session.compile]) ∧
      List.Forall₂
        (fun before after => after.id = before.id ∧
          (after.isRunning ↔ before.isRunning ∨ ran after.id))
        session.nodes session.resumeAll.1.nodes := by
  obtain ⟨ids, hids, hran⟩ := h.remembered
  obtain ⟨hpending, hevaluations⟩ := session.runner.evaluations_resume session.compile
  have hform : comparisonForm session.compile = "" ↔ session.compile = "" :=
    comparisonForm_compile _ _ _ _
  simp only [hform] at hevaluations
  rw [resumeAll_eq hids, compile_unpaused]
  dsimp only
  refine ⟨hpending, hevaluations, (session.forall₂_unpaused ids).imp fun before after hnode => ?_⟩
  exact ⟨hnode.1, hnode.2.trans (by rw [hran])⟩

/-- A pause of everything lets nothing through until it is lifted, and that brings back the program
as it is then, and the nodes that the pause silenced and that were not removed since. -/
theorem paused_until_resumed (hplaying : session.isPausedAll = false) {steps : List (Step Action)}
    (hsteps : .act .resumeAll ∉ steps) :
    let later := session.pauseAll.1.runSteps steps
    let resumed := later.resumeAll.1
    later.runner.engine.evaluations = session.runner.engine.evaluations ∧
      resumed.runner.engine.evaluations =
        later.runner.engine.evaluations ++ (if later.compile = "" then [] else [later.compile]) ∧
      resumed.runner.pending = none ∧
      List.Forall₂
        (fun before after => after.id = before.id ∧
          (after.isRunning ↔ before.isRunning ∨
            (∃ node ∈ session.nodes, node.id = after.id ∧ node.isRunning) ∧
              .act (.removeNode after.id) ∉ steps))
        later.nodes resumed.nodes := by
  intro later resumed
  obtain ⟨hpaused, hquiet⟩ := pausedSince_pauseAll hplaying
  obtain ⟨hlater, hquiet'⟩ := hpaused.runSteps hsteps
  obtain ⟨hpending, hevaluations, hnodes⟩ := hlater.resumeAll
  exact ⟨hquiet'.quiet.trans hquiet.quiet, hevaluations, hpending, hnodes⟩

def runningDrums : List Action :=
  [.addNode "1" "drum_sounds" {}, .addNode "2" "drum_sounds" {},
    .updateNodeConfig "drum_sounds_1" (.ofList [("sound", .string "bd")])]

def replaceDrum : List (Step Action) :=
  [.failWith (some "busy"), .act (.removeNode "drum_sounds_2"),
    .act (.insertNode { id := "drum_sounds_2", typeId := "drum_sounds" }), .act (.setCpm "60"),
    .act (.sleep 100)]

theorem drum_waits_for_resume :
    let session := (withSettings {} {}).run runningDrums
    let resumed := (session.pauseAll.1.runSteps replaceDrum).resumeAll.1
    session.isPausedAll = false ∧ .act .resumeAll ∉ replaceDrum ∧
      resumed.runner.engine.evaluations = ["setcpm(60)\n$: sound(\"bd\")"] ∧
      resumed.nodes.map Node.isRunning = [true, false] := by
  intro session resumed
  have hplaying : session.isPausedAll = false := by decide +kernel
  have hsteps : .act .resumeAll ∉ replaceDrum := by simp [replaceDrum]
  obtain ⟨hquiet, honce, _⟩ := paused_until_resumed hplaying hsteps
  have hnone : session.runner.engine.evaluations = [] := by decide +kernel
  have hprogram : (session.pauseAll.1.runSteps replaceDrum).compile =
      "setcpm(60)\n$: sound(\"bd\")" := by
    decide +kernel
  refine ⟨hplaying, hsteps, ?_, by decide +kernel⟩
  rw [honce, hquiet, hnone, hprogram]
  decide

end Session

end Patchbay
