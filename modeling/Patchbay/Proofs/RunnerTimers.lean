import Patchbay.Proofs.CommentEdits
import Patchbay.Proofs.RunnerRepeats

namespace Patchbay.Runner

open Program

variable {runner : Runner} {playing : Option String} {program : String}

section Halves

/-- How `resume` starts: it lifts a stop, and has then to get hold of the runner again. -/
def lift (runner : Runner) : Runner :=
  { runner with halted := false }

/-- How `resume` goes on with the program that was chosen when it started. -/
def restart (runner : Runner) (program : String) : Runner × Outcome :=
  let runner := { runner with latest := some program }
  if (comparisonForm program).isEmpty then (runner.reset, .unchanged)
  else runner.cancelPending.evaluate program

theorem resume_of_none {given : Option String} (h : given.or runner.latest = none) :
    runner.resume given = (runner.lift, .unchanged) := by
  unfold resume
  simp only [h]
  rfl

theorem resume_of_some {given : Option String} (h : given.or runner.latest = some program) :
    runner.resume given = runner.lift.restart program := by
  unfold resume
  simp only [h]
  rfl

theorem restart_of_active (hactive : runner.halted = false) (program : String) :
    runner.restart program = runner.resume (some program) := by
  have hlift : runner.lift = runner := by rw [lift, ← hactive]
  have hsome : (some program).or runner.latest = some program := rfl
  rw [resume_of_some hsome, hlift]

end Halves

section Interleaving

def wait (runner : Runner) (milliseconds : Nat) : Runner :=
  { runner with clock := runner.clock + milliseconds }

/-- A runner among the timers that were armed for it. A timer stays among them when it is cancelled
or has run out, as it may be running out at that moment. While a resume is half done, `resuming` is
its program. -/
structure Scene where
  runner : Runner
  armed : List Timer := []
  resuming : Option String := none

inductive Event where
  | submit (timed : Bool) (program : String)
  | stop
  | resume (given : Option String)
  | restart
  | fire (timer : Timer)
  | wait (milliseconds : Nat)
  | failWith (message : Option String)

def Event.submitted? : Event → Option String
  | .submit _ program => some program
  | _ => none

namespace Scene

def withRunner (scene : Scene) (runner : Runner) : Scene :=
  { scene with runner }

def afterSubmit (scene : Scene) (timed : Bool) (program : String) : Scene :=
  let later := ({ scene.runner with timed }.submit program).1
  { scene with runner := later, armed := later.pending.toList ++ scene.armed }

def afterLift (scene : Scene) (given : Option String) : Scene :=
  { scene with runner := scene.runner.lift, resuming := given.or scene.runner.latest }

def afterRestart (scene : Scene) (program : String) : Scene :=
  { scene with runner := (scene.runner.restart program).1, resuming := none }

/-- What can happen next. Calls come one after the other, while a timer that was armed runs out
at any moment, also between the halves of a resume; and how the engine answers can change at
any moment. -/
def Allows (scene : Scene) : Event → Prop
  | .submit _ _ | .stop | .resume _ => scene.resuming = none
  | .restart => scene.resuming.isSome
  | .fire timer => timer ∈ scene.armed
  | .wait _ | .failWith _ => True

instance (scene : Scene) : DecidablePred scene.Allows
  | .submit _ _ | .stop | .resume _ => inferInstanceAs (Decidable (scene.resuming = none))
  | .restart => inferInstanceAs (Decidable (scene.resuming.isSome = true))
  | .fire timer => inferInstanceAs (Decidable (timer ∈ scene.armed))
  | .wait _ | .failWith _ => inferInstanceAs (Decidable True)

def after (scene : Scene) : Event → Scene
  | .submit timed program => scene.afterSubmit timed program
  | .stop => scene.withRunner scene.runner.stop
  | .resume given => scene.afterLift given
  | .restart => scene.resuming.elim scene scene.afterRestart
  | .fire timer => scene.withRunner (scene.runner.fire timer)
  | .wait milliseconds => scene.withRunner (scene.runner.wait milliseconds)
  | .failWith message => scene.withRunner (scene.runner.failWith message)

theorem runner_withRunner (scene : Scene) (runner : Runner) :
    (scene.withRunner runner).runner = runner :=
  rfl

theorem runner_afterLift (scene : Scene) (given : Option String) :
    (scene.afterLift given).runner = scene.runner.lift :=
  rfl

theorem runner_afterRestart (scene : Scene) (program : String) :
    (scene.afterRestart program).runner = (scene.runner.restart program).1 := by
  rw [afterRestart]

theorem after_restart {scene : Scene} {program : String} (h : scene.resuming = some program) :
    scene.after .restart = scene.afterRestart program := by
  rw [after, h, Option.elim_some]

end Scene

inductive Reaches (settings : RunnerSettings) : List Event → List EngineCall → Scene → Prop where
  | fresh (timed : Bool) : Reaches settings [] [] { runner := { settings, timed } }
  | next {events : List Event} {heard : List EngineCall} {scene : Scene} {event : Event}
      (h : Reaches settings events heard scene) (hallowed : scene.Allows event) :
      Reaches settings (events ++ [event])
        (heard ++ scene.runner.engine.heardUntil (scene.after event).runner.engine)
          (scene.after event)

end Interleaving

section Fields

/-- How the fields of a runner belong together, given what was submitted to it last, what its engine
accepted last, and the timers that were armed for it. -/
structure FieldsAgree (runner : Runner) (armed : List Timer)
    (submitted accepted : Option String) : Prop where
  running_iff : runner.status = .running ↔ runner.lastEvaluated.isSome
  not_blank : runner.lastEvaluated ≠ some ""
  remembered : ∀ form, runner.lastEvaluated = some form → ∃ program, accepted = some program ∧
    form = comparisonForm program ∧ runner.lastTempo = lastTempo? program
  forgotten : runner.lastEvaluated = none → runner.lastTempo = none
  stopped : runner.halted = true → runner.status = .idle ∧ runner.pending = none
  waiting : ∀ timer, runner.pending = some timer → timer ∈ armed ∧
    timer.generation = runner.generation ∧ submitted = some timer.program ∧
    runner.latest = some timer.program
  stale : ∀ timer, runner.pending.map (·.generation) ≠ some timer.generation →
    runner.fire timer = runner
  due : ∀ timer ∈ armed, runner.pending.map (·.generation) = some timer.generation →
    runner.pending = some timer ∧
      runner.fire timer = ({ runner with pending := none }.evaluate timer.program).1

end Fields

section Steps

theorem generation_evaluate (runner : Runner) (program : String) :
    (runner.evaluate program).1.generation = runner.generation := by
  unfold evaluate
  split <;> rfl

theorem le_generation_schedule (runner : Runner) (program : String) :
    runner.generation ≤ (runner.schedule program).1.generation := by
  unfold schedule
  dsimp only
  split
  · exact Nat.le_succ _
  · rw [generation_evaluate]
    exact Nat.le_succ _

theorem le_generation_submit (runner : Runner) (program : String) :
    runner.generation ≤ (runner.submit program).1.generation := by
  unfold submit
  dsimp only
  split
  · exact Nat.le_refl _
  · split
    · split <;> exact Nat.le_refl _
    · split
      · exact le_generation_schedule { runner with latest := some program } program
      · split
        · exact Nat.le_refl _
        · split
          · rw [generation_evaluate]
            exact Nat.le_refl _
          · exact le_generation_schedule { runner with latest := some program } program

theorem Consistent.pending_submit (h : runner.Consistent playing) (program : String) :
    (runner.submit program).1.pending = none ∨
      ∃ timer, (runner.submit program).1.pending = some timer ∧ timer.program = program ∧
        timer.generation = runner.generation + 1 ∧
        (runner.submit program).1.generation = runner.generation + 1 := by
  have hcase := runner.submitted program
  generalize runner.submit program = result at hcase ⊢
  cases hcase with
  | halted hhalted => exact .inl (h.stopped hhalted).2
  | hushed | forgotten | same => exact .inl rfl
  | evaluated generation => exact .inl (pending_evaluate _ program)
  | scheduled => exact .inr ⟨_, rfl, rfl, rfl, rfl⟩

def Forgets (runner : Runner) : Prop :=
  runner.lastEvaluated = none → runner.lastTempo = none

theorem Forgets.evaluate (h : runner.Forgets) (program : String) :
    (runner.evaluate program).1.Forgets := by
  have hcase := runner.evaluated program
  generalize runner.evaluate program = result at hcase ⊢
  cases hcase with
  | accepted => exact nofun
  | refused => exact h

theorem Forgets.submit (h : runner.Forgets) (program : String) :
    (runner.submit program).1.Forgets := by
  have hcase := runner.submitted program
  generalize runner.submit program = result at hcase ⊢
  cases hcase with
  | halted | same | scheduled => exact h
  | hushed | forgotten => exact fun _ => rfl
  | evaluated generation =>
    have htaken : Forgets { runner with latest := some program, pending := none, generation } := h
    exact htaken.evaluate program

theorem Forgets.resume (h : runner.Forgets) (given : Option String) :
    (runner.resume given).1.Forgets := by
  have hcase := runner.resumed given
  generalize runner.resume given = result at hcase ⊢
  cases hcase with
  | nothing => exact h
  | forgotten => exact fun _ => rfl
  | evaluated program =>
    have htaken :
        Forgets { runner with halted := false, latest := some program, pending := none } := h
    exact htaken.evaluate program

end Steps

section Orders

/-- What holds of a runner and its timers at any moment: each timer has a generation of its own,
none is newer than the runner's, and the pending one is for what was submitted last. -/
structure Ordered (scene : Scene) (submitted playing : Option String) : Prop where
  consistent : scene.runner.Consistent playing
  forgets : scene.runner.Forgets
  older : ∀ timer ∈ scene.armed, timer.generation ≤ scene.runner.generation
  distinct : ∀ timer ∈ scene.armed, ∀ other ∈ scene.armed,
    timer.generation = other.generation → timer = other
  waiting : ∀ timer, scene.runner.pending = some timer →
    timer ∈ scene.armed ∧ submitted = some timer.program
  lifted : scene.resuming.isSome → scene.runner.halted = false

variable {scene : Scene} {submitted : Option String} {event : Event} {timer : Timer}

theorem Ordered.keep (h : Ordered scene submitted playing) {next : Runner}
    {resuming playing' : Option String}
    (hconsistent : next.Consistent playing') (hforgets : next.Forgets)
    (hgeneration : next.generation = scene.runner.generation)
    (hpending : next.pending = none ∨ next.pending = scene.runner.pending)
    (hlifted : resuming.isSome → next.halted = false) :
    Ordered { scene with runner := next, resuming } submitted playing' := by
  refine ⟨hconsistent, hforgets, fun timer harmed => ?_, h.distinct,
    fun timer htimer => ?_, hlifted⟩
  · exact hgeneration ▸ h.older timer harmed
  · rcases hpending with hnone | hsame
    · cases hnone.symm.trans htimer
    · exact h.waiting timer (hsame.symm.trans htimer)

theorem distinct_cons {armed : List Timer}
    (hnewer : ∀ other ∈ armed, other.generation < timer.generation)
    (hdistinct : ∀ one ∈ armed, ∀ other ∈ armed, one.generation = other.generation → one = other) :
    ∀ one ∈ timer :: armed, ∀ other ∈ timer :: armed, one.generation = other.generation →
      one = other := by
  intro one hone other hother hsame
  rcases List.mem_cons.mp hone with rfl | hone'
  · rcases List.mem_cons.mp hother with rfl | hother'
    · rfl
    · exact absurd hsame (hnewer other hother').ne'
  · rcases List.mem_cons.mp hother with rfl | hother'
    · exact absurd hsame (hnewer one hone').ne
    · exact hdistinct one hone' other hother' hsame

theorem Ordered.submit (h : Ordered scene submitted playing) (timed : Bool) (program : String)
    (hidle : scene.resuming = none) :
    Ordered (scene.afterSubmit timed program) (some program)
      (playingAfter playing
          (scene.runner.engine.heardUntil (scene.afterSubmit timed program).runner.engine)) := by
  have htimed : Consistent { scene.runner with timed } playing :=
    ⟨h.consistent.status, h.consistent.remembered, h.consistent.sounding, h.consistent.waiting,
      h.consistent.stopped⟩
  have hforgets : Forgets { scene.runner with timed } := h.forgets
  have hpending := htimed.pending_submit program
  have hgeneration := le_generation_submit { scene.runner with timed } program
  have holder : ∀ timer ∈ scene.armed,
      timer.generation ≤ (scene.afterSubmit timed program).runner.generation :=
    fun timer harmed => (h.older timer harmed).trans hgeneration
  have hlifted : scene.resuming.isSome →
      (scene.afterSubmit timed program).runner.halted = false := by
    rw [hidle]
    exact nofun
  rcases hpending with hnone | ⟨timer, htimer, hprogram, hnew, hnext⟩
  · have harmed : (scene.afterSubmit timed program).armed = scene.armed := by
      rw [Scene.afterSubmit]
      simp only [hnone, Option.toList_none, List.nil_append]
    refine ⟨htimed.submit program, hforgets.submit program, harmed ▸ holder,
      harmed ▸ h.distinct, ?_, hlifted⟩
    intro timer htimer
    cases hnone.symm.trans htimer
  · have harmed : (scene.afterSubmit timed program).armed = timer :: scene.armed := by
      rw [Scene.afterSubmit]
      simp only [htimer, Option.toList_some, List.singleton_append]
    have hnewer : ∀ other ∈ scene.armed, other.generation < timer.generation :=
      fun other hother => by
      rw [hnew]
      exact Nat.lt_succ_of_le (h.older other hother)
    refine ⟨htimed.submit program, hforgets.submit program, ?_, ?_, ?_, hlifted⟩
    · rw [harmed]
      exact List.forall_mem_cons.mpr ⟨(hnew.trans hnext.symm).le, holder⟩
    · rw [harmed]
      exact distinct_cons hnewer h.distinct
    · intro pending hpending
      obtain rfl := Option.some.inj (htimer.symm.trans hpending)
      rw [harmed]
      exact ⟨List.mem_cons_self, congrArg some hprogram.symm⟩

theorem Ordered.pending_of_generation (h : Ordered scene submitted playing)
    (harmed : timer ∈ scene.armed)
    (hgeneration : scene.runner.pending.map (·.generation) = some timer.generation) :
    scene.runner.pending = some timer := by
  obtain ⟨pending, hpending, hsame⟩ := Option.map_eq_some_iff.mp hgeneration
  rw [hpending, h.distinct pending (h.waiting pending hpending).1 timer harmed hsame]

theorem fire_of_ne (hgeneration : runner.pending.map (·.generation) ≠ some timer.generation) :
    runner.fire timer = runner :=
  if_neg hgeneration

theorem fire_of_eq (hgeneration : runner.pending.map (·.generation) = some timer.generation) :
    runner.fire timer = ({ runner with pending := none }.evaluate timer.program).1 :=
  if_pos hgeneration

theorem Ordered.fire (h : Ordered scene submitted playing) (harmed : timer ∈ scene.armed) :
    Ordered (scene.withRunner (scene.runner.fire timer)) submitted
      (playingAfter playing (scene.runner.engine.heardUntil (scene.runner.fire timer).engine)) := by
  by_cases hgeneration : scene.runner.pending.map (·.generation) = some timer.generation
  · have hpending := h.pending_of_generation harmed hgeneration
    obtain ⟨_, hlatest, hform⟩ := h.consistent.waiting timer hpending
    have hactive := h.consistent.active_of_pending hpending
    have htaken := h.consistent.take_pending hpending scene.runner.clock
    have hforgets : Forgets { scene.runner with pending := none } := h.forgets
    have hevaluated := htaken.evaluate hactive rfl hlatest hform
    rw [fire_of_eq hgeneration]
    refine h.keep hevaluated ?_ ?_ (.inl (pending_evaluate _ _)) fun _ => ?_
    · exact hforgets.evaluate timer.program
    · exact generation_evaluate _ timer.program
    · exact (halted_evaluate _ timer.program).trans hactive
  · rw [fire_of_ne hgeneration]
    exact h.keep (keepsConsistent_of_log_eq h.consistent rfl) h.forgets rfl (.inr rfl) h.lifted

theorem Ordered.restart (h : Ordered scene submitted playing)
    (hresuming : scene.resuming = some program) :
    Ordered (scene.afterRestart program) submitted
      (playingAfter playing
          (scene.runner.engine.heardUntil (scene.afterRestart program).runner.engine)) := by
  have hactive : scene.runner.halted = false := h.lifted (by rw [hresuming]; rfl)
  have hcase := scene.runner.resumed (some program)
  have hconsistent := h.consistent.resume (some program)
  have hforgets := h.forgets.resume (some program)
  rw [Scene.afterRestart, restart_of_active hactive]
  generalize scene.runner.resume (some program) = result at hcase hconsistent hforgets ⊢
  have hgeneration : result.1.generation = scene.runner.generation := by
    cases hcase with
    | nothing | forgotten => rfl
    | evaluated => exact generation_evaluate _ _
  have hpending : result.1.pending = none ∨ result.1.pending = scene.runner.pending := by
    cases hcase with
    | nothing => exact .inr rfl
    | forgotten => exact .inl rfl
    | evaluated => exact .inl (pending_evaluate _ _)
  exact h.keep hconsistent hforgets hgeneration hpending nofun

theorem Ordered.next (h : Ordered scene submitted playing) (hallowed : scene.Allows event) :
    Ordered (scene.after event) (event.submitted?.or submitted)
      (playingAfter playing
          (scene.runner.engine.heardUntil (scene.after event).runner.engine)) := by
  have hkept := h.consistent
  cases event with
  | submit timed program => exact h.submit timed program hallowed
  | restart =>
    obtain ⟨program, hresuming⟩ := Option.isSome_iff_exists.mp hallowed
    rw [Scene.after_restart hresuming]
    exact h.restart hresuming
  | fire timer => exact h.fire hallowed
  | stop =>
    have hidle : scene.resuming = none := hallowed
    have hlifted : scene.resuming.isSome → scene.runner.stop.halted = false := by simp [hidle]
    exact h.keep (consistent_of_idle rfl rfl rfl _) (fun _ => rfl) rfl (.inl rfl) hlifted
  | resume given =>
    have hconsistent : scene.runner.lift.Consistent playing :=
      ⟨hkept.status, hkept.remembered, hkept.sounding, hkept.waiting, nofun⟩
    exact h.keep (keepsConsistent_of_log_eq hconsistent rfl) h.forgets rfl (.inr rfl) fun _ => rfl
  | wait milliseconds =>
    have hconsistent : (scene.runner.wait milliseconds).Consistent playing :=
      ⟨hkept.status, hkept.remembered, hkept.sounding, hkept.waiting, hkept.stopped⟩
    exact h.keep (keepsConsistent_of_log_eq hconsistent rfl) h.forgets rfl (.inr rfl) h.lifted
  | failWith message =>
    have hconsistent : (scene.runner.failWith message).Consistent playing :=
      ⟨hkept.status, hkept.remembered, hkept.sounding, hkept.waiting, hkept.stopped⟩
    exact h.keep (keepsConsistent_of_log_eq hconsistent rfl) h.forgets rfl (.inr rfl) h.lifted

end Orders

section Runs

variable {settings : RunnerSettings} {events : List Event} {heard : List EngineCall} {scene : Scene}
variable {submitted : Option String} {event : Event}

theorem getLast?_submitted (events : List Event) (event : Event) :
    ((events ++ [event]).filterMap Event.submitted?).getLast? =
      event.submitted?.or (events.filterMap Event.submitted?).getLast? := by
  rw [List.filterMap_append]
  cases hsubmitted : event.submitted? with
  | none => simp [hsubmitted]
  | some program => simp [hsubmitted]

theorem Reaches.ordered (h : Reaches settings events heard scene) :
    Ordered scene (events.filterMap Event.submitted?).getLast? (playingAfter none heard) := by
  induction h with
  | fresh timed =>
    exact ⟨consistent_fresh settings timed, fun _ => rfl, List.forall_mem_nil _,
      List.forall_mem_nil _, nofun, nofun⟩
  | next _ hallowed ih =>
    rw [getLast?_submitted, playingAfter_append]
    exact ih.next hallowed

theorem Reaches.silent (h : Reaches settings events heard scene) (hallowed : scene.Allows event)
    (hlog : (scene.after event).runner.engine.log = scene.runner.engine.log) :
    Reaches settings (events ++ [event]) heard (scene.after event) := by
  have hreached := h.next hallowed
  rwa [Engine.heardUntil_of_log_eq hlog, List.append_nil] at hreached

def ReachesRunner (settings : RunnerSettings) (heard : List EngineCall) (runner : Runner) : Prop :=
  ∃ events scene, Reaches settings events heard scene ∧ scene.runner = runner ∧
    scene.resuming = none

theorem Reaches.resume (h : Reaches settings events heard scene) (hidle : scene.resuming = none)
    (given : Option String) : ReachesRunner settings
      (heard ++ scene.runner.engine.heardUntil (scene.runner.resume given).1.engine)
      (scene.runner.resume given).1 := by
  have hallowed : scene.Allows (.resume given) := hidle
  have hlifted : Reaches settings _ heard (scene.afterLift given) := h.silent hallowed rfl
  cases hgiven : given.or scene.runner.latest with
  | none =>
    have hsilent : scene.runner.engine.heardUntil scene.runner.lift.engine = [] :=
      Engine.heardUntil_of_log_eq rfl
    rw [resume_of_none hgiven]
    dsimp only
    rw [hsilent, List.append_nil]
    exact ⟨_, _, hlifted, rfl, hgiven⟩
  | some program =>
    have hresuming : (scene.afterLift given).resuming = some program := hgiven
    have hrestarts : (scene.afterLift given).Allows .restart :=
      Option.isSome_iff_exists.mpr ⟨program, hgiven⟩
    have hresumed := hlifted.next hrestarts
    rw [Scene.after_restart hresuming, Scene.runner_afterRestart,
      Scene.runner_afterLift] at hresumed
    rw [resume_of_some hgiven]
    exact ⟨_, _, hresumed, Scene.runner_afterRestart _ program, rfl⟩

theorem Reaches.sleep (h : Reaches settings events heard scene) (hidle : scene.resuming = none)
    (milliseconds : Nat) : ReachesRunner settings
      (heard ++ scene.runner.engine.heardUntil (scene.runner.sleep milliseconds).engine)
      (scene.runner.sleep milliseconds) := by
  have hcase := scene.runner.slept milliseconds
  have hwaits : scene.Allows (.wait milliseconds) := trivial
  have hwaited : Reaches settings _ heard (scene.withRunner (scene.runner.wait milliseconds)) :=
    h.silent hwaits rfl
  generalize scene.runner.sleep milliseconds = result at hcase ⊢
  cases hcase with
  | untimed =>
    rw [Engine.heardUntil_of_log_eq rfl, List.append_nil]
    exact ⟨_, _, h, rfl, hidle⟩
  | waited =>
    rw [Engine.heardUntil_of_log_eq rfl, List.append_nil]
    exact ⟨_, _, hwaited, rfl, hidle⟩
  | fired timer _ hpending _ =>
    have hgeneration : (scene.runner.wait milliseconds).pending.map (·.generation) =
        some timer.generation :=
      congrArg (Option.map _) hpending
    have hfires : (scene.withRunner (scene.runner.wait milliseconds)).Allows (.fire timer) :=
      (h.ordered.waiting timer hpending).1
    have hfired := hwaited.next hfires
    rw [Scene.after, Scene.runner_withRunner, Scene.runner_withRunner,
      fire_of_eq hgeneration] at hfired
    exact ⟨_, _, hfired, rfl, hidle⟩

/-- An action is at most two events: a resume has two halves, and a sleep may end with a timer. -/
theorem Reaches.step (h : Reaches settings events heard scene) (hidle : scene.resuming = none)
    (next : Step Action) : ReachesRunner settings
      (heard ++ scene.runner.engine.heardUntil (scene.runner.step next).engine)
          (scene.runner.step next) := by
  cases next with
  | failWith message =>
    have hallowed : scene.Allows (.failWith message) := trivial
    exact ⟨_, _, h.next hallowed, rfl, hidle⟩
  | act action =>
    cases action with
    | submit program =>
      have hallowed : scene.Allows (.submit scene.runner.timed program) := hidle
      exact ⟨_, _, h.next hallowed, rfl, hidle⟩
    | stop =>
      have hallowed : scene.Allows .stop := hidle
      exact ⟨_, _, h.next hallowed, rfl, hidle⟩
    | resume given => exact h.resume hidle given
    | sleep milliseconds => exact h.sleep hidle milliseconds

/-- Every run in which a timer runs out only when it is due, while nothing else happens, is one
of these. -/
theorem reachesRunner_runSteps (settings : RunnerSettings) (timed : Bool)
    (steps : List (Step Action)) :
    ReachesRunner settings (Runner.heard { settings, timed } steps)
      (runSteps { settings, timed } steps) := by
  induction steps using List.reverseRecOn with
  | nil => exact ⟨_, _, .fresh timed, rfl, rfl⟩
  | append_singleton steps next ih =>
    obtain ⟨_, scene, hreached, hrunner, hidle⟩ := ih
    have hnext := hreached.step hidle next
    rw [hrunner] at hnext
    rw [heard_append, heard_singleton, runSteps_append]
    exact hnext

theorem Ordered.fieldsAgree {accepted : Option String} (h : Ordered scene submitted playing)
    (haccepted : ∀ program, playing = some program → accepted = some program) :
    scene.runner.FieldsAgree scene.armed submitted accepted := by
  refine ⟨h.consistent.status, fun hblank => ?_, fun form hform => ?_, h.forgets,
    h.consistent.stopped, fun timer htimer => ?_, fun timer =>
      fire_of_ne, fun timer harmed hgeneration => ?_⟩
  · exact (h.consistent.remembered "" hblank).1 rfl
  · obtain ⟨_, program, hplaying, hsame⟩ := h.consistent.remembered form hform
    exact ⟨program, haccepted program hplaying, hsame⟩
  · obtain ⟨harmed, hsubmitted⟩ := h.waiting timer htimer
    obtain ⟨hgeneration, hlatest, _⟩ := h.consistent.waiting timer htimer
    exact ⟨harmed, hgeneration, hsubmitted, hlatest⟩
  · exact ⟨h.pending_of_generation harmed hgeneration, fire_of_eq hgeneration⟩

/-- Whatever happens to a runner, in whatever order its timers run out and whatever its engine
answers, its fields agree. -/
theorem reached_fields_agree (h : Reaches settings events heard scene) :
    scene.runner.FieldsAgree scene.armed (events.filterMap Event.submitted?).getLast?
      (heard.filterMap EngineCall.program?).getLast? :=
  h.ordered.fieldsAgree fun _ => getLast?_of_playingAfter

/-- The timer of a kick that hats replaced runs out in vain, before the hats and in the middle of
a resume. -/
theorem replaced_timer_stays_silent :
    let kick := "setcpm(30)\n$: s(\"bd\")"
    let hats := "setcpm(30)\n$: s(\"hh\")"
    let first : Timer := ⟨1, 30, kick⟩
    let second : Timer := ⟨2, 30, hats⟩
    let third : Timer := ⟨3, 30, kick⟩
    let events : List Event :=
      [.submit true kick, .submit true hats, .fire first, .fire second, .resume none, .fire first,
        .restart, .submit true kick]
    ∃ heard scene, Reaches {} events heard scene ∧
      scene.runner.FieldsAgree scene.armed (events.filterMap Event.submitted?).getLast?
        (heard.filterMap EngineCall.program?).getLast? ∧
      heard = [.evaluate hats, .evaluate hats] ∧ scene.runner.engine.calls = heard ∧
      scene.armed = [third, second, first] ∧ scene.runner.status = .running ∧
      scene.runner.pending = some third := by
  intro kick hats first second third events
  have hfresh : Reaches {} [] [] { runner := {} } := .fresh true
  have hkick : Reaches {} [.submit true kick] _ _ := hfresh.next (by decide +kernel)
  have hhats : Reaches {} [.submit true kick, .submit true hats] _ _ :=
    hkick.next (by decide +kernel)
  have hvain : Reaches {} (events.take 3) _ _ := hhats.next (by decide +kernel)
  have hplayed : Reaches {} (events.take 4) _ _ := hvain.next (by decide +kernel)
  have hlifted : Reaches {} (events.take 5) _ _ := hplayed.next (by decide +kernel)
  have hmeanwhile : Reaches {} (events.take 6) _ _ := hlifted.next (by decide +kernel)
  have hresumed : Reaches {} (events.take 7) _ _ := hmeanwhile.next (by decide +kernel)
  have hpending : Reaches {} events _ _ := hresumed.next (by decide +kernel)
  refine ⟨_, _, hpending, reached_fields_agree hpending, ?_⟩
  decide +kernel

end Runs

end Patchbay.Runner
