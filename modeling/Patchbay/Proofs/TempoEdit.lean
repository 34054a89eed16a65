import Patchbay.Proofs.EngineInStep
import Patchbay.Proofs.RunnerDebounce
import Patchbay.Proofs.TempoLine

namespace Patchbay

open Program

namespace Runner

variable {runner : Runner} {program other : String}

def RemembersTempo (runner : Runner) (program : String) : Prop :=
  ∀ last, runner.lastEvaluated = some last →
    runner.lastTempo = lastTempo? program ∧ scaleCalls last = scaleCalls (comparisonForm program)

theorem remembersTempo_evaluate (hworking : runner.engine.failure = none)
    (hsounds : SoundsLike program other) : (runner.evaluate program).1.RemembersTempo other := by
  rw [evaluate_of_working hworking]
  intro last hlast
  obtain rfl := Option.some.inj hlast
  exact ⟨hsounds.2, congrArg scaleCalls hsounds.1⟩

theorem heard_evaluate (runner : Runner) (hworking : runner.engine.failure = none)
    (program : String) :
    (runner.evaluate program).2 = .evaluated ∧
      (runner.evaluate program).1.engine.calls = runner.engine.calls ++ [.evaluate program] := by
  rw [evaluate, hworking]
  exact ⟨rfl, runner.engine.calls_evaluate program⟩

theorem RemembersTempo.schedule (h : runner.RemembersTempo program)
    (hworking : runner.engine.failure = none) :
    (runner.schedule program).1.RemembersTempo program := by
  unfold Runner.schedule
  dsimp only
  split
  · exact h
  · exact remembersTempo_evaluate hworking ⟨rfl, rfl⟩

theorem remembersTempo_submit (hworking : runner.engine.failure = none)
    (hactive : runner.halted = false)
    (program : String) : (runner.submit program).1.RemembersTempo program := by
  by_cases hform : comparisonForm program = ""
  · intro last hlast
    have hcase := runner.submitted program
    generalize runner.submit program = result at hcase hlast
    cases hcase with
    | halted hhalted => cases hactive.symm.trans hhalted
    | hushed | forgotten => cases hlast
    | same _ hne | evaluated _ _ hne | scheduled _ _ hne => exact absurd hform hne
  · obtain hnone | ⟨last, hlast⟩ := Option.eq_none_or_eq_some runner.lastEvaluated
    · rw [submit_of_none hactive hform hnone]
      refine RemembersTempo.schedule (fun last hlast => ?_) hworking
      cases hnone.symm.trans hlast
    · rw [submit_of_last hactive hform hlast]
      split
      · next hsame =>
        intro other hother
        obtain rfl := Option.some.inj (hlast.symm.trans hother)
        exact ⟨hsame.2.symm, congrArg scaleCalls hsame.1⟩
      · split
        · exact remembersTempo_evaluate hworking ⟨rfl, rfl⟩
        · next hkept =>
          obtain ⟨htempo, hscales⟩ := not_or.mp hkept
          refine RemembersTempo.schedule (fun other hother => ?_) hworking
          obtain rfl := Option.some.inj (hlast.symm.trans hother)
          exact ⟨(not_not.mp htempo).symm, (not_not.mp hscales).symm⟩

theorem heard_submit_iff {last : String} (hworking : runner.engine.failure = none)
    (hactive : runner.halted = false) (hform : comparisonForm program ≠ "")
    (hlast : runner.lastEvaluated = some last) :
    ((runner.submit program).2 = .evaluated ∧
        (runner.submit program).1.engine.calls = runner.engine.calls ++ [.evaluate program]) ↔
      lastTempo? program ≠ runner.lastTempo ∨
        scaleCalls (comparisonForm program) ≠ scaleCalls last ∨
        (runner.timed = false ∧ comparisonForm program ≠ last) := by
  rw [submit_of_last hactive hform hlast]
  by_cases hsame : last = comparisonForm program ∧ lastTempo? program = runner.lastTempo
  · rw [if_pos hsame, ← hsame.1, hsame.2]
    simp
  · rw [if_neg hsame]
    by_cases hnow : lastTempo? program ≠ runner.lastTempo ∨
        scaleCalls (comparisonForm program) ≠ scaleCalls last
    · rw [if_pos hnow, ← or_assoc]
      have hheard :=
        heard_evaluate { runner with latest := some program, pending := none } hworking program
      exact iff_of_true hheard (.inl hnow)
    · obtain ⟨htempo, hscales⟩ := not_or.mp hnow
      have hdiffers : comparisonForm program ≠ last :=
        fun heq => hsame ⟨heq.symm, not_not.mp htempo⟩
      rw [if_neg hnow, schedule]
      cases htimed : runner.timed with
      | true =>
        refine iff_of_false (fun hheard => ?_) ?_
        · cases hheard.1
        · rintro (hne | hne | ⟨huntimed, _⟩)
          · exact htempo hne
          · exact hscales hne
          · cases huntimed
      | false =>
        have hheard := heard_evaluate
          { runner with
            latest := some program, pending := none, generation := runner.generation + 1 }
          hworking program
        exact iff_of_true (by simpa [htimed] using hheard) (.inr (.inr ⟨rfl, hdiffers⟩))

theorem remembersTempo_resume (hworking : runner.engine.failure = none) (program : String) :
    (runner.resume (some program)).1.RemembersTempo program := by
  have hcase := runner.resumed (some program)
  generalize runner.resume (some program) = result at hcase ⊢
  cases hcase with
  | nothing hnone => cases hnone
  | forgotten => exact nofun
  | evaluated other hsome _ =>
    obtain rfl := Option.some.inj hsome
    exact remembersTempo_evaluate hworking ⟨rfl, rfl⟩

theorem RemembersTempo.sleep (h : runner.RemembersTempo program) (hfollows : runner.Follows program)
    (milliseconds : Nat) : (runner.sleep milliseconds).RemembersTempo program := by
  have hcase := runner.slept milliseconds
  generalize runner.sleep milliseconds = next at hcase ⊢
  cases hcase with
  | untimed => exact h
  | waited => exact h
  | fired timer _ hpending _ =>
    exact remembersTempo_evaluate hfollows.working (hfollows.waiting timer hpending).2.2.1

end Runner

namespace Session

variable {session : Session} {setup : RunnerSettings × Bool}

def RemembersTempo (session : Session) : Prop :=
  session.isPausedAll = false → session.runner.RemembersTempo session.compile

theorem RemembersTempo.act (h : session.RemembersTempo) (hattuned : session.Attuned setup)
    (action : Action) : (session.act action).RemembersTempo := by
  have hcase := session.requests_act action
  generalize session.act action = next at hcase ⊢
  intro hactive
  cases hcase with
  | nothing hrunner hsame hcompile =>
    rw [hrunner, hcompile]
    exact h (hsame.symm.trans hactive)
  | submit hrunner hsame =>
    have hfollows := hattuned.playing (hsame.symm.trans hactive)
    rw [hrunner]
    exact Runner.remembersTempo_submit hfollows.working hfollows.active next.compile
  | stop _ hpaused => cases hpaused.symm.trans hactive
  | resume hrunner hpaused _ =>
    rw [hrunner]
    exact Runner.remembersTempo_resume (hattuned.paused hpaused).working next.compile
  | sleep milliseconds hrunner hsame hcompile =>
    have hplaying := hsame.symm.trans hactive
    rw [hrunner, hcompile]
    exact (h hplaying).sleep (hattuned.playing hplaying) milliseconds

theorem RemembersTempo.run (h : session.RemembersTempo) (hattuned : session.Attuned setup)
    (actions : List Action) : (session.run actions).RemembersTempo := by
  induction actions generalizing session with
  | nil => exact h
  | cons action rest ih => exact ih (h.act hattuned action) (hattuned.act action)

/-- The tempo edit is heard at once, as one evaluation of the edited program. -/
def HearsTempo (session : Session) (cpm : String) : Prop :=
  (session.setCpm cpm).2 = .evaluated ∧
    (session.setCpm cpm).1.runner.engine.calls =
      session.runner.engine.calls ++ [.evaluate (session.setCpm cpm).1.compile]

theorem Attuned.playing_of_active (h : session.Attuned setup)
    (hactive : session.runner.halted = false) :
    session.isPausedAll = false := by
  cases hpaused : session.isPausedAll with
  | false => rfl
  | true => cases hactive.symm.trans (h.paused hpaused).stopped

theorem Attuned.statements_ne_nil (h : session.Attuned setup)
    (hplaying : session.isPausedAll = false)
    (hrunning : session.runner.status = .running) :
    Program.statements session.nodes session.edges session.store ≠ [] := by
  intro hnone
  have hempty : session.compile = "" := (compile_eq_empty_iff _ _ _ _).mpr hnone
  have hform : comparisonForm session.compile = "" := by rw [hempty, comparisonForm_empty]
  have hfollows := h.playing hplaying
  have hidle : session.runner.pending = none := by
    cases hpending : session.runner.pending with
    | none => rfl
    | some timer => exact absurd hform (hfollows.waiting timer hpending).2.2.2
  have hsilent := (hfollows.arrived hidle).silent hform
  rw [hfollows.status, hsilent] at hrunning
  cases hrunning

theorem Attuned.lastEvaluated_untimed (h : session.Attuned setup)
    (hplaying : session.isPausedAll = false)
    (huntimed : setup.2 = false) {last : String}
    (hlast : session.runner.lastEvaluated = some last) :
    last = comparisonForm session.compile := by
  have hfollows := h.playing hplaying
  have hidle : session.runner.pending = none := by
    cases hpending : session.runner.pending with
    | none => rfl
    | some timer =>
      have htimed : setup.2 = true := h.setup ▸ (h.pending hpending).1
      cases huntimed.symm.trans htimed
  have hplays := hfollows.arrived hidle
  rw [hfollows.form] at hlast
  obtain ⟨playing, hplaying, rfl⟩ := Option.map_eq_some_iff.mp hlast
  by_cases hform : comparisonForm session.compile = ""
  · cases (hplays.silent hform).symm.trans hplaying
  · obtain ⟨other, hother, hsounds⟩ := hplays.playing hform
    obtain rfl := Option.some.inj (hplaying.symm.trans hother)
    exact hsounds.1

theorem hearsTempo_iff (hattuned : session.Attuned setup) (hremembers : session.RemembersTempo)
    (hrunning : session.runner.status = .running) (hactive : session.runner.halted = false)
    (cpm : String) :
    session.HearsTempo cpm ↔
      lastTempo? (session.setCpm cpm).1.compile ≠ lastTempo? session.compile ∨
        scaleCalls (comparisonForm (session.setCpm cpm).1.compile) ≠
          scaleCalls (comparisonForm session.compile) ∨
        (setup.2 = false ∧
          comparisonForm (session.setCpm cpm).1.compile ≠ comparisonForm session.compile) := by
  have hplaying := hattuned.playing_of_active hactive
  have hfollows := hattuned.playing hplaying
  obtain ⟨playing, hinForce⟩ := Option.isSome_iff_exists.mp (hfollows.status.mp hrunning)
  have hlast : session.runner.lastEvaluated = some (comparisonForm playing) := by
    rw [hfollows.form, hinForce]
    rfl
  obtain ⟨htempo, hscales⟩ := hremembers hplaying _ hlast
  have hform : comparisonForm (session.setCpm cpm).1.compile ≠ "" := by
    rw [compile, Ne, comparisonForm_compile, compile_eq_empty_iff]
    exact hattuned.statements_ne_nil hplaying hrunning
  have htimed : session.runner.timed = setup.2 := congrArg Prod.snd hattuned.setup
  have hheard := Runner.heard_submit_iff hfollows.working hactive hform hlast
  refine Iff.trans hheard (or_congr (by rw [htempo]) (or_congr (by rw [hscales]) ?_))
  rw [htimed]
  refine and_congr_right fun huntimed => ?_
  rw [hattuned.lastEvaluated_untimed hplaying huntimed hlast]

theorem remembersTempo_withSettings (runner : Runner) (settings : Settings)
    (hfresh : runner.lastEvaluated = none) : (withSettings runner settings).RemembersTempo :=
  fun _ _ hlast => nomatch hfresh.symm.trans hlast

/-- Whatever was done to a session whose runner is running, a tempo edit is heard at once exactly if
it changes the last tempo call of the program, or a scale, or, without timers, anything else that is
compared. Between tempos that are closed, that is exactly if no statement contains a tempo call of
its own. -/
theorem tempo_edit_heard_iff (runnerSettings : RunnerSettings) (timed : Bool) (settings : Settings)
    (actions : List Action) (cpm : String) :
    let session := (withSettings { settings := runnerSettings, timed } settings).run actions
    let edited := (session.setCpm cpm).1
    session.runner.status = .running → session.runner.halted = false →
    tempoStatement cpm ≠ tempoStatement session.cpm →
    (session.HearsTempo cpm ↔
      lastTempo? edited.compile ≠ lastTempo? session.compile ∨
        scaleCalls (comparisonForm edited.compile) ≠ scaleCalls (comparisonForm session.compile) ∨
        (timed = false ∧ comparisonForm edited.compile ≠ comparisonForm session.compile)) ∧
    (ClosedTempo cpm → ClosedTempo session.cpm →
      (session.HearsTempo cpm ↔
        ∀ line ∈ Program.statements session.nodes session.edges session.store,
          ¬ tempoOpening <:+: line.toList)) := by
  intro session edited hrunning hactive htempo
  have hattuned := (attuned_withSettings runnerSettings timed settings).run actions
  have hremembers : session.RemembersTempo :=
    (remembersTempo_withSettings _ settings rfl).run (attuned_withSettings _ _ _) actions
  have hheard := hearsTempo_iff hattuned hremembers hrunning hactive cpm
  refine ⟨hheard, fun hclosed hclosed' => ?_⟩
  have hsome := hattuned.statements_ne_nil (hattuned.playing_of_active hactive) hrunning
  have hedited : edited.compile = Program.compile session.nodes session.edges session.store cpm :=
    compile_trim _ _ _ cpm
  have hform : comparisonForm edited.compile = comparisonForm session.compile := by
    rw [hedited]
    exact comparisonForm_compile_congr hclosed hclosed'
  have hlast := lastTempo?_compile_ne_iff hclosed hclosed' hsome htempo
  rw [← hedited] at hlast
  refine hheard.trans (Iff.trans ⟨fun hdiffers => ?_, .inl⟩ hlast)
  rcases hdiffers with hlast | hscales | ⟨_, hothers⟩
  · exact hlast
  · exact absurd (congrArg scaleCalls hform) hscales
  · exact absurd hform hothers

def codeNode (code : String) : List Action :=
  [.insertNode { id := "a", typeId := "custom" },
    .updateNodeConfig "a" (.ofList [("code", .string code)])]

theorem plain_code_hears_tempo :
    let session := (withSettings { timed := false } {}).run (codeNode "s(\"bd\")")
    session.runner.status = .running ∧ session.runner.halted = false ∧
      tempoStatement "45" ≠ tempoStatement session.cpm ∧ session.HearsTempo "45" := by
  intro session
  have hrunning : session.runner.status = .running := by decide +kernel
  have hactive : session.runner.halted = false := by decide +kernel
  have htempo : tempoStatement "45" ≠ tempoStatement session.cpm := by decide +kernel
  refine ⟨hrunning, hactive, htempo, ?_⟩
  have hheard :=
    (tempo_edit_heard_iff {} false {} (codeNode "s(\"bd\")") "45" hrunning hactive htempo).2
  refine (hheard ⟨by decide +kernel, by decide +kernel⟩
    ⟨by decide +kernel, by decide +kernel⟩).mpr ?_
  decide +kernel

/-- A tempo call in a comment of the code stands in for the one that was edited. -/
theorem commented_tempo_hides_edit :
    let session := (withSettings { timed := false } {}).run (codeNode "s(\"bd\")\n// setcpm(60)")
    session.runner.status = .running ∧ session.runner.halted = false ∧
      tempoStatement "45" ≠ tempoStatement session.cpm ∧ (session.setCpm "45").2 = .unchanged ∧
      ¬ session.HearsTempo "45" := by
  intro session
  have hunchanged : (session.setCpm "45").2 = .unchanged := by decide +kernel
  refine ⟨by decide +kernel, by decide +kernel, by decide +kernel, hunchanged, fun hheard => ?_⟩
  cases hunchanged.symm.trans hheard.1

end Session

end Patchbay
