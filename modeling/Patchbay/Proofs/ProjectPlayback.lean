import Patchbay.Project
import Patchbay.Proofs.ComparisonForm
import Patchbay.Proofs.RunnerCases
import Patchbay.Proofs.SessionRestore

namespace Patchbay

open Program

namespace Runner

def settleTime (runner : Runner) : Nat :=
  runner.settings.debounce + 10

def handTwice (runner : Runner) (program : String) : Runner × Outcome × Outcome :=
  let (once, first) := runner.submit program
  let settled := once.sleep once.settleTime
  let (twice, second) := settled.submit program
  (twice.sleep twice.settleTime, first, second)

section Fresh

variable (settings : RunnerSettings) {program : String}

theorem submit_blank (clock : Nat) (latest : Option String) (hform : comparisonForm program = "") :
    ({ settings, clock, latest } : Runner).submit program =
      ({ settings, clock, latest := some program }, .unchanged) := by
  have hcase := submitted { settings, clock, latest } program
  generalize ({ settings, clock, latest } : Runner).submit program = result at hcase ⊢
  cases hcase with
  | halted hhalted => cases hhalted
  | hushed _ _ hbusy => simp at hbusy
  | forgotten => rfl
  | same _ hne | evaluated _ _ hne | scheduled _ _ hne => exact absurd hform hne

theorem handTwice_blank (hform : comparisonForm program = "") :
    ({ settings } : Runner).handTwice program =
      ({ settings, clock := settings.debounce + 10 + (settings.debounce + 10),
         latest := some program }, .unchanged, .unchanged) := by
  have hfirst := submit_blank settings 0 none hform
  have hsecond := submit_blank settings (settings.debounce + 10) (some program) hform
  simp only [handTwice, settleTime, hfirst, sleep_of_idle, hsecond, Nat.zero_add]

def afterFirst (program : String) (clock : Nat) : Runner where
  settings := settings
  engine := Engine.evaluate {} program
  clock := clock
  status := .running
  lastEvaluated := some (comparisonForm program)
  lastTempo := lastTempo? program
  latest := some program
  generation := 1

theorem submit_first (hform : comparisonForm program ≠ "") :
    ({ settings } : Runner).submit program =
      ({ settings, latest := some program, pending := some ⟨1, settings.debounce, program⟩,
         generation := 1 }, .scheduled) := by
  rw [submit_of_none rfl hform rfl, schedule, if_pos rfl, Nat.zero_add, Nat.zero_add]

theorem sleep_scheduled (program : String) :
    ({ settings, latest := some program, pending := some ⟨1, settings.debounce, program⟩,
        generation := 1 } : Runner).sleep (settings.debounce + 10) =
      afterFirst settings program (settings.debounce + 10) := by
  rw [sleep_of_due rfl rfl (by simp only; omega), evaluate_of_working rfl, Nat.zero_add]
  rfl

theorem submit_playing (clock : Nat) (hform : comparisonForm program ≠ "") :
    (afterFirst settings program clock).submit program =
      (afterFirst settings program clock, .unchanged) := by
  rw [submit_of_last rfl hform rfl, if_pos ⟨rfl, rfl⟩]
  rfl

theorem handTwice_of_not_blank (hform : comparisonForm program ≠ "") :
    ({ settings } : Runner).handTwice program =
      (afterFirst settings program (settings.debounce + 10 + (settings.debounce + 10)),
        .scheduled, .unchanged) := by
  have hfirst := submit_first settings hform
  have hevaluated := sleep_scheduled settings program
  have hsecond := submit_playing settings (settings.debounce + 10) hform
  have hrest :
    (afterFirst settings program (settings.debounce + 10)).sleep (settings.debounce + 10) =
      afterFirst settings program (settings.debounce + 10 + (settings.debounce + 10)) :=
    sleep_of_idle rfl rfl _
  simp only [handTwice, settleTime, hfirst, hevaluated, hsecond]
  exact congrArg (·, Outcome.scheduled, Outcome.unchanged) hrest

end Fresh

end Runner

theorem Session.runner_ofState (state : State) (runner : Runner) (settings : Settings) :
    (ofState state runner settings).runner = runner := by
  unfold ofState
  obtain ⟨store, hstore⟩ :=
    exists_store_foldl exists_store_replayGroup _ state.config.paused.entries
  rw [hstore]
  rfl

namespace Project

/-- The session when its program has been handed in twice. -/
def afterPlay (session : Session) : Session :=
  let once := session.refreshed
  let settled := once.sleep (settleTime once)
  let twice := settled.refreshed
  twice.sleep (settleTime twice)

theorem runner_afterPlay (session : Session) :
    (afterPlay session).runner = (session.runner.handTwice session.compile).1 := rfl

theorem play_eq (session : Session) :
    play session =
      { printed := String.join ((afterPlay session).runner.engine.calls.map EngineCall.text)
        report :=
          ["first submit: " ++ (session.runner.handTwice session.compile).2.1.word,
            "second submit: " ++ (session.runner.handTwice session.compile).2.2.word,
            "runner status: " ++ (afterPlay session).runner.status.word] } := rfl

/-- Playing a project asks the engine for its program once, or for nothing if that is empty, and the
report tells which. No program is mistaken for an empty one. -/
theorem play_evaluates_once (state : State) (settings : Settings) :
    let session := openSession state settings
    let program := session.compile
    (afterPlay session).runner.engine.calls = (if program = "" then [] else [.evaluate program]) ∧
      play session =
        (if program = "" then
          { printed := ""
            report := ["first submit: Unchanged", "second submit: Unchanged",
              "runner status: Idle"] }
        else
          { printed := "--- evaluate ---\n" ++ program ++ "\n"
            report := ["first submit: Scheduled", "second submit: Unchanged",
              "runner status: Running"] }) ∧
      ∀ nodes edges store tempo, comparisonForm (Program.compile nodes edges store tempo) = "" ↔
        Program.compile nodes edges store tempo = "" := by
  intro session program
  have hrunner : session.runner = { settings := settings.runnerSettings } :=
    Session.runner_ofState state _ settings
  have hform : comparisonForm program = "" ↔ program = "" := comparisonForm_compile _ _ _ _
  rw [play_eq, runner_afterPlay, hrunner]
  by_cases hblank : program = ""
  · rw [Runner.handTwice_blank _ (hform.mpr hblank), if_pos hblank, if_pos hblank]
    exact ⟨rfl, rfl, comparisonForm_compile⟩
  · rw [Runner.handTwice_of_not_blank _ (hform.not.mpr hblank), if_neg hblank, if_neg hblank]
    exact ⟨rfl, rfl, comparisonForm_compile⟩

end Project

end Patchbay
