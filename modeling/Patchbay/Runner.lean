import Patchbay.Engine
import Patchbay.Program.Comparison

namespace Patchbay

structure RunnerSettings where
  /-- How long a program has to stay the latest one before it is evaluated, in milliseconds. -/
  debounce : Nat := 30
  /-- Parts of engine messages that are no real failures. -/
  benignErrors : List String :=
    ["got \"undefined\" instead of pattern", "Cannot read properties of undefined",
      "is not a function"]
deriving DecidableEq

namespace RunnerSettings

def isBenign (benignErrors : List String) (message : String) : Bool :=
  benignErrors.any fun part => !part.isEmpty && Text.contains part.toList message.toList

end RunnerSettings

inductive RunnerStatus where
  | idle
  | running
deriving DecidableEq

inductive Outcome where
  /-- It sounds like what is playing. -/
  | unchanged
  /-- The runner is stopped; the program is kept for later. -/
  | halted
  /-- It will be evaluated when the debounce has passed. -/
  | scheduled
  | evaluated
  /-- The engine failed, but benignly. -/
  | suppressed (message : String)
  | failed (message : String)
  /-- It is blank, so the engine was hushed. -/
  | stopped
deriving DecidableEq

structure Timer where
  generation : Nat
  due : Nat
  program : String
deriving DecidableEq

structure Runner where
  settings : RunnerSettings := {}
  /-- Without timers every evaluation is immediate. -/
  timed : Bool := true
  engine : Engine := {}
  clock : Nat := 0
  status : RunnerStatus := .idle
  /-- The comparison form and the tempo of the program that the engine accepted last. -/
  lastEvaluated : Option String := none
  lastTempo : Option String := none
  latest : Option String := none
  pending : Option Timer := none
  generation : Nat := 0
  halted : Bool := false
deriving DecidableEq

namespace Runner

def cancelPending (runner : Runner) : Runner :=
  { runner with pending := none }

def reset (runner : Runner) : Runner :=
  { runner with pending := none, status := .idle, lastEvaluated := none, lastTempo := none }

def hush (runner : Runner) : Runner :=
  { runner with engine := runner.engine.hush }

/-- Hand a program to the engine. A failure leaves what is known of the playing program as it
was. -/
def evaluate (runner : Runner) (program : String) : Runner × Outcome :=
  let asked := { runner with engine := runner.engine.evaluate program }
  match runner.engine.failure with
  | none =>
      ({ asked with
          status := .running
          lastEvaluated := some (Program.comparisonForm program)
          lastTempo := Program.lastTempo? program },
        .evaluated)
  | some message =>
      (asked,
        if RunnerSettings.isBenign runner.settings.benignErrors message then .suppressed message
        else .failed message)

/-- Arm the timer for a program in place of any other; without timers evaluate at once. -/
def schedule (runner : Runner) (program : String) : Runner × Outcome :=
  let generation := runner.generation + 1
  let cleared := { runner with pending := none, generation := generation }
  if runner.timed then
    ({ cleared with
      pending := some ⟨generation, runner.clock + runner.settings.debounce, program⟩ }, .scheduled)
  else cleared.evaluate program

/-- Hand in a freshly compiled program. A change of tempo or of a scale goes through at once,
any other change after the debounce, and a program that sounds like the playing one not at
all. -/
def submit (runner : Runner) (program : String) : Runner × Outcome :=
  let runner := { runner with latest := some program }
  let content := Program.comparisonForm program
  let tempo := Program.lastTempo? program
  if runner.halted then (runner, .halted)
  else if content.isEmpty then
    if runner.status = .running ∨ runner.pending.isSome then (runner.reset.hush, .stopped)
    else (runner.reset, .unchanged)
  else
    match runner.lastEvaluated with
    | none => runner.schedule program
    | some last =>
        if last = content ∧ tempo = runner.lastTempo then (runner.cancelPending, .unchanged)
        else if tempo ≠ runner.lastTempo ∨ Program.scaleCalls content ≠ Program.scaleCalls last then
          runner.cancelPending.evaluate program
        else runner.schedule program

def stop (runner : Runner) : Runner :=
  ({ runner with halted := true }.reset).hush

/-- Lift a stop and evaluate the given program, or the latest one, at once. -/
def resume (runner : Runner) (program : Option String) : Runner × Outcome :=
  let runner := { runner with halted := false }
  match program.or runner.latest with
  | none => (runner, .unchanged)
  | some program =>
      let runner := { runner with latest := some program }
      if (Program.comparisonForm program).isEmpty then (runner.reset, .unchanged)
      else runner.cancelPending.evaluate program

/-- A timer runs out. One that is no longer the pending one does nothing. -/
def fire (runner : Runner) (timer : Timer) : Runner :=
  if runner.pending.map (·.generation) = some timer.generation then
    ({ runner with pending := none }.evaluate timer.program).1
  else runner

/-- Let time pass; a timer that is due by then runs out. Without timers nothing happens. -/
def sleep (runner : Runner) (milliseconds : Nat) : Runner :=
  if runner.timed then
    let runner := { runner with clock := runner.clock + milliseconds }
    match runner.pending with
    | some timer => if timer.due ≤ runner.clock then runner.fire timer else runner
    | none => runner
  else runner

def failWith (runner : Runner) (message : Option String) : Runner :=
  { runner with engine := { runner.engine with failure := message } }

end Runner

end Patchbay
