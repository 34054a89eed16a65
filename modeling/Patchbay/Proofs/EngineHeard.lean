import Patchbay.Engine
import Mathlib.Data.List.Basic

namespace Patchbay

def EngineCall.program? : EngineCall → Option String
  | .evaluate program => some program
  | .hush => none

/-- What plays after some calls were heard: the program of the last one, unless that is a hush. -/
def playingAfter (playing : Option String) (calls : List EngineCall) : Option String :=
  calls.foldl (fun _ call => call.program?) playing

theorem playingAfter_append (playing : Option String) (calls later : List EngineCall) :
    playingAfter playing (calls ++ later) = playingAfter (playingAfter playing calls) later :=
  List.foldl_append

namespace Engine

/-- What is heard of the calls that lead from one state of an engine to a later one: every hush, and
the evaluations unless they fail. -/
def heardUntil (engine later : Engine) : List EngineCall :=
  (later.calls.drop engine.calls.length).filter fun call => call = .hush || engine.failure.isNone

variable {engine later : Engine}

theorem heardUntil_of_log_eq (h : later.log = engine.log) : engine.heardUntil later = [] := by
  rw [heardUntil, calls, calls, h, List.drop_length, List.filter_nil]

theorem calls_evaluate (engine : Engine) (program : String) :
    (engine.evaluate program).calls = engine.calls ++ [.evaluate program] :=
  List.reverse_cons

theorem calls_hush (engine : Engine) : engine.hush.calls = engine.calls ++ [.hush] :=
  List.reverse_cons

theorem heardUntil_evaluate (h : engine.failure = none) (program : String) :
    engine.heardUntil (engine.evaluate program) = [.evaluate program] := by
  rw [heardUntil, calls_evaluate, List.drop_left, h]
  rfl

theorem heardUntil_evaluate_of_failure {message : String} (h : engine.failure = some message)
    (program : String) : engine.heardUntil (engine.evaluate program) = [] := by
  rw [heardUntil, calls_evaluate, List.drop_left, h]
  rfl

theorem heardUntil_hush (engine : Engine) : engine.heardUntil engine.hush = [.hush] := by
  rw [heardUntil, calls_hush, List.drop_left]
  rfl

end Engine

/-- A step of a run in which the engine may fail: an action, or a change of how evaluations end. -/
inductive Step (α : Type) where
  | act (action : α)
  | failWith (message : Option String)

section Run

variable {σ α : Type} (engine : σ → Engine) (step : σ → α → σ)

def heardAlong (engine : σ → Engine) (step : σ → α → σ) : σ → List α → List EngineCall
  | _, [] => []
  | state, next :: rest =>
      (engine state).heardUntil (engine (step state next)) ++
        heardAlong engine step (step state next) rest

theorem heardAlong_append (state : σ) (before after : List α) :
    heardAlong engine step state (before ++ after) =
      heardAlong engine step state before ++
        heardAlong engine step (before.foldl step state) after := by
  induction before generalizing state with
  | nil => rfl
  | cons next rest ih =>
    rw [List.cons_append, heardAlong, heardAlong, ih, List.append_assoc, List.foldl_cons]

/-- What each step keeps, together with what plays, a run keeps. -/
theorem foldl_keeps {Keeps : σ → Option String → Prop}
    (hstep : ∀ state playing next, Keeps state playing →
      Keeps (step state next)
        (playingAfter playing ((engine state).heardUntil (engine (step state next)))))
    {state : σ} {playing : Option String} (h : Keeps state playing) (steps : List α) :
    Keeps (steps.foldl step state) (playingAfter playing (heardAlong engine step state steps)) := by
  induction steps generalizing state playing with
  | nil => exact h
  | cons next rest ih =>
    rw [List.foldl_cons, heardAlong, playingAfter_append]
    exact ih (hstep state playing next h)

end Run

end Patchbay
