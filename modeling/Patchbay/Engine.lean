namespace Patchbay

inductive EngineCall where
  | evaluate (program : String)
  | hush
deriving DecidableEq

/-- The sound engine as it is seen from outside: what it has been asked so far, latest first,
and the message with which evaluations fail at present, if they do. -/
structure Engine where
  log : List EngineCall := []
  failure : Option String := none
deriving DecidableEq

namespace Engine

def calls (engine : Engine) : List EngineCall :=
  engine.log.reverse

def evaluate (engine : Engine) (program : String) : Engine :=
  { engine with log := .evaluate program :: engine.log }

def hush (engine : Engine) : Engine :=
  { engine with log := .hush :: engine.log }

def evaluations (engine : Engine) : List String :=
  engine.calls.filterMap fun call =>
    match call with
    | .evaluate program => some program
    | .hush => none

def hushCount (engine : Engine) : Nat :=
  engine.log.count .hush

end Engine

end Patchbay
