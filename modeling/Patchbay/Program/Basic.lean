import Patchbay.Group

namespace Patchbay.Program

def statementMark : String := "$: "

def defaultTempo : String := "30"

/-- The call that sets the tempo; a blank tempo counts as the default one. -/
def tempoStatement (tempo : String) : String :=
  let trimmed := Text.trim tempo
  "setcpm(" ++ (if trimmed.isEmpty then defaultTempo else trimmed) ++ ")"

def pattern (nodes : List Node) (store : Store) (ids : List String) : String :=
  ids.foldl
    (fun chain id =>
      match lastNode? nodes id with
      | some node => applyType node.typeId (store.liveRecord id) chain
      | none => chain)
    ""

def statement? (nodes : List Node) (store : Store) (group : Group) : Option String :=
  let text := pattern nodes store group.nodeIds
  if Text.allBlank text.toList then none else some (statementMark ++ text)

def statements (nodes : List Node) (edges : List Edge) (store : Store) : List String :=
  (Group.all nodes edges store).filterMap (statement? nodes store)

/-- The program of a graph: the tempo and a line for each statement. Nothing to play makes the
empty program, without a tempo. -/
def compile (nodes : List Node) (edges : List Edge) (store : Store) (tempo : String) : String :=
  match statements nodes edges store with
  | [] => ""
  | lines => tempoStatement tempo ++ "\n" ++ "\n".intercalate lines

end Patchbay.Program
