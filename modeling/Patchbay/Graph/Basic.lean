import Patchbay.Json.Basic

namespace Patchbay

inductive RunState where
  | running
  | paused
deriving DecidableEq

structure Position where
  x : Binary64 := .zero false
  y : Binary64 := .zero false
deriving DecidableEq

/-- The editor's side of a node. It is kept for restoring and never compiled. -/
structure NodeData where
  state : Option RunState := none
  values : Record := ∅
deriving DecidableEq

structure Node where
  id : String
  typeId : String
  data : NodeData := {}
  position : Position := {}
deriving DecidableEq

namespace Node

def isRunning (node : Node) : Bool :=
  node.data.state == some .running

def setState (node : Node) (state : RunState) : Node :=
  { node with data := { node.data with state := some state } }

end Node

/-- A cable between two nodes. Signal flows from source to target; for grouping the direction
does not count. -/
structure Edge where
  id : String
  source : String
  target : String
deriving DecidableEq

namespace Edge

def touches (edge : Edge) (id : String) : Bool :=
  edge.source == id || edge.target == id

def joins (edge : Edge) (a b : String) : Bool :=
  (edge.source == a && edge.target == b) || (edge.source == b && edge.target == a)

def otherEnd? (edge : Edge) (id : String) : Option String :=
  if edge.source = id then some edge.target
  else if edge.target = id then some edge.source
  else none

end Edge

/-- The node of an id; of several the last in the list. -/
def lastNode? (nodes : List Node) (id : String) : Option Node :=
  nodes.reverse.find? fun node => node.id == id

end Patchbay
