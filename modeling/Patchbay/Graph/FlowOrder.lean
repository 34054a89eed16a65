import Patchbay.Graph.Basic

namespace Patchbay

def successors (edges : List Edge) (id : String) : List String :=
  ((edges.filter fun edge => edge.source == id).map (·.target)).eraseDups

inductive FlowTask where
  | visit (id : String)
  | finish (id : String)

/-- Depth-first search with an explicit stack. A node is put in front of the order once all
that it feeds is done; of the nodes it feeds the last is visited first. -/
def flowRounds (edges : List Edge) :
    (rounds : Nat) → List FlowTask → (seen order : List String) → List String
  | 0, _, _, order => order
  | _ + 1, [], _, order => order
  | rounds + 1, .visit id :: tasks, seen, order =>
      if seen.contains id then flowRounds edges rounds tasks seen order
      else
        let fed := (successors edges id).reverse.map FlowTask.visit
        flowRounds edges rounds (fed ++ .finish id :: tasks) (id :: seen) order
  | rounds + 1, .finish id :: tasks, seen, order =>
      flowRounds edges rounds tasks seen (id :: order)

/-- The nodes of a component in the order in which the search leaves them, last one first. A
node is finished once and visited once for itself and for each edge into it. -/
def depthFirstOrder (edges : List Edge) (component : List String) : List String :=
  flowRounds edges (2 * component.length + edges.length) (component.map FlowTask.visit) [] []

def flowsForward (edges : List Edge) (order : List String) : Bool :=
  edges.all fun edge =>
    !order.contains edge.source || !order.contains edge.target
      || order.idxOf edge.source < order.idxOf edge.target

/-- Signal-flow order of a component: each node before the nodes it feeds. On a cycle there is
no such order and the component stays as it is. -/
def flowOrder (edges : List Edge) (component : List String) : List String :=
  let order := depthFirstOrder edges component
  if flowsForward edges order then order else component

end Patchbay
