import Patchbay.Graph.Basic

namespace Patchbay

/-- The nodes next to a node, in edge order and perhaps repeatedly. -/
def neighbours (edges : List Edge) (id : String) : List String :=
  edges.filterMap fun edge => edge.otherEnd? id

/-- The nodes next to a layer that have not been found, each under its first discoverer. -/
def nextLayer (edges : List Edge) (found layer : List String) : List String :=
  ((layer.flatMap (neighbours edges)).filter fun id => !found.contains id).eraseDups

def addLayers (edges : List Edge) :
    (rounds : Nat) → (found layer : List String) → List String
  | 0, found, _ => found
  | rounds + 1, found, layer =>
      let next := nextLayer edges found layer
      if next.isEmpty then found else addLayers edges rounds (found ++ next) next

/-- Every node that a path of edges joins to `start`, whatever their directions, in
breadth-first order from `start` on. Each layer but the first holds the end of an edge that no
other layer holds, so twice as many rounds as edges are enough. -/
def connectedIds (edges : List Edge) (start : String) : List String :=
  addLayers edges (2 * edges.length) [start] [start]

end Patchbay
