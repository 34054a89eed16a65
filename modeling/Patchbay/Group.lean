import Patchbay.Graph.Connected
import Patchbay.Graph.FlowOrder
import Patchbay.Store
import Patchbay.Transform.Basic

namespace Patchbay

structure Group where
  groupId : String
  nodeIds : List String
deriving DecidableEq

namespace Group

def contains (group : Group) (id : String) : Bool :=
  group.nodeIds.contains id

def insertSorted (id : String) : List String → List String
  | [] => [id]
  | head :: rest => if id ≤ head then id :: head :: rest else head :: insertSorted id rest

def sorted (ids : List String) : List String :=
  ids.foldr insertSorted []

def idOf (ids : List String) : String :=
  "-".intercalate (sorted ids)

/-- Whether a node belongs to its group: its record is live or parked, or its type makes
sound. An id without a node never does. -/
def isMember (nodes : List Node) (store : Store) (id : String) : Bool :=
  match lastNode? nodes id with
  | none => false
  | some node =>
      store.hasContribution id || store.hasSavedContribution id || hasTransform node.typeId

/-- Members are picked after the component is complete, so a node that is no member still
joins its neighbours. -/
def membersOf (nodes : List Node) (edges : List Edge) (store : Store) (component : List String) :
    List String :=
  (flowOrder edges component).filter (isMember nodes store)

def components (edges : List Edge) (ids visited : List String) : List (List String) :=
  match ids with
  | [] => []
  | id :: rest =>
      if visited.contains id then components edges rest visited
      else
        let component := connectedIds edges id
        component :: components edges rest (visited ++ component)

/-- The groups of a graph, in node order. A component without a member forms none. -/
def all (nodes : List Node) (edges : List Edge) (store : Store) : List Group :=
  (components edges (nodes.map (·.id)) []).filterMap fun component =>
    let ids := membersOf nodes edges store component
    if ids.isEmpty then none else some ⟨idOf ids, ids⟩

end Group

end Patchbay
