import Patchbay.Settings.Basic

namespace Patchbay

/-- An editing session: a graph with its store, and the runner that is told of every edit that
can change the program. -/
structure Session where
  nodes : List Node := []
  edges : List Edge := []
  store : Store := {}
  cpm : String
  theme : String
  colorMode : ColorMode
  shareParam : String
  /-- The nodes that were running when everything was paused, while it is. -/
  runningBefore : Option (List String) := none
  runner : Runner
deriving DecidableEq

inductive SessionError where
  | nodeExists (id : String)
  | nodeNotFound (id : String)
deriving DecidableEq

namespace SessionError

def message : SessionError → String
  | nodeExists id => "Node '" ++ id ++ "' already exists"
  | nodeNotFound id => "Node '" ++ id ++ "' not found"

end SessionError

namespace Session

def withSettings (runner : Runner) (settings : Settings) : Session :=
  { cpm := settings.defaultCpm
    theme := settings.theme
    colorMode := settings.colorMode
    shareParam := settings.shareParam
    runner }

def node? (session : Session) (id : String) : Option Node :=
  session.nodes.find? fun node => node.id == id

def hasNode (session : Session) (id : String) : Bool :=
  (session.node? id).isSome

def isPausedAll (session : Session) : Bool :=
  session.runningBefore.isSome

def groups (session : Session) : List Group :=
  Group.all session.nodes session.edges session.store

def groupOf? (session : Session) (id : String) : Option Group :=
  session.groups.find? fun group => group.contains id

def compile (session : Session) : String :=
  Program.compile session.nodes session.edges session.store session.cpm

def refresh (session : Session) : Session × Outcome :=
  let (runner, outcome) := session.runner.submit session.compile
  ({ session with runner }, outcome)

def refreshed (session : Session) : Session :=
  session.refresh.1

def setTheme (session : Session) (theme : String) : Session :=
  { session with theme }

def setColorMode (session : Session) (colorMode : ColorMode) : Session :=
  { session with colorMode }

/-- Add a running node of a type. Its id is made of the type and a token that the caller draws
afresh. -/
def addNode (session : Session) (token typeId : String) (position : Position) : Session × String :=
  let id := typeId ++ "_" ++ token
  let node : Node := { id, typeId, position, data := { state := some .running } }
  ({ session with nodes := session.nodes ++ [node] }.refreshed, id)

def insertNode (session : Session) (node : Node) : Session × Except SessionError Unit :=
  if session.hasNode node.id then (session, .error (.nodeExists node.id))
  else ({ session with nodes := session.nodes ++ [node] }.refreshed, .ok ())

def changeFirst (id : String) (change : Node → Node) : List Node → List Node
  | [] => []
  | node :: rest =>
      if node.id = id then change node :: rest else node :: changeFirst id change rest

/-- Merge an edit into what the editor keeps for a node. The program does not depend on it. -/
def updateNodeData (session : Session) (id : String) (changes : Record) : Session × Bool :=
  if session.hasNode id then
    let change (node : Node) : Node :=
      { node with data := { node.data with values := node.data.values.merge changes } }
    ({ session with nodes := changeFirst id change session.nodes }, true)
  else (session, false)

def updateNodeConfig (session : Session) (id : String) (changes : Record) :
    Session × Except SessionError Outcome :=
  if session.hasNode id then
    let (session, outcome) := { session with store := session.store.updateNode id changes }.refresh
    (session, .ok outcome)
  else (session, .error (.nodeNotFound id))

def removeNode (session : Session) (id : String) : Session × Bool :=
  if session.hasNode id then
    let pruned : Session :=
      { session with
        nodes := session.nodes.filter fun node => node.id ≠ id
        edges := session.edges.filter fun edge => !edge.touches id
        store := session.store.removeNode id
        runningBefore := session.runningBefore.map fun ids => ids.filter (· ≠ id) }
    (pruned.refreshed, true)
  else (session, false)

/-- Join two nodes. Refused for a node with itself, for unknown nodes, and for nodes that are
joined already. The edge's id is made of a token that the caller draws afresh. -/
def connect (session : Session) (token source target : String) : Session × Option String :=
  if source = target || !session.hasNode source || !session.hasNode target
      || session.edges.any (·.joins source target) then
    (session, none)
  else
    let edge : Edge := ⟨"e_" ++ token, source, target⟩
    ({ session with edges := session.edges ++ [edge] }.refreshed, some edge.id)

def disconnect (session : Session) (edgeId : String) : Session × Bool :=
  if session.edges.any (·.id == edgeId) then
    ({ session with edges := session.edges.filter fun edge => edge.id ≠ edgeId }.refreshed, true)
  else (session, false)

def setCpm (session : Session) (cpm : String) : Session × Outcome :=
  { session with cpm := Text.trim cpm }.refresh

def setState (session : Session) (ids : List String) (state : RunState) : Session :=
  { session with
    nodes := session.nodes.map fun node =>
      if ids.contains node.id then node.setState state else node }

/-- Silence one group. Refused when there is no such group or it has nothing to pause. -/
def pauseGroup (session : Session) (groupId : String) : Session × Bool :=
  match session.groups.find? fun group => group.groupId == groupId with
  | none => (session, false)
  | some group =>
      match session.store.pauseGroup? groupId group.nodeIds with
      | none => (session, false)
      | some store =>
          (({ session with store }.setState group.nodeIds .paused).refreshed, true)

/-- Let a paused group sound again. Refused when no group is paused under the id. -/
def playGroup (session : Session) (groupId : String) : Session × Bool :=
  match session.store.pausedGroup? groupId, session.store.unpauseGroup? groupId with
  | some saved, some store =>
      let session := { session with store }
      let members :=
        match saved.keys.head?.bind session.groupOf? with
        | some group => group.nodeIds
        | none => saved.keys
      ((session.setState members .running).refreshed, true)
  | _, _ => (session, false)

def muteNode (session : Session) (id : String) : Session × Bool :=
  if session.hasNode id then
    match session.store.muteNode? id with
    | some store => ({ session with store }.refreshed, true)
    | none => (session, false)
  else (session, false)

def unmuteNode (session : Session) (id : String) : Session × Bool :=
  match session.store.unmuteNode? id with
  | some store => ({ session with store }.refreshed, true)
  | none => (session, false)

def pauseAll (session : Session) : Session × Bool :=
  if session.isPausedAll then (session, false)
  else
    let running := (session.nodes.filter Node.isRunning).map (·.id)
    let shown := session.setState running .paused
    ({ shown with runningBefore := some running, runner := shown.runner.stop }, true)

/-- End a pause of everything; only the nodes that were running then are running again. -/
def resumeAll (session : Session) : Session × Outcome :=
  match session.runningBefore with
  | none => (session, .unchanged)
  | some running =>
      let shown := { session with runningBefore := none }.setState running .running
      let (runner, outcome) := shown.runner.resume (some shown.compile)
      ({ shown with runner }, outcome)

def sleep (session : Session) (milliseconds : Nat) : Session :=
  { session with runner := session.runner.sleep milliseconds }

def failWith (session : Session) (message : Option String) : Session :=
  { session with runner := session.runner.failWith message }

end Session

end Patchbay
