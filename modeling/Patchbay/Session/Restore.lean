import Patchbay.Session.Basic

namespace Patchbay.Session

def snapshot (session : Session) : State :=
  { nodes := session.nodes
    edges := session.edges
    config := session.store
    theme := session.theme
    colorMode := session.colorMode
    cpm := some session.cpm }

/-- Put a saved record of a paused group back: a muted node's record is parked again, any other
goes live. A record without a node is dropped. -/
def replayRecord (session : Session) (groupId : String) (entry : String × Record) : Session :=
  if !session.hasNode entry.1 then session
  else if session.store.isMuted entry.1 then
    { session with store := session.store.holdInPausedGroup groupId entry.1 entry.2 }
  else { session with store := session.store.updateNode entry.1 entry.2 }

/-- Replay a saved paused group, then pause the group that its first node belongs to now, under
that group's id. -/
def replayGroup (session : Session) (saved : String × Table Record) : Session :=
  let replayed :=
    saved.2.entries.foldl (fun session entry => session.replayRecord saved.1 entry) session
  let first := saved.2.keys.find? session.hasNode
  match first.bind replayed.groupOf? with
  | none => replayed
  | some group =>
      let rekeyed := replayed.store.rekeyPausedGroup saved.1 group.groupId
      let store := (rekeyed.pauseGroup? group.groupId group.nodeIds).getD rekeyed
      { replayed with store }

/-- A session that holds a kept state. The graph and the live and muted records are installed
first; the paused groups are replayed one by one, in the order of their ids. A blank tempo counts
as none. -/
def ofState (state : State) (runner : Runner) (settings : Settings) : Session :=
  let blank := withSettings runner settings
  let cpm := state.cpm.filter fun cpm => !Text.allBlank cpm.toList
  let installed :=
    { blank with
      nodes := state.nodes
      edges := state.edges
      store := { state.config with paused := ∅ }
      theme := state.theme
      colorMode := state.colorMode
      cpm := cpm.getD blank.cpm }
  state.config.paused.entries.foldl replayGroup installed

def starterSound : Record :=
  .ofList [("sound", .string "bd sd [~ bd] sd")]

def starterGain : Record :=
  .ofList [("gain", .number (.float ((Binary64.ofRatio? false 4 5).getD default)))]

def starterGraph (runner : Runner) (settings : Settings) : Session :=
  let drums : Node :=
    { id := "drums", typeId := "drum_sounds"
      data := { state := some .running, values := starterSound } }
  let gain : Node :=
    { id := "gain", typeId := "gain", data := { state := some .running, values := starterGain }
      position := { x := (Binary64.ofNat? 240).getD default } }
  { withSettings runner settings with
    nodes := [drums, gain]
    edges := [⟨"drums->gain", "drums", "gain"⟩]
    store := (({} : Store).updateNode "drums" starterSound).updateNode "gain" starterGain }

end Patchbay.Session
