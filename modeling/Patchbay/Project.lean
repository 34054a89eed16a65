import Patchbay.FileEntry
import Patchbay.Session.Link

namespace Patchbay

inductive ProjectError where
  | unreadable
  | malformed
deriving DecidableEq

namespace ProjectError

def message (path : String) : ProjectError → String
  | unreadable => "Failed to read project " ++ path
  | malformed => "Failed to parse project " ++ path

end ProjectError

namespace Outcome

def word : Outcome → String
  | unchanged => "Unchanged"
  | halted => "Halted"
  | scheduled => "Scheduled"
  | evaluated => "Evaluated"
  | suppressed _ => "Suppressed"
  | failed _ => "Failed"
  | stopped => "Stopped"

end Outcome

namespace RunnerStatus

def word : RunnerStatus → String
  | idle => "Idle"
  | running => "Running"

end RunnerStatus

namespace EngineCall

def text : EngineCall → String
  | evaluate program => "--- evaluate ---\n" ++ program ++ "\n"
  | hush => "--- hush ---\n"

end EngineCall

namespace Project

def load (entry : FileEntry) : Except ProjectError State :=
  match entry.text? with
  | none => .error .unreadable
  | some text =>
      match State.ofBytes? (Utf8.ofString text) with
      | some state => .ok state
      | none => .error .malformed

def openSession (state : State) (settings : Settings) : Session :=
  Session.ofState state { settings := settings.runnerSettings } settings

def groupLine (store : Store) (group : Group) : String :=
  group.groupId ++ (if store.isGroupPaused group.groupId then " (paused)" else "") ++ ": "
    ++ ", ".intercalate group.nodeIds

/-- A line for each group, and one for each paused group that the graph does not have. -/
def groupLines (session : Session) : List String :=
  let groups := session.groups
  let silent := session.store.pausedGroupIds.filter fun id => !groups.any (·.groupId == id)
  groups.map (groupLine session.store) ++ silent.map (· ++ " (paused, silent)")

def share (deflate : Deflate.Packer) (session : Session) (page : Option String) :
    Except UrlError String :=
  match page with
  | some page => session.shareLink deflate page
  | none => .ok (session.payload deflate)

structure Playback where
  printed : String
  report : List String
deriving DecidableEq

/-- The time left to a program to reach the engine, in milliseconds. -/
def settleTime (session : Session) : Nat :=
  session.runner.settings.debounce + 10

/-- Hand the program to the runner twice, the second time after it has reached the engine. -/
def play (session : Session) : Playback :=
  let (session, first) := session.refresh
  let (session, second) := (session.sleep (settleTime session)).refresh
  let session := session.sleep (settleTime session)
  { printed := String.join (session.runner.engine.calls.map EngineCall.text)
    report :=
      ["first submit: " ++ first.word, "second submit: " ++ second.word,
        "runner status: " ++ session.runner.status.word] }

end Project

end Patchbay
