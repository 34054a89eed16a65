import Patchbay.Catalog
import Patchbay.CommandLine.Arguments
import Patchbay.Project
import Patchbay.Settings.File

namespace Patchbay

structure Files where
  /-- What is found where the settings are kept, if there is such a place. -/
  settings : Option FileEntry
  /-- What is found at the path of the project that the command names. -/
  project : FileEntry

structure Report where
  output : String := ""
  settingsText : Option String := none
deriving DecidableEq

inductive CommandError where
  | project (path : String) (error : ProjectError)
  | page (error : UrlError)
  | notShared
  | settings (error : SettingsError)
  | noSettingsPlace
deriving DecidableEq

namespace CommandError

def message (configDirectory : String) : CommandError → String
  | project path error => error.message path
  | page error => Link.errorMessage error
  | notShared => "Could not decode shared state"
  | settings error =>
    error.message (Settings.path configDirectory) (Settings.directory configDirectory)
  | noSettingsPlace => "Could not resolve config directory"

end CommandError

namespace Files

/-- The user's settings. A file that does not read gives the default ones. -/
def userSettings (files : Files) : Settings :=
  match files.settings.map Settings.load with
  | some (.ok settings) => settings
  | _ => {}

def openProject (files : Files) (path : String) : Except CommandError Session :=
  match Project.load files.project with
  | .ok state => .ok (Project.openSession state files.userSettings)
  | .error error => .error (.project path error)

end Files

namespace Command

def line (text : String) : String :=
  text ++ "\n"

def lines (texts : List String) : String :=
  String.join (texts.map line)

def padded (width : Nat) (text : String) : String :=
  text ++ String.ofList (List.replicate (width - text.length) ' ')

def nodeTypeLine (nodeType : NodeType) : String :=
  padded 14 nodeType.id ++ " " ++ padded 12 nodeType.category ++ " " ++ nodeType.description

/-- An empty program prints nothing. -/
def programOutput (program : String) : String :=
  if program.isEmpty then "" else line program

def playOutput (playback : Project.Playback) : String :=
  playback.printed ++ lines playback.report

def runShare (deflate : Deflate.Packer) (files : Files) (project : String) (page : Option String) :
    Except CommandError Report :=
  match files.openProject project with
  | .error error => .error error
  | .ok session =>
      match Project.share deflate session page with
      | .ok link => .ok { output := line link }
      | .error error => .error (.page error)

def runOpen (files : Files) (text : String) : Except CommandError Report :=
  match Link.decode text files.userSettings.shareParam with
  | .ok state => .ok { output := line state.indentedText }
  | .error _ => .error .notShared

def runChange (files : Files) (key value : String) : Except CommandError Report :=
  match files.settings with
  | none => .error .noSettingsPlace
  | some entry =>
      match Settings.update entry key value with
      | .ok text => .ok { settingsText := some text }
      | .error error => .error (.settings error)

def run (deflate : Deflate.Packer) (files : Files) : Command → Except CommandError Report
  | compile project =>
      (files.openProject project).map fun session => { output := programOutput session.compile }
  | groups project =>
      (files.openProject project).map fun session =>
        { output := lines (Project.groupLines session) }
  | share project page => runShare deflate files project page
  | openShared text => runOpen files text
  | play project =>
      (files.openProject project).map fun session => { output := playOutput (Project.play session) }
  | showSettings => .ok { output := line files.userSettings.toJson.indented }
  | changeSetting key value => runChange files key value
  | nodeTypes => .ok { output := lines (Catalog.all.map nodeTypeLine) }

end Command

end Patchbay
