import Patchbay.CommandLine.Run

namespace Patchbay.Main

def readEntry (path : String) : IO FileEntry := do
  match ← (IO.FS.readBinFile path).toBaseIO with
  | .ok content =>
      let opened ← (IO.FS.Handle.mk path .readWrite).toBaseIO
      return .file content.toList (opened matches .ok _)
  | .error _ =>
      match ← (IO.FS.realPath path).toBaseIO with
      | .ok _ => return .unreadable
      | .error (.noFileOrDirectory ..) => return .missing .free
      | .error _ => return .missing .noDirectory

def configDirectory : IO (Option String) := do
  let home := (← IO.getEnv "HOME").filter fun directory => !directory.isEmpty
  let own := (← IO.getEnv "XDG_CONFIG_HOME").filter fun directory => directory.startsWith "/"
  return own.or (home.map fun directory => directory ++ "/.config")

def readFiles (configDirectory : Option String) (command : Command) : IO Files := do
  let settings ← configDirectory.mapM fun directory => readEntry (Settings.path directory)
  let project ← match command.project? with
    | some path => readEntry path
    | none => pure (.missing .noDirectory)
  return { settings, project }

def writeSettings (configDirectory text : String) : IO (Except SettingsError Unit) := do
  let directoryMade ← (IO.FS.createDirAll (Settings.directory configDirectory)).toBaseIO
  if directoryMade matches .error _ then return .error .noDirectory
  let written ← (IO.FS.writeFile (Settings.path configDirectory) text).toBaseIO
  if written matches .error _ then return .error .unwritable
  return .ok ()

def fail (message : String) : IO UInt32 := do
  IO.eprintln message
  return 1

def deliver (configDirectory : String) (report : Report) : IO UInt32 := do
  IO.print report.output
  match report.settingsText with
  | none => return 0
  | some text =>
      match ← writeSettings configDirectory text with
      | .ok () => return 0
      | .error error => fail ((CommandError.settings error).message configDirectory)

def runCommand (deflate : Deflate.Packer) (command : Command) : IO UInt32 := do
  let place ← configDirectory
  let files ← readFiles place command
  match command.run deflate files with
  | .ok report => deliver (place.getD "") report
  | .error error => fail (error.message (place.getD ""))

def leave (detour : Detour) : IO UInt32 := do
  IO.print detour.output
  if detour = .misuse then IO.eprint Detour.helpText
  return detour.exitCode

/-- The program, with its arguments and the packer for what it shares. -/
def run (deflate : Deflate.Packer) (args : List String) : IO UInt32 :=
  match Command.parse args with
  | .ok command => runCommand deflate command
  | .error detour => leave detour

end Patchbay.Main
