namespace Patchbay

inductive Command where
  | compile (project : String)
  | groups (project : String)
  | share (project : String) (page : Option String)
  | openShared (text : String)
  | play (project : String)
  | showSettings
  | changeSetting (key value : String)
  | nodeTypes
deriving DecidableEq

/-- What arguments come to that name no command to run. -/
inductive Detour where
  | help
  | version
  | misuse
deriving DecidableEq

/-- What an argument stands for. A path is not empty. -/
inductive Operand where
  | path
  | text
deriving DecidableEq

namespace Operand

def accepts : Operand → String → Bool
  | path, arg => !arg.isEmpty
  | text, _ => true

end Operand

structure Arguments where
  operands : List String := []
  page : Option String := none
deriving DecidableEq

namespace Arguments

/-- A lone dash is an operand. -/
def isDashed (arg : String) : Bool :=
  match arg.toList with
  | '-' :: _ :: _ => true
  | _ => false

/-- Of several letters behind one dash the first decides. -/
def asksFor (letter : Char) (word arg : String) : Bool :=
  arg = "--" ++ word || ['-', letter].isPrefixOf arg.toList

def asksHelp (arg : String) : Bool :=
  asksFor 'h' "help" arg

def asksVersion (arg : String) : Bool :=
  asksFor 'V' "version" arg

def pageOption : String := "--base-url"

def attachedPage? (arg : String) : Option String :=
  let front := (pageOption ++ "=").toList
  if front.isPrefixOf arg.toList then some (String.ofList (arg.toList.drop front.length)) else none

/-- Sort out the arguments of a command from left to right; the first one that is wrong or asks for
help ends it. Behind a double dash everything is an operand. The page may be given once, where
the command takes one. -/
def sort (takesPage : Bool) :
    (plain : Bool) → (expected : List Operand) → (given : Arguments) → List String →
      Except Detour Arguments
  | _, [], given, [] => .ok given
  | _, _ :: _, _, [] => .error .misuse
  | plain, expected, given, arg :: rest =>
      if plain || !isDashed arg then
        match expected with
        | operand :: expected =>
            if operand.accepts arg then
              sort takesPage plain expected { given with operands := given.operands ++ [arg] } rest
            else .error .misuse
        | [] => .error .misuse
      else if arg = "--" then sort takesPage true expected given rest
      else if asksHelp arg then .error .help
      else if !takesPage || given.page.isSome then .error .misuse
      else
        match attachedPage? arg, rest with
        | some page, rest => sort takesPage plain expected { given with page := some page } rest
        | none, page :: rest =>
            if arg = pageOption && !isDashed page then
              sort takesPage plain expected { given with page := some page } rest
            else .error .misuse
        | none, [] => .error .misuse

end Arguments

namespace Command

def withOne (build : String → Command) (operand : Operand) (args : List String) :
    Except Detour Command :=
  match Arguments.sort false false [operand] {} args with
  | .ok ⟨[first], _⟩ => .ok (build first)
  | .ok _ => .error .misuse
  | .error detour => .error detour

def withNone (command : Command) (args : List String) : Except Detour Command :=
  (Arguments.sort false false [] {} args).map fun _ => command

def parseShare (args : List String) : Except Detour Command :=
  match Arguments.sort true false [.path] {} args with
  | .ok ⟨[project], page⟩ => .ok (share project page)
  | .ok _ => .error .misuse
  | .error detour => .error detour

def parseChange (args : List String) : Except Detour Command :=
  match Arguments.sort false false [.text, .text] {} args with
  | .ok ⟨[key, value], _⟩ => .ok (changeSetting key value)
  | .ok _ => .error .misuse
  | .error detour => .error detour

def names : List String :=
  ["compile", "groups", "share", "open", "play", "settings", "node-types", "help"]

def settingsNames : List String := ["get", "set", "help"]

def helpOn (names : List String) : List String → Detour
  | [] => .help
  | [name] => if names.contains name then .help else .misuse
  | _ => .misuse

def parseSettings : List String → Except Detour Command
  | [] => .error .misuse
  | name :: args =>
      if name = "get" then withNone showSettings args
      else if name = "set" then parseChange args
      else if name = "help" then .error (helpOn settingsNames args)
      else if Arguments.asksHelp name then .error .help
      else .error .misuse

def parseHelp : List String → Detour
  | ["settings", name] => helpOn settingsNames [name]
  | args => helpOn names args

def parse : List String → Except Detour Command
  | [] => .error .misuse
  | name :: args =>
      if name = "compile" then withOne compile .path args
      else if name = "groups" then withOne groups .path args
      else if name = "share" then parseShare args
      else if name = "open" then withOne openShared .text args
      else if name = "play" then withOne play .path args
      else if name = "settings" then parseSettings args
      else if name = "node-types" then withNone nodeTypes args
      else if name = "help" then .error (parseHelp args)
      else if Arguments.asksHelp name then .error .help
      else if Arguments.asksVersion name then .error .version
      else .error .misuse

def project? : Command → Option String
  | compile project => some project
  | groups project => some project
  | share project _ => some project
  | play project => some project
  | _ => none

end Command

namespace Detour

def exitCode : Detour → UInt32
  | help => 0
  | version => 0
  | misuse => 2

def versionText : String :=
  "patternflow 0.5.19\n"

def helpText : String :=
  "Compile node graphs into pattern programs\n\n"
    ++ "Usage: patternflow <COMMAND>\n\n"
    ++ "Commands:\n"
    ++ "  compile     Print the compiled program of a project file\n"
    ++ "  groups      List the pattern groups of a project file\n"
    ++ "  share       Print a share link (or bare payload) for a project file\n"
    ++ "  open        Decode a share link or payload and print the project as JSON\n"
    ++ "  play        Feed a project through the runner, printing what the engine receives\n"
    ++ "  settings    Show or change persisted settings\n"
    ++ "  node-types  List available node types\n"
    ++ "  help        Print this message or the help of the given subcommand(s)\n\n"
    ++ "Options:\n"
    ++ "  -h, --help     Print help\n"
    ++ "  -V, --version  Print version\n"

/-- What is printed on the standard output; a misuse prints nothing there. -/
def output : Detour → String
  | help => helpText
  | version => versionText
  | misuse => ""

end Detour

end Patchbay
