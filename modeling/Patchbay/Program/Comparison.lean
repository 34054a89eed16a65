import Patchbay.Program.Calls
import Patchbay.Text.Blank

namespace Patchbay.Program

def tempoOpening : List Char := "setcpm(".toList

def scaleOpening : List Char := ".scale(".toList

def isComment (line : List Char) : Bool :=
  ['/', '/'].isPrefixOf (Text.dropBlanks line)

def comparisonLine (line : List Char) : List Char :=
  Text.dropTrailingBlanks (cutCalls tempoOpening line).remainder

/-- What two programs have in common when they sound alike but for the tempo: the lines
without comment lines, tempo calls and lines that are then blank. -/
def comparisonForm (program : String) : String :=
  let kept := (Text.lines program.toList).filter fun line => !isComment line
  let shown := (kept.map comparisonLine).filter fun line => !Text.allBlank line
  String.ofList (['\n'].intercalate shown)

/-- The last tempo call of a program, wherever it stands. -/
def lastTempo? (program : String) : Option String :=
  ((cutCalls tempoOpening program.toList).callTexts.getLast?).map String.ofList

def scaleCalls (program : String) : List String :=
  (cutCalls scaleOpening program.toList).callTexts.map String.ofList

end Patchbay.Program
