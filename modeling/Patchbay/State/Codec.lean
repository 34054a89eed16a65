import Patchbay.Json.Decode
import Patchbay.Json.Printer
import Patchbay.State.Basic

namespace Patchbay

open Json (Decoder)
open Json.Decoder (required withDefault)

namespace RunState

def word : RunState → String
  | running => "running"
  | paused => "paused"

def words : List (String × RunState) :=
  [running, paused].map fun state => (state.word, state)

def toJson (state : RunState) : Json :=
  .string state.word

def decoder : Decoder RunState :=
  Decoder.word words

end RunState

namespace Record

def toJson (record : Record) : Json :=
  (Value.object record).json

end Record

namespace Position

def toJson (position : Position) : Json :=
  .object [("x", .number (.float position.x)), ("y", .number (.float position.y))]

def decoder : Decoder Position :=
  Decoder.struct ["x", "y"] fun depth fields => do
    let x ← required .float depth fields "x"
    let y ← required .float depth fields "y"
    return { x, y }

end Position

namespace NodeData

def stateJson : Option RunState → Json
  | some state => state.toJson
  | none => .null

def toJson (data : NodeData) : Json :=
  .object [("state", stateJson data.state), ("values", data.values.toJson)]

def decoder : Decoder NodeData :=
  Decoder.struct ["state", "values"] fun depth fields => do
    let state ← withDefault none (.nullable RunState.decoder) depth fields "state"
    let values ← withDefault ∅ .record depth fields "values"
    return { state, values }

end NodeData

namespace Node

def toJson (node : Node) : Json :=
  .object [("id", .string node.id), ("typeId", .string node.typeId), ("data", node.data.toJson),
    ("position", node.position.toJson)]

def decoder : Decoder Node :=
  Decoder.struct ["id", "typeId", "data", "position"] fun depth fields => do
    let id ← required .string depth fields "id"
    let typeId ← required .string depth fields "typeId"
    let data ← withDefault {} NodeData.decoder depth fields "data"
    let position ← withDefault {} Position.decoder depth fields "position"
    return { id, typeId, data, position }

end Node

namespace Edge

def toJson (edge : Edge) : Json :=
  .object [("id", .string edge.id), ("source", .string edge.source),
    ("target", .string edge.target)]

def decoder : Decoder Edge :=
  Decoder.struct ["id", "source", "target"] fun depth fields => do
    let id ← required .string depth fields "id"
    let source ← required .string depth fields "source"
    let target ← required .string depth fields "target"
    return { id, source, target }

end Edge

namespace Table

def toJson {α : Type} (item : α → Json) (table : Table α) : Json :=
  .object (table.entries.map fun entry => (entry.1, item entry.2))

end Table

namespace Store

def toJson (store : Store) : Json :=
  .object [("config", store.live.toJson Record.toJson),
    ("mutedNodes", store.muted.toJson Record.toJson),
    ("pausedGroups", store.paused.toJson (Table.toJson Record.toJson))]

def decoder : Decoder Store :=
  Decoder.struct ["config", "mutedNodes", "pausedGroups"] fun depth fields => do
    let live ← withDefault ∅ (.table .record) depth fields "config"
    let muted ← withDefault ∅ (.table .record) depth fields "mutedNodes"
    let paused ← withDefault ∅ (.table (.table .record)) depth fields "pausedGroups"
    return { live, muted, paused }

end Store

namespace ColorMode

def toJson (mode : ColorMode) : Json :=
  .string mode.word

def decoder : Decoder ColorMode :=
  Decoder.word words

end ColorMode

namespace State

def versionNumber (version : UInt32) : Number :=
  .integer version.toNat (by have := version.toNat_lt; omega)

def cpmJson : Option String → Json
  | some cpm => .string cpm
  | none => .null

def toJson (state : State) : Json :=
  .object [("version", .number (versionNumber state.version)),
    ("nodes", .array (state.nodes.map Node.toJson)),
    ("edges", .array (state.edges.map Edge.toJson)),
    ("config", state.config.toJson),
    ("theme", .string state.theme),
    ("colorMode", state.colorMode.toJson),
    ("cpm", cpmJson state.cpm)]

/-- Nodes and edges have to be there; every other field may be missing. -/
def decoder : Decoder State :=
  Decoder.struct ["version", "nodes", "edges", "config", "theme", "colorMode", "cpm"]
    fun depth fields => do
      let version ← withDefault 1 .uint32 depth fields "version"
      let nodes ← required (.list Node.decoder) depth fields "nodes"
      let edges ← required (.list Edge.decoder) depth fields "edges"
      let config ← withDefault {} Store.decoder depth fields "config"
      let theme ← withDefault "" .string depth fields "theme"
      let colorMode ← withDefault .dark ColorMode.decoder depth fields "colorMode"
      let cpm ← withDefault none (.nullable .string) depth fields "cpm"
      return { version, nodes, edges, config, theme, colorMode, cpm }

def compactText (state : State) : String :=
  state.toJson.compact

def indentedText (state : State) : String :=
  state.toJson.indented

def ofBytes? (text : List UInt8) : Option State :=
  decoder.run text

end State

end Patchbay
