import Patchbay.Proofs.ObjectForms
import Patchbay.Proofs.OpenedLink

namespace Patchbay

open Json (ArrayForm FieldForm ObjectForm arrayForm_raw objectForm_raw)
open Json.Decoder

namespace Position

def fieldForms (position : Position) : List FieldForm :=
  [.printed "x" (.number (.float position.x)) False,
    .printed "y" (.number (.float position.y)) False]

def Written (position : Position) : Json.Raw → Prop :=
  ObjectForm position.fieldForms

theorem written_raw (position : Position) : position.Written position.toJson.raw :=
  objectForm_raw (.cons ⟨rfl, rfl⟩ (.cons ⟨rfl, rfl⟩ .nil))

theorem accepts {position : Position} (h : position.toJson.FloatsReadBack) :
    Accepts Position.decoder position.Written position := by
  obtain ⟨hx, hy⟩ := floatsReadBack h
  refine accepts_struct rfl (by decide) fun depth found hfound => ?_
  simp only [fieldForms, List.forall_mem_cons] at hfound
  obtain ⟨hfoundX, hfoundY, -⟩ := hfound
  refine hfoundX.bind_required (reads_float hx).accepts not_false ?_
  exact hfoundY.bind_required (reads_float hy).accepts not_false rfl

end Position

namespace NodeData

def fieldForms (data : NodeData) : List FieldForm :=
  [.printed "state" (stateJson data.state) (data.state = none),
    .printed "values" data.values.toJson (data.values = ∅)]

def Written (data : NodeData) : Json.Raw → Prop :=
  ObjectForm data.fieldForms

theorem written_raw (data : NodeData) : data.Written data.toJson.raw :=
  objectForm_raw (.cons ⟨rfl, rfl⟩ (.cons ⟨rfl, rfl⟩ .nil))

theorem accepts {data : NodeData} (h : data.toJson.FloatsReadBack) :
    Accepts NodeData.decoder data.Written data := by
  refine accepts_struct rfl (by decide) fun depth found hfound => ?_
  simp only [fieldForms, List.forall_mem_cons] at hfound
  obtain ⟨hfoundState, hfoundValues, -⟩ := hfound
  refine hfoundState.bind_withDefault (reads_stateJson data.state).accepts id ?_
  exact hfoundValues.bind_withDefault (Record.reads _ (floatsReadBack h)).accepts id rfl

end NodeData

namespace Node

def fieldForms (node : Node) : List FieldForm :=
  [.printed "id" (.string node.id) False, .printed "typeId" (.string node.typeId) False,
    ⟨"data", node.data.Written, node.data = {}⟩,
    ⟨"position", node.position.Written, node.position = {}⟩]

def Written (node : Node) : Json.Raw → Prop :=
  ObjectForm node.fieldForms

theorem written_raw (node : Node) : node.Written node.toJson.raw :=
  objectForm_raw (.cons ⟨rfl, rfl⟩ (.cons ⟨rfl, rfl⟩ (.cons ⟨rfl, node.data.written_raw⟩
    (.cons ⟨rfl, node.position.written_raw⟩ .nil))))

theorem accepts {node : Node} (h : node.toJson.FloatsReadBack) :
    Accepts Node.decoder node.Written node := by
  obtain ⟨hdata, hposition⟩ := floatsReadBack h
  refine accepts_struct rfl (by decide) fun depth found hfound => ?_
  simp only [fieldForms, List.forall_mem_cons] at hfound
  obtain ⟨hfoundId, hfoundType, hfoundData, hfoundPosition, -⟩ := hfound
  refine hfoundId.bind_required (reads_string node.id).accepts not_false ?_
  refine hfoundType.bind_required (reads_string node.typeId).accepts not_false ?_
  refine hfoundData.bind_withDefault (NodeData.accepts hdata) (fun h => h) ?_
  exact hfoundPosition.bind_withDefault (Position.accepts hposition) (fun h => h) rfl

end Node

namespace Edge

def fieldForms (edge : Edge) : List FieldForm :=
  [.printed "id" (.string edge.id) False, .printed "source" (.string edge.source) False,
    .printed "target" (.string edge.target) False]

def Written (edge : Edge) : Json.Raw → Prop :=
  ObjectForm edge.fieldForms

theorem written_raw (edge : Edge) : edge.Written edge.toJson.raw :=
  objectForm_raw (.cons ⟨rfl, rfl⟩ (.cons ⟨rfl, rfl⟩ (.cons ⟨rfl, rfl⟩ .nil)))

theorem accepts (edge : Edge) : Accepts Edge.decoder edge.Written edge := by
  refine accepts_struct rfl (by decide) fun depth found hfound => ?_
  simp only [fieldForms, List.forall_mem_cons] at hfound
  obtain ⟨hfoundId, hfoundSource, hfoundTarget, -⟩ := hfound
  refine hfoundId.bind_required (reads_string edge.id).accepts not_false ?_
  refine hfoundSource.bind_required (reads_string edge.source).accepts not_false ?_
  exact hfoundTarget.bind_required (reads_string edge.target).accepts not_false rfl

end Edge

namespace Store

def fieldForms (store : Store) : List FieldForm :=
  [.printed "config" (store.live.toJson Record.toJson) (store.live = ∅),
    .printed "mutedNodes" (store.muted.toJson Record.toJson) (store.muted = ∅),
    .printed "pausedGroups" (store.paused.toJson (Table.toJson Record.toJson)) (store.paused = ∅)]

def Written (store : Store) : Json.Raw → Prop :=
  ObjectForm store.fieldForms

theorem written_raw (store : Store) : store.Written store.toJson.raw :=
  objectForm_raw (.cons ⟨rfl, rfl⟩ (.cons ⟨rfl, rfl⟩ (.cons ⟨rfl, rfl⟩ .nil)))

theorem accepts {store : Store} (h : store.toJson.FloatsReadBack) :
    Accepts Store.decoder store.Written store := by
  obtain ⟨hlive, hmuted, hpaused⟩ := floatsReadBack h
  refine accepts_struct rfl (by decide) fun depth found hfound => ?_
  simp only [fieldForms, List.forall_mem_cons] at hfound
  obtain ⟨hfoundLive, hfoundMuted, hfoundPaused, -⟩ := hfound
  refine hfoundLive.bind_withDefault (Table.reads Record.reads hlive).accepts id ?_
  refine hfoundMuted.bind_withDefault (Table.reads Record.reads hmuted).accepts id ?_
  exact hfoundPaused.bind_withDefault
    (Table.reads (fun _ => Table.reads Record.reads) hpaused).accepts id rfl

end Store

namespace State

def fieldForms (state : State) : List FieldForm :=
  [.printed "version" (.number (versionNumber state.version)) (state.version = 1),
    ⟨"nodes", ArrayForm Node.Written state.nodes, False⟩,
    ⟨"edges", ArrayForm Edge.Written state.edges, False⟩,
    ⟨"config", state.config.Written, state.config = {}⟩,
    .printed "theme" (.string state.theme) (state.theme = ""),
    .printed "colorMode" state.colorMode.toJson (state.colorMode = .dark),
    .printed "cpm" (cpmJson state.cpm) (state.cpm = none)]

/-- The raw value writes the state: every field as it is printed, save that a field with its
default value may be missing, and that the fields of each structure may come in any order and among
any others. -/
def Written (state : State) : Json.Raw → Prop :=
  ObjectForm state.fieldForms

theorem written_raw (state : State) : state.Written state.toJson.raw :=
  objectForm_raw (.cons ⟨rfl, rfl⟩ (.cons ⟨rfl, arrayForm_raw fun node _ => node.written_raw⟩
    (.cons ⟨rfl, arrayForm_raw fun edge _ => edge.written_raw⟩
      (.cons ⟨rfl, state.config.written_raw⟩
      (.cons ⟨rfl, rfl⟩ (.cons ⟨rfl, rfl⟩ (.cons ⟨rfl, rfl⟩ .nil)))))))

theorem accepts {state : State} (h : state.toJson.FloatsReadBack) :
    Accepts State.decoder state.Written state := by
  obtain ⟨hnodes, hconfig⟩ := floatsReadBack h
  refine accepts_struct rfl (by decide) fun depth found hfound => ?_
  simp only [fieldForms, List.forall_mem_cons] at hfound
  obtain ⟨hfoundVersion, hfoundNodes, hfoundEdges, hfoundConfig, hfoundTheme, hfoundMode,
      hfoundCpm, -⟩ := hfound
  refine hfoundVersion.bind_withDefault (reads_uint32 _).accepts id ?_
  refine hfoundNodes.bind_required
    (accepts_list fun node hmem => Node.accepts (hnodes node hmem)) not_false ?_
  refine hfoundEdges.bind_required (accepts_list fun edge _ => edge.accepts) not_false ?_
  refine hfoundConfig.bind_withDefault (Store.accepts hconfig) id ?_
  refine hfoundTheme.bind_withDefault (reads_string state.theme).accepts id ?_
  refine hfoundMode.bind_withDefault state.colorMode.reads.accepts id ?_
  exact hfoundCpm.bind_withDefault (reads_cpmJson state.cpm).accepts id rfl

theorem ofBytes?_of_written {state : State} (hfloats : state.toJson.FloatsReadBack) {raw : Json.Raw}
    (hraw : state.Written raw) (hnesting : raw.nesting ≤ maxDepth) {text : List UInt8}
    (htext : Json.Spelled raw text) : ofBytes? text = some state := by
  rw [ofBytes?, run, htext.read?_eq]
  exact accepts hfloats maxDepth raw hraw hnesting

/-- All the texts that write a state stand for it, in a project file and in a payload alike. The
printed text is one of them; the others leave out fields that have their default values, put
fields in another order, have members under names that no field has, or other spaces between
their parts. -/
theorem written_texts_give_state (state : State)
    (hfloats : ∀ x ∈ state.toJson.floats, x.ReadsBack) :
    state.Written state.toJson.raw ∧
      Json.Spelled state.toJson.raw (Utf8.ofString state.compactText) ∧
      ∀ (raw : Json.Raw) (text : String), state.Written raw →
        Json.Spelled raw (Utf8.ofString text) →
        raw.nesting ≤ 127 →
        (∀ writable, Project.load (.file (Utf8.ofString text) writable) = .ok state) ∧
          (∀ payload, Payload.unpack payload = .ok (Utf8.ofString text) →
            Payload.decode payload = .ok state) ∧
          ∀ deflate : Deflate.Packer, deflate.Restores (Utf8.ofString text) →
            (Utf8.ofString text).length ≤ Payload.maxStateBytes →
            Payload.decode (Payload.pack deflate (Utf8.ofString text)) = .ok state := by
  refine ⟨state.written_raw, Json.spelled_compact state.toJson,
    fun raw text hraw htext hnesting => ?_⟩
  have hstate := ofBytes?_of_written hfloats hraw hnesting htext
  have hopens (payload : String) (hunpack : Payload.unpack payload = .ok (Utf8.ofString text)) :
      Payload.decode payload = .ok state :=
    Payload.decode_of_unpack hunpack hstate
  exact ⟨Project.load_of_ofBytes? hstate, hopens, fun deflate hdeflate hlength =>
    hopens _ (Payload.unpack_pack hdeflate hlength)⟩

def slowGain : State where
  nodes := [{ id := "a", typeId := "gain" }]
  edges := []
  cpm := some "90"

def slowGainNode : Json :=
  .object [("label", .bool true), ("typeId", .string "gain"), ("id", .string "a")]

def slowGainText : Json :=
  .object [("later", .array [.null]), ("cpm", .string "90"), ("edges", .array []),
    ("nodes", .array [slowGainNode])]

/-- The indented text of `slowGainText`, compressed. -/
def packedSlowGain : List UInt8 :=
  [61, 141, 61, 14, 128, 32, 12, 70, 119, 79, 209, 116, 102, 112, 213, 27, 120, 6, 227, 128,
    210, 16, 18, 68, 130, 48, 24, 194, 221, 133, 18, 93, 154, 190, 247, 245, 39, 15, 0, 104,
    101, 164, 128, 51, 172, 21, 0, 92, 178, 182, 54, 155, 104, 209, 225, 207, 26, 224, 52, 34,
    35, 41, 77, 119, 155, 236, 169, 187, 84, 71, 94, 204, 92, 249, 222, 78, 182, 234, 24, 18,
    137, 79, 198, 199, 211, 162, 218, 49, 45, 141, 195, 223, 27, 118, 18, 153, 75, 123, 60, 148,
    23]

theorem slow_gain_is_read :
    let text := Utf8.ofString slowGainText.indented
    let deflate : Deflate.Packer := fun _ => packedSlowGain
    (∀ x ∈ slowGain.toJson.floats, x.ReadsBack) ∧ slowGain.Written slowGainText.raw ∧
      Project.load (.file text true) = .ok slowGain ∧ deflate.Restores text ∧
      Payload.decode (Payload.pack deflate text) = .ok slowGain := by
  intro text deflate
  have hfloats : ∀ x ∈ slowGain.toJson.floats, x.ReadsBack := by decide +kernel
  have hnode : Node.Written { id := "a", typeId := "gain" } slowGainNode.raw := by
    refine @ObjectForm.object _
      [(.printed "id" (.string "a") False, (Json.string "a").raw),
        (.printed "typeId" (.string "gain") False, (Json.string "gain").raw)]
      [(Json.escapedBytes "label", (Json.bool true).raw)] _ ?_ ?_ ?_ ?_ (List.reverse_perm _).symm
    · exact .cons_cons _ (.cons_cons _ (.cons _ (.cons _ .slnil)))
    · simp [Node.fieldForms]
    · simp [FieldForm.printed]
    · exact List.forall_mem_singleton.mpr ⟨"label", Json.unquote_escapedBytes _, by decide⟩
  have hwritten : slowGain.Written slowGainText.raw := by
    refine @ObjectForm.object _
      [(⟨"nodes", ArrayForm Node.Written slowGain.nodes, False⟩, (Json.array [slowGainNode]).raw),
        (⟨"edges", ArrayForm Edge.Written [], False⟩, (Json.array []).raw),
        (.printed "cpm" (cpmJson slowGain.cpm) (slowGain.cpm = none), (Json.string "90").raw)]
      [(Json.escapedBytes "later", (Json.array [.null]).raw)] _ ?_ ?_ ?_ ?_
        (List.reverse_perm _).symm
    · exact .cons _
        (.cons_cons _ (.cons_cons _ (.cons _ (.cons _ (.cons _ (.cons_cons _ .slnil))))))
    · simp [fieldForms, FieldForm.printed, slowGain]
    · simp only [List.forall_mem_cons]
      exact ⟨.array (.cons hnode .nil), .array .nil, rfl, by simp⟩
    · exact List.forall_mem_singleton.mpr ⟨"later", Json.unquote_escapedBytes _, by decide⟩
  have hspelled : Json.Spelled slowGainText.raw (Utf8.ofString slowGainText.indented) :=
    Json.spelled_indented 0 slowGainText
  have hsize : text.length = 150 := by decide +kernel
  have hlength : text.length ≤ Payload.maxStateBytes := by
    rw [hsize]
    decide
  have hdeflate : deflate.Restores text := by
    rw [Deflate.Packer.Restores, hsize]
    decide +kernel
  obtain ⟨_, _, htexts⟩ := written_texts_give_state slowGain hfloats
  obtain ⟨hproject, _, hpayload⟩ := htexts _ _ hwritten hspelled (by decide)
  exact ⟨hfloats, hwritten, hproject true, hdeflate, hpayload deflate hdeflate hlength⟩

end State

end Patchbay
