import Patchbay.Proofs.JsonDecoding
import Patchbay.State.Codec

namespace Patchbay

open Json (Decoder floatsReadBack_array floatsReadBack_object)
open Json.Decoder

section Tables

variable {α : Type} {decoder : Decoder α} {toJson : α → Json} {table : Table α}

theorem Table.reads (hitem : ∀ a, (toJson a).FloatsReadBack → decoder.Reads (toJson a) a)
    (h : (table.toJson toJson).FloatsReadBack) :
    (Decoder.table decoder).Reads (table.toJson toJson) table := by
  have hvalues := floatsReadBack_object.mp h
  rw [List.forall_mem_map] at hvalues
  exact reads_table fun entry hentry => hitem entry.2 (hvalues entry hentry)

theorem Table.nesting_toJson_le_iff {depth : Nat} :
    (table.toJson toJson).nesting ≤ depth + 1 ↔
      ∀ entry ∈ table.entries, (toJson entry.2).nesting ≤ depth := by
  rw [Table.toJson, Json.nesting, Nat.add_le_add_iff_right, Json.membersNesting_le_iff,
    List.forall_mem_map]

theorem Record.reads (record : Record) (h : (Record.toJson record).FloatsReadBack) :
    Decoder.record.Reads (Record.toJson record) record :=
  Table.reads (fun _ => reads_value) h

end Tables

theorem RunState.reads (state : RunState) : RunState.decoder.Reads state.toJson state :=
  reads_word (by cases state <;> decide)

theorem ColorMode.reads (mode : ColorMode) : ColorMode.decoder.Reads mode.toJson mode :=
  reads_word (by cases mode <;> decide)

section Floats

theorem Position.floatsReadBack {position : Position} (h : position.toJson.FloatsReadBack) :
    position.x.ReadsBack ∧ position.y.ReadsBack := by
  have hfields := floatsReadBack_object.mp h
  simp only [List.forall_mem_cons] at hfields
  obtain ⟨hx, hy, -⟩ := hfields
  exact ⟨hx _ List.mem_cons_self, hy _ List.mem_cons_self⟩

theorem NodeData.floatsReadBack {data : NodeData} (h : data.toJson.FloatsReadBack) :
    data.values.toJson.FloatsReadBack := by
  have hfields := floatsReadBack_object.mp h
  simp only [List.forall_mem_cons] at hfields
  obtain ⟨-, hvalues, -⟩ := hfields
  exact hvalues

theorem Node.floatsReadBack {node : Node} (h : node.toJson.FloatsReadBack) :
    node.data.toJson.FloatsReadBack ∧ node.position.toJson.FloatsReadBack := by
  have hfields := floatsReadBack_object.mp h
  simp only [List.forall_mem_cons] at hfields
  obtain ⟨-, -, hdata, hposition, -⟩ := hfields
  exact ⟨hdata, hposition⟩

theorem Store.floatsReadBack {store : Store} (h : store.toJson.FloatsReadBack) :
    (store.live.toJson Record.toJson).FloatsReadBack ∧
    (store.muted.toJson Record.toJson).FloatsReadBack ∧
      (store.paused.toJson (Table.toJson Record.toJson)).FloatsReadBack := by
  have hfields := floatsReadBack_object.mp h
  simp only [List.forall_mem_cons] at hfields
  obtain ⟨hlive, hmuted, hpaused, -⟩ := hfields
  exact ⟨hlive, hmuted, hpaused⟩

theorem State.floatsReadBack {state : State} (h : state.toJson.FloatsReadBack) :
    (∀ node ∈ state.nodes, node.toJson.FloatsReadBack) ∧ state.config.toJson.FloatsReadBack := by
  have hfields := floatsReadBack_object.mp h
  simp only [List.forall_mem_cons] at hfields
  obtain ⟨-, hnodes, -, hconfig, -, -, -⟩ := hfields
  exact ⟨List.forall_mem_map.mp (floatsReadBack_array.mp hnodes), hconfig⟩

end Floats

theorem Position.reads {position : Position} (h : position.toJson.FloatsReadBack) :
    Position.decoder.Reads position.toJson position := by
  obtain ⟨hx, hy⟩ := Position.floatsReadBack h
  refine reads_struct rfl (by decide) fun depth => ?_
  refine bind_required rfl (reads_float hx) ?_
  exact bind_required rfl (reads_float hy) (read_fields _)

theorem NodeData.reads_stateJson (state : Option RunState) :
    (nullable RunState.decoder).Reads (stateJson state) state := by
  cases state with
  | none => exact reads_null
  | some state => exact state.reads.nullable (by rintro ⟨⟩)

theorem NodeData.reads {data : NodeData} (h : data.toJson.FloatsReadBack) :
    NodeData.decoder.Reads data.toJson data := by
  refine reads_struct rfl (by decide) fun depth => ?_
  refine bind_withDefault rfl (reads_stateJson data.state) ?_
  exact bind_withDefault rfl (Record.reads _ (NodeData.floatsReadBack h)) (read_fields _)

theorem Node.reads {node : Node} (h : node.toJson.FloatsReadBack) :
    Node.decoder.Reads node.toJson node := by
  obtain ⟨hdata, hposition⟩ := Node.floatsReadBack h
  refine reads_struct rfl (by decide) fun depth => ?_
  refine bind_required rfl (reads_string node.id) ?_
  refine bind_required rfl (reads_string node.typeId) ?_
  refine bind_withDefault rfl (NodeData.reads hdata) ?_
  exact bind_withDefault rfl (Position.reads hposition) (read_fields _)

theorem Edge.reads (edge : Edge) : Edge.decoder.Reads edge.toJson edge := by
  refine reads_struct rfl (by decide) fun depth => ?_
  refine bind_required rfl (reads_string edge.id) ?_
  refine bind_required rfl (reads_string edge.source) ?_
  exact bind_required rfl (reads_string edge.target) (read_fields _)

theorem Store.reads {store : Store} (h : store.toJson.FloatsReadBack) :
    Store.decoder.Reads store.toJson store := by
  obtain ⟨hlive, hmuted, hpaused⟩ := Store.floatsReadBack h
  refine reads_struct rfl (by decide) fun depth => ?_
  refine bind_withDefault rfl (Table.reads Record.reads hlive) ?_
  refine bind_withDefault rfl (Table.reads Record.reads hmuted) ?_
  exact bind_withDefault rfl (Table.reads (fun _ => Table.reads Record.reads) hpaused)
    (read_fields _)

namespace State

theorem reads_cpmJson (cpm : Option String) : (nullable string).Reads (cpmJson cpm) cpm := by
  cases cpm with
  | none => exact reads_null
  | some cpm => exact (reads_string cpm).nullable (by rintro ⟨⟩)

theorem reads {state : State} (h : state.toJson.FloatsReadBack) :
    State.decoder.Reads state.toJson state := by
  obtain ⟨hnodes, hconfig⟩ := floatsReadBack h
  refine reads_struct rfl (by decide) fun depth => ?_
  refine bind_withDefault rfl (reads_uint32 _) ?_
  refine bind_required rfl (reads_list fun node hmem => Node.reads (hnodes node hmem)) ?_
  refine bind_required rfl (reads_list fun edge _ => edge.reads) ?_
  refine bind_withDefault rfl (Store.reads hconfig) ?_
  refine bind_withDefault rfl (reads_string state.theme) ?_
  refine bind_withDefault rfl state.colorMode.reads ?_
  exact bind_withDefault rfl (reads_cpmJson state.cpm) (read_fields _)

theorem ofBytes?_compactText {state : State} (h : state.toJson.FloatsReadBack) :
    ofBytes? (Utf8.ofString state.compactText) =
      if state.toJson.nesting ≤ Decoder.maxDepth then some state else none :=
  (reads h).run_spelled (Json.spelled_compact _)

end State

end Patchbay
