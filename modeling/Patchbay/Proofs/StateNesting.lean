import Patchbay.Proofs.JsonLayout
import Patchbay.Proofs.StateDecoding

namespace Patchbay

namespace Json

mutual

theorem nesting_valueOf {depth : Nat} {raw : Raw} {value : Value}
    (h : valueOf depth raw = some value) :
    value.json.nesting ≤ depth := by
  match raw with
  | .null | .bool _ =>
    cases h
    exact Nat.zero_le depth
  | .number n =>
    obtain ⟨number, _, rfl⟩ := Option.map_eq_some_iff.mp h
    exact Nat.zero_le depth
  | .string escaped =>
    obtain ⟨text, _, rfl⟩ := Option.map_eq_some_iff.mp h
    exact Nat.zero_le depth
  | .array items =>
    cases depth with
    | zero => cases h
    | succ depth =>
      obtain ⟨values, hvalues, rfl⟩ := Option.map_eq_some_iff.mp h
      have hitems := nesting_valuesOf hvalues (by simp)
      rw [Value.array, nesting, Nat.add_le_add_iff_right, itemsNesting_le_iff, List.forall_mem_map]
      exact hitems
  | .object members =>
    cases depth with
    | zero => cases h
    | succ depth =>
      obtain ⟨entries, hentries, rfl⟩ := Option.map_eq_some_iff.mp h
      have hmembers := nesting_membersOf hentries (by simp)
      refine Table.nesting_toJson_le_iff.mpr fun entry hentry => ?_
      exact hmembers entry (Table.mem_entries_ofList hentry)

theorem nesting_valuesOf {depth : Nat} {done values : List Value} {items : List Raw}
    (h : valuesOf depth done items = some values) (hdone : ∀ value ∈ done,
      value.json.nesting ≤ depth) :
    ∀ value ∈ values, value.json.nesting ≤ depth := by
  match items with
  | [] =>
    cases h
    exact fun value hvalue => hdone value (List.mem_reverse.mp hvalue)
  | raw :: rest =>
    rw [valuesOf] at h
    split at h
    · next first hfirst =>
        exact nesting_valuesOf h (List.forall_mem_cons.mpr ⟨nesting_valueOf hfirst, hdone⟩)
    · cases h

theorem nesting_membersOf {depth : Nat} {done entries : List (String × Value)}
    {members : List (List UInt8 × Raw)} (h : membersOf depth done members = some entries)
    (hdone : ∀ entry ∈ done, entry.2.json.nesting ≤ depth) :
    ∀ entry ∈ entries, entry.2.json.nesting ≤ depth := by
  match members with
  | [] =>
    cases h
    exact fun entry hentry => hdone entry (List.mem_reverse.mp hentry)
  | (key, raw) :: rest =>
    rw [membersOf] at h
    split at h
    · next name first _ hfirst =>
      exact nesting_membersOf h (List.forall_mem_cons.mpr ⟨nesting_valueOf hfirst, hdone⟩)
    · cases h

end

namespace Decoder

variable {α : Type} {decoder : Decoder α} {toJson : α → Json} {least : Nat}

/-- What the decoder gives nests no deeper than its text may, or than the defaults do. -/
def Bounded (decoder : Decoder α) (toJson : α → Json) (least : Nat) : Prop :=
  ∀ depth raw a, decoder depth raw = some a → (toJson a).nesting ≤ max depth least

theorem bounded_value : Bounded value Value.json least :=
  fun _ _ _ h => Nat.le_trans (nesting_valueOf h) (Nat.le_max_left _ _)

theorem Bounded.list (h : Bounded decoder toJson least) :
    Bounded (list decoder) (fun items => .array (items.map toJson)) (least + 1) := by
  intro depth raw items hread
  cases raw with
  | array raws =>
    cases depth with
    | zero => cases hread
    | succ depth =>
      have hitems : raws.mapM (decoder depth) = some items := hread
      rw [nesting, Nat.add_max_add_right, Nat.add_le_add_iff_right, itemsNesting_le_iff,
        List.forall_mem_map]
      intro item hitem
      obtain ⟨raw, hraw⟩ := exists_of_mem_mapM hitems hitem
      exact h _ _ _ hraw
  | null | bool | number | string | object => cases depth <;> cases hread

theorem member_eq_some {decode : Raw → Option α} {entry : List UInt8 × Raw} {found : String × α}
    (h : member decode entry = some found) : decode entry.2 = some found.2 := by
  unfold member at h
  split at h
  · next key value _ hvalue =>
    cases h
    exact hvalue
  · cases h

theorem Bounded.table (h : Bounded decoder toJson least) :
    Bounded (table decoder) (Table.toJson toJson) (least + 1) := by
  intro depth raw entries hread
  cases raw with
  | object members =>
    cases depth with
    | zero => cases hread
    | succ depth =>
      obtain ⟨found, hfound, rfl⟩ := Option.map_eq_some_iff.mp hread
      rw [Nat.add_max_add_right, Table.nesting_toJson_le_iff]
      intro entry hentry
      obtain ⟨raw, hraw⟩ := exists_of_mem_mapM hfound (Table.mem_entries_ofList hentry)
      exact h _ _ _ (member_eq_some hraw)
  | null | bool | number | string | array => cases depth <;> cases hread

variable {default a : α} {depth : Nat} {fields : List (String × Raw)} {name : String}

theorem Bounded.required (h : Bounded decoder toJson least)
    (hread : required decoder depth fields name = some a) :
    (toJson a).nesting ≤ max depth least := by
  obtain ⟨raw, _, hraw⟩ := Option.bind_eq_some_iff.mp hread
  exact h _ _ _ hraw

theorem Bounded.withDefault (h : Bounded decoder toJson least)
    (hread : withDefault default decoder depth fields name = some a)
    (hdefault : (toJson default).nesting ≤ least) : (toJson a).nesting ≤ max depth least := by
  unfold Decoder.withDefault at hread
  split at hread
  · exact h _ _ _ hread
  · cases hread
    exact Nat.le_trans hdefault (Nat.le_max_right _ _)

theorem bounded_struct {names : List String} {build : Nat → List (String × Raw) → Option α}
    {members : α → List (String × Json)} (htoJson : ∀ a, toJson a = .object (members a))
    (h : ∀ depth fields a, build depth fields = some a →
      ∀ member ∈ members a, member.2.nesting ≤ max depth least) :
    Bounded (struct names build) toJson (least + 1) := by
  intro depth raw a hread
  cases depth with
  | zero => cases hread
  | succ depth =>
    obtain ⟨fields, _, hbuild⟩ := Option.bind_eq_some_iff.mp hread
    rw [htoJson, nesting, Nat.add_max_add_right, Nat.add_le_add_iff_right, membersNesting_le_iff]
    exact h depth fields a hbuild

end Decoder

end Json

open Json (Decoder)
open Json.Decoder

theorem Record.bounded : Bounded Decoder.record Record.toJson 1 :=
  Bounded.table bounded_value

theorem Position.bounded : Bounded Position.decoder Position.toJson 1 := by
  refine bounded_struct (fun _ => rfl) fun depth fields position _ => ?_
  simp [Json.nesting]

theorem NodeData.bounded : Bounded NodeData.decoder NodeData.toJson 2 := by
  refine bounded_struct (fun _ => rfl) fun depth fields data hread => ?_
  simp only [Option.bind_eq_bind, Option.bind_eq_some_iff] at hread
  obtain ⟨state, _, values, hvalues, heq⟩ := hread
  obtain rfl := Option.some.inj heq
  have hstate : (stateJson state).nesting = 0 := by cases state <;> rfl
  have hvalues := Record.bounded.withDefault hvalues (Nat.le_refl 1)
  simp only [List.forall_mem_cons, hstate]
  exact ⟨Nat.zero_le _, hvalues, by simp⟩

theorem Node.bounded : Bounded Node.decoder Node.toJson 3 := by
  refine bounded_struct (fun _ => rfl) fun depth fields node hread => ?_
  simp only [Option.bind_eq_bind, Option.bind_eq_some_iff] at hread
  obtain ⟨id, _, typeId, _, data, hdata, position, hposition, heq⟩ := hread
  obtain rfl := Option.some.inj heq
  have hdata := NodeData.bounded.withDefault hdata (by decide)
  have hposition := Position.bounded.withDefault hposition (by decide)
  simp only [List.forall_mem_cons]
  refine ⟨Nat.zero_le _, Nat.zero_le _, hdata, ?_, by simp⟩
  exact Nat.le_trans hposition (by omega)

theorem Edge.bounded : Bounded Edge.decoder Edge.toJson 1 := by
  refine bounded_struct (fun _ => rfl) fun depth fields edge _ => ?_
  simp [Json.nesting]

theorem Store.bounded : Bounded Store.decoder Store.toJson 4 := by
  refine bounded_struct (fun _ => rfl) fun depth fields store hread => ?_
  simp only [Option.bind_eq_bind, Option.bind_eq_some_iff] at hread
  obtain ⟨live, hlive, muted, hmuted, paused, hpaused, heq⟩ := hread
  obtain rfl := Option.some.inj heq
  have hrecords := Bounded.table Record.bounded
  have hlive := hrecords.withDefault hlive (by decide)
  have hmuted := hrecords.withDefault hmuted (by decide)
  have hpaused := (Bounded.table hrecords).withDefault hpaused (by decide)
  have hmax : max depth 2 ≤ max depth 3 := by omega
  simp only [List.forall_mem_cons]
  exact ⟨Nat.le_trans hlive hmax, Nat.le_trans hmuted hmax, hpaused, by simp⟩

namespace State

theorem bounded : Bounded State.decoder State.toJson 5 := by
  refine bounded_struct (fun _ => rfl) fun depth fields state hread => ?_
  simp only [Option.bind_eq_bind, Option.bind_eq_some_iff] at hread
  obtain ⟨version, _, nodes, hnodes, edges, hedges, config, hconfig, theme, _, colorMode, _, cpm,
      _, heq⟩ := hread
  obtain rfl := Option.some.inj heq
  have hnodes := (Bounded.list Node.bounded).required hnodes
  have hedges := (Bounded.list Edge.bounded).required hedges
  have hconfig := Store.bounded.withDefault hconfig (by decide)
  have hcpm : (cpmJson cpm).nesting = 0 := by cases cpm <;> rfl
  have hmax : max depth 2 ≤ max depth 4 := by omega
  simp only [List.forall_mem_cons, hcpm]
  exact ⟨Nat.zero_le _, hnodes, Nat.le_trans hedges hmax, hconfig, Nat.zero_le _, Nat.zero_le _,
    Nat.zero_le _, by simp⟩

theorem nesting_of_ofBytes? {text : List UInt8} {state : State} (h : ofBytes? text = some state) :
    state.toJson.nesting ≤ maxDepth := by
  obtain ⟨raw, _, hraw⟩ := Option.bind_eq_some_iff.mp h
  exact bounded _ _ _ hraw

theorem ofBytes?_of_spelled {state : State} (hfloats : state.toJson.FloatsReadBack)
    (hnesting : state.toJson.nesting ≤ maxDepth) {text : List UInt8}
    (htext : Json.Spelled state.toJson.raw text) :
    ofBytes? text = some state :=
  ((reads hfloats).run_spelled htext).trans (if_pos hnesting)

end State

end Patchbay
