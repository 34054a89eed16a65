import Patchbay.Proofs.StoreRun
import Mathlib.Data.List.Find

namespace Patchbay

namespace Record

/-- The edit that two edits amount to: what the later one names is as the later one has it, also
a `null`. -/
def andThen (first later : Record) : Record :=
  first.insertAll later.entries

theorem get?_andThen (first later : Record) (key : String) :
    (first.andThen later).get? key = (later.get? key).or (first.get? key) :=
  Table.get?_insertAll_entries first later key

theorem merge_merge (record first later : Record) :
    (record.merge first).merge later = record.merge (first.andThen later) := by
  apply Table.ext
  intro key
  rw [get?_merge, get?_merge, get?_merge, get?_andThen]
  cases later.get? key <;> rfl

theorem andThen_self (edit : Record) : edit.andThen edit = edit := by
  apply Table.ext
  intro key
  rw [get?_andThen, Option.or_self]

end Record

namespace Store

deriving instance DecidableEq for Place

variable {store other : Store}

def entryAt? (store : Store) : Place → String → Option Record
  | .live, id => store.live.get? id
  | .muted, id => store.muted.get? id
  | .paused groupId, id => store.heldIn? groupId id

theorem ext_entryAt?
    (hgroups : ∀ groupId, store.paused.contains groupId = other.paused.contains groupId)
    (h : ∀ place id, store.entryAt? place id = other.entryAt? place id) : store = other := by
  have hlive : store.live = other.live := Table.ext (h .live)
  have hmuted : store.muted = other.muted := Table.ext (h .muted)
  have hpaused : store.paused = other.paused := by
    apply Table.ext
    intro groupId
    have hgroup := hgroups groupId
    have hheld := h (.paused groupId)
    simp only [entryAt?, heldIn?] at hheld
    unfold Table.contains at hgroup
    cases hs : store.paused.get? groupId with
    | none =>
      rw [hs] at hgroup
      exact (Option.isNone_iff_eq_none.mp (by simpa using hgroup.symm)).symm
    | some held =>
      cases ho : other.paused.get? groupId with
      | none => simp [hs, ho] at hgroup
      | some held' =>
        rw [hs, ho] at hheld
        exact congrArg some (Table.ext hheld)
  cases store
  cases other
  simp_all

/-- Where an edit of a node goes: to the first paused group that holds a record of it, else to the
muted table if it is muted, else to the live table. -/
def editPlace (store : Store) (id : String) : Place :=
  match store.paused.keys.find? fun groupId => (store.heldIn? groupId id).isSome with
  | some groupId => .paused groupId
  | none => if store.isMuted id then .muted else .live

section Place

variable {id groupId : String} {held : Table Record}

theorem find?_keys_eq_holder? (store : Store) (id : String) :
    (store.paused.keys.find? fun groupId => (store.heldIn? groupId id).isSome) =
      (store.holder? id).map (·.1) := by
  rw [Table.keys, List.find?_map, holder?]
  refine congrArg _ (List.find?_congr fun entry hentry => ?_)
  rw [Function.comp_apply, heldIn?, (Table.mem_entries _ _ _).mp hentry]
  rfl

theorem editPlace_of_held (h : store.holder? id = some (groupId, held)) :
    store.editPlace id = .paused groupId := by
  rw [editPlace, find?_keys_eq_holder?, h]
  rfl

theorem editPlace_of_muted (h : store.holder? id = none) (hmuted : store.isMuted id = true) :
    store.editPlace id = .muted := by
  rw [editPlace, find?_keys_eq_holder?, h, hmuted]
  rfl

theorem editPlace_of_live (h : store.holder? id = none) (hmuted : store.isMuted id = false) :
    store.editPlace id = .live := by
  rw [editPlace, find?_keys_eq_holder?, h, hmuted]
  rfl

end Place

theorem entryAt?_updateNode (store : Store) (id : String) (edit : Record) (place : Place)
    (other : String) :
    (store.updateNode id edit).entryAt? place other =
      if place = store.editPlace id ∧
        other = id then some (((store.entryAt? place id).getD ∅).merge edit)
      else store.entryAt? place other := by
  obtain ⟨groupId, held, record, hholder, hget, hrecord, hafter⟩ | ⟨record, hholder,
    hmuted, hafter⟩ |
    ⟨hholder, hmuted, hafter⟩ := store.updateNode_cases id edit
  · rw [hafter, editPlace_of_held hholder]
    cases place with
    | live | muted => simp [entryAt?]
    | paused group =>
      simp only [entryAt?, heldIn?_insert, Table.get?_insert, Place.paused.injEq]
      by_cases hg : group = groupId
      · by_cases ho : other = id <;> simp [hg, ho, heldIn?, hget, hrecord]
      · simp [hg]
  · have hsaved : store.isMuted id = true := by rw [isMuted, Table.contains, hmuted]; rfl
    rw [hafter, editPlace_of_muted hholder hsaved]
    cases place with
    | muted => simp [entryAt?, hmuted]
    | live | paused group => simp [entryAt?, heldIn?]
  · have hlive : store.isMuted id = false := by rw [isMuted, Table.contains, hmuted]; rfl
    rw [hafter, editPlace_of_live hholder hlive]
    cases place with
    | live => simp [entryAt?, liveRecord]
    | muted | paused group => simp [entryAt?, heldIn?]

theorem contains_paused_updateNode (store : Store) (id : String) (edit : Record)
    (groupId : String) :
    (store.updateNode id edit).paused.contains groupId = store.paused.contains groupId := by
  obtain ⟨holder, _, _, _, hget, _, hafter⟩ | ⟨_, _, _, hafter⟩ | ⟨_, _, hafter⟩ :=
    store.updateNode_cases id edit
  · rw [hafter]
    by_cases hg : groupId = holder <;> simp [Table.contains, hg, hget]
  · rw [hafter]
  · rw [hafter]

theorem isMuted_updateNode (store : Store) (id : String) (edit : Record) (other : String) :
    (store.updateNode id edit).isMuted other = store.isMuted other := by
  obtain ⟨_, _, _, _, _, _, hafter⟩ | ⟨_, _, hmuted, hafter⟩ | ⟨_, _, hafter⟩ :=
    store.updateNode_cases id edit
  · rw [hafter]
    rfl
  · rw [hafter]
    by_cases ho : other = id <;> simp [isMuted, Table.contains, ho, hmuted]
  · rw [hafter]
    rfl

theorem editPlace_updateNode (store : Store) (id : String) (edit : Record) (other : String) :
    (store.updateNode id edit).editPlace other = store.editPlace other := by
  unfold editPlace
  simp only [isSome_heldIn?_updateNode, isMuted_updateNode,
    Table.keys_congr (contains_paused_updateNode store id edit)]

theorem updateNode_updateNode (store : Store) (id : String) (first later : Record) :
    (store.updateNode id first).updateNode id later =
      store.updateNode id (first.andThen later) := by
  apply ext_entryAt?
  · intro groupId
    simp only [contains_paused_updateNode]
  · intro place other
    simp only [entryAt?_updateNode, editPlace_updateNode]
    by_cases hplace : place = store.editPlace id ∧ other = id
    · simp [hplace, Record.merge_merge]
    · simp [hplace]

theorem updateNode_comm {id other : String} (h : other ≠ id) (store : Store)
    (first later : Record) :
    (store.updateNode id first).updateNode other later =
    (store.updateNode other later).updateNode id first := by
  apply ext_entryAt?
  · intro groupId
    simp only [contains_paused_updateNode]
  · intro place entry
    simp only [entryAt?_updateNode, editPlace_updateNode]
    by_cases hid : entry = id
    · subst hid
      simp [h.symm]
    · by_cases hother : entry = other
      · subst hother
        simp [h]
      · simp [hid, hother]

/-- An edit merges into one entry, in one table, and no paused group comes or goes. Two edits of a
node amount to one, in which the later one wins, so to repeat an edit changes nothing; edits of two
nodes can be swapped. -/
theorem edits_compose_and_commute (store : Store) (id : String) (first later : Record) :
    (store.updateNode id first).entryAt? (store.editPlace id) id =
        some (((store.entryAt? (store.editPlace id) id).getD ∅).merge first) ∧
      (∀ place other, (place, other) ≠ (store.editPlace id, id) →
        (store.updateNode id first).entryAt? place other = store.entryAt? place other) ∧
      (store.updateNode id first).pausedGroupIds = store.pausedGroupIds ∧
      (∀ key, (first.andThen later).get? key = (later.get? key).or (first.get? key)) ∧
      (store.updateNode id first).updateNode id later = store.updateNode id (first.andThen later) ∧
      (store.updateNode id first).updateNode id first = store.updateNode id first ∧
      ∀ other, other ≠ id → (store.updateNode id first).updateNode other later =
        (store.updateNode other later).updateNode id first := by
  refine ⟨?_, fun place other hne => ?_,
    Table.keys_congr (contains_paused_updateNode store id first), Record.get?_andThen first later,
    updateNode_updateNode store id first later, ?_, fun other hother =>
      updateNode_comm hother store first later⟩
  · rw [entryAt?_updateNode, if_pos ⟨rfl, rfl⟩]
  · rw [entryAt?_updateNode, if_neg]
    rintro ⟨rfl, rfl⟩
    exact hne rfl
  · rw [updateNode_updateNode, Record.andThen_self]

/-- A store such as only a file can hold: a drum is live, muted, and held by two paused groups. -/
def crowded : Store :=
  let drum : Record := .ofList [("sound", .string "bd")]
  { live := .ofList [("hats", drum), ("kick", drum)]
    muted := .ofList [("kick", drum)]
    paused := .ofList [("g", .ofList [("kick", drum)]), ("h", .ofList [("kick", drum)])] }

theorem crowded_drum_is_edited_once :
    let deleted : Record := .ofList [("gain", .string "1"), ("sound", .null)]
    let renamed : Record := .ofList [("sound", .string "sd")]
    let edited := (crowded.updateNode "kick" deleted).updateNode "kick" renamed
    edited = crowded.updateNode "kick" (.ofList [("gain", .string "1"), ("sound", .string "sd")]) ∧
      (crowded.updateNode "kick" deleted).updateNode "hats" renamed =
        (crowded.updateNode "hats" renamed).updateNode "kick" deleted ∧
      (crowded.updateNode "kick" deleted).entryAt? (.paused "h") "kick" =
        crowded.entryAt? (.paused "h") "kick" := by
  intro deleted renamed edited
  obtain ⟨_, hframe, _, _, hcompose, _, hcommute⟩ :=
    edits_compose_and_commute crowded "kick" deleted renamed
  have hboth : deleted.andThen renamed =
      .ofList [("gain", .string "1"), ("sound", .string "sd")] := by
    decide +kernel
  exact ⟨hboth ▸ hcompose, hcommute "hats" (by decide),
    hframe (.paused "h") "kick" (by decide +kernel)⟩

end Store

end Patchbay
