import Patchbay.Store
import Patchbay.Proofs.TableLookup

namespace Patchbay.Store

def heldIn? (store : Store) (groupId id : String) : Option Record :=
  (store.paused.get? groupId).bind fun held => held.get? id

theorem heldIn?_eq_some {store : Store} {groupId id : String} {record : Record} :
    store.heldIn? groupId id = some record ↔
      ∃ held, store.paused.get? groupId = some held ∧ held.get? id = some record :=
  Option.bind_eq_some_iff

theorem holder?_eq_none {store : Store} {id : String} :
    store.holder? id = none ↔ ∀ groupId, store.heldIn? groupId id = none := by
  unfold holder? heldIn?
  rw [List.find?_eq_none]
  constructor
  · intro h groupId
    rw [Option.bind_eq_none_iff]
    intro held hheld
    have hnot := h (groupId, held) ((Table.mem_entries _ _ _).mpr hheld)
    simpa [Table.contains] using hnot
  · rintro h ⟨groupId, held⟩ hmem
    have hnone := h groupId
    rw [(Table.mem_entries _ _ _).mp hmem, Option.bind_some] at hnone
    simp [Table.contains, hnone]

theorem holder?_eq_some {store : Store} {id groupId : String} {held : Table Record}
    (h : store.holder? id = some (groupId, held)) :
    store.paused.get? groupId = some held ∧ held.contains id := by
  unfold holder? at h
  exact ⟨(Table.mem_entries _ _ _).mp
    (List.mem_of_find?_eq_some h), by simpa using List.find?_some h⟩

theorem hasContribution_iff (store : Store) (id : String) :
    store.hasContribution id ↔ store.liveRecord id ≠ ∅ := by
  rw [hasContribution, Bool.not_eq_true', ← Bool.not_eq_true, Table.isEmpty_iff]

theorem hasSavedContribution_iff (store : Store) (id : String) :
    store.hasSavedContribution id ↔
      (∃ record, store.muted.get? id = some record ∧ record ≠ ∅) ∨
        ∃ groupId, (store.heldIn? groupId id).isSome := by
  rw [hasSavedContribution, Bool.or_eq_true]
  refine or_congr ?_ ?_
  · cases hmuted : store.muted.get? id with
    | none => simp
    | some record => simp [← Table.isEmpty_iff]
  · rw [← not_iff_not, Bool.not_eq_true, Option.isSome_eq_false_iff, Option.isNone_iff_eq_none,
      holder?_eq_none]
    simp

theorem liveRecord_insert (store : Store) (id other : String) (record : Record) :
    ({ store with live := store.live.insert id record } : Store).liveRecord other =
      if other = id then record else store.liveRecord other := by
  by_cases h : other = id <;> simp [liveRecord, h]

theorem heldIn?_insert (store : Store) (groupId other id : String) (held : Table Record) :
    ({ store with paused := store.paused.insert groupId held } : Store).heldIn? other id =
      if other = groupId then held.get? id else store.heldIn? other id := by
  by_cases h : other = groupId <;> simp [heldIn?, h]

section Update

variable {store : Store} {id : String}

theorem updateNode_of_held {groupId : String} {held : Table Record} {record : Record}
    (h : store.holder? id = some (groupId, held)) (hrecord : held.get? id = some record)
    (edit : Record) :
    store.updateNode id edit =
      { store with
        paused := store.paused.insert groupId (held.insert id (record.merge edit)) } := by
  simp only [updateNode, h, hrecord, Option.getD_some]

theorem updateNode_of_muted {record : Record} (h : store.holder? id = none)
    (hm : store.muted.get? id = some record) (edit : Record) :
    store.updateNode id edit =
      { store with muted := store.muted.insert id (record.merge edit) } := by
  simp only [updateNode, h, hm]

theorem updateNode_of_live (h : store.holder? id = none) (hm : store.muted.get? id = none)
    (edit : Record) :
    store.updateNode id edit =
      { store with live := store.live.insert id ((store.liveRecord id).merge edit) } := by
  simp only [updateNode, h, hm]

/-- An edit goes to the first paused group that holds the node, else to the muted table if the node
has a record there, else to the live table. -/
theorem updateNode_cases (store : Store) (id : String) (edit : Record) :
    (∃ groupId held record,
      store.holder? id = some (groupId, held) ∧ store.paused.get? groupId = some held ∧
        held.get? id = some record ∧ store.updateNode id edit =
          { store with
            paused := store.paused.insert groupId (held.insert id (record.merge edit)) }) ∨
      (∃ record, store.holder? id = none ∧ store.muted.get? id = some record ∧
        store.updateNode id edit =
          { store with muted := store.muted.insert id (record.merge edit) }) ∨
      store.holder? id = none ∧ store.muted.get? id = none ∧ store.updateNode id edit =
          { store with live := store.live.insert id ((store.liveRecord id).merge edit) } := by
  cases hholder : store.holder? id with
  | some entry =>
    obtain ⟨groupId, held⟩ := entry
    obtain ⟨hget, hcontains⟩ := holder?_eq_some hholder
    obtain ⟨record, hrecord⟩ := Option.isSome_iff_exists.mp hcontains
    exact .inl ⟨groupId, held, record, rfl, hget, hrecord, updateNode_of_held hholder hrecord edit⟩
  | none =>
    cases hmuted : store.muted.get? id with
    | some record => exact .inr (.inl ⟨record, rfl, rfl, updateNode_of_muted hholder hmuted edit⟩)
    | none => exact .inr (.inr ⟨rfl, rfl, updateNode_of_live hholder hmuted edit⟩)

theorem isSome_heldIn?_updateNode (store : Store) (id : String) (edit : Record)
    (group other : String) :
    ((store.updateNode id edit).heldIn? group other).isSome =
    (store.heldIn? group other).isSome := by
  obtain ⟨groupId, held, record, _, hget, hrecord, hafter⟩ | ⟨record, _, _,
      hafter⟩ | ⟨_, _, hafter⟩ :=
    store.updateNode_cases id edit
  · rw [hafter, heldIn?_insert, Table.get?_insert]
    by_cases hg : group = groupId
    · by_cases ho : other = id <;> simp [hg, ho, heldIn?, hget, hrecord]
    · simp [hg]
  · rw [hafter]
    rfl
  · rw [hafter]
    rfl

end Update

section Remove

variable (store : Store) (id other : String)

theorem liveRecord_removeNode :
    (store.removeNode id).liveRecord other = if other = id then ∅ else store.liveRecord other := by
  by_cases h : other = id <;> simp [removeNode, liveRecord, h]

theorem muted_removeNode :
    (store.removeNode id).muted.get? other = if other =
      id then none else store.muted.get? other := by
  simp [removeNode]

theorem paused_removeNode (groupId : String) :
    (store.removeNode id).paused.get? groupId =
      ((store.paused.get? groupId).filter fun held =>
        !(held.contains id && (held.erase id).isEmpty)).map fun held => held.erase id := by
  simp [removeNode, Table.get?_filter]

/-- A group that goes with the node held nothing else, so no other record goes with it. -/
theorem heldIn?_removeNode (groupId : String) :
    (store.removeNode id).heldIn? groupId other =
      if other = id then none else store.heldIn? groupId other := by
  unfold heldIn?
  rw [paused_removeNode]
  cases store.paused.get? groupId with
  | none => simp
  | some held =>
    rw [Option.filter_some]
    cases hgone : held.contains id && (held.erase id).isEmpty with
    | true =>
      have hempty : held.erase id = ∅ :=
        (Table.isEmpty_iff _).mp (Bool.and_eq_true_iff.mp hgone).2
      have hget := congrArg (fun table => table.get? other) hempty
      simp only [Table.get?_erase, Table.get?_empty] at hget
      by_cases h : other = id
      · simp [h]
      · rw [if_neg h] at hget
        simp [h, hget]
    | false => simp

theorem groups_removeNode {groupId : String} {held : Table Record}
    (hall : ∀ groupId held, store.paused.get? groupId = some held → held ≠ ∅)
    (h : (store.removeNode id).paused.get? groupId = some held) : held ≠ ∅ := by
  rw [paused_removeNode] at h
  obtain ⟨before, hbefore, rfl⟩ := Option.map_eq_some_iff.mp h
  obtain ⟨hget, hkept⟩ := Option.filter_eq_some_iff.mp hbefore
  intro hempty
  rw [hempty, (Table.isEmpty_iff _).mpr rfl, Bool.and_true] at hkept
  have hnot : before.get? id = none := by simpa [Table.contains] using hkept
  refine hall groupId before hget (Table.ext fun key => ?_)
  have hkey := congrArg (fun table => table.get? key) hempty
  by_cases hk : key = id
  · rw [hk, hnot, Table.get?_empty]
  · simpa [hk] using hkey

end Remove

section Pause

variable {store : Store}

theorem get?_insertAll_const (table : Table Record) (ids : List String) (id : String) :
    (ids.foldl (fun live id => live.insert id ∅) table).get? id =
      if id ∈ ids then some ∅ else table.get? id := by
  induction ids generalizing table with
  | nil => rfl
  | cons head rest ih =>
    rw [List.foldl_cons, ih, Table.get?_insert]
    by_cases hr : id ∈ rest
    · simp [hr]
    · by_cases hh : id = head <;> simp [hr, hh]

theorem get?_soundingRecords (store : Store) (ids : List String) (id : String) :
    (store.soundingRecords ids).get? id =
      if id ∈ ids ∧ store.liveRecord id ≠ ∅ then some (store.liveRecord id) else none := by
  have hall (table : Table Record) : (table.insertAll (ids.filterMap fun id =>
        if store.hasContribution id then some (id, store.liveRecord id) else none)).get? id =
      if id ∈ ids ∧ store.liveRecord id ≠ ∅ then some (store.liveRecord id)
      else table.get? id := by
    simp only [hasContribution_iff]
    induction ids generalizing table with
    | nil => simp [Table.insertAll]
    | cons head rest ih =>
      by_cases hc : store.liveRecord head ≠ ∅
      · rw [List.filterMap_cons_some (by rw [if_pos hc]), Table.insertAll_cons, ih,
          Table.get?_insert]
        by_cases hh : id = head
        · subst hh
          simp [hc]
        · simp [hh]
      · rw [List.filterMap_cons_none (by rw [if_neg hc]), ih]
        by_cases hh : id = head
        · subst hh
          simp [hc]
        · simp [hh]
  exact hall ∅

theorem pauseGroup?_eq_some {groupId : String} {ids : List String} {after : Store}
    (h : store.pauseGroup? groupId ids = some after) :
    store.soundingRecords ids ≠ ∅ ∧
      after = { store with
        live := (store.soundingRecords ids).keys.foldl (fun live id => live.insert id ∅) store.live
        paused := store.paused.insert groupId
          (((store.paused.get? groupId).getD ∅).insertAll (store.soundingRecords ids).entries)
              } := by
  unfold pauseGroup? at h
  by_cases hempty : (store.soundingRecords ids).isEmpty
  · simp [hempty] at h
  · simp only [hempty] at h
    exact ⟨fun he => hempty ((Table.isEmpty_iff _).mpr he), (Option.some.inj h).symm⟩

theorem soundingRecords_of_refused {groupId : String} {ids : List String}
    (h : store.pauseGroup? groupId ids = none) : store.soundingRecords ids = ∅ := by
  rw [← Table.isEmpty_iff]
  by_contra hnot
  simp [pauseGroup?, hnot] at h

theorem get?_live_pauseGroup? {groupId : String} {ids : List String} {after : Store}
    (h : store.pauseGroup? groupId ids = some after) (id : String) :
    after.live.get? id =
      if id ∈ ids ∧ store.liveRecord id ≠ ∅ then some ∅ else store.live.get? id := by
  obtain ⟨_, rfl⟩ := pauseGroup?_eq_some h
  have hkey : id ∈ (store.soundingRecords ids).keys ↔ id ∈ ids ∧ store.liveRecord id ≠ ∅ := by
    rw [Table.mem_keys, Table.contains, get?_soundingRecords]
    split <;> simp_all
  rw [get?_insertAll_const, if_congr hkey rfl rfl]

theorem liveRecord_pauseGroup? {groupId : String} {ids : List String} {after : Store}
    (h : store.pauseGroup? groupId ids = some after) (id : String) :
    after.liveRecord id = if id ∈ ids then ∅ else store.liveRecord id := by
  rw [liveRecord, get?_live_pauseGroup? h]
  by_cases hid : id ∈ ids
  · by_cases hlive : store.liveRecord id = ∅
    · rw [if_neg fun hc => hc.2 hlive, if_pos hid]
      exact hlive
    · rw [if_pos ⟨hid, hlive⟩, if_pos hid]
      rfl
  · rw [if_neg fun hc => hid hc.1, if_neg hid]
    rfl

theorem muted_pauseGroup? {groupId : String} {ids : List String} {after : Store}
    (h : store.pauseGroup? groupId ids = some after) : after.muted = store.muted := by
  obtain ⟨_, rfl⟩ := pauseGroup?_eq_some h
  rfl

theorem heldIn?_pauseGroup? {groupId : String} {ids : List String} {after : Store}
    (h : store.pauseGroup? groupId ids = some after) (other id : String) :
    after.heldIn? other id =
      if other = groupId ∧ id ∈ ids ∧ store.liveRecord id ≠ ∅ then some (store.liveRecord id)
      else store.heldIn? other id := by
  obtain ⟨_, rfl⟩ := pauseGroup?_eq_some h
  have hbefore : store.heldIn? groupId id = ((store.paused.get? groupId).getD ∅).get? id := by
    unfold heldIn?
    cases store.paused.get? groupId <;> rfl
  by_cases hg : other = groupId
  · subst hg
    simp only [heldIn?, Table.get?_insert, if_true, Option.bind_some,
      Table.get?_insertAll_entries, get?_soundingRecords]
    split <;> simp_all [heldIn?]
  · simp [heldIn?, hg]

theorem liveRecord_of_refused {groupId : String} {ids : List String}
    (h : store.pauseGroup? groupId ids = none) {id : String} (hid : id ∈ ids) :
    store.liveRecord id = ∅ := by
  by_contra hlive
  have hget := get?_soundingRecords store ids id
  rw [soundingRecords_of_refused h, if_pos ⟨hid, hlive⟩] at hget
  cases hget

theorem liveRecord_pauseGroup?_getD (store : Store) (groupId : String) (ids : List String)
    (id : String) :
    ((store.pauseGroup? groupId ids).getD store).liveRecord id =
      if id ∈ ids then ∅ else store.liveRecord id := by
  cases hafter : store.pauseGroup? groupId ids with
  | some after => exact liveRecord_pauseGroup? hafter id
  | none =>
    rw [Option.getD_none]
    split
    · next hid => exact liveRecord_of_refused hafter hid
    · rfl

theorem get?_live_pauseGroup?_getD (store : Store) (groupId : String) (ids : List String)
    (id : String) :
    ((store.pauseGroup? groupId ids).getD store).live.get? id =
      if id ∈ ids ∧ store.liveRecord id ≠ ∅ then some ∅ else store.live.get? id := by
  cases hafter : store.pauseGroup? groupId ids with
  | some after => exact get?_live_pauseGroup? hafter id
  | none => rw [Option.getD_none, if_neg fun hc => hc.2 (liveRecord_of_refused hafter hc.1)]

theorem heldIn?_pauseGroup?_getD (store : Store) (groupId : String) (ids : List String)
    (other id : String) :
    ((store.pauseGroup? groupId ids).getD store).heldIn? other id =
      if other = groupId ∧ id ∈ ids ∧ store.liveRecord id ≠ ∅ then some (store.liveRecord id)
      else store.heldIn? other id := by
  cases hafter : store.pauseGroup? groupId ids with
  | some after => exact heldIn?_pauseGroup? hafter other id
  | none => rw [Option.getD_none, if_neg fun hc => hc.2.2 (liveRecord_of_refused hafter hc.2.1)]

theorem muted_pauseGroup?_getD (store : Store) (groupId : String) (ids : List String) :
    ((store.pauseGroup? groupId ids).getD store).muted = store.muted := by
  cases hafter : store.pauseGroup? groupId ids with
  | some after => exact muted_pauseGroup? hafter
  | none => rfl

theorem held_of_pauseGroup?_getD {store : Store} {groupId : String} {ids : List String}
    {other id : String}
    (h : (((store.pauseGroup? groupId ids).getD store).heldIn? other id).isSome) :
    (store.heldIn? other id).isSome ∨ store.liveRecord id ≠ ∅ := by
  cases hafter : store.pauseGroup? groupId ids with
  | none => exact .inl (by simpa [hafter] using h)
  | some after =>
    rw [hafter, Option.getD_some, heldIn?_pauseGroup? hafter] at h
    split at h
    · next hmoved => exact .inr hmoved.2.2
    · exact .inl h

theorem foldl_giveBack (entries : List (String × Record)) (store : Store) :
    entries.foldl giveBack store =
      { store with
        live := store.live.insertAll (entries.filter fun entry => !store.isMuted entry.1)
        muted := store.muted.insertAll (entries.filter fun entry => store.isMuted entry.1) } := by
  induction entries generalizing store with
  | nil => rfl
  | cons entry rest ih =>
    have hsame (other : String) : (store.giveBack entry).isMuted other = store.isMuted other := by
      unfold giveBack
      split
      · next hm =>
        by_cases h : other = entry.1
        · rw [h, hm]
          simp [isMuted, Table.contains]
        · simp [isMuted, Table.contains, h]
      · rfl
    rw [List.foldl_cons, ih]
    simp only [hsame]
    by_cases hm : store.isMuted entry.1 <;> simp [giveBack, hm, Table.insertAll_cons]

theorem unpauseGroup?_eq_some {groupId : String} {after : Store}
    (h : store.unpauseGroup? groupId = some after) :
    ∃ saved, store.paused.get? groupId = some saved ∧
      after =
        { live := store.live.insertAll (saved.filter fun id _ => !store.isMuted id).entries
          muted := store.muted.insertAll (saved.filter fun id _ => store.isMuted id).entries
          paused := store.paused.erase groupId } := by
  obtain ⟨saved, hsaved, rfl⟩ := Option.map_eq_some_iff.mp h
  exact ⟨saved, hsaved, foldl_giveBack saved.entries _⟩

theorem liveRecord_unpauseGroup? {groupId : String} {after : Store}
    (h : store.unpauseGroup? groupId = some after) (id : String) :
    after.liveRecord id =
      if store.isMuted id then store.liveRecord id
      else (store.heldIn? groupId id).getD (store.liveRecord id) := by
  obtain ⟨saved, hsaved, rfl⟩ := unpauseGroup?_eq_some h
  simp only [liveRecord, heldIn?, Table.get?_insertAll_entries, Table.get?_filter, hsaved,
    Option.bind_some]
  by_cases hm : store.isMuted id
  · cases saved.get? id <;> simp [hm]
  · cases saved.get? id <;> simp [hm, Option.filter_some]

theorem muted_unpauseGroup? {groupId : String} {after : Store}
    (h : store.unpauseGroup? groupId = some after) (id : String) :
    after.muted.get? id =
      if store.isMuted id then (store.heldIn? groupId id).or (store.muted.get? id) else none := by
  obtain ⟨saved, hsaved, rfl⟩ := unpauseGroup?_eq_some h
  simp only [heldIn?, Table.get?_insertAll_entries, Table.get?_filter, hsaved, Option.bind_some]
  by_cases hm : store.isMuted id
  · cases saved.get? id <;> simp [hm]
  · have hnone : store.muted.get? id = none := by simpa [isMuted, Table.contains] using hm
    cases saved.get? id <;> simp [hm, hnone]

theorem heldIn?_unpauseGroup? {groupId : String} {after : Store}
    (h : store.unpauseGroup? groupId = some after) (other id : String) :
    after.heldIn? other id = if other = groupId then none else store.heldIn? other id := by
  obtain ⟨saved, _, rfl⟩ := unpauseGroup?_eq_some h
  by_cases hg : other = groupId <;> simp [heldIn?, hg]

end Pause

section Mute

variable {store after : Store} {id : String}

theorem muteNode?_eq_some (h : store.muteNode? id = some after) :
    store.muted.get? id = none ∧
      after = { store with
        live := store.live.insert id ∅
        muted := store.muted.insert id (store.liveRecord id) } := by
  unfold muteNode? at h
  by_cases hm : store.isMuted id
  · simp [hm] at h
  · simp only [hm] at h
    exact ⟨by simpa [isMuted, Table.contains] using hm, (Option.some.inj h).symm⟩

theorem unmuteNode?_eq_some (h : store.unmuteNode? id = some after) :
    ∃ record, store.muted.get? id = some record ∧
      after = { store with
        live := store.live.insert id record, muted := store.muted.erase id } := by
  obtain ⟨record, hrecord, rfl⟩ := Option.map_eq_some_iff.mp h
  exact ⟨record, hrecord, rfl⟩

end Mute

end Patchbay.Store
