import Patchbay.Proofs.RestoreViews
import Patchbay.Proofs.SessionRun

namespace Patchbay.Store

variable {store : Store} {id : String}

structure Lacks (store : Store) (id : String) : Prop where
  live : store.live.get? id = none
  muted : store.muted.get? id = none
  held : ∀ groupId, store.heldIn? groupId id = none

theorem lacks_empty (id : String) : ({} : Store).Lacks id :=
  ⟨rfl, rfl, fun _ => rfl⟩

theorem Lacks.liveRecord (h : store.Lacks id) : store.liveRecord id = ∅ := by
  rw [Store.liveRecord, h.live]
  rfl

theorem Lacks.at (h : store.Lacks id) : store.At id (.live ∅) :=
  ⟨h.held, h.muted, h.liveRecord⟩

theorem lacks_removeNode (store : Store) (id : String) : (store.removeNode id).Lacks id := by
  refine ⟨by simp [removeNode], ?_, fun groupId => ?_⟩
  · rw [muted_removeNode, if_pos rfl]
  · rw [heldIn?_removeNode, if_pos rfl]

theorem Lacks.updateNode (h : store.Lacks id) {other : String} (hne : id ≠ other) (edit : Record) :
    (store.updateNode other edit).Lacks id := by
  obtain ⟨groupId, held, _, _, hget, _, hafter⟩ | ⟨_, _, _, hafter⟩ | ⟨_, _, hafter⟩ :=
    store.updateNode_cases other edit
  · rw [hafter]
    refine ⟨h.live, h.muted, fun group => ?_⟩
    have hheld := h.held groupId
    rw [heldIn?, hget, Option.bind_some] at hheld
    rw [heldIn?_insert, Table.get?_insert, if_neg hne, hheld, h.held, ite_self]
  · rw [hafter]
    exact ⟨h.live, by simpa [hne] using h.muted, h.held⟩
  · rw [hafter]
    exact ⟨by simpa [hne] using h.live, h.muted, h.held⟩

theorem Lacks.pauseGroup? (h : store.Lacks id) {groupId : String} {ids : List String}
    {after : Store}
    (hafter : store.pauseGroup? groupId ids = some after) : after.Lacks id := by
  have hlive := h.liveRecord
  refine ⟨?_, ?_, fun other => ?_⟩
  · rw [get?_live_pauseGroup? hafter, if_neg fun hc => hc.2 hlive, h.live]
  · rw [muted_pauseGroup? hafter, h.muted]
  · rw [heldIn?_pauseGroup? hafter, if_neg fun hc => hc.2.2 hlive, h.held]

theorem Lacks.unpauseGroup? (h : store.Lacks id) {groupId : String} {after : Store}
    (hafter : store.unpauseGroup? groupId = some after) : after.Lacks id := by
  have hheld := h.held groupId
  refine ⟨?_, ?_, fun other => ?_⟩
  · obtain ⟨saved, hsaved, rfl⟩ := unpauseGroup?_eq_some hafter
    rw [heldIn?, hsaved, Option.bind_some] at hheld
    simp only [Table.get?_insertAll_entries, Table.get?_filter, hheld, h.live]
    rfl
  · rw [muted_unpauseGroup? hafter, hheld, h.muted]
    exact ite_self none
  · rw [heldIn?_unpauseGroup? hafter, h.held, ite_self]

theorem Lacks.apply (h : store.Lacks id) (operation : Operation) (hnew : ¬ operation.Enters id) :
    (store.apply operation).Lacks id := by
  cases operation with
  | update other changes => exact h.updateNode (Ne.symm hnew) changes
  | mute other =>
    have hne : id ≠ other := Ne.symm hnew
    cases hafter : store.muteNode? other with
    | none => rwa [Store.apply, hafter]
    | some after =>
      obtain ⟨_, rfl⟩ := muteNode?_eq_some hafter
      rw [Store.apply, hafter]
      exact ⟨by simpa [hne] using h.live, by simpa [hne] using h.muted, h.held⟩
  | unmute other =>
    cases hafter : store.unmuteNode? other with
    | none => rwa [Store.apply, hafter]
    | some after =>
      obtain ⟨record, hrecord, rfl⟩ := unmuteNode?_eq_some hafter
      have hne : id ≠ other := by
        rintro rfl
        cases h.muted.symm.trans hrecord
      rw [Store.apply, hafter]
      exact ⟨by simpa [hne] using h.live, by simpa [hne] using h.muted, h.held⟩
  | pause groupId ids =>
    cases hafter : store.pauseGroup? groupId ids with
    | none => rwa [Store.apply, hafter]
    | some after =>
      rw [Store.apply, hafter]
      exact h.pauseGroup? hafter
  | unpause groupId =>
    cases hafter : store.unpauseGroup? groupId with
    | none => rwa [Store.apply, hafter]
    | some after =>
      rw [Store.apply, hafter]
      exact h.unpauseGroup? hafter
  | remove other =>
    by_cases ho : id = other
    · rw [ho]
      exact lacks_removeNode store other
    · refine ⟨by simpa [Store.apply, removeNode, ho] using h.live, ?_, fun groupId => ?_⟩
      · rw [Store.apply, muted_removeNode, if_neg ho, h.muted]
      · rw [Store.apply, heldIn?_removeNode, if_neg ho, h.held]

section Restore

variable {other : String}

theorem Lacks.holdInPausedGroup (h : store.Lacks id) (hne : id ≠ other) (groupId : String)
    (record : Record) : (store.holdInPausedGroup groupId other record).Lacks id := by
  refine ⟨?_, by rw [muted_holdInPausedGroup, h.muted], fun group => ?_⟩
  · unfold Store.holdInPausedGroup
    split <;> exact h.live
  · rw [heldIn?_holdInPausedGroup, if_neg fun hc => hne hc.2.1, h.held]

theorem Lacks.rekeyPausedGroup (h : store.Lacks id) (source target : String) :
    (store.rekeyPausedGroup source target).Lacks id := by
  by_cases hne : source = target
  · rwa [Store.rekeyPausedGroup, if_pos hne]
  · refine ⟨?_, by rw [muted_rekeyPausedGroup, h.muted], fun group => ?_⟩
    · unfold Store.rekeyPausedGroup
      split
      · exact h.live
      · split <;> exact h.live
    · rw [heldIn?_rekeyPausedGroup _ _ _ hne, h.held, h.held, h.held]
      simp

theorem Inhabited.holdInPausedGroup (h : store.Inhabited) (groupId id : String) (record : Record) :
    (store.holdInPausedGroup groupId id record).Inhabited := by
  unfold Store.holdInPausedGroup
  split
  · exact h
  · exact h.insert ((Table.ne_empty_iff _).mpr ⟨id, record, by simp⟩)

theorem Inhabited.rekeyPausedGroup (h : store.Inhabited) (source target : String) :
    (store.rekeyPausedGroup source target).Inhabited := by
  unfold Store.rekeyPausedGroup
  split
  · exact h
  · split
    · exact h
    · next saved hsaved =>
      have hothers : Inhabited { store with paused := store.paused.erase source } := by
        intro other held hget
        by_cases ho : other = source
        · simp [ho] at hget
        · exact h other held (by simpa [ho] using hget)
      obtain ⟨id, record, hget⟩ := (Table.ne_empty_iff _).mp (h source saved hsaved)
      refine hothers.insert ((Table.ne_empty_iff _).mpr ⟨id, record, ?_⟩)
      rw [Table.get?_insertAll_entries, hget, Option.some_or]

end Restore

end Patchbay.Store
