import Patchbay.Proofs.RecordMerge
import Patchbay.Proofs.StoreViews

namespace Patchbay.Store

section Hold

variable (store : Store) (groupId id : String) (record : Record)

theorem live_holdInPausedGroup : (store.holdInPausedGroup groupId id record).live = store.live := by
  unfold holdInPausedGroup
  split <;> rfl

theorem liveRecord_holdInPausedGroup (other : String) :
    (store.holdInPausedGroup groupId id record).liveRecord other = store.liveRecord other := by
  rw [liveRecord, live_holdInPausedGroup, liveRecord]

theorem muted_holdInPausedGroup :
    (store.holdInPausedGroup groupId id record).muted = store.muted := by
  unfold holdInPausedGroup
  split <;> rfl

theorem heldIn?_holdInPausedGroup (group other : String) :
    (store.holdInPausedGroup groupId id record).heldIn? group other =
      if group = groupId ∧ other = id ∧
        record ≠ ∅ then some record else store.heldIn? group other := by
  unfold holdInPausedGroup
  by_cases hr : record = ∅
  · simp [hr, (Table.isEmpty_iff (∅ : Record)).mpr rfl]
  · have hnot : record.isEmpty = false :=
      Bool.eq_false_iff.mpr fun he => hr ((Table.isEmpty_iff _).mp he)
    simp only [hnot]
    rw [if_neg Bool.false_ne_true, heldIn?_insert]
    by_cases hg : group = groupId
    · by_cases ho : other = id
      · simp [hg, ho, hr]
      · simp only [hg, ho, heldIn?, Table.get?_insert]
        cases store.paused.get? groupId <;> simp
    · simp [hg]

end Hold

section Rekey

variable (store : Store) (source target : String)

theorem live_rekeyPausedGroup : (store.rekeyPausedGroup source target).live = store.live := by
  unfold rekeyPausedGroup
  split
  · rfl
  · split <;> rfl

theorem liveRecord_rekeyPausedGroup (id : String) :
    (store.rekeyPausedGroup source target).liveRecord id = store.liveRecord id := by
  rw [liveRecord, live_rekeyPausedGroup, liveRecord]

theorem muted_rekeyPausedGroup : (store.rekeyPausedGroup source target).muted = store.muted := by
  unfold rekeyPausedGroup
  split
  · rfl
  · split <;> rfl

theorem heldIn?_rekeyPausedGroup (hne : source ≠ target) (group id : String) :
    (store.rekeyPausedGroup source target).heldIn? group id =
      if group = target then (store.heldIn? source id).or (store.heldIn? target id)
      else if group = source then none
      else store.heldIn? group id := by
  unfold rekeyPausedGroup
  rw [if_neg hne]
  cases hsaved : store.paused.get? source with
  | none =>
    have hnone : store.heldIn? source id = none := by rw [heldIn?, hsaved, Option.bind_none]
    rw [hnone, Option.none_or]
    by_cases ht : group = target
    · rw [if_pos ht, ht]
    · rw [if_neg ht]
      by_cases hs : group = source
      · rw [if_pos hs, hs, hnone]
      · rw [if_neg hs]
  | some saved =>
    simp only [heldIn?, Table.get?_insert, Table.get?_erase, hsaved, Option.bind_some]
    by_cases ht : group = target
    · rw [if_pos ht, if_pos ht, Option.bind_some, Table.get?_insertAll_entries,
        if_neg (Ne.symm hne)]
      cases store.paused.get? target <;> rfl
    · rw [if_neg ht, if_neg ht]
      split <;> rfl

theorem exists_held_of_rekeyPausedGroup {groupId id : String}
    (h : ((store.rekeyPausedGroup source target).heldIn? groupId id).isSome) :
    ∃ other, (store.heldIn? other id).isSome := by
  by_cases hne : source = target
  · rw [rekeyPausedGroup, if_pos hne] at h
    exact ⟨groupId, h⟩
  · rw [heldIn?_rekeyPausedGroup store source target hne] at h
    split at h
    · rw [Option.isSome_or, Bool.or_eq_true] at h
      exact h.elim (fun hsource => ⟨source, hsource⟩) fun htarget => ⟨target, htarget⟩
    · split at h
      · cases h
      · exact ⟨groupId, h⟩

end Rekey

/-- Put a saved record of a paused group back: a muted node's is parked in the group again, any
other goes where edits go. -/
def putBack (groupId : String) (store : Store) (entry : String × Record) : Store :=
  if store.isMuted entry.1 then store.holdInPausedGroup groupId entry.1 entry.2
  else store.updateNode entry.1 entry.2

section PutBack

variable {groupId : String} {store : Store}

def Bare (store : Store) (id : String) : Prop :=
  (∀ groupId, store.heldIn? groupId id = none) ∧ store.liveRecord id = ∅

theorem putBack_of_muted (groupId : String) {entry : String × Record} (h : store.isMuted entry.1) :
    store.putBack groupId entry = store.holdInPausedGroup groupId entry.1 entry.2 := if_pos h

theorem putBack_of_live (groupId : String) {entry : String × Record}
    (h : store.isMuted entry.1 = false) (hbare : store.Bare entry.1) (hfree : entry.2.NullFree) :
    store.putBack groupId entry = { store with live := store.live.insert entry.1 entry.2 } := by
  have hmuted : store.muted.get? entry.1 = none := by simpa [isMuted, Table.contains] using h
  rw [putBack, if_neg (Bool.eq_false_iff.mp h),
    updateNode_of_live (holder?_eq_none.mpr hbare.1) hmuted, hbare.2, hfree.empty_merge]

section Entry

variable (groupId) {entry : String × Record}
  (hbare : store.isMuted entry.1 = false → store.Bare entry.1)
  (hfree : store.isMuted entry.1 = false → entry.2.NullFree)

include hbare hfree

theorem muted_putBack : (store.putBack groupId entry).muted = store.muted := by
  cases hm : store.isMuted entry.1 with
  | true => rw [putBack_of_muted groupId hm, muted_holdInPausedGroup]
  | false => rw [putBack_of_live groupId hm (hbare hm) (hfree hm)]

theorem get?_live_putBack (id : String) :
    (store.putBack groupId entry).live.get? id =
      if id = entry.1 ∧ store.isMuted id = false then some entry.2 else store.live.get? id := by
  cases hm : store.isMuted entry.1 with
  | true =>
    rw [putBack_of_muted groupId hm, live_holdInPausedGroup, if_neg]
    rintro ⟨rfl, hnot⟩
    exact Bool.false_ne_true (hnot.symm.trans hm)
  | false =>
    rw [putBack_of_live groupId hm (hbare hm) (hfree hm), Table.get?_insert]
    by_cases hid : id = entry.1 <;> simp [hid, hm]

theorem heldIn?_putBack (group id : String) :
    (store.putBack groupId entry).heldIn? group id =
      if group = groupId ∧ id = entry.1 ∧ store.isMuted id ∧ entry.2 ≠ ∅ then some entry.2
      else store.heldIn? group id := by
  cases hm : store.isMuted entry.1 with
  | true =>
    rw [putBack_of_muted groupId hm, heldIn?_holdInPausedGroup]
    by_cases hid : id = entry.1 <;> simp [hid, hm]
  | false =>
    rw [putBack_of_live groupId hm (hbare hm) (hfree hm), if_neg]
    · rfl
    · rintro ⟨_, rfl, hyes, _⟩
      exact Bool.false_ne_true (hm.symm.trans hyes)

end Entry

structure PutBack (groupId : String) (before after : Store)
    (entries : List (String × Record)) : Prop where
  muted : after.muted = before.muted
  entry : ∀ id, after.live.get? id =
    if before.isMuted id then before.live.get? id else (entries.lookup id).or (before.live.get? id)
  held : ∀ group id, after.heldIn? group id =
    if group = groupId ∧ before.isMuted id then
      ((entries.lookup id).filter fun record => record ≠ ∅).or (before.heldIn? group id)
    else before.heldIn? group id

theorem PutBack.live {before after : Store} {entries : List (String × Record)}
    (h : PutBack groupId before after entries) (id : String) :
    after.liveRecord id =
      if before.isMuted id then before.liveRecord id
      else (entries.lookup id).getD (before.liveRecord id) := by
  rw [liveRecord, h.entry, liveRecord]
  cases before.isMuted id with
  | true => rfl
  | false => cases entries.lookup id <;> rfl

/-- Nothing may be kept of the nodes that are not muted, so that their records go live as
they are. -/
theorem putBack_foldl {entries : List (String × Record)} (hnodup : (entries.map (·.1)).Nodup)
    (hbare : ∀ entry ∈ entries, store.isMuted entry.1 = false → store.Bare entry.1)
    (hfree : ∀ entry ∈ entries, store.isMuted entry.1 = false → entry.2.NullFree) :
    PutBack groupId store (entries.foldl (putBack groupId) store) entries := by
  induction entries generalizing store with
  | nil => exact ⟨rfl, fun id => by simp, fun group id => by simp⟩
  | cons entry rest ih =>
    obtain ⟨hnot, hrest⟩ := List.nodup_cons.mp hnodup
    have hnone : rest.lookup entry.1 = none := Table.lookup_eq_none_of_not_mem hnot
    have hbare₀ := hbare entry List.mem_cons_self
    have hfree₀ := hfree entry List.mem_cons_self
    have hentry := get?_live_putBack groupId hbare₀ hfree₀
    have hheld := heldIn?_putBack groupId hbare₀ hfree₀
    have hmuted := muted_putBack groupId hbare₀ hfree₀
    have hsame (id : String) : (store.putBack groupId entry).isMuted id = store.isMuted id := by
      rw [isMuted, hmuted, isMuted]
    have hbare' : ∀ other ∈ rest, (store.putBack groupId entry).isMuted other.1 = false →
        (store.putBack groupId entry).Bare other.1 := by
      intro other hother hm
      have hne : other.1 ≠ entry.1 := by
        rintro heq
        exact hnot (List.mem_map.mpr ⟨other, hother, heq⟩)
      obtain ⟨hnotHeld, hsilent⟩ :=
        hbare other (List.mem_cons_of_mem entry hother) ((hsame other.1).symm.trans hm)
      refine ⟨fun group => by rw [hheld, if_neg (by simp [hne]), hnotHeld], ?_⟩
      rw [liveRecord, hentry, if_neg (by simp [hne])]
      exact hsilent
    have hnext := ih hrest hbare' fun other hother hm =>
      hfree other (List.mem_cons_of_mem entry hother) ((hsame other.1).symm.trans hm)
    refine ⟨hnext.muted.trans hmuted, fun id => ?_, fun group id => ?_⟩
    · rw [List.foldl_cons, hnext.entry, hsame, hentry, Table.lookup_cons_eq]
      by_cases hid : id = entry.1
      · cases hm : store.isMuted id <;> simp [hid, hnone]
      · simp [hid]
    · rw [List.foldl_cons, hnext.held, hsame, hheld, Table.lookup_cons_eq]
      by_cases hid : id = entry.1
      · cases hm : store.isMuted id with
        | true => by_cases he : entry.2 = ∅ <;> simp [hid, hnone, he, Option.filter_some]
        | false => simp
      · simp [hid]

end PutBack

end Patchbay.Store
