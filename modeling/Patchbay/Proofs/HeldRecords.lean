import Patchbay.Proofs.GroupIdentity
import Patchbay.Proofs.RestoreRecords
import Patchbay.Proofs.StoreEntries

namespace Patchbay

namespace Store

variable {store : Store}

/-- The paused groups hold records as pausing leaves them: no group is empty, the record of a node
that is not muted is in one group and has left an empty live one, and of a muted node no empty
record is held. -/
structure Orderly (store : Store) : Prop where
  inhabited : store.Inhabited
  once : ∀ id groupId other, store.isMuted id = false → (store.heldIn? groupId id).isSome →
    (store.heldIn? other id).isSome → groupId = other
  emptied : ∀ groupId id, store.isMuted id = false → (store.heldIn? groupId id).isSome →
    store.live.get? id = some ∅
  filled : ∀ groupId id record, store.isMuted id →
    store.heldIn? groupId id = some record → record ≠ ∅

theorem Orderly.at (h : store.Orderly) {groupId id : String} {record : Record}
    (hmuted : store.isMuted id = false) (hheld : store.heldIn? groupId id = some record) :
    store.At id (.held groupId record false) := by
  have hsome : (store.heldIn? groupId id).isSome := by rw [hheld]; rfl
  refine ⟨fun other => ?_, ?_, ?_⟩
  · rw [Placement.heldIn?]
    by_cases ho : other = groupId
    · rw [if_pos ho, ho, hheld]
    · rw [if_neg ho]
      by_contra hne
      exact ho (h.once id other groupId hmuted (Option.isSome_iff_ne_none.mpr hne) hsome)
  · have hnone : store.muted.get? id = none := by simpa [isMuted, Table.contains] using hmuted
    exact hnone
  · rw [liveRecord, h.emptied groupId id hmuted hsome]
    rfl

theorem Orderly.liveRecord (h : store.Orderly) {groupId id : String}
    (hmuted : store.isMuted id = false)
    (hheld : (store.heldIn? groupId id).isSome) : store.liveRecord id = ∅ := by
  rw [Store.liveRecord, h.emptied groupId id hmuted hheld]
  rfl

theorem isMuted_congr {after : Store} (h : after.muted = store.muted) (id : String) :
    after.isMuted id = store.isMuted id := by
  rw [isMuted, h, isMuted]

section Replay

variable {id groupId : String} {record : Record}

theorem Orderly.holdInPausedGroup (h : store.Orderly) (hmuted : store.isMuted id) :
    (store.holdInPausedGroup groupId id record).Orderly := by
  have hsame := isMuted_congr (muted_holdInPausedGroup store groupId id record)
  have hheld := heldIn?_holdInPausedGroup store groupId id record
  have hother {other : String} (hnot : store.isMuted other = false) (group : String) :
      (store.holdInPausedGroup groupId id record).heldIn? group other =
          store.heldIn? group other := by
    rw [hheld, if_neg]
    rintro ⟨_, rfl, _⟩
    exact Bool.false_ne_true (hnot.symm.trans hmuted)
  refine ⟨h.inhabited.holdInPausedGroup groupId id record, fun other g g' hnot hg hg' => ?_,
    fun g other hnot hg => ?_, fun g other kept hyes hg => ?_⟩
  · rw [hsame] at hnot
    rw [hother hnot] at hg hg'
    exact h.once other g g' hnot hg hg'
  · rw [hsame] at hnot
    rw [hother hnot] at hg
    rw [live_holdInPausedGroup]
    exact h.emptied g other hnot hg
  · rw [hsame] at hyes
    rw [hheld] at hg
    split at hg
    · next hc => exact Option.some.inj hg ▸ hc.2.2
    · exact h.filled g other kept hyes hg

theorem Orderly.updateNode (h : store.Orderly) (hmuted : store.isMuted id = false) (edit : Record) :
    (store.updateNode id edit).Orderly := by
  have hheld := isSome_heldIn?_updateNode store id edit
  have hinhabited : (store.updateNode id edit).Inhabited := h.inhabited.apply (.update id edit)
  cases hholder : store.holder? id with
  | some entry =>
    obtain ⟨group, held⟩ := entry
    obtain ⟨hget, hcontains⟩ := holder?_eq_some hholder
    obtain ⟨record, hrecord⟩ := Option.isSome_iff_exists.mp hcontains
    rw [updateNode_of_held hholder hrecord] at hheld hinhabited ⊢
    refine ⟨hinhabited, fun other g g' hnot hg hg' => ?_, fun g other hnot hg => ?_,
      fun g other kept hyes hg => ?_⟩
    · rw [hheld] at hg hg'
      exact h.once other g g' hnot hg hg'
    · rw [hheld] at hg
      exact h.emptied g other hnot hg
    · have hne : other ≠ id := by
        rintro rfl
        exact Bool.false_ne_true (hmuted.symm.trans hyes)
      rw [heldIn?_insert, Table.get?_insert, if_neg hne] at hg
      by_cases hgroup : g = group
      · rw [if_pos hgroup] at hg
        exact h.filled group other kept hyes (heldIn?_eq_some.mpr ⟨held, hget, hg⟩)
      · rw [if_neg hgroup] at hg
        exact h.filled g other kept hyes hg
  | none =>
    have hnone : store.muted.get? id = none := by simpa [isMuted, Table.contains] using hmuted
    rw [updateNode_of_live hholder hnone] at hinhabited ⊢
    refine ⟨hinhabited, h.once, fun g other hnot hg => ?_, h.filled⟩
    have hne : other ≠ id := by
      rintro rfl
      have hsome : (store.heldIn? g other).isSome := hg
      rw [holder?_eq_none.mp hholder g] at hsome
      cases hsome
    rw [Table.get?_insert, if_neg hne]
    exact h.emptied g other hnot hg

theorem Orderly.rekeyPausedGroup (h : store.Orderly) (source target : String) :
    (store.rekeyPausedGroup source target).Orderly := by
  by_cases hne : source = target
  · rwa [Store.rekeyPausedGroup, if_pos hne]
  have hsame := isMuted_congr (muted_rekeyPausedGroup store source target)
  have hheld := heldIn?_rekeyPausedGroup store source target hne
  refine ⟨h.inhabited.rekeyPausedGroup source target, fun id g g' hnot hg hg' => ?_,
    fun g id hnot hg => ?_, fun g id record hyes hg => ?_⟩
  · rw [hsame] at hnot
    obtain ⟨holder, hholder⟩ := exists_held_of_rekeyPausedGroup store source target hg
    obtain ⟨record, hrecord⟩ := Option.isSome_iff_exists.mp hholder
    have hplaced := (h.at hnot hrecord).rekeyPausedGroup source target
    exact hplaced.eq_of_held hg hg'
  · rw [hsame] at hnot
    obtain ⟨holder, hholder⟩ := exists_held_of_rekeyPausedGroup store source target hg
    rw [live_rekeyPausedGroup]
    exact h.emptied holder id hnot hholder
  · rw [hsame] at hyes
    rw [hheld] at hg
    split at hg
    · rcases Option.or_eq_some_iff.mp hg with hg | ⟨_, hg⟩
      · exact h.filled source id record hyes hg
      · exact h.filled target id record hyes hg
    · split at hg
      · cases hg
      · exact h.filled g id record hyes hg

theorem Orderly.pauseGroup (h : store.Orderly) (groupId : String) (ids : List String) :
    ((store.pauseGroup? groupId ids).getD store).Orderly := by
  have hsame := isMuted_congr (muted_pauseGroup?_getD store groupId ids)
  have hheld := heldIn?_pauseGroup?_getD store groupId ids
  refine ⟨h.inhabited.apply (.pause groupId ids), fun id g g' hnot hg hg' => ?_,
    fun g id hnot hg => ?_, fun g id record hyes hg => ?_⟩
  · rw [hsame] at hnot
    rw [hheld] at hg hg'
    split at hg
    · next hmoved =>
      split at hg'
      · next hmoved' => exact hmoved.1.trans hmoved'.1.symm
      · exact absurd (h.liveRecord hnot hg') hmoved.2.2
    · split at hg'
      · next hmoved' => exact absurd (h.liveRecord hnot hg) hmoved'.2.2
      · exact h.once id g g' hnot hg hg'
  · rw [hsame] at hnot
    rw [get?_live_pauseGroup?_getD]
    rw [hheld] at hg
    split at hg
    · next hmoved => rw [if_pos hmoved.2]
    · rw [h.emptied g id hnot hg]
      exact ite_self (some ∅)
  · rw [hsame] at hyes
    rw [hheld] at hg
    split at hg
    · next hmoved => exact Option.some.inj hg ▸ hmoved.2.2
    · exact h.filled g id record hyes hg

end Replay

end Store

namespace Session

variable {session : Session}

structure Orderly (session : Session) : Prop where
  store : session.store.Orderly
  known : ∀ groupId id, (session.store.heldIn? groupId id).isSome → session.hasNode id

theorem hasNode_of_isMember {store : Store} {id : String}
    (h : Group.isMember session.nodes store id) : session.hasNode id := by
  rw [hasNode_iff_mem_ids, ← lastNode?_isSome]
  unfold Group.isMember at h
  cases hlast : lastNode? session.nodes id with
  | none => simp [hlast] at h
  | some node => rfl

theorem Orderly.replayRecord (h : session.Orderly) (groupId : String) (entry : String × Record) :
    (session.replayRecord groupId entry).Orderly := by
  unfold Session.replayRecord
  split
  · exact h
  · next hnode =>
    rw [Bool.not_eq_true', Bool.not_eq_false] at hnode
    split
    · next hmuted =>
      refine ⟨h.store.holdInPausedGroup hmuted, fun group id hheld => ?_⟩
      rw [Store.heldIn?_holdInPausedGroup] at hheld
      split at hheld
      · next hc => exact hc.2.1 ▸ hnode
      · exact h.known group id hheld
    · next hmuted =>
      refine ⟨h.store.updateNode (Bool.eq_false_iff.mpr hmuted) entry.2, fun group id hheld => ?_⟩
      rw [Store.isSome_heldIn?_updateNode] at hheld
      exact h.known group id hheld

theorem Orderly.replayGroup (h : session.Orderly) (saved : String × Table Record) :
    (session.replayGroup saved).Orderly := by
  have hreplayed : (saved.2.entries.foldl (fun session entry => session.replayRecord saved.1 entry)
      session).Orderly :=
    List.foldlRecOn saved.2.entries _ h fun _ horderly entry _ =>
      horderly.replayRecord saved.1 entry
  unfold Session.replayGroup
  simp only
  split
  · exact hreplayed
  · next group hgroup =>
    obtain ⟨_, _, hfound⟩ := Option.bind_eq_some_iff.mp hgroup
    refine ⟨(hreplayed.store.rekeyPausedGroup saved.1 group.groupId).pauseGroup _ _,
      fun other id hheld => ?_⟩
    rw [Store.heldIn?_pauseGroup?_getD] at hheld
    split at hheld
    · next hmoved =>
      exact hasNode_of_isMember (Group.isMember_of_mem (groupOf?_eq_some hfound).1 hmoved.2.1)
    · obtain ⟨holder, hholder⟩ := Store.exists_held_of_rekeyPausedGroup _ _ _ hheld
      exact hreplayed.known holder id hholder

theorem orderly_ofState (state : State) (runner : Runner) (settings : Settings) :
    (ofState state runner settings).Orderly := by
  unfold Session.ofState
  refine List.foldlRecOn _ _ ?_ fun _ horderly saved _ => horderly.replayGroup saved
  refine ⟨⟨?_, ?_, ?_, ?_⟩, ?_⟩ <;> simp [Store.Inhabited, Store.heldIn?]

end Session

end Patchbay
