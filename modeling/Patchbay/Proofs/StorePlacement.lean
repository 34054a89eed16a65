import Patchbay.Proofs.StoreViews

namespace Patchbay

/-- Where the one record of a node is kept. A node that a paused group holds may be muted as well;
its mute then keeps an empty record. -/
inductive Placement where
  | live (record : Record)
  | muted (record : Record)
  | held (groupId : String) (record : Record) (muted : Bool)

namespace Placement

def record : Placement → Record
  | live record | muted record | held _ record _ => record

def live? : Placement → Record
  | live record => record
  | _ => ∅

def muted? : Placement → Option Record
  | muted record => some record
  | held _ _ isMuted => if isMuted then some ∅ else none
  | live _ => none

def heldIn? : Placement → String → Option Record
  | held groupId record _, other => if other = groupId then some record else none
  | _, _ => none

def edit (changes : Record) : Placement → Placement
  | live record => live (record.merge changes)
  | muted record => muted (record.merge changes)
  | held groupId record isMuted => held groupId (record.merge changes) isMuted

def mute : Placement → Placement
  | live record | muted record => muted record
  | held groupId record _ => held groupId record true

def unmute : Placement → Placement
  | live record | muted record => live record
  | held groupId record _ => held groupId record false

def pause (groupId : String) : Placement → Placement
  | live record => if record = ∅ then live ∅ else held groupId record false
  | placement => placement

def unpause (groupId : String) : Placement → Placement
  | held holder record isMuted =>
      if holder ≠ groupId then held holder record isMuted
      else if isMuted then muted record else live record
  | placement => placement

@[simp] theorem record_edit (placement : Placement) (changes : Record) :
    (placement.edit changes).record = placement.record.merge changes := by
  cases placement <;> rfl

@[simp] theorem record_mute (placement : Placement) : placement.mute.record = placement.record := by
  cases placement <;> rfl

@[simp] theorem record_unmute (placement : Placement) :
    placement.unmute.record = placement.record := by
  cases placement <;> rfl

@[simp] theorem record_pause (placement : Placement) (groupId : String) :
    (placement.pause groupId).record = placement.record := by
  cases placement with
  | live kept => by_cases h : kept = ∅ <;> simp [pause, record, h]
  | muted kept | held holder kept isMuted => rfl

@[simp] theorem record_unpause (placement : Placement) (groupId : String) :
    (placement.unpause groupId).record = placement.record := by
  cases placement with
  | live kept | muted kept => rfl
  | held holder kept isMuted =>
    by_cases h : holder = groupId <;> cases isMuted <;> simp [unpause, record, h]

end Placement

namespace Store

attribute [local simp] Placement.live? Placement.muted? Placement.heldIn? Placement.edit
  Placement.mute Placement.unmute Placement.pause Placement.unpause

/-- The store keeps a record of the node at this place, and nothing of it anywhere else. -/
structure At (store : Store) (id : String) (placement : Placement) : Prop where
  held : ∀ groupId, store.heldIn? groupId id = placement.heldIn? groupId
  muted : store.muted.get? id = placement.muted?
  live : store.liveRecord id = placement.live?

variable {store after : Store} {id other groupId : String} {placement : Placement}

theorem At.isMuted_eq (h : store.At id placement) : store.isMuted id = placement.muted?.isSome := by
  rw [isMuted, Table.contains, h.muted]

theorem At.holder? (h : store.At id placement) {held : Table Record}
    (hholder : store.holder? id = some (groupId, held)) :
    ∃ record isMuted, placement = .held groupId record isMuted ∧ held.get? id = some record := by
  obtain ⟨hget, hcontains⟩ := holder?_eq_some hholder
  obtain ⟨record, hrecord⟩ := Option.isSome_iff_exists.mp hcontains
  have hheld := h.held groupId
  rw [heldIn?_eq_some.mpr ⟨held, hget, hrecord⟩] at hheld
  cases placement with
  | live kept | muted kept => cases hheld
  | held holder kept isMuted =>
    by_cases hg : groupId = holder
    · subst hg
      refine ⟨record, isMuted, ?_, hrecord⟩
      simpa [Placement.heldIn?] using hheld.symm
    · simp [Placement.heldIn?, hg] at hheld

theorem At.not_held (h : store.At id placement) (hholder : store.holder? id = none) :
    (∃ record, placement = .live record) ∨ ∃ record, placement = .muted record := by
  cases placement with
  | live record => exact .inl ⟨record, rfl⟩
  | muted record => exact .inr ⟨record, rfl⟩
  | held groupId record isMuted =>
    have hnone := holder?_eq_none.mp hholder groupId
    rw [h.held groupId] at hnone
    simp [Placement.heldIn?] at hnone

theorem At.updateNode (h : store.At id placement) (changes : Record) :
    (store.updateNode id changes).At id (placement.edit changes) := by
  cases hholder : store.holder? id with
  | some entry =>
    obtain ⟨groupId, held⟩ := entry
    obtain ⟨record, isMuted, rfl, hrecord⟩ := h.holder? hholder
    rw [updateNode_of_held hholder hrecord]
    refine ⟨fun other => ?_, h.muted, h.live⟩
    rw [heldIn?_insert, h.held other]
    by_cases hg : other = groupId <;> simp [Placement.heldIn?, hg]
  | none =>
    have hmuted := h.muted
    obtain ⟨record, rfl⟩ | ⟨record, rfl⟩ := h.not_held hholder
    · rw [updateNode_of_live hholder hmuted]
      refine ⟨h.held, hmuted, ?_⟩
      rw [liveRecord_insert, if_pos rfl, h.live]
      rfl
    · rw [updateNode_of_muted hholder hmuted]
      exact ⟨h.held, by simp [Placement.muted?], h.live⟩

theorem At.updateNode_ne (h : store.At other placement) (hne : other ≠ id) (changes : Record) :
    (store.updateNode id changes).At other placement := by
  obtain ⟨groupId, _, _, _, hget, _, hafter⟩ | ⟨_, _, _, hafter⟩ | ⟨_, _, hafter⟩ :=
    store.updateNode_cases id changes
  · rw [hafter]
    refine ⟨fun group => ?_, h.muted, h.live⟩
    rw [heldIn?_insert, ← h.held group]
    by_cases hg : group = groupId <;> simp [hg, hne, heldIn?, hget]
  · rw [hafter]
    exact ⟨h.held, by simpa [hne] using h.muted, h.live⟩
  · rw [hafter]
    exact ⟨h.held, h.muted, by rw [liveRecord_insert, if_neg hne, h.live]⟩

theorem At.removeNode (store : Store) (id : String) : (store.removeNode id).At id (.live ∅) := by
  refine ⟨fun groupId => ?_, ?_, ?_⟩
  · rw [heldIn?_removeNode, if_pos rfl]
    rfl
  · rw [muted_removeNode, if_pos rfl]
    rfl
  · rw [liveRecord_removeNode, if_pos rfl]
    rfl

theorem At.removeNode_ne (h : store.At other placement) (hne : other ≠ id) :
    (store.removeNode id).At other placement := by
  refine ⟨fun groupId => ?_, ?_, ?_⟩
  · rw [heldIn?_removeNode, if_neg hne, h.held]
  · rw [muted_removeNode, if_neg hne, h.muted]
  · rw [liveRecord_removeNode, if_neg hne, h.live]

theorem At.muteNode? (h : store.At id placement) (hafter : store.muteNode? id = some after) :
    after.At id placement.mute := by
  obtain ⟨hnone, rfl⟩ := muteNode?_eq_some hafter
  rw [h.muted] at hnone
  cases placement with
  | muted record => cases hnone
  | live record =>
    refine ⟨h.held, ?_, ?_⟩
    · simp [Placement.muted?, h.live, Placement.live?]
    · simp [Placement.live?, liveRecord]
  | held groupId record isMuted =>
    refine ⟨h.held, ?_, ?_⟩
    · simp [Placement.muted?, h.live, Placement.live?]
    · simp [Placement.live?, liveRecord]

theorem At.mute_of_refused (h : store.At id placement) (hafter : store.muteNode? id = none) :
    placement.mute = placement := by
  have hmuted : store.isMuted id := by
    by_contra hnot
    simp [Store.muteNode?, hnot] at hafter
  rw [h.isMuted_eq] at hmuted
  cases placement with
  | live record => cases hmuted
  | muted record => rfl
  | held groupId record isMuted => cases isMuted <;> trivial

theorem At.muteNode?_ne (h : store.At other placement) (hne : other ≠ id)
    (hafter : store.muteNode? id = some after) : after.At other placement := by
  obtain ⟨_, rfl⟩ := muteNode?_eq_some hafter
  exact ⟨h.held, by simpa [hne] using h.muted, by simpa [hne, liveRecord] using h.live⟩

theorem At.unmuteNode? (h : store.At id placement) (hafter : store.unmuteNode? id = some after) :
    after.At id placement.unmute := by
  obtain ⟨record, hrecord, rfl⟩ := unmuteNode?_eq_some hafter
  rw [h.muted] at hrecord
  cases placement with
  | live kept => cases hrecord
  | muted kept =>
    obtain rfl : kept = record := by simpa [Placement.muted?] using hrecord
    exact ⟨h.held, by simp [Placement.muted?],
      by simp [Placement.live?, liveRecord]⟩
  | held groupId kept isMuted =>
    have hempty : record = ∅ := by
      cases isMuted <;> simp_all [Placement.muted?]
    exact ⟨h.held, by simp [Placement.muted?],
      by simp [Placement.live?, liveRecord, hempty]⟩

theorem At.unmute_of_refused (h : store.At id placement) (hafter : store.unmuteNode? id = none) :
    placement.unmute = placement := by
  have hnone := Option.map_eq_none_iff.mp hafter
  rw [h.muted] at hnone
  cases placement with
  | live record => rfl
  | muted record => cases hnone
  | held groupId record isMuted => cases isMuted <;> simp_all [Placement.muted?]

theorem At.unmuteNode?_ne (h : store.At other placement) (hne : other ≠ id)
    (hafter : store.unmuteNode? id = some after) : after.At other placement := by
  obtain ⟨record, _, rfl⟩ := unmuteNode?_eq_some hafter
  exact ⟨h.held, by simpa [hne] using h.muted, by simpa [hne, liveRecord] using h.live⟩

theorem At.pauseGroup? (h : store.At id placement) {ids : List String} (hid : id ∈ ids)
    (hafter : store.pauseGroup? groupId ids = some after) :
    after.At id (placement.pause groupId) := by
  have hheld := fun other => heldIn?_pauseGroup? hafter other id
  have hlive := liveRecord_pauseGroup? hafter id
  have hmuted := congrArg (fun table => table.get? id) (muted_pauseGroup? hafter)
  simp only [hid, true_and, h.live, h.held] at hheld
  rw [if_pos hid] at hlive
  rw [h.muted] at hmuted
  cases placement with
  | live record =>
    by_cases hr : record = ∅ <;>
      exact ⟨fun other => by simp [hheld, hr], by simpa [hr] using hmuted, by simp [hlive, hr]⟩
  | muted record =>
    exact ⟨fun other => by simpa using hheld other, hmuted, hlive⟩
  | held holder record isMuted =>
    exact ⟨fun other => by simpa using hheld other, hmuted, hlive⟩

theorem At.pauseGroup?_of_not_mem (h : store.At id placement) {ids : List String} (hid : id ∉ ids)
    (hafter : store.pauseGroup? groupId ids = some after) : after.At id placement := by
  refine ⟨fun other => ?_, ?_, ?_⟩
  · rw [heldIn?_pauseGroup? hafter, if_neg (fun hc => hid hc.2.1), h.held]
  · rw [muted_pauseGroup? hafter, h.muted]
  · rw [liveRecord_pauseGroup? hafter, if_neg hid, h.live]

theorem At.pause_of_refused (h : store.At id placement) {ids : List String} (hid : id ∈ ids)
    (hafter : store.pauseGroup? groupId ids = none) : placement.pause groupId = placement := by
  have hget := get?_soundingRecords store ids id
  rw [soundingRecords_of_refused hafter, h.live] at hget
  cases placement with
  | live record =>
    have hr : record = ∅ := by
      by_contra hr
      simp [hid, hr, Placement.live?] at hget
    simp [hr]
  | muted record => rfl
  | held holder record isMuted => rfl

theorem At.unpauseGroup? (h : store.At id placement)
    (hafter : store.unpauseGroup? groupId = some after) :
    after.At id (placement.unpause groupId) := by
  have hheld := fun other => heldIn?_unpauseGroup? hafter other id
  have hlive := liveRecord_unpauseGroup? hafter id
  have hmuted := muted_unpauseGroup? hafter id
  simp only [h.isMuted_eq, h.held, h.muted, h.live] at hheld hlive hmuted
  cases placement with
  | live record =>
    exact ⟨fun other => by simpa [Placement.heldIn?] using hheld other, by simpa using hmuted,
      by simpa [Placement.muted?, Placement.heldIn?] using hlive⟩
  | muted record =>
    exact ⟨fun other => by simpa [Placement.heldIn?] using hheld other,
      by simpa [Placement.muted?, Placement.heldIn?] using hmuted, by simpa using hlive⟩
  | held holder record isMuted =>
    by_cases hg : holder = groupId
    · subst hg
      have hnone (other : String) : after.heldIn? other id = none := by
        rw [hheld other]
        by_cases ho : other = holder <;> simp [Placement.heldIn?, ho]
      cases isMuted <;>
        exact ⟨fun other => by simpa using hnone other, by simpa using hmuted, by simpa using hlive⟩
    · have hne : groupId ≠ holder := Ne.symm hg
      refine ⟨fun other => ?_, ?_, ?_⟩
      · rw [hheld other]
        by_cases ho : other = groupId
        · subst ho
          simp [Placement.heldIn?, hg, hne]
        · simp [ho, hg]
      · cases isMuted <;> simpa [Placement.muted?, Placement.heldIn?, hg, hne] using hmuted
      · cases isMuted <;>
          simpa [Placement.muted?, Placement.heldIn?, Placement.live?, hg, hne] using hlive

theorem At.unpause_of_refused (h : store.At id placement)
    (hafter : store.unpauseGroup? groupId = none) : placement.unpause groupId = placement := by
  have hnone := h.held groupId
  rw [heldIn?, Option.map_eq_none_iff.mp hafter, Option.bind_none] at hnone
  cases placement with
  | live record => rfl
  | muted record => rfl
  | held holder record isMuted =>
    by_cases hg : groupId = holder
    · simp [Placement.heldIn?, hg] at hnone
    · simp [Ne.symm hg]

end Store

end Patchbay
