import Patchbay.Proofs.RecordMerge
import Patchbay.Proofs.StorePlacement

namespace Patchbay

namespace Store

inductive Operation where
  | update (id : String) (changes : Record)
  | mute (id : String)
  | unmute (id : String)
  | pause (groupId : String) (ids : List String)
  | unpause (groupId : String)
  | remove (id : String)

def apply (store : Store) : Operation → Store
  | .update id changes => store.updateNode id changes
  | .mute id => (store.muteNode? id).getD store
  | .unmute id => (store.unmuteNode? id).getD store
  | .pause groupId ids => (store.pauseGroup? groupId ids).getD store
  | .unpause groupId => (store.unpauseGroup? groupId).getD store
  | .remove id => store.removeNode id

def run (store : Store) (operations : List Operation) : Store :=
  operations.foldl apply store

/-- The records if nothing counted but edits and removals. -/
def enter (book : Table Record) : Operation → Table Record
  | .update id changes => book.insert id (((book.get? id).getD ∅).merge changes)
  | .remove id => book.erase id
  | .mute _ | .unmute _ | .pause _ _ | .unpause _ => book

/-- The book of a run: each node's record by its edits and removals alone. -/
def bookOf (operations : List Operation) : Table Record :=
  operations.foldl enter ∅

inductive Place where
  | live
  | muted
  | paused (groupId : String)

/-- What is kept of a node at a place; an absent record counts as an empty one. -/
def keptAt (store : Store) : Place → String → Record
  | .live, id => store.liveRecord id
  | .muted, id => (store.muted.get? id).getD ∅
  | .paused groupId, id => (store.heldIn? groupId id).getD ∅

end Store

def Placement.step (id : String) (placement : Placement) : Store.Operation → Placement
  | .update other changes => if other = id then placement.edit changes else placement
  | .mute other => if other = id then placement.mute else placement
  | .unmute other => if other = id then placement.unmute else placement
  | .pause groupId ids => if id ∈ ids then placement.pause groupId else placement
  | .unpause groupId => placement.unpause groupId
  | .remove other => if other = id then .live ∅ else placement

theorem Placement.record_step (id : String) (placement : Placement) (book : Table Record)
    (h : placement.record = (book.get? id).getD ∅) (operation : Store.Operation) :
    (placement.step id operation).record = ((Store.enter book operation).get? id).getD ∅ := by
  cases operation with
  | update other changes =>
    by_cases ho : other = id
    · rw [step, if_pos ho, record_edit, h, Store.enter, ho, Table.get?_insert, if_pos rfl]
      rfl
    · rw [step, if_neg ho, Store.enter, Table.get?_insert, if_neg (Ne.symm ho), h]
  | mute other =>
    by_cases ho : other =
      id <;> simp only [step, ho, Store.enter, record_mute, h, if_true, if_false]
  | unmute other =>
    by_cases ho : other =
      id <;> simp only [step, ho, Store.enter, record_unmute, h, if_true, if_false]
  | pause groupId ids =>
    by_cases hid :
      id ∈ ids <;> simp only [step, hid, Store.enter, record_pause, h, if_true, if_false]
  | unpause groupId => rw [step, record_unpause, Store.enter, h]
  | remove other =>
    by_cases ho : other = id
    · rw [step, if_pos ho, Store.enter, ho, Table.get?_erase, if_pos rfl]
      rfl
    · rw [step, if_neg ho, Store.enter, Table.get?_erase, if_neg (Ne.symm ho), h]

namespace Store

variable {store : Store} {id : String} {placement : Placement}

/-- Every operation moves the record of a node, if at all, as a whole: the store is then at the
place where the operation put it. -/
theorem At.apply (h : store.At id placement) (operation : Operation) :
    (store.apply operation).At id (placement.step id operation) := by
  cases operation with
  | update other changes =>
    by_cases ho : other = id
    · subst ho
      simpa [Store.apply, Placement.step] using h.updateNode changes
    · simpa [Store.apply, Placement.step, ho] using h.updateNode_ne (Ne.symm ho) changes
  | mute other =>
    cases hafter : store.muteNode? other with
    | none =>
      by_cases ho : other = id
      · subst ho
        simpa [Store.apply, Placement.step, hafter, h.mute_of_refused hafter] using h
      · simpa [Store.apply, Placement.step, hafter, ho] using h
    | some after =>
      by_cases ho : other = id
      · subst ho
        simpa [Store.apply, Placement.step, hafter] using h.muteNode? hafter
      · simpa [Store.apply, Placement.step, hafter, ho] using h.muteNode?_ne (Ne.symm ho) hafter
  | unmute other =>
    cases hafter : store.unmuteNode? other with
    | none =>
      by_cases ho : other = id
      · subst ho
        simpa [Store.apply, Placement.step, hafter, h.unmute_of_refused hafter] using h
      · simpa [Store.apply, Placement.step, hafter, ho] using h
    | some after =>
      by_cases ho : other = id
      · subst ho
        simpa [Store.apply, Placement.step, hafter] using h.unmuteNode? hafter
      · simpa [Store.apply, Placement.step, hafter, ho] using h.unmuteNode?_ne (Ne.symm ho) hafter
  | pause groupId ids =>
    cases hafter : store.pauseGroup? groupId ids with
    | none =>
      by_cases hid : id ∈ ids
      · simpa [Store.apply, Placement.step, hafter, hid, h.pause_of_refused hid hafter] using h
      · simpa [Store.apply, Placement.step, hafter, hid] using h
    | some after =>
      by_cases hid : id ∈ ids
      · simpa [Store.apply, Placement.step, hafter, hid] using h.pauseGroup? hid hafter
      · simpa [Store.apply, Placement.step, hafter, hid] using h.pauseGroup?_of_not_mem hid hafter
  | unpause groupId =>
    cases hafter : store.unpauseGroup? groupId with
    | none => simpa [Store.apply, Placement.step, hafter, h.unpause_of_refused hafter] using h
    | some after => simpa [Store.apply, Placement.step, hafter] using h.unpauseGroup? hafter
  | remove other =>
    by_cases ho : other = id
    · subst ho
      simpa [Store.apply, Placement.step] using At.removeNode store other
    · simpa [Store.apply, Placement.step, ho] using h.removeNode_ne (Ne.symm ho)

theorem at_empty (id : String) : ({} : Store).At id (.live ∅) := ⟨fun _ => rfl, rfl, rfl⟩

theorem exists_at_run (operations : List Operation) (store : Store) (id : String)
    (placement : Placement) (book : Table Record) (h : store.At id placement)
    (hbook : placement.record = (book.get? id).getD ∅) :
    ∃ placement, (store.run operations).At id placement ∧
      placement.record = ((operations.foldl enter book).get? id).getD ∅ := by
  induction operations generalizing store placement book with
  | nil => exact ⟨placement, h, hbook⟩
  | cons operation rest ih =>
    exact ih _ _ _ (h.apply operation) (placement.record_step id book hbook operation)

def Inhabited (store : Store) : Prop :=
  ∀ groupId held, store.paused.get? groupId = some held → held ≠ ∅

theorem Inhabited.get?_paused_eq_none (h : store.Inhabited) {groupId : String}
    (hnone : ∀ id, store.heldIn? groupId id = none) : store.paused.get? groupId = none := by
  by_contra hsome
  obtain ⟨held, hget⟩ := Option.ne_none_iff_exists'.mp hsome
  obtain ⟨id, record, hrecord⟩ := (Table.ne_empty_iff held).mp (h groupId held hget)
  cases (hnone id).symm.trans (heldIn?_eq_some.mpr ⟨held, hget, hrecord⟩)

theorem heldIn?_eq_none {groupId : String} (h : store.paused.get? groupId = none) (id : String) :
    store.heldIn? groupId id = none := by
  rw [heldIn?, h, Option.bind_none]

/-- Stores without empty paused groups are told apart by what they keep of single nodes. -/
theorem Inhabited.ext {other : Store} (h : store.Inhabited) (h' : other.Inhabited)
    (hlive : store.live = other.live) (hmuted : store.muted = other.muted)
    (hheld : ∀ groupId id, store.heldIn? groupId id = other.heldIn? groupId id) :
    store = other := by
  have hpaused : store.paused = other.paused := by
    refine Table.ext fun groupId => ?_
    cases hget : store.paused.get? groupId with
    | none =>
      refine (h'.get?_paused_eq_none fun id => ?_).symm
      rw [← hheld, heldIn?_eq_none hget]
    | some held =>
      cases hget' : other.paused.get? groupId with
      | none =>
        have hlost := h.get?_paused_eq_none fun id => by rw [hheld, heldIn?_eq_none hget']
        cases hget.symm.trans hlost
      | some held' =>
        refine congrArg some (Table.ext fun id => ?_)
        have hsame := hheld groupId id
        rwa [heldIn?, heldIn?, hget, hget'] at hsame
  cases store
  cases other
  simp_all

theorem Inhabited.insert {live muted : Table Record} {groupId : String} {held : Table Record}
    (h : store.Inhabited) (hheld : held ≠ ∅) :
    Inhabited { live, muted, paused := store.paused.insert groupId held } := by
  intro other found hfound
  rw [Table.get?_insert] at hfound
  by_cases ho : other = groupId
  · rw [if_pos ho] at hfound
    exact Option.some.inj hfound ▸ hheld
  · rw [if_neg ho] at hfound
    exact h other found hfound

theorem Inhabited.apply (h : store.Inhabited) (operation : Operation) :
    (store.apply operation).Inhabited := by
  cases operation with
  | update id changes =>
    obtain ⟨_, _, record, _, _, _, hafter⟩ | ⟨_, _, _, hafter⟩ | ⟨_, _, hafter⟩ :=
      store.updateNode_cases id changes
    · rw [Store.apply, hafter]
      exact h.insert ((Table.ne_empty_iff _).mpr ⟨id, record.merge changes, by simp⟩)
    · rw [Store.apply, hafter]
      exact h
    · rw [Store.apply, hafter]
      exact h
  | mute id =>
    cases hafter : store.muteNode? id with
    | none => simpa [Store.apply, hafter] using h
    | some after =>
      obtain ⟨_, rfl⟩ := muteNode?_eq_some hafter
      rw [Store.apply, hafter]
      exact h
  | unmute id =>
    cases hafter : store.unmuteNode? id with
    | none => simpa [Store.apply, hafter] using h
    | some after =>
      obtain ⟨_, _, rfl⟩ := unmuteNode?_eq_some hafter
      rw [Store.apply, hafter]
      exact h
  | pause groupId ids =>
    cases hafter : store.pauseGroup? groupId ids with
    | none => simpa [Store.apply, hafter] using h
    | some after =>
      obtain ⟨hsaved, rfl⟩ := pauseGroup?_eq_some hafter
      obtain ⟨id, record, hget⟩ := (Table.ne_empty_iff _).mp hsaved
      rw [Store.apply, hafter]
      refine h.insert ((Table.ne_empty_iff _).mpr ⟨id, record, ?_⟩)
      rw [Table.get?_insertAll_entries, hget, Option.some_or]
  | unpause groupId =>
    cases hafter : store.unpauseGroup? groupId with
    | none => simpa [Store.apply, hafter] using h
    | some after =>
      obtain ⟨_, _, rfl⟩ := unpauseGroup?_eq_some hafter
      rw [Store.apply, hafter]
      intro other held hget
      by_cases ho : other = groupId
      · simp [ho] at hget
      · exact h other held (by simpa [ho] using hget)
  | remove id => exact fun _ _ => groups_removeNode store id h

theorem Inhabited.run (h : store.Inhabited) (operations : List Operation) :
    (store.run operations).Inhabited := by
  induction operations generalizing store with
  | nil => exact h
  | cons operation rest ih => exact ih (h.apply operation)

theorem At.keptAt_eq (h : store.At id placement) (place : Place) :
    store.keptAt place id = ∅ ∨ store.keptAt place id = placement.record := by
  cases place with
  | live =>
    rw [keptAt, h.live]
    cases placement <;> simp [Placement.live?, Placement.record]
  | muted =>
    rw [keptAt, h.muted]
    cases placement with
    | live record => exact .inl rfl
    | muted record => exact .inr rfl
    | held groupId record isMuted => cases isMuted <;> exact .inl rfl
  | paused groupId =>
    rw [keptAt, h.held]
    cases placement with
    | live record | muted record => exact .inl rfl
    | held holder record isMuted =>
      by_cases hg : groupId = holder <;> simp [Placement.heldIn?, Placement.record, hg]

def placeOf : Placement → Place
  | .live _ => .live
  | .muted _ => .muted
  | .held groupId _ _ => .paused groupId

theorem At.keptAt_placeOf (h : store.At id placement) :
    store.keptAt (placeOf placement) id = placement.record := by
  cases placement with
  | live record => exact h.live
  | muted record => rw [placeOf, keptAt, h.muted]; rfl
  | held groupId record isMuted =>
    rw [placeOf, keptAt, h.held]
    simp [Placement.heldIn?, Placement.record]

theorem At.place_eq (h : store.At id placement) {place : Place}
    (hkept : store.keptAt place id ≠ ∅) :
    place = placeOf placement := by
  cases place with
  | live =>
    rw [keptAt, h.live] at hkept
    cases placement with
    | live record => rfl
    | muted record | held groupId record isMuted => exact absurd rfl hkept
  | muted =>
    rw [keptAt, h.muted] at hkept
    cases placement with
    | live record => exact absurd rfl hkept
    | muted record => rfl
    | held groupId record isMuted => cases isMuted <;> exact absurd rfl hkept
  | paused groupId =>
    rw [keptAt, h.held] at hkept
    cases placement with
    | live record | muted record => exact absurd rfl hkept
    | held holder record isMuted =>
      by_cases hg : groupId = holder
      · rw [hg, placeOf]
      · simp [Placement.heldIn?, hg] at hkept

theorem At.holder_eq (h : store.At id placement) {groupId : String}
    (hheld : (store.heldIn? groupId id).isSome) :
    ∃ record isMuted, placement = .held groupId record isMuted := by
  rw [h.held] at hheld
  cases placement with
  | live record | muted record => cases hheld
  | held holder record isMuted =>
    by_cases hg : groupId = holder
    · exact ⟨record, isMuted, by rw [hg]⟩
    · simp [Placement.heldIn?, hg] at hheld

theorem At.eq_of_held (h : store.At id placement) {groupId other : String}
    (hheld : (store.heldIn? groupId id).isSome) (hother : (store.heldIn? other id).isSome) :
    groupId = other := by
  obtain ⟨_, _, rfl⟩ := h.holder_eq hheld
  obtain ⟨_, _, hplace⟩ := h.holder_eq hother
  exact (Placement.held.inj hplace).1

theorem At.liveRecord_of_held (h : store.At id placement) {groupId : String}
    (hheld : (store.heldIn? groupId id).isSome) : store.liveRecord id = ∅ := by
  obtain ⟨record, isMuted, rfl⟩ := h.holder_eq hheld
  exact h.live

/-- Whatever the order of edits, removals, mutes and pauses, a record is in one place at most, and
it is what the edits and removals alone have made of it. -/
theorem run_conserves (operations : List Operation) (id : String) :
    let store := run {} operations
    let record := ((bookOf operations).get? id).getD ∅
    (∀ place, store.keptAt place id ≠ ∅ → store.keptAt place id = record) ∧
      (∀ p q, store.keptAt p id ≠ ∅ → store.keptAt q id ≠ ∅ → p = q) ∧
      ((∀ place, store.keptAt place id = ∅) ↔ record = ∅) ∧
      (∀ g h, (store.heldIn? g id).isSome → (store.heldIn? h id).isSome → g = h) ∧
      (∀ groupId held, store.paused.get? groupId = some held → held ≠ ∅) ∧
      (store.liveRecord id ≠ ∅ →
        store.isMuted id = false ∧ ∀ groupId, store.heldIn? groupId id = none) := by
  intro store record
  obtain ⟨placement, hat, hrecord⟩ :=
    exists_at_run operations {} id (.live ∅) ∅ (at_empty id) rfl
  have hempty : Inhabited {} := by simp [Inhabited]
  refine ⟨fun place hkept => ?_, fun p q hp hq => ?_, ?_, fun g h hg hh => ?_,
    hempty.run operations, fun hlive => ?_⟩
  · exact ((hat.keptAt_eq place).resolve_left hkept).trans hrecord
  · exact (hat.place_eq hp).trans (hat.place_eq hq).symm
  · constructor
    · intro hall
      exact hrecord.symm.trans (hat.keptAt_placeOf.symm.trans (hall _))
    · intro hnone place
      rcases hat.keptAt_eq place with heq | heq
      · exact heq
      · exact heq.trans (hrecord.trans hnone)
  · obtain ⟨_, _, hplace⟩ := hat.holder_eq hg
    obtain ⟨_, _, hplace'⟩ := hat.holder_eq hh
    rw [hplace] at hplace'
    cases hplace'
    rfl
  · have hplace : .live = placeOf placement := hat.place_eq hlive
    cases placement with
    | live kept => exact ⟨by rw [isMuted, Table.contains, hat.muted]; rfl, hat.held⟩
    | muted kept | held groupId kept isMuted => cases hplace

end Store

end Patchbay
