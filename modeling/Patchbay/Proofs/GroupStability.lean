import Patchbay.Proofs.PausePlay
import Patchbay.Proofs.RestoreViews

namespace Patchbay

namespace Store

variable {store after : Store} {id groupId : String}

/-- The stores that operations lead to, among them those by which a saved store is rebuilt. -/
inductive Reached : Store → Prop where
  | empty : Reached {}
  | apply {store : Store} (h : Reached store) (operation : Operation) :
    Reached (store.apply operation)
  | hold {store : Store} (h : Reached store) (groupId id : String) (record : Record) :
      Reached (store.holdInPausedGroup groupId id record)
  | rekey {store : Store} (h : Reached store) (source target : String) :
      Reached (store.rekeyPausedGroup source target)

/-- A muted node has no live record that its parked one could take the place of. -/
def MutesSilence (store : Store) : Prop :=
  ∀ id record, store.muted.get? id = some record → store.liveRecord id = ∅

theorem MutesSilence.updateNode (h : store.MutesSilence) (id : String) (edit : Record) :
    (store.updateNode id edit).MutesSilence := by
  obtain ⟨_, _, _, _, _, _, hafter⟩ | ⟨record, _, hmuted, hafter⟩ | ⟨_, hmuted, hafter⟩ :=
    store.updateNode_cases id edit
  · rw [hafter]
    exact h
  · rw [hafter]
    intro other found hfound
    by_cases ho : other = id
    · exact ho ▸ h id record hmuted
    · exact h other found (by simpa [ho] using hfound)
  · rw [hafter]
    intro other found hfound
    have ho : other ≠ id := by
      rintro rfl
      cases hmuted.symm.trans hfound
    rw [liveRecord_insert, if_neg ho]
    exact h other found hfound

theorem MutesSilence.apply (h : store.MutesSilence) (operation : Operation) :
    (store.apply operation).MutesSilence := by
  cases operation with
  | update id changes => exact h.updateNode id changes
  | mute id =>
    cases hafter : store.muteNode? id with
    | none => simpa [Store.apply, hafter] using h
    | some after =>
      obtain ⟨_, rfl⟩ := muteNode?_eq_some hafter
      rw [Store.apply, hafter]
      intro other found hfound
      rw [Option.getD_some, liveRecord, Table.get?_insert]
      by_cases ho : other = id
      · rw [if_pos ho]
        rfl
      · rw [if_neg ho]
        exact h other found (by simpa [ho] using hfound)
  | unmute id =>
    cases hafter : store.unmuteNode? id with
    | none => simpa [Store.apply, hafter] using h
    | some after =>
      obtain ⟨_, _, rfl⟩ := unmuteNode?_eq_some hafter
      rw [Store.apply, hafter]
      intro other found hfound
      have ho : other ≠ id := by
        rintro rfl
        simp at hfound
      rw [Option.getD_some, liveRecord, Table.get?_insert, if_neg ho]
      exact h other found (by simpa [ho] using hfound)
  | pause groupId ids =>
    intro other found hfound
    rw [Store.apply, muted_pauseGroup?_getD] at hfound
    rw [Store.apply, liveRecord_pauseGroup?_getD, h other found hfound, ite_self]
  | unpause groupId =>
    cases hafter : store.unpauseGroup? groupId with
    | none => simpa [Store.apply, hafter] using h
    | some after =>
      rw [Store.apply, hafter]
      intro other found hfound
      rw [Option.getD_some, muted_unpauseGroup? hafter] at hfound
      split at hfound
      · next hmuted =>
        obtain ⟨record, hrecord⟩ := Option.isSome_iff_exists.mp hmuted
        rw [Option.getD_some, liveRecord_unpauseGroup? hafter, if_pos hmuted]
        exact h other record hrecord
      · cases hfound
  | remove id =>
    intro other found hfound
    rw [Store.apply, muted_removeNode] at hfound
    rw [Store.apply, liveRecord_removeNode]
    by_cases ho : other = id
    · rw [if_pos ho]
    · rw [if_neg ho] at hfound ⊢
      exact h other found hfound

theorem Reached.mutesSilence (h : store.Reached) : store.MutesSilence := by
  induction h with
  | empty => exact nofun
  | apply _ operation ih => exact ih.apply operation
  | hold _ groupId id record ih =>
    intro other found hfound
    rw [muted_holdInPausedGroup] at hfound
    rw [liveRecord_holdInPausedGroup]
    exact ih other found hfound
  | rekey _ source target ih =>
    intro other found hfound
    rw [muted_rekeyPausedGroup] at hfound
    rw [liveRecord_rekeyPausedGroup]
    exact ih other found hfound

section HasRecord

variable (other : String)

theorem hasRecord_muteNode? (h : store.muteNode? id = some after) :
    after.HasRecord other ↔ store.HasRecord other := by
  obtain ⟨hunmuted, rfl⟩ := muteNode?_eq_some h
  by_cases ho : other = id
  · subst ho
    simp [HasRecord, liveRecord, heldIn?, hunmuted]
  · simp [HasRecord, liveRecord, heldIn?, ho]

theorem hasRecord_unmuteNode? (hsilent : store.MutesSilence)
    (h : store.unmuteNode? id = some after) :
    after.HasRecord other ↔ store.HasRecord other := by
  obtain ⟨record, hrecord, rfl⟩ := unmuteNode?_eq_some h
  by_cases ho : other = id
  · subst ho
    have hlive := hsilent other record hrecord
    rw [liveRecord] at hlive
    simp [HasRecord, liveRecord, hlive, heldIn?, hrecord]
  · simp [HasRecord, liveRecord, heldIn?, ho]

theorem hasRecord_unpauseGroup? (hfilled : store.heldIn? groupId other ≠ some ∅)
    (h : store.unpauseGroup? groupId = some after) :
    after.HasRecord other ↔ store.HasRecord other := by
  have hlive := liveRecord_unpauseGroup? h other
  have hmuted := muted_unpauseGroup? h other
  cases hheld : store.heldIn? groupId other with
  | none =>
    have hsame : after.muted.get? other = store.muted.get? other := by
      rw [hmuted, hheld, Option.none_or]
      split
      · rfl
      · next hnot => exact (Option.not_isSome_iff_eq_none.mp hnot).symm
    have helsewhere (group : String) : after.heldIn? group other = store.heldIn? group other := by
      rw [heldIn?_unpauseGroup? h]
      by_cases hg : group = groupId
      · rw [if_pos hg, hg, hheld]
      · rw [if_neg hg]
    rw [hheld, Option.getD_none, ite_self] at hlive
    simp only [HasRecord, hlive, hsame, helsewhere]
  | some record =>
    have hne : record ≠ ∅ := fun he => hfilled (he ▸ hheld)
    refine iff_of_true ?_ (.inr (.inr ⟨groupId, hheld ▸ rfl⟩))
    by_cases hm : store.isMuted other
    · rw [if_pos hm, hheld] at hmuted
      exact .inr (.inl ⟨record, hmuted, hne⟩)
    · rw [if_neg hm, hheld] at hlive
      exact .inl (hlive ▸ hne)

end HasRecord

/-- The operations that only move records between the tables. Playing a group is one of them if none
of the records that it holds is empty. -/
inductive Moves (store : Store) : Operation → Prop where
  | mute (id : String) : Moves store (.mute id)
  | unmute (id : String) : Moves store (.unmute id)
  | pause (groupId : String) (ids : List String) : Moves store (.pause groupId ids)
  | unpause (groupId : String)
      (hfilled : ∀ held, store.paused.get? groupId = some held → ∀ entry ∈ held.entries,
        entry.2 ≠ ∅) :
      Moves store (.unpause groupId)

def MovesTo (store next : Store) : Prop :=
  ∃ operation, store.Moves operation ∧ next = store.apply operation

theorem Moves.hasRecord_iff (hsilent : store.MutesSilence) {operation : Operation}
    (h : store.Moves operation) (other : String) :
    (store.apply operation).HasRecord other ↔ store.HasRecord other := by
  cases h with
  | mute id =>
    cases hafter : store.muteNode? id with
    | none => rw [Store.apply, hafter, Option.getD_none]
    | some after => rw [Store.apply, hafter, Option.getD_some, hasRecord_muteNode? other hafter]
  | unmute id =>
    cases hafter : store.unmuteNode? id with
    | none => rw [Store.apply, hafter, Option.getD_none]
    | some after =>
      rw [Store.apply, hafter, Option.getD_some, hasRecord_unmuteNode? other hsilent hafter]
  | pause groupId ids =>
    cases hafter : store.pauseGroup? groupId ids with
    | none => rw [Store.apply, hafter, Option.getD_none]
    | some after => rw [Store.apply, hafter, Option.getD_some, hasRecord_pauseGroup? hafter]
  | unpause groupId hfilled =>
    cases hafter : store.unpauseGroup? groupId with
    | none => rw [Store.apply, hafter, Option.getD_none]
    | some after =>
      rw [Store.apply, hafter, Option.getD_some]
      refine hasRecord_unpauseGroup? other (fun hempty => ?_) hafter
      obtain ⟨held, hheld, hrecord⟩ := heldIn?_eq_some.mp hempty
      exact hfilled held hheld (other, ∅) ((Table.mem_entries _ _ _).mpr hrecord) rfl

end Store

namespace Group

variable {nodes : List Node} {edges : List Edge} {store later : Store}

theorem all_of_moves (hreached : store.Reached) {operation : Store.Operation}
    (h : store.Moves operation) :
    all nodes edges (store.apply operation) = all nodes edges store := by
  refine all_congr fun id => ?_
  rw [Bool.eq_iff_iff, isMember_iff_contributes, isMember_iff_contributes]
  unfold Contributes
  simp only [h.hasRecord_iff hreached.mutesSilence]

theorem all_of_movesTo (hreached : store.Reached)
    (h : Relation.ReflTransGen Store.MovesTo store later) :
    later.Reached ∧ all nodes edges later = all nodes edges store := by
  induction h with
  | refl => exact ⟨hreached, rfl⟩
  | tail _ hstep ih =>
    obtain ⟨operation, hmoves, rfl⟩ := hstep
    exact ⟨ih.1.apply operation, (all_of_moves ih.1 hmoves).trans ih.2⟩

/-- Muting, unmuting, pausing and playing leave the groups as they are, unless a group is played
that holds an empty record. So a group that is paused under its id is still the one with that id
after however many of them. -/
theorem moving_keeps_groups (hreached : store.Reached) (nodes : List Node) (edges : List Edge) :
    (∀ operation, store.Moves operation →
        all nodes edges (store.apply operation) = all nodes edges store) ∧
      ∀ group ∈ all nodes edges store, ∀ later,
        Relation.ReflTransGen Store.MovesTo
          (store.apply (.pause group.groupId group.nodeIds)) later →
          group ∈ all nodes edges later := by
  refine ⟨fun operation hmoves => all_of_moves hreached hmoves, fun group hgroup later hlater => ?_⟩
  have hpaused : all nodes edges (store.apply (.pause group.groupId group.nodeIds)) =
      all nodes edges store :=
    all_of_moves hreached (.pause group.groupId group.nodeIds)
  rw [(all_of_movesTo (hreached.apply _) hlater).2, hpaused]
  exact hgroup

/-- A label with a record is a group while it is paused, muted and played again into the mute. -/
theorem paused_label_stays_group :
    let nodes : List Node := [{ id := "note", typeId := "label" }]
    let labelled : Store := Store.apply {} (.update "note" (.ofList [("text", .string "intro")]))
    let group : Group := ⟨"note", ["note"]⟩
    let paused := labelled.apply (.pause group.groupId group.nodeIds)
    let later := ((paused.apply (.mute "note")).apply (.unpause "note"))
    labelled.Reached ∧ labelled.Moves (.mute "note") ∧
      all nodes [] (labelled.apply (.mute "note")) = all nodes [] labelled ∧
      group ∈ all nodes [] labelled ∧ Relation.ReflTransGen Store.MovesTo paused later ∧
      later ≠ paused ∧ group ∈ all nodes [] later := by
  intro nodes labelled group paused later
  have hreached : labelled.Reached := Store.Reached.empty.apply _
  have hgroup : group ∈ all nodes [] labelled := by decide +kernel
  have hlater : Relation.ReflTransGen Store.MovesTo paused later := by
    refine .tail (.single ⟨_, .mute "note", rfl⟩) ⟨_, .unpause "note" fun held hheld => ?_, rfl⟩
    have hget : (paused.apply (.mute "note")).paused.get? "note" =
        some (.ofList [("note", .ofList [("text", .string "intro")])]) := by decide +kernel
    obtain rfl := Option.some.inj (hheld.symm.trans hget)
    decide +kernel
  obtain ⟨hsame, hstays⟩ := moving_keeps_groups hreached nodes []
  exact ⟨hreached, .mute "note", hsame _ (.mute "note"), hgroup, hlater, by decide +kernel,
    hstays group hgroup later hlater⟩

end Group

end Patchbay
