import Patchbay.Proofs.HeldRecords

namespace Patchbay

namespace Store

def pausedUpTo (store : Store) (groupId : String) : Store :=
  { store with paused := store.paused.filter fun other _ => other ≤ groupId }

theorem heldIn?_pausedUpTo (store : Store) (groupId other id : String) :
    (store.pausedUpTo groupId).heldIn? other id =
      if other ≤ groupId then store.heldIn? other id else none := by
  rw [heldIn?, pausedUpTo, Table.get?_filter, heldIn?]
  cases store.paused.get? other with
  | none => simp
  | some held => by_cases h : other ≤ groupId <;> simp [Option.filter_some, h]

def refile (store : Store) (source target : String) (ids : List String) : Store :=
  let rekeyed := store.rekeyPausedGroup source target
  (rekeyed.pauseGroup? target ids).getD rekeyed

section Refile

variable (store : Store) (source target : String) (ids : List String)

theorem muted_refile : (store.refile source target ids).muted = store.muted :=
  (muted_pauseGroup?_getD _ _ _).trans (muted_rekeyPausedGroup _ _ _)

theorem get?_live_refile (id : String) :
    (store.refile source target ids).live.get? id =
      if id ∈ ids ∧ store.liveRecord id ≠ ∅ then some ∅ else store.live.get? id := by
  rw [refile, get?_live_pauseGroup?_getD, liveRecord_rekeyPausedGroup, live_rekeyPausedGroup]

theorem liveRecord_refile (id : String) :
    (store.refile source target ids).liveRecord id =
      if id ∈ ids then ∅ else store.liveRecord id := by
  rw [refile, liveRecord_pauseGroup?_getD, liveRecord_rekeyPausedGroup]

theorem heldIn?_refile_self (groupId id : String) :
    (store.refile target target ids).heldIn? groupId id =
      if groupId = target ∧ id ∈ ids ∧ store.liveRecord id ≠ ∅ then some (store.liveRecord id)
      else store.heldIn? groupId id := by
  rw [refile, heldIn?_pauseGroup?_getD, rekeyPausedGroup, if_pos rfl]

theorem heldIn?_refile_of_ne {source target : String} (hne : source ≠ target) (id : String) :
    (store.refile source target ids).heldIn? source id = none := by
  rw [refile, heldIn?_pauseGroup?_getD, if_neg fun hc => hne hc.1,
    heldIn?_rekeyPausedGroup _ _ _ hne, if_neg hne, if_pos rfl]

theorem held_of_refile {groupId id : String}
    (h : ((store.refile source target ids).heldIn? groupId id).isSome) :
    (∃ other, (store.heldIn? other id).isSome) ∨ store.liveRecord id ≠ ∅ := by
  rcases held_of_pauseGroup?_getD h with hheld | hlive
  · exact .inl (exists_held_of_rekeyPausedGroup _ _ _ hheld)
  · exact .inr (by rwa [liveRecord_rekeyPausedGroup] at hlive)

end Refile

end Store

namespace Group

variable {nodes : List Node} {edges : List Edge} {store other : Store}

theorem isMember_congr {id : String} (h : store.HasRecord id ↔ other.HasRecord id) :
    isMember nodes store id = isMember nodes other id := by
  rw [Bool.eq_iff_iff, isMember_iff_contributes, isMember_iff_contributes, Contributes,
    Contributes, h]

theorem membersOf_congr (h : ∀ id, store.HasRecord id ↔ other.HasRecord id)
    (component : List String) :
    membersOf nodes edges store component = membersOf nodes edges other component :=
  List.filter_congr fun id _ => isMember_congr (h id)

theorem groupId_eq_idOf_membersOf {group : Group} (h : group ∈ all nodes edges store) {id : String}
    (hid : id ∈ group.nodeIds) :
    group.groupId = idOf (membersOf nodes edges store (connectedIds edges id)) := by
  rw [(groupId_eq h).1]
  refine idOf_congr
    ((List.perm_ext_iff_of_nodup (nodup_nodeIds h) (nodup_membersOf id)).mpr fun other => ?_)
  rw [mem_nodeIds h hid, mem_membersOf]

end Group

def Store.HoldsEdits (store : Store) : Prop :=
  ∀ groupId id record, store.isMuted id = false → store.heldIn? groupId id = some record →
    record ≠ ∅ ∧ record.NullFree

namespace Session

variable {session restored : Session} {done todo : List (String × Table Record)}
    {groupId id : String}
  {held : Table Record}

theorem heldIn?_of_mem_paused (h : (groupId, held) ∈ session.store.paused.entries) (id : String) :
    session.store.heldIn? groupId id = held.get? id := by
  rw [Store.heldIn?, (Table.mem_entries _ groupId held).mp h, Option.bind_some]

/-- The restored session while paused groups are yet to be replayed: of the nodes that they hold and
that are not muted, nothing is kept. -/
structure Awaiting (session : Session) (todo : List (String × Table Record))
    (restored : Session) : Prop where
  suffix : todo <:+ session.store.paused.entries
  nodes : restored.nodes = session.nodes
  edges : restored.edges = session.edges
  muted : restored.store.muted = session.store.muted
  bare : ∀ saved ∈ todo, ∀ id, saved.2.contains id → session.store.isMuted id = false →
    restored.store.Bare id

section Awaiting

variable (h : session.Awaiting ((groupId, held) :: todo) restored) (horderly : session.Orderly)
  (hedits : session.store.HoldsEdits)

include h

theorem Awaiting.mem_paused : (groupId, held) ∈ session.store.paused.entries :=
  h.suffix.mem List.mem_cons_self

theorem Awaiting.isMuted (id : String) : restored.store.isMuted id = session.store.isMuted id :=
  Store.isMuted_congr h.muted id

include hedits

theorem Awaiting.putBack : Store.PutBack groupId restored.store
    (held.entries.foldl (Store.putBack groupId) restored.store) held.entries := by
  have hget {entry : String × Record} (hentry : entry ∈ held.entries) :
      held.get? entry.1 = some entry.2 := (Table.mem_entries held _ _).mp hentry
  refine Store.putBack_foldl held.nodup_keys (fun entry hentry hmuted => ?_)
    fun entry hentry hmuted => ?_
  · rw [h.isMuted] at hmuted
    exact h.bare _ List.mem_cons_self entry.1 (by rw [Table.contains, hget hentry]; rfl) hmuted
  · rw [h.isMuted] at hmuted
    refine (hedits groupId entry.1 entry.2 hmuted ?_).2
    rw [heldIn?_of_mem_paused h.mem_paused, hget hentry]

include horderly

theorem Awaiting.hasRecord_putBack (hid : held.contains id) :
    (held.entries.foldl (Store.putBack groupId) restored.store).HasRecord id := by
  have hput := h.putBack hedits
  obtain ⟨record, hrecord⟩ := Option.isSome_iff_exists.mp hid
  have hlookup : held.entries.lookup id = some record := hrecord
  have hheld := (heldIn?_of_mem_paused h.mem_paused id).trans hrecord
  cases hmuted : session.store.isMuted id with
  | true =>
    have hne := horderly.store.filled groupId id record hmuted hheld
    refine .inr (.inr ⟨groupId, ?_⟩)
    rw [hput.held, h.isMuted, hlookup, if_pos ⟨rfl, hmuted⟩]
    simp [Option.filter_some, hne]
  | false =>
    refine .inl ?_
    rw [hput.live, h.isMuted, hmuted, hlookup]
    exact (hedits groupId id record hmuted hheld).1

theorem Awaiting.exists_refile :
    ∃ first ∈ held.keys.head?, ∃ group : Group,
      let put := held.entries.foldl (Store.putBack groupId) restored.store
      restored.replayGroup (groupId, held) =
          { restored with store := put.refile groupId group.groupId group.nodeIds } ∧
        group.groupId = Group.idOf (Group.membersOf session.nodes session.edges put
          (connectedIds session.edges first)) ∧
        ∀ id, id ∈ group.nodeIds ↔
          Joined session.edges first id ∧ Group.isMember session.nodes put id := by
  have hnode (key : String) (hkey : held.contains key) : session.hasNode key :=
    horderly.known groupId key (by rwa [heldIn?_of_mem_paused h.mem_paused])
  have hrestored (key : String) (hkey : held.contains key) : restored.hasNode key := by
    rw [Session.hasNode, node?, h.nodes]
    exact hnode key hkey
  cases hhead : held.keys.head? with
  | none =>
    obtain ⟨id, record, hrecord⟩ := (Table.ne_empty_iff held).mp
      (horderly.store.inhabited groupId held ((Table.mem_entries _ _ _).mp h.mem_paused))
    have hid : id ∈ held.keys :=
      (Table.mem_keys held id).mpr (Option.isSome_iff_exists.mpr ⟨record, hrecord⟩)
    rw [List.head?_eq_none_iff.mp hhead] at hid
    cases hid
  | some first =>
    have hfirst := (Table.mem_keys held first).mp (List.mem_of_mem_head? hhead)
    rw [replayGroup_eq_pauseComponent hrestored, hhead]
    have hrecord := h.hasRecord_putBack horderly hedits hfirst
    generalize held.entries.foldl (Store.putBack groupId) restored.store = put at *
    have hmember : Group.isMember session.nodes put first := by
      obtain ⟨node, hlast⟩ : ∃ node, lastNode? session.nodes first = some node := by
        rw [← Option.isSome_iff_exists, lastNode?_isSome, ← hasNode_iff_mem_ids]
        exact hnode first hfirst
      exact (Group.isMember_iff_contributes _ _ _).mpr ⟨node, hlast, .inl hrecord⟩
    cases hgroup : ({ restored with store := put } : Session).groupOf? first with
    | none =>
      have hnot := groupOf?_eq_none hgroup
      rw [h.nodes] at hnot
      exact absurd (hnot.symm.trans hmember) Bool.false_ne_true
    | some group =>
      obtain ⟨hmem, hin⟩ := groupOf?_eq_some hgroup
      rw [Session.groups, h.nodes, h.edges] at hmem
      refine ⟨first, rfl, group, ?_, Group.groupId_eq_idOf_membersOf hmem hin,
        Group.mem_nodeIds hmem hin⟩
      rw [pauseComponent, Option.bind_some, hgroup]
      rfl

theorem Awaiting.bare_replayGroup (hid : held.contains id → session.store.isMuted id)
    (hmuted : session.store.isMuted id = false) (hbare : restored.store.Bare id) :
    (restored.replayGroup (groupId, held)).store.Bare id := by
  have hput := h.putBack hedits
  obtain ⟨first, _, group, heq, _⟩ := h.exists_refile horderly hedits
  have hnone : held.entries.lookup id = none := by
    by_contra hsome
    exact Bool.false_ne_true (hmuted.symm.trans (hid (Option.isSome_iff_ne_none.mpr hsome)))
  have hlive : (held.entries.foldl (Store.putBack groupId) restored.store).liveRecord id = ∅ := by
    rw [hput.live, h.isMuted, hmuted, hnone]
    exact hbare.2
  rw [heq]
  refine ⟨fun other => ?_, ?_⟩
  · by_contra hsome
    rcases Store.held_of_refile _ _ _ _
      (Option.isSome_iff_ne_none.mpr hsome) with ⟨group', hheld⟩ | hne
    · rw [hput.held, h.isMuted, hmuted, if_neg (by simp), hbare.1] at hheld
      cases hheld
    · exact hne hlive
  · rw [Store.liveRecord_refile, hlive, ite_self]

theorem Awaiting.replayGroup : session.Awaiting todo (restored.replayGroup (groupId, held)) := by
  obtain ⟨first, _, group, heq, _⟩ := h.exists_refile horderly hedits
  have hput := h.putBack hedits
  obtain ⟨done, hsplit⟩ := h.suffix
  refine ⟨⟨done ++ [(groupId, held)], by rw [← hsplit]; simp⟩, ?_, ?_, ?_,
    fun saved hsaved id hid hmuted => ?_⟩
  · rw [heq, ← h.nodes]
  · rw [heq, ← h.edges]
  · rw [heq, Store.muted_refile, hput.muted, h.muted]
  · refine h.bare_replayGroup horderly hedits (fun hown => ?_) hmuted
      (h.bare saved (List.mem_cons_of_mem _ hsaved) id hid hmuted)
    have hmem : saved ∈ session.store.paused.entries := h.suffix.mem (List.mem_cons_of_mem _ hsaved)
    have hsame : groupId = saved.1 := horderly.store.once id groupId saved.1 hmuted
      (by rwa [heldIn?_of_mem_paused h.mem_paused]) (by rwa [heldIn?_of_mem_paused hmem])
    have hsorted := session.store.paused.sorted
    rw [← hsplit, List.pairwise_append, List.pairwise_cons] at hsorted
    exact absurd (hsorted.2.1.1 saved hsaved) (hsame ▸ String.lt_irrefl _)

theorem Awaiting.liveRecord_replayGroup (hid : held.contains id → session.store.isMuted id)
    (hlive : restored.store.liveRecord id = ∅) :
    (restored.replayGroup (groupId, held)).store.liveRecord id = ∅ := by
  have hput := h.putBack hedits
  obtain ⟨first, _, group, heq, _⟩ := h.exists_refile horderly hedits
  rw [heq, Store.liveRecord_refile, hput.live, h.isMuted, hlive]
  cases hlookup : held.entries.lookup id with
  | none => simp
  | some record =>
    rw [hid (by rw [Table.contains, Table.get?, hlookup]; rfl)]
    simp

end Awaiting

section Replay

variable (horderly : session.Orderly) (hedits : session.store.HoldsEdits)

include horderly hedits

theorem Awaiting.liveRecord_foldl (h : session.Awaiting todo restored)
    (hid : ∀ saved ∈ todo, saved.2.contains id → session.store.isMuted id)
    (hlive : restored.store.liveRecord id = ∅) :
    (todo.foldl Session.replayGroup restored).store.liveRecord id = ∅ := by
  induction todo generalizing restored with
  | nil => exact hlive
  | cons saved rest ih =>
    have hown := hid saved List.mem_cons_self
    exact ih (h.replayGroup horderly hedits)
      (fun other hother => hid other (List.mem_cons_of_mem _ hother))
      (h.liveRecord_replayGroup horderly hedits hown hlive)

/-- If all paused groups are found again under their ids, then none of them was filed elsewhere, and
none of them changed what is held under the id of another. -/
theorem Awaiting.heldIn?_foldl (h : session.Awaiting todo restored)
    (hfound : ∀ saved ∈ todo, ∃ id,
      ((todo.foldl Session.replayGroup restored).store.heldIn? saved.1 id).isSome)
    (hnot : groupId ∉ todo.map (·.1)) (id : String) :
    (todo.foldl Session.replayGroup restored).store.heldIn? groupId id =
      restored.store.heldIn? groupId id := by
  induction todo generalizing restored groupId id with
  | nil => rfl
  | cons saved rest ih =>
    rw [List.map_cons, List.mem_cons, not_or] at hnot
    obtain ⟨hne, hrest⟩ := hnot
    have hnext {group : String} (hnot : group ∉ rest.map (·.1)) :=
      ih (h.replayGroup horderly hedits)
        (fun other hother => hfound other (List.mem_cons_of_mem saved hother))
        hnot
    have hput := h.putBack hedits
    obtain ⟨first, _, group, heq, _⟩ := h.exists_refile horderly hedits
    have hfiled : saved.1 = group.groupId := by
      by_contra hfiled
      have hlast : saved.1 ∉ rest.map (·.1) := by
        obtain ⟨done, hsplit⟩ := h.suffix
        have hnodup := session.store.paused.nodup_keys
        rw [← hsplit, List.map_append, List.map_cons] at hnodup
        exact (List.nodup_cons.mp (List.Nodup.of_append_right hnodup)).1
      obtain ⟨other, hother⟩ := hfound saved List.mem_cons_self
      rw [List.foldl_cons, hnext hlast, heq, Store.heldIn?_refile_of_ne _ _ hfiled] at hother
      cases hother
    rw [List.foldl_cons, hnext hrest, heq, ← hfiled, Store.heldIn?_refile_self,
      if_neg fun hc => hne hc.1, hput.held, if_neg fun hc => hne hc.1]

end Replay

end Session

end Patchbay
