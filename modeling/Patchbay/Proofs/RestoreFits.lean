import Patchbay.Proofs.RestoreReplay

namespace Patchbay.Session

variable {session restored : Session} {done todo : List (String × Table Record)}
    {groupId id : String}
  {held : Table Record}

/-- A paused group is restored as it is: what is not muted of it is joined to its first node,
nothing else that the first node is joined to is live, and the group is named by the members of the
component, as they are before the later paused groups are back. -/
structure Fits (session : Session) (groupId : String) (held : Table Record) : Prop where
  joined : ∀ first ∈ held.keys.head?, ∀ id, held.contains id → session.store.isMuted id = false →
    Joined session.edges first id
  silent : ∀ first ∈ held.keys.head?, ∀ id, session.hasNode id → Joined session.edges first id →
    session.store.liveRecord id = ∅
  named : ∀ first ∈ held.keys.head?, Group.idOf (Group.membersOf session.nodes session.edges
    (session.store.pausedUpTo groupId) (connectedIds session.edges first)) = groupId

structure PausesFit (session : Session) : Prop where
  edits : session.store.HoldsEdits
  fits : ∀ saved ∈ session.store.paused.entries, session.Fits saved.1 saved.2

/-- The restored session once some paused groups are back as they were, and the others are
not back. -/
structure RestoredUpTo (session : Session) (done todo : List (String × Table Record))
    (restored : Session) : Prop where
  split : session.store.paused.entries = done ++ todo
  nodes : restored.nodes = session.nodes
  edges : restored.edges = session.edges
  muted : restored.store.muted = session.store.muted
  live : restored.store.live = session.store.live
  held : ∀ groupId id, restored.store.heldIn? groupId id =
    if groupId ∈ done.map (·.1) then session.store.heldIn? groupId id else none

section UpTo

theorem RestoredUpTo.liveRecord (h : session.RestoredUpTo done todo restored) (id : String) :
    restored.store.liveRecord id = session.store.liveRecord id := by
  rw [Store.liveRecord, h.live, Store.liveRecord]

theorem RestoredUpTo.awaiting (h : session.RestoredUpTo done todo restored)
    (horderly : session.Orderly) :
    session.Awaiting todo restored := by
  refine ⟨⟨done, h.split.symm⟩, h.nodes, h.edges, h.muted, fun saved hsaved id hid hmuted => ?_⟩
  have hmem : saved ∈ session.store.paused.entries := h.split ▸ List.mem_append_right done hsaved
  have hheld : (session.store.heldIn? saved.1 id).isSome := by rwa [heldIn?_of_mem_paused hmem]
  refine ⟨fun other => ?_, (h.liveRecord id).trans ?_⟩
  · rw [h.held]
    split
    · next hdone =>
      by_contra hother
      have hsame :=
        horderly.store.once id saved.1 other hmuted hheld (Option.isSome_iff_ne_none.mpr hother)
      have hnodup := session.store.paused.nodup_keys
      rw [h.split, List.map_append] at hnodup
      exact (List.nodup_append.mp hnodup).2.2 other hdone saved.1
        (List.mem_map_of_mem hsaved) hsame.symm
    · rfl
  · obtain ⟨record, hrecord⟩ := Option.isSome_iff_exists.mp hheld
    exact horderly.store.liveRecord hmuted hheld

variable (h : session.RestoredUpTo done ((groupId, held) :: todo) restored)
    (horderly : session.Orderly)
  (hedits : session.store.HoldsEdits)

include h horderly hedits

theorem RestoredUpTo.live_putBack (hid : held.contains id → session.store.isMuted id) :
    (held.entries.foldl (Store.putBack groupId) restored.store).live.get? id =
      session.store.live.get? id := by
  have hwaiting := h.awaiting horderly
  rw [(hwaiting.putBack hedits).entry, hwaiting.isMuted, h.live]
  cases hlookup : held.entries.lookup id with
  | none => simp
  | some record => simp [hid (by rw [Table.contains, Table.get?, hlookup]; rfl)]

theorem RestoredUpTo.live_putBack_of_held {record : Record} (hrecord : held.get? id = some record)
    (hmuted : session.store.isMuted id = false) :
    (held.entries.foldl (Store.putBack groupId) restored.store).liveRecord id = record := by
  have hwaiting := h.awaiting horderly
  rw [(hwaiting.putBack hedits).live, hwaiting.isMuted, hmuted,
    show held.entries.lookup id = some record from hrecord]
  rfl

theorem RestoredUpTo.held_putBack (other : String) :
    (held.entries.foldl (Store.putBack groupId) restored.store).heldIn? other id =
      if other ∈ done.map (·.1) ∨ other = groupId ∧ session.store.isMuted id then
        session.store.heldIn? other id
      else none := by
  have hwaiting := h.awaiting horderly
  have hnot := Table.not_mem_before h.split
  rw [(hwaiting.putBack hedits).held, hwaiting.isMuted, h.held]
  by_cases hother : other = groupId
  · subst hother
    have hheld := heldIn?_of_mem_paused hwaiting.mem_paused id
    cases hmuted : session.store.isMuted id with
    | false => simp [hnot]
    | true =>
      simp only [hnot, and_self, if_true, if_false, or_true, Option.or_none, hheld]
      rw [show held.entries.lookup id = held.get? id from rfl]
      cases hrecord : held.get? id with
      | none => rfl
      | some record =>
        have hne := horderly.store.filled other id record hmuted (hheld.trans hrecord)
        simp [Option.filter_some, hne]
  · rw [if_neg fun hc => hother hc.1]
    exact if_congr (by simp [hother]) rfl rfl

theorem RestoredUpTo.hasRecord_putBack (id : String) :
    (held.entries.foldl (Store.putBack groupId) restored.store).HasRecord id ↔
      (session.store.pausedUpTo groupId).HasRecord id := by
  have hwaiting := h.awaiting horderly
  have hown := heldIn?_of_mem_paused hwaiting.mem_paused id
  have hmuted : (held.entries.foldl (Store.putBack groupId) restored.store).muted =
      session.store.muted :=
    (hwaiting.putBack hedits).muted.trans h.muted
  have hkey {other : String} (hother : (session.store.heldIn? other id).isSome) :
      other ≤ groupId ↔ other ∈ done.map (·.1) ∨ other = groupId := by
    refine Table.le_iff_of_split h.split ?_
    by_contra hnone
    rw [Store.heldIn?_eq_none (Option.not_isSome_iff_eq_none.mp hnone)] at hother
    cases hother
  constructor
  · rintro (hlive | hrecord | ⟨other, hother⟩)
    · by_cases hheld : held.contains id → session.store.isMuted id
      · refine .inl ?_
        rwa [Store.liveRecord, h.live_putBack horderly hedits hheld] at hlive
      · rw [Classical.not_imp] at hheld
        refine .inr (.inr ⟨groupId, ?_⟩)
        rw [Store.heldIn?_pausedUpTo, if_pos (String.le_refl _), hown]
        exact hheld.1
    · rw [hmuted] at hrecord
      exact .inr (.inl hrecord)
    · rw [h.held_putBack horderly hedits] at hother
      split at hother
      · next hin =>
        refine .inr (.inr ⟨other, ?_⟩)
        rwa [Store.heldIn?_pausedUpTo, if_pos ((hkey hother).mpr (hin.imp_right And.left))]
      · cases hother
  · rintro (hlive | hrecord | ⟨other, hother⟩)
    · refine .inl ?_
      rwa [Store.liveRecord, h.live_putBack horderly hedits fun hheld => ?_]
      by_contra hnot
      exact hlive (horderly.store.liveRecord (Bool.eq_false_iff.mpr hnot) (by rwa [hown]))
    · refine .inr (.inl ?_)
      rwa [hmuted]
    · rw [Store.heldIn?_pausedUpTo] at hother
      split at hother
      · next hle =>
        rcases (hkey hother).mp hle with hdone | rfl
        · refine .inr (.inr ⟨other, ?_⟩)
          rwa [h.held_putBack horderly hedits, if_pos (.inl hdone)]
        · rw [hown] at hother
          exact hwaiting.hasRecord_putBack horderly hedits hother
      · cases hother

theorem RestoredUpTo.moved_iff (hfits : session.Fits groupId held) {first : String}
    (hfirst : first ∈ held.keys.head?) (id : String) :
    let put := held.entries.foldl (Store.putBack groupId) restored.store
    (Joined session.edges first id ∧ Group.isMember session.nodes put id) ∧ put.liveRecord id ≠ ∅ ↔
      held.contains id ∧ session.store.isMuted id = false := by
  intro put
  have hwaiting := h.awaiting horderly
  constructor
  · rintro ⟨⟨hjoined, hmember⟩, hlive⟩
    by_contra hnot
    have hheld : held.contains id → session.store.isMuted id := by
      rw [not_and, Bool.not_eq_false] at hnot
      exact hnot
    rw [Store.liveRecord, h.live_putBack horderly hedits hheld] at hlive
    exact hlive (hfits.silent first hfirst id (hasNode_of_isMember hmember) hjoined)
  · rintro ⟨hheld, hmuted⟩
    obtain ⟨record, hrecord⟩ := Option.isSome_iff_exists.mp hheld
    have hget := (heldIn?_of_mem_paused hwaiting.mem_paused id).trans hrecord
    have hnode := horderly.known groupId id (by rw [hget]; rfl)
    rw [hasNode_iff_mem_ids, ← lastNode?_isSome] at hnode
    obtain ⟨node, hlast⟩ := Option.isSome_iff_exists.mp hnode
    refine ⟨⟨hfits.joined first hfirst id hheld hmuted, ?_⟩, ?_⟩
    · exact (Group.isMember_iff_contributes _ _ _).mpr
        ⟨node, hlast, .inl (hwaiting.hasRecord_putBack horderly hedits hheld)⟩
    · rw [h.live_putBack_of_held horderly hedits hrecord hmuted]
      exact (hedits groupId id record hmuted hget).1

theorem RestoredUpTo.replayGroup (hfits : session.Fits groupId held) :
    session.RestoredUpTo (done ++ [(groupId, held)]) todo
      (restored.replayGroup (groupId, held)) := by
  have hwaiting := h.awaiting horderly
  have hput := hwaiting.putBack hedits
  have hown := heldIn?_of_mem_paused hwaiting.mem_paused
  obtain ⟨first, hfirst, group, heq, hname, hids⟩ := hwaiting.exists_refile horderly hedits
  rw [Group.membersOf_congr (h.hasRecord_putBack horderly hedits),
    hfits.named first hfirst] at hname
  have hmoved (id : String) := h.moved_iff horderly hedits hfits hfirst id
  simp only [← hids] at hmoved
  rw [heq, hname]
  refine ⟨by rw [h.split]; simp, h.nodes, h.edges, ?_, Table.ext fun id => ?_, fun other id => ?_⟩
  · exact (Store.muted_refile _ _ _ _).trans (hput.muted.trans h.muted)
  · rw [Store.get?_live_refile, if_congr (hmoved id) rfl rfl]
    split
    · next hc => exact (horderly.store.emptied groupId id hc.2 (by rw [hown]; exact hc.1)).symm
    · next hc =>
      rw [not_and, Bool.not_eq_false] at hc
      exact h.live_putBack horderly hedits hc
  · rw [Store.heldIn?_refile_self, if_congr (and_congr_right fun _ => hmoved id) rfl rfl,
      List.map_append, h.held_putBack horderly hedits]
    by_cases hother : other = groupId
    · subst hother
      have hlisted : other ∈ done.map (·.1) ++ [(other, held)].map (·.1) :=
        List.mem_append_right _ List.mem_cons_self
      rw [if_pos hlisted, hown]
      cases hmuted : session.store.isMuted id with
      | true => simp
      | false =>
        cases hrecord : held.get? id with
        | none => simp [Table.contains, hrecord, Table.not_mem_before h.split]
        | some record =>
          simp [Table.contains, hrecord, h.live_putBack_of_held horderly hedits hrecord hmuted]
    · rw [if_neg fun hc => hother hc.1]
      exact if_congr (by simp [hother]) rfl rfl

theorem RestoredUpTo.fits
    (hheld : ∀ id, (restored.replayGroup (groupId, held)).store.heldIn? groupId id =
      session.store.heldIn? groupId id)
    (hlive : ∀ id, session.store.liveRecord id ≠ ∅ →
      (restored.replayGroup (groupId, held)).store.liveRecord id ≠ ∅) : session.Fits
        groupId held := by
  have hwaiting := h.awaiting horderly
  have hown := heldIn?_of_mem_paused hwaiting.mem_paused
  obtain ⟨first, hfirst, group, heq, hname, hids⟩ := hwaiting.exists_refile horderly hedits
  rw [Group.membersOf_congr (h.hasRecord_putBack horderly hedits)] at hname
  rw [heq] at hheld hlive
  have hfiled : groupId = group.groupId := by
    by_contra hne
    have hcontains := (Table.mem_keys held first).mp (List.mem_of_mem_head? hfirst)
    have hlost := hheld first
    rw [Store.heldIn?_refile_of_ne _ _ hne, hown] at hlost
    rw [Table.contains, ← hlost] at hcontains
    cases hcontains
  rw [← hfiled] at hheld hlive hname
  refine ⟨fun other hother id hid hmuted => ?_, fun other hother id hnode hjoined => ?_,
    fun other hother => ?_⟩
  · obtain rfl := Option.mem_unique hfirst hother
    have hback := hheld id
    rw [Store.heldIn?_refile_self, h.held_putBack horderly hedits, hmuted, hown] at hback
    by_contra hnot
    rw [if_neg fun hc => hnot ((hids id).mp hc.2.1).1,
      if_neg (by simp [Table.not_mem_before h.split])] at hback
    rw [Table.contains, ← hback] at hid
    cases hid
  · obtain rfl := Option.mem_unique hfirst hother
    by_contra hne
    have hput : (held.entries.foldl (Store.putBack groupId) restored.store).liveRecord id ≠ ∅ := by
      rwa [Store.liveRecord, h.live_putBack horderly hedits fun hin => ?_]
      by_contra hnot
      exact hne (horderly.store.liveRecord (Bool.eq_false_iff.mpr hnot) (by rwa [hown]))
    rw [hasNode_iff_mem_ids, ← lastNode?_isSome] at hnode
    obtain ⟨node, hlast⟩ := Option.isSome_iff_exists.mp hnode
    refine hlive id hne ?_
    rw [Store.liveRecord_refile, if_pos ((hids id).mpr ⟨hjoined, ?_⟩)]
    exact (Group.isMember_iff_contributes _ _ _).mpr ⟨node, hlast, .inl (.inl hput)⟩
  · obtain rfl := Option.mem_unique hfirst hother
    exact hname.symm

end UpTo

section Exact

variable (horderly : session.Orderly)

include horderly

theorem RestoredUpTo.foldl (hedits : session.store.HoldsEdits)
    (h : session.RestoredUpTo done todo restored)
    (hfits : ∀ saved ∈ todo, session.Fits saved.1 saved.2) :
    session.RestoredUpTo session.store.paused.entries []
      (todo.foldl Session.replayGroup restored) := by
  induction todo generalizing done restored with
  | nil =>
    rw [h.split, List.append_nil]
    exact ⟨h.split.trans (List.append_nil done) ▸ (List.append_nil _).symm, h.nodes, h.edges,
      h.muted, h.live, h.held⟩
  | cons saved rest ih =>
    exact ih (h.replayGroup horderly hedits (hfits saved List.mem_cons_self)) fun other hother =>
      hfits other (List.mem_cons_of_mem saved hother)

theorem RestoredUpTo.fits_foldl (hedits : session.store.HoldsEdits)
    (h : session.RestoredUpTo done todo restored)
    (hstore : (todo.foldl Session.replayGroup restored).store = session.store) :
    ∀ saved ∈ todo, session.Fits saved.1 saved.2 := by
  induction todo generalizing done restored with
  | nil => simp
  | cons saved rest ih =>
    have hnext := (h.awaiting horderly).replayGroup horderly hedits
    have hfound : ∀ other ∈ rest, ∃ id,
        ((rest.foldl Session.replayGroup (restored.replayGroup saved)).store.heldIn? other.1
          id).isSome := by
      intro other hother
      have hmem : other ∈ session.store.paused.entries :=
        hnext.suffix.mem hother
      obtain ⟨id, record, hrecord⟩ := (Table.ne_empty_iff other.2).mp
        (horderly.store.inhabited other.1 other.2 ((Table.mem_entries _ _ _).mp hmem))
      refine ⟨id, ?_⟩
      rw [List.foldl_cons] at hstore
      rw [hstore, heldIn?_of_mem_paused hmem, hrecord]
      rfl
    have hlast : saved.1 ∉ rest.map (·.1) := by
      have hnodup := session.store.paused.nodup_keys
      rw [h.split, List.map_append, List.map_cons] at hnodup
      exact (List.nodup_cons.mp (List.Nodup.of_append_right hnodup)).1
    rw [List.foldl_cons] at hstore
    have hfits : session.Fits saved.1 saved.2 := by
      refine h.fits horderly hedits (fun id => ?_) fun id hne hgone => hne ?_
      · rw [← hnext.heldIn?_foldl horderly hedits hfound hlast, hstore]
      · rw [← hstore]
        refine hnext.liveRecord_foldl horderly hedits (fun other hother hin => ?_) hgone
        by_contra hnot
        have hmem : other ∈ session.store.paused.entries := hnext.suffix.mem hother
        have hheld : (session.store.heldIn? other.1 id).isSome := by
          rwa [heldIn?_of_mem_paused hmem]
        exact hne (horderly.store.liveRecord (Bool.eq_false_iff.mpr hnot) hheld)
    exact List.forall_mem_cons.mpr ⟨hfits, ih (h.replayGroup horderly hedits hfits) hstore⟩

theorem holdsEdits_of_foldl (hinstalled : restored.store = { session.store with paused := ∅ })
    (hnodes : restored.nodes = session.nodes)
    (hstore : (session.store.paused.entries.foldl Session.replayGroup restored).store =
      session.store) :
    session.store.HoldsEdits := by
  intro groupId id record hmuted hheld
  have hplaced := horderly.store.at hmuted hheld
  have hnode : restored.hasNode id := by
    rw [Session.hasNode, node?, hnodes]
    exact horderly.known groupId id (by rw [hheld]; rfl)
  have hstart : restored.store.At id (Placement.held groupId record false).unheld := by
    rw [hinstalled]
    exact hplaced.unheld
  obtain ⟨held, done, todo, hsplit, hget, hdone, htodo⟩ := exists_split_paused hplaced
  rw [hsplit, List.foldl_append, List.foldl_cons] at hstore
  obtain ⟨store, hreplayed⟩ := exists_store_foldl exists_store_replayGroup restored done
  have hbefore := at_foldl_replayGroup_of_not_held hstart fun saved hsaved => (hdone saved hsaved).2
  rw [hreplayed] at hstore hbefore
  obtain ⟨group?, hback⟩ :=
    exists_at_replayGroup_of_held hbefore hnode
      (show (groupId, held).2.get? id = some record from hget)
  have hrest : ∀ saved ∈ todo, saved.2.get? id = none := fun saved hsaved => (htodo saved hsaved).2
  constructor
  · rintro rfl
    -- An empty record goes live, and is not moved into a paused group any more.
    have hempty : (Placement.putBack groupId ∅ false).regrouped id groupId group? =
        (Placement.held groupId ∅ false).unheld := by
      rw [Placement.putBack, if_neg Bool.false_ne_true, Record.nullFree_empty.empty_merge]
      exact Placement.regrouped_unheld id groupId groupId ∅ false group?
    rw [hempty] at hback
    have hlast := (at_foldl_replayGroup_of_not_held hback hrest).held groupId
    rw [hstore, hheld, Placement.heldIn?_unheld] at hlast
    cases hlast
  · obtain ⟨placement, hlast, hrecord, _⟩ := keepsWhole_foldl_replayGroup hback.keepsWhole hrest
    have hsome : (session.store.heldIn? groupId id).isSome := by rw [hheld]; rfl
    rw [hstore] at hlast
    obtain ⟨kept, isMuted, rfl⟩ := hlast.holder_eq hsome
    have hkept : kept = record := by
      have hsame := hlast.held groupId
      rw [hheld, Placement.heldIn?, if_pos rfl] at hsame
      exact (Option.some.inj hsame).symm
    rw [Placement.record_regrouped, Placement.putBack, if_neg Bool.false_ne_true] at hrecord
    rw [← hkept, show kept = Record.merge ∅ record from hrecord]
    exact Record.nullFree_empty.merge record

theorem store_ofState_eq_iff (runner : Runner) (settings : Settings) :
    (ofState session.snapshot runner settings).store = session.store ↔ session.PausesFit := by
  have hinhabited := (orderly_ofState session.snapshot runner settings).store.inhabited
  unfold Session.ofState at *
  simp only [snapshot] at *
  generalize hinstalled : ({ withSettings runner settings with
    nodes := session.nodes, edges := session.edges, store := { session.store with paused := ∅ },
    theme := session.theme, colorMode := session.colorMode, cpm := _ } : Session) = installed at *
  have hstart : session.RestoredUpTo [] session.store.paused.entries installed := by
    subst hinstalled
    exact ⟨rfl, rfl, rfl, rfl, rfl, fun groupId id => by simp [Store.heldIn?]⟩
  constructor
  · intro hstore
    have hedits := holdsEdits_of_foldl horderly (by rw [← hinstalled]) (by rw [← hinstalled]) hstore
    exact ⟨hedits, hstart.fits_foldl horderly hedits hstore⟩
  · rintro ⟨hedits, hfits⟩
    have hlast := hstart.foldl horderly hedits hfits
    refine hinhabited.ext horderly.store.inhabited hlast.live hlast.muted fun groupId id => ?_
    rw [hlast.held]
    split
    · rfl
    · next hnot =>
      refine (Store.heldIn?_eq_none ?_ id).symm
      by_contra hsome
      exact hnot ((Table.mem_keys _ groupId).mpr (Option.isSome_iff_ne_none.mpr hsome))

end Exact

end Patchbay.Session
