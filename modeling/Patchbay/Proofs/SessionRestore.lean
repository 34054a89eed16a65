import Patchbay.Proofs.ProgramStatements
import Patchbay.Proofs.RestoreViews
import Patchbay.Proofs.SessionRun

namespace Patchbay

instance (edges : List Edge) (a b : String) : Decidable (Joined edges a b) :=
  decidable_of_iff _ (mem_connectedIds edges a b)

namespace Session

variable {session restored : Session} {groupId id : String} {held : Table Record}

/-- Whether the node's type has a transform, without which a record is never heard. -/
def isSounding (session : Session) (id : String) : Bool :=
  (typeOf? session.nodes id).any hasTransform

/-- Restoring the paused group silences the node: it is in the component of the first node that the
group holds. A group whose first node has neither a record nor a transform silences nothing. -/
def Anchors (session : Session) (held : Table Record) (id : String) : Prop :=
  ∃ first ∈ held.keys.head?, Joined session.edges first id ∧
    (held.get? first ≠ some ∅ ∨ session.isSounding first)

instance : Decidable (session.Anchors held id) :=
  inferInstanceAs (Decidable (∃ first ∈ held.keys.head?, Joined session.edges first id ∧
    (held.get? first ≠ some ∅ ∨ session.isSounding first = true)))

def replay (session : Session) (id : String) (record : Record) (saved : String × Table Record) :
    Record :=
  if session.Anchors saved.2 id then ∅
  else if session.store.isMuted id then record
  else (saved.2.get? id).getD record

def replayed (session : Session) (done : List (String × Table Record)) (id : String) : Record :=
  done.foldl (session.replay id) (session.store.liveRecord id)

def Settled (session : Session) (done : List (String × Table Record)) (id : String) : Prop :=
  session.store.liveRecord id ≠ ∅ ∨ ∃ saved ∈ done, saved.2.contains id

theorem settled_of_replayed {done : List (String × Table Record)}
    (h : session.replayed done id ≠ ∅) : session.Settled done id := by
  by_contra hnot
  rw [Settled, not_or, not_not, not_exists] at hnot
  refine h (List.foldlRecOn (motive := fun record => record = ∅) done _ hnot.1 ?_)
  rintro _ rfl saved hsaved
  have hnone : saved.2.get? id = none := by
    by_contra hsome
    exact hnot.2 saved ⟨hsaved, Option.isSome_iff_ne_none.mpr hsome⟩
  rw [replay, hnone]
  split
  · rfl
  · split <;> rfl

theorem groupOf?_eq_none (h : session.groupOf? id = none) :
    Group.isMember session.nodes session.store id = false := by
  rw [Bool.eq_false_iff]
  intro hmember
  obtain ⟨group, hgroup, hid⟩ := Group.exists_group session.edges hmember
  have hnot := List.find?_eq_none.mp h group hgroup
  exact hnot (List.contains_iff_mem.mpr hid)

theorem groupOf?_eq_some {group : Group} (h : session.groupOf? id = some group) :
    group ∈ session.groups ∧ id ∈ group.nodeIds := by
  unfold groupOf? at h
  have hcontains := List.find?_some h
  exact ⟨List.mem_of_find?_eq_some h, List.contains_iff_mem.mp hcontains⟩

def pauseComponent (session : Session) (groupId : String) (first : Option String) : Session :=
  match first.bind session.groupOf? with
  | none => session
  | some group =>
      let rekeyed := session.store.rekeyPausedGroup groupId group.groupId
      { session with store := (rekeyed.pauseGroup? group.groupId group.nodeIds).getD rekeyed }

section PauseComponent

variable (session : Session) (groupId : String) (first : Option String)

theorem graph_pauseComponent : (session.pauseComponent groupId first).nodes = session.nodes ∧
    (session.pauseComponent groupId first).edges = session.edges := by
  unfold pauseComponent
  split <;> exact ⟨rfl, rfl⟩

theorem muted_pauseComponent :
    (session.pauseComponent groupId first).store.muted = session.store.muted := by
  unfold pauseComponent
  split
  · rfl
  · rw [Store.muted_pauseGroup?_getD, Store.muted_rekeyPausedGroup]

variable {session groupId first}

theorem held_of_pauseComponent {group : String}
    (h : ((session.pauseComponent groupId first).store.heldIn? group id).isSome) :
    (∃ other, (session.store.heldIn? other id).isSome) ∨ session.store.liveRecord id ≠ ∅ := by
  unfold pauseComponent at h
  split at h
  · exact .inl ⟨group, h⟩
  · rcases Store.held_of_pauseGroup?_getD h with hheld | hlive
    · exact .inl (Store.exists_held_of_rekeyPausedGroup _ _ _ hheld)
    · exact .inr (by rwa [Store.liveRecord_rekeyPausedGroup] at hlive)

theorem pauseComponent_of_not_member
    (h : ∀ id ∈ first, Group.isMember session.nodes session.store id = false) :
    session.pauseComponent groupId first = session := by
  unfold pauseComponent
  split
  · rfl
  · next group hgroup =>
    obtain ⟨id, hid, hfound⟩ := Option.bind_eq_some_iff.mp hgroup
    obtain ⟨hmem, hin⟩ := groupOf?_eq_some hfound
    exact absurd ((h id hid).symm.trans (Group.isMember_of_mem hmem hin)) Bool.false_ne_true

theorem liveRecord_pauseComponent (session : Session) {start : String}
    (hstart : Group.isMember session.nodes session.store start)
    (hlive : session.store.liveRecord id ≠ ∅ → Group.isMember session.nodes session.store id) :
    (session.pauseComponent groupId (some start)).store.liveRecord id =
      if Joined session.edges start id then ∅ else session.store.liveRecord id := by
  unfold pauseComponent
  split
  · next hnone =>
    exact absurd ((groupOf?_eq_none hnone).symm.trans hstart) Bool.false_ne_true
  · next group hgroup =>
    obtain ⟨hmem, hin⟩ := groupOf?_eq_some hgroup
    have hid := Group.mem_nodeIds hmem hin id
    rw [Store.liveRecord_pauseGroup?_getD, Store.liveRecord_rekeyPausedGroup]
    by_cases hjoined : Joined session.edges start id
    · rw [if_pos hjoined]
      by_contra hne
      have hnot : id ∉ group.nodeIds := fun h => hne (if_pos h)
      rw [if_neg hnot] at hne
      exact hnot (hid.mpr ⟨hjoined, hlive hne⟩)
    · rw [if_neg hjoined, if_neg fun h => hjoined (hid.mp h).1]

end PauseComponent

/-- The restored session while the paused groups are replayed, of which some are done. Only records
that have been brought back are held again. -/
structure Replaying (session : Session) (done : List (String × Table Record))
    (restored : Session) : Prop where
  nodes : restored.nodes = session.nodes
  edges : restored.edges = session.edges
  muted : restored.store.muted = session.store.muted
  settled : ∀ groupId id, (restored.store.heldIn? groupId id).isSome → session.Settled done id
  live : ∀ id, restored.store.liveRecord id = session.replayed done id

theorem keeps_held (hkeeps : ∀ id, ∃ placement, session.Keeps id placement) {record : Record}
    (hheld : session.store.heldIn? groupId id = some record) :
    ∃ isMuted, session.Keeps id (.held groupId record isMuted) := by
  obtain ⟨placement, hplacement⟩ := hkeeps id
  have hsome : (session.store.heldIn? groupId id).isSome := by rw [hheld]; rfl
  obtain ⟨kept, isMuted, rfl⟩ := hplacement.placed.holder_eq hsome
  rw [hplacement.placed.held] at hheld
  obtain rfl : kept = record := by simpa [Placement.heldIn?] using hheld
  exact ⟨isMuted, hplacement⟩

theorem Keeps.hasNode {placement : Placement} (h : session.Keeps id placement)
    (hne : placement ≠ .live ∅) : session.hasNode id := by
  by_contra hnot
  exact hne (h.known (Bool.eq_false_iff.mpr hnot))

section Replay

variable {done todo : List (String × Table Record)}

theorem get?_paused_of_split
    (hsplit : session.store.paused.entries = done ++ (groupId, held) :: todo) :
    session.store.paused.get? groupId = some held := by
  rw [← Table.mem_entries, hsplit]
  exact List.mem_append_right _ List.mem_cons_self

theorem replayed_append (session : Session) (saved : String × Table Record) (id : String) :
    session.replayed (done ++ [saved]) id = session.replay id (session.replayed done id) saved := by
  rw [replayed, List.foldl_append]
  rfl

theorem find?_keys_eq_head? {p : String → Bool} (h : ∀ key, held.contains key → p key) :
    held.keys.find? p = held.keys.head? := by
  cases hkeys : held.keys with
  | nil => rfl
  | cons first rest =>
    have hfirst : held.contains first := by
      rw [← Table.mem_keys, hkeys]
      exact List.mem_cons_self
    rw [List.find?_cons_of_pos (h first hfirst), List.head?_cons]

theorem foldl_replayRecord {entries : List (String × Record)}
    (hnode : ∀ entry ∈ entries, restored.hasNode entry.1) :
    entries.foldl (fun session entry => session.replayRecord groupId entry) restored =
      { restored with store := entries.foldl (Store.putBack groupId) restored.store } := by
  induction entries generalizing restored with
  | nil => rfl
  | cons entry rest ih =>
    have hstep : restored.replayRecord groupId entry =
        { restored with store := restored.store.putBack groupId entry } := by
      rw [replayRecord, hnode entry List.mem_cons_self]
      unfold Store.putBack
      by_cases hm : restored.store.isMuted entry.1 <;> simp [hm]
    rw [List.foldl_cons, List.foldl_cons, hstep]
    exact ih fun other hother => hnode other (List.mem_cons_of_mem entry hother)

theorem replayGroup_eq_pauseComponent (hnode : ∀ key, held.contains key → restored.hasNode key) :
    restored.replayGroup (groupId, held) =
      { restored with
        store := held.entries.foldl (Store.putBack groupId) restored.store }.pauseComponent
        groupId held.keys.head? := by
  have hentries : ∀ entry ∈ held.entries, restored.hasNode entry.1 := fun entry hentry =>
    hnode entry.1 (Option.isSome_iff_exists.mpr ⟨entry.2, (Table.mem_entries held _ _).mp hentry⟩)
  rw [Session.replayGroup, foldl_replayRecord hentries, find?_keys_eq_head? hnode]
  rfl

theorem isMember_iff (hnode : session.hasNode id) (store : Store) :
    Group.isMember session.nodes store id ↔
      store.liveRecord id ≠ ∅ ∨ store.hasSavedContribution id ∨ session.isSounding id := by
  rw [hasNode_iff, ← ids_eq, ← lastNode?_isSome] at hnode
  obtain ⟨node, hlast⟩ := Option.isSome_iff_exists.mp hnode
  simp only [Group.isMember, isSounding, typeOf?, hlast, Bool.or_eq_true, Store.hasContribution_iff,
    or_assoc, Option.map_some, Option.any_some]

section Split

variable (h : session.Replaying done restored)
  (hkeeps : ∀ id, ∃ placement, session.Keeps id placement)
  (hsplit : session.store.paused.entries = done ++ (groupId, held) :: todo)

include hkeeps

theorem hasNode_of_settled (hdone : ∀ saved ∈ done, saved ∈ session.store.paused.entries)
    (h : session.Settled done id) : session.hasNode id := by
  obtain ⟨placement, hplacement⟩ := hkeeps id
  refine hplacement.hasNode ?_
  rintro rfl
  rcases h with hlive | ⟨saved, hsaved, hcontains⟩
  · exact hlive hplacement.placed.live
  · have hget := (Table.mem_entries _ saved.1 saved.2).mp (hdone saved hsaved)
    have hheld := hplacement.placed.held saved.1
    rw [Store.heldIn?, hget, Option.bind_some] at hheld
    rw [Table.contains, hheld] at hcontains
    cases hcontains

include hsplit

theorem not_settled (hid : held.contains id) : ¬ session.Settled done id := by
  obtain ⟨record, hrecord⟩ := Option.isSome_iff_exists.mp hid
  have hget := get?_paused_of_split hsplit
  obtain ⟨isMuted, hplacement⟩ := keeps_held hkeeps
    (Store.heldIn?_eq_some.mpr ⟨held, hget, hrecord⟩)
  rintro (hlive | ⟨saved, hsaved, hcontains⟩)
  · exact hlive hplacement.placed.live
  · have hmem : saved ∈ session.store.paused.entries := hsplit ▸ List.mem_append_left _ hsaved
    have hother := (Table.mem_entries _ saved.1 saved.2).mp hmem
    have hheld : (session.store.heldIn? saved.1 id).isSome := by
      rwa [Store.heldIn?, hother, Option.bind_some]
    obtain ⟨_, _, hsame⟩ := hplacement.placed.holder_eq hheld
    have hsorted := session.store.paused.sorted
    rw [hsplit, List.pairwise_append] at hsorted
    have hlt := hsorted.2.2 saved hsaved (groupId, held) List.mem_cons_self
    cases hsame
    exact String.lt_irrefl _ hlt

include h

theorem Replaying.bare (hid : held.contains id) : restored.store.Bare id := by
  have hnot := not_settled hkeeps hsplit hid
  refine ⟨fun group => ?_, ?_⟩
  · by_contra hsome
    exact hnot (h.settled group id (Option.isSome_iff_ne_none.mpr hsome))
  · by_contra hlive
    exact hnot (settled_of_replayed (h.live id ▸ hlive))

theorem Replaying.putBack :
    Store.PutBack groupId restored.store
      (held.entries.foldl (Store.putBack groupId) restored.store) held.entries := by
  refine Store.putBack_foldl held.nodup_keys (fun entry hentry _ => ?_) fun entry hentry _ => ?_
  · have hget := (Table.mem_entries held entry.1 entry.2).mp hentry
    exact h.bare hkeeps hsplit (Option.isSome_iff_exists.mpr ⟨entry.2, hget⟩)
  · have hget := (Table.mem_entries held entry.1 entry.2).mp hentry
    obtain ⟨_, hplacement⟩ := keeps_held hkeeps
      (Store.heldIn?_eq_some.mpr ⟨held, get?_paused_of_split hsplit, hget⟩)
    exact hplacement.nullFree

/-- The first node of a group that is put back is a member of a group of the graph, unless it has
neither a record nor a transform. -/
theorem Replaying.isMember_first (id : String) (record : Record)
    (hrecord : held.get? id = some record) :
    Group.isMember session.nodes (held.entries.foldl (Store.putBack groupId) restored.store) id ↔
      record ≠ ∅ ∨ session.isSounding id := by
  have hput := h.putBack hkeeps hsplit
  obtain ⟨isMuted, hplacement⟩ := keeps_held hkeeps
    (Store.heldIn?_eq_some.mpr ⟨held, get?_paused_of_split hsplit, hrecord⟩)
  obtain ⟨hheld, hlive⟩ := h.bare hkeeps hsplit (Option.isSome_iff_exists.mpr ⟨record, hrecord⟩)
  have hmuted : restored.store.isMuted id = isMuted := by
    rw [Store.isMuted, h.muted, ← Store.isMuted, hplacement.placed.isMuted_eq]
    cases isMuted <;> rfl
  have hkept : restored.store.muted.get? id = if isMuted then some ∅ else none := by
    rw [h.muted, hplacement.placed.muted, Placement.muted?]
  have hlookup : held.entries.lookup id = some record := hrecord
  rw [isMember_iff (hplacement.hasNode (by simp)), Store.hasSavedContribution_iff,
    hput.live, ← or_assoc]
  simp only [hput.held, hput.muted, hlive, hheld, hlookup, hmuted, hkept]
  refine or_congr_left ?_
  cases isMuted with
  | false => simp
  | true => by_cases hr : record = ∅ <;> simp [hr, Option.filter_some]

theorem Replaying.live_putBack (id : String) :
    (held.entries.foldl (Store.putBack groupId) restored.store).liveRecord id =
      if session.store.isMuted id then session.replayed done id
      else (held.get? id).getD (session.replayed done id) := by
  rw [(h.putBack hkeeps hsplit).live, h.live, Store.isMuted, Store.isMuted, h.muted]
  rfl

theorem Replaying.settled_putBack (group id : String)
    (hkept : ((held.entries.foldl (Store.putBack groupId) restored.store).heldIn? group id).isSome ∨
      (held.entries.foldl (Store.putBack groupId) restored.store).liveRecord id ≠ ∅) :
    session.Settled (done ++ [(groupId, held)]) id := by
  have hbefore (hsettled : session.Settled done id) :
      session.Settled (done ++ [(groupId, held)]) id :=
    hsettled.imp_right fun ⟨saved, hsaved, hcontains⟩ =>
      ⟨saved, List.mem_append_left _ hsaved, hcontains⟩
  by_cases hcontains : held.contains id
  · exact .inr ⟨(groupId, held), List.mem_append_right _ List.mem_cons_self, hcontains⟩
  · have hnone : held.get? id = none := Option.not_isSome_iff_eq_none.mp hcontains
    rw [(h.putBack hkeeps hsplit).held, h.live_putBack hkeeps hsplit, hnone,
      show held.entries.lookup id = none from hnone] at hkept
    refine hbefore (hkept.elim (fun hheld => h.settled group id ?_) fun hlive => ?_)
    · simpa using hheld
    · exact settled_of_replayed (by simpa using hlive)

theorem Replaying.hasNode (hid : held.contains id) : restored.hasNode id := by
  obtain ⟨record, hrecord⟩ := Option.isSome_iff_exists.mp hid
  obtain ⟨_, hplacement⟩ := keeps_held hkeeps
    (Store.heldIn?_eq_some.mpr ⟨held, get?_paused_of_split hsplit, hrecord⟩)
  rw [Session.hasNode, node?, h.nodes]
  exact hplacement.hasNode (by simp)

theorem Replaying.replayGroup :
    session.Replaying (done ++ [(groupId, held)]) (restored.replayGroup (groupId, held)) := by
  have hput := h.putBack hkeeps hsplit
  have hlive := h.live_putBack hkeeps hsplit
  have hsettled := h.settled_putBack hkeeps hsplit
  have hmember := h.isMember_first hkeeps hsplit
  have hknown : ∀ saved ∈ done ++ [(groupId, held)], saved ∈ session.store.paused.entries := by
    rw [hsplit, List.append_cons done (groupId, held) todo]
    exact fun saved hsaved => List.mem_append_left todo hsaved
  rw [replayGroup_eq_pauseComponent fun _ hkey => h.hasNode hkeeps hsplit hkey]
  generalize held.entries.foldl (Store.putBack groupId) restored.store = store at *
  obtain ⟨hnodes, hedges⟩ :=
    graph_pauseComponent { restored with store } groupId held.keys.head?
  refine ⟨hnodes.trans h.nodes, hedges.trans h.edges, ?_, fun group id hheld => ?_, fun id => ?_⟩
  · exact (muted_pauseComponent _ _ _).trans (hput.muted.trans h.muted)
  · rcases held_of_pauseComponent hheld with ⟨other, hother⟩ | hother
    · exact hsettled other id (.inl hother)
    · exact hsettled group id (.inr hother)
  · rw [replayed_append, replay, ← hlive id]
    cases hhead : held.keys.head? with
    | none =>
      rw [pauseComponent_of_not_member (by simp), if_neg]
      rintro ⟨first, hfirst, _⟩
      cases hhead.symm.trans hfirst
    | some first =>
      have hcontains := (Table.mem_keys held first).mp (List.mem_of_mem_head? hhead)
      obtain ⟨record, hrecord⟩ := Option.isSome_iff_exists.mp hcontains
      have hanchors : session.Anchors held id ↔
          Joined session.edges first id ∧ (record ≠ ∅ ∨ session.isSounding first) := by
        simp [Anchors, hhead, hrecord]
      have hfirst : Group.isMember restored.nodes store first ↔
          record ≠ ∅ ∨ session.isSounding first := by
        rw [h.nodes]
        exact hmember first record hrecord
      by_cases hin : Group.isMember restored.nodes store first
      · rw [liveRecord_pauseComponent { restored with store } hin fun hne => ?_]
        · simp only [hanchors, hfirst.mp hin, and_true, h.edges]
        · have hnode := hasNode_of_settled hkeeps hknown (hsettled groupId id (.inr hne))
          change Group.isMember restored.nodes store id
          rw [h.nodes, isMember_iff hnode]
          exact .inl hne
      · rw [pauseComponent_of_not_member, if_neg fun ha => hin (hfirst.mpr (hanchors.mp ha).2)]
        rintro _ ⟨⟩
        exact Bool.eq_false_iff.mpr hin

end Split

theorem Replaying.foldl_replayGroup (h : session.Replaying done restored)
    (hkeeps : ∀ id, ∃ placement, session.Keeps id placement)
    (hsplit : session.store.paused.entries = done ++ todo) :
    session.Replaying session.store.paused.entries (todo.foldl Session.replayGroup restored) := by
  induction todo generalizing done restored with
  | nil => rwa [hsplit, List.append_nil]
  | cons saved rest ih => exact ih (h.replayGroup hkeeps hsplit) (by rw [hsplit, List.append_cons])

theorem replaying_ofState (hkeeps : ∀ id, ∃ placement, session.Keeps id placement)
    (runner : Runner) (settings : Settings) :
    session.Replaying session.store.paused.entries (ofState session.snapshot runner settings) := by
  unfold ofState
  refine Replaying.foldl_replayGroup ?_ hkeeps (List.nil_append _).symm
  refine ⟨rfl, rfl, rfl, fun group id hheld => ?_, fun id => rfl⟩
  simp [Store.heldIn?] at hheld

end Replay

theorem exists_store_foldl {α : Type} {step : Session → α → Session}
    (hstep : ∀ session a, ∃ store, step session a = { session with store }) (session : Session)
    (as : List α) : ∃ store, as.foldl step session = { session with store } := by
  induction as generalizing session with
  | nil => exact ⟨session.store, rfl⟩
  | cons a rest ih =>
    obtain ⟨next, hnext⟩ := hstep session a
    obtain ⟨last, hlast⟩ := ih { session with store := next }
    exact ⟨last, by rw [List.foldl_cons, hnext, hlast]⟩

theorem exists_store_replayRecord (groupId : String) (session : Session) (entry : String × Record) :
    ∃ store, session.replayRecord groupId entry = { session with store } := by
  unfold replayRecord
  split
  · exact ⟨session.store, rfl⟩
  · split <;> exact ⟨_, rfl⟩

theorem exists_store_replayGroup (session : Session) (saved : String × Table Record) :
    ∃ store, session.replayGroup saved = { session with store } := by
  obtain ⟨replayed, hreplayed⟩ :=
    exists_store_foldl (exists_store_replayRecord saved.1) session saved.2.entries
  unfold replayGroup
  simp only [hreplayed]
  split <;> exact ⟨_, rfl⟩

theorem exists_store_ofState (session : Session) (runner : Runner) (settings : Settings) :
    ∃ store, ofState session.snapshot runner settings =
      { withSettings runner settings with
        nodes := session.nodes
        edges := session.edges
        store := store
        theme := session.theme
        colorMode := session.colorMode
        cpm := if Text.allBlank session.cpm.toList then settings.defaultCpm else session.cpm } := by
  obtain ⟨store, hstore⟩ := exists_store_foldl exists_store_replayGroup
    { withSettings runner settings with
      nodes := session.nodes
      edges := session.edges
      store := { session.store with paused := ∅ }
      theme := session.theme
      colorMode := session.colorMode
      cpm := if Text.allBlank session.cpm.toList then settings.defaultCpm else session.cpm }
    session.store.paused.entries
  refine ⟨store, Eq.trans ?_ hstore⟩
  unfold ofState
  by_cases hblank : Text.allBlank session.cpm.toList <;>
    simp [snapshot, withSettings, Option.filter_some, hblank]

theorem cpm_ofState (session : Session) (runner : Runner) (settings : Settings) :
    (ofState session.snapshot runner settings).cpm =
      if Text.allBlank session.cpm.toList then settings.defaultCpm else session.cpm := by
  obtain ⟨store, hstore⟩ := exists_store_ofState session runner settings
  rw [hstore]

section InStep

/-- The node's record is put back before or with a group that silences the node, unless its mute
keeps it silent anyway. -/
def Covered (session : Session) (id : String) : Prop :=
  ∀ groupId record, session.store.heldIn? groupId id = some record → record ≠ ∅ →
    session.store.isMuted id = false →
      ∃ saved ∈ session.store.paused.entries, groupId ≤ saved.1 ∧ session.Anchors saved.2 id

/-- The node is not live in the component of a paused group. -/
def Spared (session : Session) (id : String) : Prop :=
  session.store.liveRecord id ≠ ∅ →
    ∀ saved ∈ session.store.paused.entries, ¬ session.Anchors saved.2 id

theorem foldl_replay_of_not_held {groups : List (String × Table Record)}
    (hnone : ∀ saved ∈ groups, saved.2.get? id = none) (record : Record) :
    groups.foldl (session.replay id) record =
      if ∃ saved ∈ groups, session.Anchors saved.2 id then ∅ else record := by
  induction groups generalizing record with
  | nil => simp
  | cons saved rest ih =>
    have hsaved := hnone saved List.mem_cons_self
    have hcons : (∃ other ∈ saved :: rest, session.Anchors other.2 id) ↔
        session.Anchors saved.2 id ∨ ∃ other ∈ rest, session.Anchors other.2 id :=
      List.exists_mem_cons_iff _ _ _
    rw [List.foldl_cons, ih fun other hother => hnone other (List.mem_cons_of_mem saved hother),
      replay, hsaved, Option.getD_none, ite_self, if_congr hcons rfl rfl]
    by_cases ha : session.Anchors saved.2 id
    · rw [if_pos ha, ite_self, if_pos (Or.inl ha)]
    · rw [if_neg ha, if_congr (or_iff_right ha) rfl rfl]

theorem get?_eq_none_of_not_held (h : ∀ groupId, session.store.heldIn? groupId id = none) :
    ∀ saved ∈ session.store.paused.entries, saved.2.get? id = none := by
  intro saved hsaved
  have hnone := h saved.1
  rwa [Store.heldIn?, (Table.mem_entries _ saved.1 saved.2).mp hsaved, Option.bind_some] at hnone

theorem replayed_of_muted (hmuted : session.store.isMuted id)
    (hlive : session.store.liveRecord id = ∅)
    (groups : List (String × Table Record)) : session.replayed groups id = ∅ := by
  refine List.foldlRecOn (motive := fun record => record = ∅) groups _ hlive ?_
  rintro _ rfl saved _
  rw [replay, if_pos hmuted, ite_self]

theorem exists_split_paused {record : Record} {isMuted : Bool}
    (hplaced : session.store.At id (.held groupId record isMuted)) :
    ∃ held done todo, session.store.paused.entries = done ++ (groupId, held) :: todo ∧
      held.get? id = some record ∧ (∀ saved ∈ done, saved.1 < groupId ∧ saved.2.get? id = none) ∧
      ∀ saved ∈ todo, groupId < saved.1 ∧ saved.2.get? id = none := by
  have hheld := hplaced.held
  obtain ⟨held, hget, hrecord⟩ := Store.heldIn?_eq_some.mp ((hheld groupId).trans (if_pos rfl))
  obtain ⟨done, todo, hsplit, hbefore, hafter⟩ := Table.exists_split_of_get? hget
  have hother (saved : String × Table Record) (hsaved : saved ∈ session.store.paused.entries)
      (hne : saved.1 ≠ groupId) : saved.2.get? id = none := by
    have hnone := (hheld saved.1).trans (if_neg hne)
    rwa [Store.heldIn?, (Table.mem_entries _ saved.1 saved.2).mp hsaved, Option.bind_some] at hnone
  refine ⟨held, done, todo, hsplit, hrecord, fun saved hsaved => ?_, fun saved hsaved => ?_⟩
  · have hlt := hbefore saved hsaved
    exact ⟨hlt, hother saved (hsplit ▸ List.mem_append_left _ hsaved) (String.ne_of_lt hlt)⟩
  · have hlt := hafter saved hsaved
    have hmem := List.mem_append_right done (List.mem_cons_of_mem (groupId, held) hsaved)
    exact ⟨hlt, hother saved (hsplit ▸ hmem) (String.ne_of_lt hlt).symm⟩

theorem replayed_of_held {record : Record}
    (hplacement : session.Keeps id (.held groupId record false)) :
    session.replayed session.store.paused.entries id =
      if ∃ saved ∈ session.store.paused.entries, groupId ≤ saved.1 ∧
        session.Anchors saved.2 id then ∅
      else record := by
  obtain ⟨held, done, todo, hsplit, hrecord, hdone, htodo⟩ := exists_split_paused hplacement.placed
  have hcovered : (∃ saved ∈ session.store.paused.entries,
        groupId ≤ saved.1 ∧ session.Anchors saved.2 id) ↔
      session.Anchors held id ∨ ∃ saved ∈ todo, session.Anchors saved.2 id := by
    rw [hsplit]
    constructor
    · rintro ⟨saved, hsaved, hle, hanchors⟩
      rcases List.mem_append.mp hsaved with hsaved | hsaved
      · exact absurd (hdone saved hsaved).1 (String.not_lt.mpr hle)
      · rcases List.mem_cons.mp hsaved with rfl | hsaved
        · exact .inl hanchors
        · exact .inr ⟨saved, hsaved, hanchors⟩
    · rintro (hanchors | ⟨saved, hsaved, hanchors⟩)
      · exact ⟨(groupId, held), by simp, String.le_refl _, hanchors⟩
      · have hle := String.not_lt.mp (String.lt_asymm (htodo saved hsaved).1)
        exact ⟨saved, by simp [hsaved], hle, hanchors⟩
  have hlive : session.store.liveRecord id = ∅ := hplacement.placed.live
  have hmuted : session.store.isMuted id = false := hplacement.placed.isMuted_eq
  rw [if_congr hcovered rfl rfl, replayed, hsplit, List.foldl_append, List.foldl_cons,
    foldl_replay_of_not_held fun saved hsaved => (hdone saved hsaved).2, hlive, ite_self,
    foldl_replay_of_not_held fun saved hsaved => (htodo saved hsaved).2, replay, hmuted,
    if_neg Bool.false_ne_true, hrecord, Option.getD_some]
  by_cases hanchors : session.Anchors held id
  · rw [if_pos hanchors, ite_self, if_pos (Or.inl hanchors)]
  · rw [if_neg hanchors, if_congr (or_iff_right hanchors) rfl rfl]

theorem covered_iff_of_held {record : Record}
    (hplacement : session.Keeps id (.held groupId record false)) :
    session.Covered id ↔ record = ∅ ∨
      ∃ saved ∈ session.store.paused.entries, groupId ≤ saved.1 ∧ session.Anchors saved.2 id := by
  have hheld := hplacement.placed.held
  have hmuted : session.store.isMuted id = false := hplacement.placed.isMuted_eq
  constructor
  · intro hcovered
    rw [or_iff_not_imp_left]
    exact fun hne => hcovered groupId record ((hheld groupId).trans (if_pos rfl)) hne hmuted
  · intro hor other kept hkept hne _
    have hsame := (hheld other).symm.trans hkept
    by_cases ho : other = groupId
    · subst ho
      obtain rfl : record = kept := by simpa [Placement.heldIn?] using hsame
      exact hor.resolve_left hne
    · cases (if_neg ho).symm.trans hsame

theorem replayed_eq_iff (hkeeps : ∀ id, ∃ placement, session.Keeps id placement) (id : String) :
    session.replayed session.store.paused.entries id = session.store.liveRecord id ↔
      session.Covered id ∧ session.Spared id := by
  obtain ⟨placement, hplacement⟩ := hkeeps id
  have hheld := hplacement.placed.held
  cases placement with
  | live record | muted record =>
    have hcovered : session.Covered id := by
      intro groupId kept hkept
      cases (hheld groupId).symm.trans hkept
    rw [replayed, foldl_replay_of_not_held (get?_eq_none_of_not_held hheld), and_iff_right hcovered,
      Spared]
    by_cases hlive : session.store.liveRecord id = ∅
    · simp [hlive]
    · simp [hlive, Ne.symm hlive]
  | held groupId record isMuted =>
    have hlive : session.store.liveRecord id = ∅ := hplacement.placed.live
    have hspared : session.Spared id := fun hne => absurd hlive hne
    rw [and_iff_left hspared, hlive]
    cases isMuted with
    | true =>
      have hmuted : session.store.isMuted id := hplacement.placed.isMuted_eq
      rw [replayed_of_muted hmuted hlive]
      simp [Covered, hmuted]
    | false =>
      rw [replayed_of_held hplacement, covered_iff_of_held hplacement, or_comm,
        ite_eq_left_iff, or_iff_not_imp_left]

end InStep

/-- The paused groups fit the graph as it is now: of all that can be heard, restoring brings nothing
back that was paused, and silences nothing that was live. -/
structure PausesInStep (session : Session) : Prop where
  covered : ∀ id, session.isSounding id → session.Covered id
  spared : ∀ id, session.isSounding id → session.Spared id

/-- A tempo that is not restored makes no difference. -/
def KeepsTempo (session : Session) (settings : Settings) : Prop :=
  session.compile = "" ∨ Text.allBlank session.cpm.toList = false ∨
    Program.tempoStatement settings.defaultCpm = Program.tempoStatement session.cpm

theorem liveRecord_ofState_iff (hkeeps : ∀ id, ∃ placement, session.Keeps id placement)
    (runner : Runner) (settings : Settings) :
    (∀ id, session.isSounding id →
        (ofState session.snapshot runner settings).store.liveRecord id =
          session.store.liveRecord id) ↔
      session.PausesInStep := by
  have hlive := (replaying_ofState hkeeps runner settings).live
  simp only [hlive, replayed_eq_iff hkeeps]
  exact ⟨fun h => ⟨fun id hid => (h id hid).1, fun id hid => (h id hid).2⟩,
    fun h id hid => ⟨h.covered id hid, h.spared id hid⟩⟩

/-- A restored session has the live record of a node as it was exactly if the node is covered and
spared. It plays the same program, and has the live records of all nodes that can be heard as they
were, exactly if the paused groups fit the graph and the tempo is kept. A group that was cut apart
or joined to others after it was paused, or whose first node lost its record, does not fit. -/
theorem ofState_snapshot_iff (start : Start) (runner fresh : Runner) (settings : Settings)
    (actions : List Action) :
    let session := (start.session runner settings).run actions
    let restored := ofState session.snapshot fresh settings
    (∀ id, restored.store.liveRecord id = session.store.liveRecord id ↔
        session.Covered id ∧ session.Spared id) ∧
      ((restored.compile = session.compile ∧
          ∀ id, session.isSounding id →
            restored.store.liveRecord id = session.store.liveRecord id) ↔
        session.PausesInStep ∧ session.KeepsTempo settings) := by
  intro session restored
  have hkeeps := exists_keeps start runner settings actions
  have hrestored := replaying_ofState hkeeps fresh settings
  refine ⟨fun id => by rw [hrestored.live, replayed_eq_iff hkeeps], ?_⟩
  rw [← liveRecord_ofState_iff hkeeps fresh settings, and_comm]
  refine and_congr_right fun hlive => ?_
  have hsame : restored.compile =
      Program.compile session.nodes session.edges session.store restored.cpm := by
    rw [compile, hrestored.nodes, hrestored.edges]
    refine Program.compile_congr _ rfl fun id typeId htype hsounds => hlive id ?_
    rw [isSounding, htype]
    exact hsounds
  have hcpm : restored.cpm =
      if Text.allBlank session.cpm.toList then settings.defaultCpm else session.cpm :=
    cpm_ofState session fresh settings
  rw [hsame, compile, Program.compile_eq_iff, hcpm, KeepsTempo, compile]
  cases Text.allBlank session.cpm.toList <;> simp

/-- A paused group that is cut apart afterwards is restored as its first part only; the
rest plays. -/
theorem cut_group_is_restored_playing :
    let session := (withSettings {} {}).run (twoDrums ++ [.pauseGroup "a-b", .disconnect "e_1"])
    session.compile = "" ∧
      (ofState session.snapshot {} {}).compile = "setcpm(30)\n$: sound(\"hh\")" := by
  decide +kernel

end Session

end Patchbay
