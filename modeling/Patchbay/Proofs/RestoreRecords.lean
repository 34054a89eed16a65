import Patchbay.Proofs.SessionRestore

namespace Patchbay

namespace Placement

def unheld : Placement → Placement
  | held _ _ isMuted => if isMuted then muted ∅ else live ∅
  | placement => placement

def rekey (source target : String) : Placement → Placement
  | held groupId record isMuted =>
    held (if groupId = source then target else groupId) record isMuted
  | placement => placement

@[simp] theorem muted?_unheld (placement : Placement) :
    placement.unheld.muted? = placement.muted? := by
  cases placement with
  | live kept | muted kept => rfl
  | held groupId kept isMuted => cases isMuted <;> rfl

@[simp] theorem heldIn?_unheld (placement : Placement) (groupId : String) :
    placement.unheld.heldIn? groupId = none := by
  cases placement with
  | live kept | muted kept => rfl
  | held holder kept isMuted => cases isMuted <;> rfl

@[simp] theorem live?_unheld (placement : Placement) :
    placement.unheld.live? = placement.live? := by
  cases placement with
  | live kept | muted kept => rfl
  | held holder kept isMuted => cases isMuted <;> rfl

@[simp] theorem record_rekey (source target : String) (placement : Placement) :
    (placement.rekey source target).record = placement.record := by
  cases placement <;> rfl

@[simp] theorem muted?_rekey (source target : String) (placement : Placement) :
    (placement.rekey source target).muted? = placement.muted? := by
  cases placement <;> rfl

@[simp] theorem muted?_pause (groupId : String) (placement : Placement) :
    (placement.pause groupId).muted? = placement.muted? := by
  cases placement with
  | live kept => by_cases h : kept = ∅ <;> simp [pause, muted?, h]
  | muted kept | held holder kept isMuted => rfl

/-- Where a held record is once it is put back, before its group is paused: the record of a muted
node is held again, and any other is live. -/
def putBack (groupId : String) (record : Record) (isMuted : Bool) : Placement :=
  if isMuted then if record = ∅ then muted ∅ else held groupId record true
  else live (Record.merge ∅ record)

@[simp] theorem muted?_putBack (groupId holder : String) (record : Record) (isMuted : Bool) :
    (putBack groupId record isMuted).muted? = (held holder record isMuted).muted? := by
  cases isMuted with
  | true => by_cases hr : record = ∅ <;> simp [putBack, hr, muted?]
  | false => rfl

theorem record_putBack {record : Record} (hfree : record.NullFree) (groupId : String)
    (isMuted : Bool) :
    (putBack groupId record isMuted).record = record := by
  cases isMuted with
  | true => by_cases hr : record = ∅ <;> simp [putBack, hr, Placement.record]
  | false => exact hfree.empty_merge

def regrouped (id source : String) (placement : Placement) : Option Group → Placement
  | none => placement
  | some group =>
      (placement.rekey source group.groupId).step id (.pause group.groupId group.nodeIds)

@[simp] theorem record_regrouped (id source : String) (placement : Placement)
    (group? : Option Group) :
    (placement.regrouped id source group?).record = placement.record := by
  cases group? with
  | none => rfl
  | some group => by_cases hid : id ∈ group.nodeIds <;> simp [regrouped, step, hid]

@[simp] theorem muted?_regrouped (id source : String) (placement : Placement)
    (group? : Option Group) :
    (placement.regrouped id source group?).muted? = placement.muted? := by
  cases group? with
  | none => rfl
  | some group => by_cases hid : id ∈ group.nodeIds <;> simp [regrouped, step, hid]

theorem regrouped_unheld (id source groupId : String) (record : Record) (isMuted : Bool)
    (group? : Option Group) :
    (held groupId record isMuted).unheld.regrouped id source group? =
      (held groupId record isMuted).unheld := by
  cases group? with
  | none => rfl
  | some group => cases isMuted <;> simp [regrouped, unheld, rekey, step, pause]

end Placement

namespace Store

variable {store : Store} {id other : String} {placement : Placement}

theorem At.unheld (h : store.At id placement) :
    ({ store with paused := ∅ } : Store).At id placement.unheld := by
  refine ⟨fun group => ?_, ?_, ?_⟩
  · rw [Placement.heldIn?_unheld]
    rfl
  · rw [Placement.muted?_unheld, ← h.muted]
  · rw [Placement.live?_unheld, ← h.live]
    rfl

theorem At.holdInPausedGroup_ne (h : store.At other placement) (hne : other ≠ id)
    (groupId : String) (record : Record) :
    (store.holdInPausedGroup groupId id record).At other placement := by
  refine ⟨fun group => ?_, ?_, ?_⟩
  · rw [heldIn?_holdInPausedGroup, if_neg fun hc => hne hc.2.1, h.held]
  · rw [muted_holdInPausedGroup, h.muted]
  · rw [liveRecord_holdInPausedGroup, h.live]

theorem At.holdInPausedGroup (h : store.At id (.muted ∅)) (groupId : String) (record : Record) :
    (store.holdInPausedGroup groupId id record).At id
      (if record = ∅ then .muted ∅ else .held groupId record true) := by
  have hheld := fun group => heldIn?_holdInPausedGroup store groupId id record group id
  simp only [h.held] at hheld
  by_cases hr : record = ∅
  · rw [if_pos hr]
    refine ⟨fun group => ?_, ?_, ?_⟩
    · rw [hheld, if_neg fun hc => hc.2.2 hr]
    · rw [muted_holdInPausedGroup, h.muted]
    · rw [liveRecord_holdInPausedGroup, h.live]
  · rw [if_neg hr]
    refine ⟨fun group => ?_, ?_, ?_⟩
    · simp [hheld, hr, Placement.heldIn?]
    · rw [muted_holdInPausedGroup, h.muted]
      rfl
    · rw [liveRecord_holdInPausedGroup, h.live]
      rfl

theorem At.rekeyPausedGroup (h : store.At id placement) (source target : String) :
    (store.rekeyPausedGroup source target).At id (placement.rekey source target) := by
  refine ⟨fun group => ?_, ?_, ?_⟩
  · by_cases hne : source = target
    · rw [Store.rekeyPausedGroup, if_pos hne, h.held]
      cases placement with
      | live kept | muted kept => rfl
      | held holder kept isMuted =>
        by_cases hh : holder = source <;> simp [Placement.rekey, Placement.heldIn?, ← hne, hh]
    · rw [heldIn?_rekeyPausedGroup store source target hne, h.held, h.held, h.held]
      cases placement with
      | live kept | muted kept => simp [Placement.rekey, Placement.heldIn?]
      | held holder kept isMuted =>
        by_cases hh : holder = source
        · subst hh
          by_cases ht : group = target <;> by_cases hs : group = holder <;>
            simp_all [Placement.rekey, Placement.heldIn?]
        · by_cases ht : group = target <;> by_cases hs : group = source <;>
            simp_all [Placement.rekey, Placement.heldIn?, Ne.symm]
  · rw [muted_rekeyPausedGroup, h.muted, Placement.muted?_rekey]
  · rw [liveRecord_rekeyPausedGroup, h.live]
    cases placement <;> rfl

def KeepsWhole (store : Store) (id : String) (record : Record) (muted? : Option Record) : Prop :=
  ∃ placement, store.At id placement ∧ placement.record = record ∧ placement.muted? = muted?

theorem At.keepsWhole (h : store.At id placement) :
    store.KeepsWhole id placement.record placement.muted? :=
  ⟨placement, h, rfl, rfl⟩

/-- The record of a node: of what the tables keep of it, the one that is not empty, if
there is one. -/
structure RecordOf (store : Store) (id : String) (record : Record) : Prop where
  eq : ∀ place, store.keptAt place id ≠ ∅ → store.keptAt place id = record
  once : ∀ p q, store.keptAt p id ≠ ∅ → store.keptAt q id ≠ ∅ → p = q
  kept : record ≠ ∅ → ∃ place, store.keptAt place id = record

theorem At.recordOf (h : store.At id placement) : store.RecordOf id placement.record where
  eq place hkept := (h.keptAt_eq place).resolve_left hkept
  once _ _ hp hq := (h.place_eq hp).trans (h.place_eq hq).symm
  kept _ := ⟨placeOf placement, h.keptAt_placeOf⟩

end Store

namespace Session

variable {session : Session} {id : String} {placement : Placement} {record : Record}
  {muted? : Option Record}

section ReplayRecord

theorem at_replayRecord_ne (groupId : String) (h : session.store.At id placement)
    {entry : String × Record} (hne : id ≠ entry.1) :
    (session.replayRecord groupId entry).store.At id placement := by
  unfold replayRecord
  split
  · exact h
  · split
    · exact h.holdInPausedGroup_ne hne groupId entry.2
    · exact h.updateNode_ne hne entry.2

theorem at_foldl_replayRecord_ne (groupId : String) {entries : List (String × Record)}
    (h : session.store.At id placement) (hne : ∀ entry ∈ entries, id ≠ entry.1) :
    (entries.foldl (fun session entry => session.replayRecord groupId entry) session).store.At id
      placement := by
  induction entries generalizing session with
  | nil => exact h
  | cons entry rest ih =>
    exact ih (at_replayRecord_ne groupId h (hne entry List.mem_cons_self))
      fun other hother => hne other (List.mem_cons_of_mem entry hother)

theorem at_replayRecord (groupId : String) {holder : String} {isMuted : Bool}
    (h : session.store.At id (Placement.held holder record isMuted).unheld)
    (hnode : session.hasNode id) :
    (session.replayRecord groupId (id, record)).store.At id (.putBack groupId record isMuted) := by
  rw [replayRecord, hnode, h.isMuted_eq]
  cases isMuted with
  | true => exact h.holdInPausedGroup groupId record
  | false => exact h.updateNode record

end ReplayRecord

section ReplayGroup

variable {saved : String × Table Record}

theorem exists_at_replayGroup
    (h : (saved.2.entries.foldl (fun session entry => session.replayRecord saved.1 entry)
      session).store.At id placement) :
    ∃ group?, (session.replayGroup saved).store.At id (placement.regrouped id saved.1 group?) := by
  unfold replayGroup
  simp only
  split
  · exact ⟨none, h⟩
  · next group _ =>
    exact ⟨some group, (h.rekeyPausedGroup saved.1 group.groupId).apply
      (.pause group.groupId group.nodeIds)⟩

theorem keepsWhole_replayGroup_of_not_held (h : session.store.KeepsWhole id record muted?)
    (hnot : saved.2.get? id = none) :
    (session.replayGroup saved).store.KeepsWhole id record muted? := by
  obtain ⟨placement, hat, rfl, rfl⟩ := h
  obtain ⟨group?, hgroup⟩ := exists_at_replayGroup
    (at_foldl_replayRecord_ne saved.1 hat fun _ hentry => Table.ne_of_mem_entries hnot hentry)
  simpa using hgroup.keepsWhole

theorem keepsWhole_foldl_replayGroup {groups : List (String × Table Record)}
    (h : session.store.KeepsWhole id record muted?) (hnot : ∀ saved ∈ groups,
      saved.2.get? id = none) :
    (groups.foldl replayGroup session).store.KeepsWhole id record muted? := by
  induction groups generalizing session with
  | nil => exact h
  | cons saved rest ih =>
    exact ih (keepsWhole_replayGroup_of_not_held h (hnot saved List.mem_cons_self))
      fun other hother => hnot other (List.mem_cons_of_mem saved hother)

variable {holder : String} {isMuted : Bool}

theorem at_foldl_replayGroup_of_not_held {groups : List (String × Table Record)}
    (h : session.store.At id (Placement.held holder record isMuted).unheld)
    (hnot : ∀ saved ∈ groups, saved.2.get? id = none) :
    (groups.foldl replayGroup session).store.At id
    (Placement.held holder record isMuted).unheld := by
  induction groups generalizing session with
  | nil => exact h
  | cons saved rest ih =>
    have hnone := hnot saved List.mem_cons_self
    obtain ⟨group?, hgroup⟩ := exists_at_replayGroup
      (at_foldl_replayRecord_ne saved.1 h fun _ hentry => Table.ne_of_mem_entries hnone hentry)
    rw [Placement.regrouped_unheld] at hgroup
    exact ih hgroup fun other hother => hnot other (List.mem_cons_of_mem saved hother)

theorem exists_at_replayGroup_of_held
    (h : session.store.At id (Placement.held holder record isMuted).unheld)
    (hnode : session.hasNode id) (hget : saved.2.get? id = some record) :
    ∃ group?, (session.replayGroup saved).store.At id
      ((Placement.putBack saved.1 record isMuted).regrouped id saved.1 group?) := by
  -- One entry of the group is the record's; those before and after it are about other nodes.
  obtain ⟨before, after, hsplit, hbefore, hafter⟩ := Table.exists_split_of_get? hget
  obtain ⟨store, hstore⟩ := exists_store_foldl (exists_store_replayRecord saved.1) session before
  have hat := at_foldl_replayRecord_ne saved.1 h fun entry hentry =>
    (String.ne_of_lt (hbefore entry hentry)).symm
  rw [hstore] at hat
  refine exists_at_replayGroup ?_
  rw [hsplit, List.foldl_append, List.foldl_cons, hstore]
  exact at_foldl_replayRecord_ne saved.1 (at_replayRecord saved.1 hat hnode) fun entry hentry =>
    String.ne_of_lt (hafter entry hentry)

theorem keepsWhole_replayGroup_of_held
    (h : session.store.At id (Placement.held holder record isMuted).unheld)
    (hnode : session.hasNode id) (hfree : record.NullFree) (hget : saved.2.get? id = some record) :
    (session.replayGroup saved).store.KeepsWhole id record
      (Placement.held holder record isMuted).muted? := by
  obtain ⟨group?, hgroup⟩ := exists_at_replayGroup_of_held h hnode hget
  have hrecord := Placement.record_putBack hfree saved.1 isMuted
  have hmuted := Placement.muted?_putBack saved.1 holder record isMuted
  exact ⟨_, hgroup, by rw [Placement.record_regrouped, hrecord],
    by rw [Placement.muted?_regrouped, hmuted]⟩

end ReplayGroup

theorem Keeps.ofState (hplacement : session.Keeps id placement) (runner : Runner)
    (settings : Settings) :
    (ofState session.snapshot runner settings).store.KeepsWhole id placement.record
      placement.muted? := by
  have hinstalled := hplacement.placed.unheld
  unfold Session.ofState
  cases placement with
  | live kept | muted kept =>
    exact keepsWhole_foldl_replayGroup hinstalled.keepsWhole
      (get?_eq_none_of_not_held hplacement.placed.held)
  | held holder kept isMuted =>
    -- The record is out of sight until its own group is replayed, and stays in one piece
    -- afterwards.
    obtain ⟨held, done, todo, hsplit, hget, hdone, htodo⟩ := exists_split_paused hplacement.placed
    have hnode := hplacement.hasNode (by simp)
    simp only [snapshot, hsplit, List.foldl_append, List.foldl_cons]
    refine keepsWhole_foldl_replayGroup ?_ fun saved hsaved => (htodo saved hsaved).2
    refine keepsWhole_replayGroup_of_held ?_ ?_ hplacement.nullFree hget
    · exact at_foldl_replayGroup_of_not_held hinstalled fun saved hsaved => (hdone saved hsaved).2
    · obtain ⟨store, hstore⟩ := exists_store_foldl exists_store_replayGroup _ done
      rw [hstore]
      exact hnode

/-- Restoring loses nothing: the graph, the look, a tempo and the muted table are as they were, and
so is the record of every node, although it may be kept elsewhere. No record is dropped, merged with
another or overwritten, whether or not the paused groups still fit the graph. -/
theorem ofState_snapshot_conserves (start : Start) (runner fresh : Runner)
    (settings later : Settings) (actions : List Action) :
    let session := (start.session runner settings).run actions
    let restored := ofState session.snapshot fresh later
    restored.nodes = session.nodes ∧ restored.edges = session.edges ∧
      restored.theme = session.theme ∧ restored.colorMode = session.colorMode ∧
      (Text.allBlank session.cpm.toList = false → restored.cpm = session.cpm) ∧
      restored.store.muted = session.store.muted ∧
      ∀ id, ∃ record, session.store.RecordOf id record ∧ restored.store.RecordOf id record := by
  intro session restored
  obtain ⟨store, hstore⟩ := exists_store_ofState session fresh later
  have hkeeps (id : String) := exists_keeps start runner settings actions id
  refine ⟨(congrArg nodes hstore :), (congrArg edges hstore :), (congrArg theme hstore :),
    (congrArg colorMode hstore :), fun htempo => ?_, Table.ext fun id => ?_, fun id => ?_⟩
  · exact (congrArg cpm hstore :).trans (if_neg (Bool.eq_false_iff.mp htempo))
  · obtain ⟨placement, hplacement⟩ := hkeeps id
    obtain ⟨after, hafter, _, hmuted⟩ := hplacement.ofState fresh later
    rw [hafter.muted, hmuted, hplacement.placed.muted]
  · obtain ⟨placement, hplacement⟩ := hkeeps id
    obtain ⟨after, hafter, hrecord, _⟩ := hplacement.ofState fresh later
    exact ⟨placement.record, hplacement.placed.recordOf, hrecord ▸ hafter.recordOf⟩

theorem cut_group_loses_no_record :
    let session :=
      (Start.blank.session {} {}).run (twoDrums ++ [.pauseGroup "a-b", .disconnect "e_1"])
    let restored := ofState session.snapshot {} { defaultCpm := "45" }
    Text.allBlank session.cpm.toList = false ∧ restored.cpm = session.cpm ∧
      session.store.liveRecord "b" = ∅ ∧ restored.store.liveRecord "b" ≠ ∅ ∧
      ∃ record, session.store.RecordOf "b" record ∧ restored.store.RecordOf "b" record := by
  intro session restored
  obtain ⟨_, _, _, _, htempo, _, hrecords⟩ := ofState_snapshot_conserves .blank {} {} {}
    { defaultCpm := "45" } (twoDrums ++ [.pauseGroup "a-b", .disconnect "e_1"])
  have hblank : Text.allBlank session.cpm.toList = false := by decide +kernel
  exact ⟨hblank, htempo hblank, by decide +kernel, by decide +kernel, hrecords "b"⟩

end Session

end Patchbay
