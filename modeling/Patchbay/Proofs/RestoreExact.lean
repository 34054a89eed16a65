import Patchbay.Proofs.RestoreFits

namespace Patchbay

namespace Store

variable {store : Store} {id : String}

def LeavesEntries (store : Store) : Prop :=
  ∀ groupId id, store.isMuted id = false → (store.heldIn? groupId id).isSome →
    store.live.contains id

theorem LeavesEntries.updateNode (h : store.LeavesEntries) (edit : Record) :
    (store.updateNode id edit).LeavesEntries := by
  intro groupId other hmuted hheld
  rw [isSome_heldIn?_updateNode] at hheld
  obtain ⟨_, _, _, _, _, _, hafter⟩ | ⟨record, _, hkept, hafter⟩ | ⟨_, _, hafter⟩ :=
    store.updateNode_cases id edit
  · rw [hafter] at hmuted ⊢
    exact h groupId other hmuted hheld
  · rw [hafter] at hmuted ⊢
    refine h groupId other ?_ hheld
    by_cases ho : other = id <;> simp_all [isMuted, Table.contains]
  · rw [hafter] at hmuted ⊢
    have hbefore := h groupId other hmuted hheld
    by_cases ho : other = id <;> simp_all [Table.contains]

theorem LeavesEntries.apply (h : store.LeavesEntries) (operation : Operation) :
    (store.apply operation).LeavesEntries := by
  cases operation with
  | update other changes => exact h.updateNode changes
  | mute other =>
    cases hafter : store.muteNode? other with
    | none => rwa [Store.apply, hafter]
    | some after =>
      obtain ⟨hnone, rfl⟩ := muteNode?_eq_some hafter
      rw [Store.apply, hafter]
      intro groupId id hmuted hheld
      have hbefore := h groupId id
      by_cases ho : id = other <;> simp_all [isMuted, Table.contains, heldIn?]
  | unmute other =>
    cases hafter : store.unmuteNode? other with
    | none => rwa [Store.apply, hafter]
    | some after =>
      obtain ⟨record, hrecord, rfl⟩ := unmuteNode?_eq_some hafter
      rw [Store.apply, hafter]
      intro groupId id hmuted hheld
      have hbefore := h groupId id
      by_cases ho : id = other <;> simp_all [isMuted, Table.contains, heldIn?]
  | pause groupId ids =>
    intro other id hmuted hheld
    rw [Store.apply] at hmuted hheld ⊢
    rw [isMuted_congr (muted_pauseGroup?_getD store groupId ids)] at hmuted
    rw [heldIn?_pauseGroup?_getD] at hheld
    rw [Table.contains, get?_live_pauseGroup?_getD]
    by_cases hmoved : id ∈ ids ∧ store.liveRecord id ≠ ∅
    · rw [if_pos hmoved]
      rfl
    · rw [if_neg hmoved]
      rw [if_neg fun hc => hmoved hc.2] at hheld
      exact h other id hmuted hheld
  | unpause groupId =>
    cases hafter : store.unpauseGroup? groupId with
    | none => rwa [Store.apply, hafter]
    | some after =>
      intro other id hmuted hheld
      rw [Store.apply, hafter, Option.getD_some] at hmuted hheld ⊢
      rw [heldIn?_unpauseGroup? hafter] at hheld
      split at hheld
      · cases hheld
      · have hnot : store.isMuted id = false := by
          rw [isMuted, Table.contains, muted_unpauseGroup? hafter] at hmuted
          by_contra hyes
          rw [Bool.not_eq_false] at hyes
          have hkept : (store.muted.get? id).isSome := hyes
          rw [if_pos hyes, Option.isSome_or, hkept, Bool.or_true] at hmuted
          cases hmuted
        obtain ⟨saved, _, rfl⟩ := unpauseGroup?_eq_some hafter
        have hbefore : (store.live.get? id).isSome := h other id hnot hheld
        rw [Table.contains, Table.get?_insertAll_entries, Option.isSome_or, hbefore, Bool.or_true]
  | remove other =>
    intro groupId id hmuted hheld
    rw [Store.apply] at hmuted hheld ⊢
    rw [heldIn?_removeNode] at hheld
    by_cases ho : id = other
    · rw [if_pos ho] at hheld
      cases hheld
    · rw [if_neg ho] at hheld
      rw [isMuted, Table.contains, muted_removeNode, if_neg ho] at hmuted
      have hbefore := h groupId id hmuted hheld
      simpa [removeNode, Table.contains, ho] using hbefore

theorem LeavesEntries.run (h : store.LeavesEntries) (operations : List Operation) :
    (store.run operations).LeavesEntries :=
  List.foldlRecOn operations _ h fun _ hleaves operation _ => hleaves.apply operation

end Store

namespace Session

variable {session : Session}

theorem leavesEntries_run (start : Start) (runner : Runner) (settings : Settings)
    (actions : List Action) :
    ((start.session runner settings).run actions).store.LeavesEntries := by
  obtain ⟨operations, hstore⟩ := exists_operations (start.session runner settings) actions
  rw [hstore]
  refine Store.LeavesEntries.run ?_ operations
  have hnone (groupId id : String) :
      (start.session runner settings).store.heldIn? groupId id = none := by
    cases start <;> rfl
  intro groupId id _ hheld
  rw [hnone] at hheld
  cases hheld

theorem orderly_run (start : Start) (runner : Runner) (settings : Settings) (actions : List Action)
    (hfilled : ∀ groupId id,
      ((start.session runner settings).run actions).store.heldIn? groupId id ≠ some ∅) :
    ((start.session runner settings).run actions).Orderly := by
  have hkeeps := exists_keeps start runner settings actions
  have hleaves := leavesEntries_run start runner settings actions
  have hinhabited := inhabited_run start runner settings actions
  generalize (start.session runner settings).run actions = session at *
  refine ⟨⟨hinhabited, fun id groupId other hmuted hheld hother => ?_,
    fun groupId id hmuted hheld => ?_, fun groupId id record _ hheld => ?_⟩,
    fun groupId id hheld => ?_⟩
  · obtain ⟨placement, hplacement⟩ := hkeeps id
    exact hplacement.placed.eq_of_held hheld hother
  · obtain ⟨placement, hplacement⟩ := hkeeps id
    obtain ⟨record, isMuted, rfl⟩ := hplacement.placed.holder_eq hheld
    obtain ⟨kept, hkept⟩ := Option.isSome_iff_exists.mp (hleaves groupId id hmuted hheld)
    have hlive : session.store.liveRecord id = ∅ := hplacement.placed.live
    rw [Store.liveRecord, hkept, Option.getD_some] at hlive
    rw [hkept, hlive]
  · rintro rfl
    exact hfilled groupId id hheld
  · obtain ⟨placement, hplacement⟩ := hkeeps id
    refine hplacement.hasNode ?_
    rintro rfl
    rw [hplacement.placed.held] at hheld
    cases hheld

/-- The paused groups are groups of the graph as it is now: each is filed under the id of one, and
holds records of its members only, of which none is live. -/
def PausesAreGroups (session : Session) : Prop :=
  ∀ groupId, session.store.paused.contains groupId →
    ∃ group ∈ session.groups, group.groupId = groupId ∧
      (∀ id, (session.store.heldIn? groupId id).isSome → id ∈ group.nodeIds) ∧
      ∀ id ∈ group.nodeIds, session.store.liveRecord id = ∅

theorem contains_paused_of_held {groupId id : String}
    (h : (session.store.heldIn? groupId id).isSome) :
    session.store.paused.contains groupId := by
  by_contra hnone
  rw [Store.heldIn?_eq_none (Option.not_isSome_iff_eq_none.mp hnone)] at h
  cases h

theorem PausesAreGroups.hasRecord_pausedUpTo (h : session.PausesAreGroups) {group : Group}
    (hgroup : group ∈ session.groups) {id : String} (hid : id ∈ group.nodeIds) :
    (session.store.pausedUpTo group.groupId).HasRecord id ↔ session.store.HasRecord id := by
  refine or_congr_right (or_congr_right (exists_congr fun other => ?_))
  rw [Store.heldIn?_pausedUpTo]
  split
  · rfl
  · next hlater =>
    refine iff_of_false (by simp) fun hheld => hlater ?_
    obtain ⟨holder, hholder, rfl, hmembers, _⟩ := h other (contains_paused_of_held hheld)
    rw [Group.eq_of_mem_of_mem hgroup hholder hid (hmembers id hheld)]

theorem PausesAreGroups.named (h : session.PausesAreGroups) {group : Group}
    (hgroup : group ∈ session.groups) {first : String} (hfirst : first ∈ group.nodeIds) :
    Group.idOf (Group.membersOf session.nodes session.edges
      (session.store.pausedUpTo group.groupId) (connectedIds session.edges first)) =
          group.groupId := by
  rw [Group.groupId_eq_idOf_membersOf hgroup hfirst]
  refine Group.idOf_congr ((List.perm_ext_iff_of_nodup (Group.nodup_membersOf first)
    (Group.nodup_membersOf first)).mpr fun id => ?_)
  rw [Group.mem_membersOf, Group.mem_membersOf, ← Group.groupId_eq_idOf_membersOf hgroup hfirst]
  refine and_congr_right fun hjoined => ?_
  constructor
  · intro hmember
    obtain ⟨node, hlast, hcounts⟩ := (Group.isMember_iff_contributes _ _ _).mp hmember
    refine (Group.isMember_iff_contributes _ _ _).mpr ⟨node, hlast, hcounts.imp_left ?_⟩
    refine Or.imp_right (Or.imp_right fun ⟨other, hother⟩ => ⟨other, ?_⟩)
    rw [Store.heldIn?_pausedUpTo] at hother
    split at hother
    · exact hother
    · cases hother
  · intro hmember
    have hid := (Group.mem_nodeIds hgroup hfirst id).mpr ⟨hjoined, hmember⟩
    rwa [Group.isMember_congr (h.hasRecord_pausedUpTo hgroup hid)]

theorem PausesAreGroups.fits (h : session.PausesAreGroups) {saved : String × Table Record}
    (hsaved : saved ∈ session.store.paused.entries) : session.Fits saved.1 saved.2 := by
  have hown (id : String) : session.store.heldIn? saved.1 id = saved.2.get? id :=
    heldIn?_of_mem_paused hsaved id
  have hcontains : session.store.paused.contains saved.1 :=
    Option.isSome_iff_exists.mpr ⟨saved.2, (Table.mem_entries _ _ _).mp hsaved⟩
  obtain ⟨group, hgroup, hname, hmembers, hsilent⟩ := h saved.1 hcontains
  have hstart {first : String} (hfirst : first ∈ saved.2.keys.head?) : first ∈ group.nodeIds := by
    refine hmembers first ?_
    rw [hown]
    exact (Table.mem_keys _ _).mp (List.mem_of_mem_head? hfirst)
  refine ⟨fun first hfirst id hid _ => ?_, fun first hfirst id hnode hjoined => ?_,
    fun first hfirst => ?_⟩
  · exact ((Group.mem_nodeIds hgroup (hstart hfirst) id).mp (hmembers id (by rwa [hown]))).1
  · by_contra hlive
    rw [hasNode_iff_mem_ids, ← lastNode?_isSome] at hnode
    obtain ⟨node, hlast⟩ := Option.isSome_iff_exists.mp hnode
    have hmember : Group.isMember session.nodes session.store id :=
      (Group.isMember_iff_contributes _ _ _).mpr ⟨node, hlast, .inl (.inl hlive)⟩
    exact hlive (hsilent id ((Group.mem_nodeIds hgroup (hstart hfirst) id).mpr ⟨hjoined, hmember⟩))
  · rw [← hname]
    exact h.named hgroup (hstart hfirst)

theorem snapshot_ofState_eq_iff (runner : Runner) (settings : Settings)
    (htempo : Text.allBlank session.cpm.toList → session.cpm = settings.defaultCpm) :
    (ofState session.snapshot runner settings).snapshot = session.snapshot ↔
      (ofState session.snapshot runner settings).store = session.store := by
  obtain ⟨store, heq⟩ := exists_store_ofState session runner settings
  have hcpm : (if Text.allBlank session.cpm.toList then settings.defaultCpm else session.cpm) =
      session.cpm := by
    split
    · next hblank => exact (htempo hblank).symm
    · rfl
  rw [heq, hcpm]
  refine ⟨fun hsame => congrArg State.config hsame, fun hsame => ?_⟩
  obtain rfl : store = session.store := hsame
  rfl

/-- A session whose paused groups are groups of its graph is restored as it was: every entry of
every table, the muted members of paused groups and the empty live entries as well. -/
theorem ofState_snapshot_exact (start : Start) (runner fresh : Runner)
    (settings later : Settings) (actions : List Action) :
    let session := (start.session runner settings).run actions
    Text.allBlank session.cpm.toList = false → session.PausesAreGroups →
      (∀ groupId id, session.store.heldIn? groupId id ≠ some ∅) →
        (ofState session.snapshot fresh later).snapshot = session.snapshot := by
  intro session htempo hpauses hfilled
  have horderly := orderly_run start runner settings actions hfilled
  refine (snapshot_ofState_eq_iff fresh later fun hblank => ?_).mpr
    ((store_ofState_eq_iff horderly fresh later).mpr ⟨fun groupId id record _ hheld => ?_,
      fun saved hsaved => hpauses.fits hsaved⟩)
  · exact absurd (htempo.symm.trans hblank) Bool.false_ne_true
  · obtain ⟨_, hplacement⟩ := keeps_held (exists_keeps start runner settings actions) hheld
    refine ⟨?_, hplacement.nullFree⟩
    rintro rfl
    exact hfilled groupId id hheld

theorem muted_drum_is_restored_paused :
    let session := (Start.blank.session {} {}).run (twoDrums ++ [.pauseGroup "a-b", .muteNode "b"])
    (Text.allBlank session.cpm.toList = false ∧ session.PausesAreGroups ∧
        ∀ groupId id, session.store.heldIn? groupId id ≠ some ∅) ∧
      session.store.isMuted "b" ∧ (session.store.heldIn? "a-b" "b").isSome ∧
      (ofState session.snapshot {} { defaultCpm := "45" }).snapshot = session.snapshot := by
  intro session
  obtain ⟨htempo, hgroups, hpaused, hsilent, hmuted, hholds⟩ :
      Text.allBlank session.cpm.toList = false ∧ session.groups = [⟨"a-b", ["a", "b"]⟩] ∧
        session.store.paused = Table.empty.insert "a-b"
          ((Table.empty.insert "a" (.ofList [("sound", .string "bd")])).insert "b"
            (.ofList [("sound", .string "hh")])) ∧
        (∀ id ∈ ["a", "b"], session.store.liveRecord id = ∅) ∧ session.store.isMuted "b" ∧
        (session.store.heldIn? "a-b" "b").isSome := by
    decide +kernel
  have hheld (groupId id : String) (record : Record)
      (h : session.store.heldIn? groupId id = some record) :
      groupId = "a-b" ∧ id ∈ ["a", "b"] ∧ record ≠ ∅ := by
    rw [Store.heldIn?, hpaused, Table.get?_insert] at h
    split at h
    · next hg =>
      rw [Option.bind_some, Table.get?_insert, Table.get?_insert] at h
      split at h
      · next hb => exact ⟨hg, by simp [hb], by rw [← Option.some.inj h]; decide⟩
      · split at h
        · next ha => exact ⟨hg, by simp [ha], by rw [← Option.some.inj h]; decide⟩
        · cases h
    · cases h
  have hpauses : session.PausesAreGroups := by
    intro groupId hcontains
    obtain ⟨id, hid⟩ := (isGroupPaused_iff (inhabited_run .blank {} {} _) groupId).mp hcontains
    obtain ⟨record, hrecord⟩ := Option.isSome_iff_exists.mp hid
    obtain ⟨rfl, _⟩ := hheld groupId id record hrecord
    refine ⟨_, by rw [hgroups]; exact List.mem_cons_self, rfl, fun other hother => ?_, hsilent⟩
    obtain ⟨kept, hkept⟩ := Option.isSome_iff_exists.mp hother
    exact (hheld "a-b" other kept hkept).2.1
  have hfilled (groupId id : String) : session.store.heldIn? groupId id ≠ some ∅ :=
    fun h => (hheld groupId id ∅ h).2.2 rfl
  exact ⟨⟨htempo, hpauses, hfilled⟩, hmuted, hholds,
    ofState_snapshot_exact .blank {} {} {} _ _ htempo hpauses hfilled⟩

theorem cpm_ofState_of_blank (state : State) (runner : Runner) (settings : Settings)
    (h : Text.allBlank (ofState state runner settings).cpm.toList) :
    (ofState state runner settings).cpm = settings.defaultCpm := by
  obtain ⟨store, hstore⟩ := exists_store_foldl exists_store_replayGroup
    { withSettings runner settings with
      nodes := state.nodes
      edges := state.edges
      store := { state.config with paused := ∅ }
      theme := state.theme
      colorMode := state.colorMode
      cpm := (state.cpm.filter fun cpm => !Text.allBlank cpm.toList).getD settings.defaultCpm }
    state.config.paused.entries
  have hcpm : (ofState state runner settings).cpm =
      (state.cpm.filter fun cpm => !Text.allBlank cpm.toList).getD settings.defaultCpm :=
    congrArg cpm hstore
  rw [hcpm] at h ⊢
  cases hkept : state.cpm.filter fun cpm => !Text.allBlank cpm.toList with
  | none => rfl
  | some kept =>
    have hnot := (Option.filter_eq_some_iff.mp hkept).2
    rw [hkept, Option.getD_some] at h
    simp [h] at hnot

/-- Rebuilding a session twice is rebuilding it once, if and only if every paused group of the
session rebuilt once fits. A group is named by the members that its component has before the later
ones are back, so it fits no more when one of these brings members to the component. -/
theorem ofState_twice_iff (state : State) (runner fresh : Runner) (settings : Settings) :
    let once := ofState state runner settings
    (ofState once.snapshot fresh settings).snapshot = once.snapshot ↔ once.PausesFit := by
  intro once
  rw [snapshot_ofState_eq_iff fresh settings (cpm_ofState_of_blank state runner settings)]
  exact store_ofState_eq_iff (orderly_ofState state runner settings) fresh settings

def rejoinedPauses : List Action :=
  [.insertNode { id := "a", typeId := "drum_sounds" },
    .insertNode { id := "b", typeId := "drum_sounds" },
    .insertNode { id := "c", typeId := "drum_sounds" }, .connect "1" "b" "c",
    .updateNodeConfig "a" (.ofList [("sound", .string "bd")]),
    .updateNodeConfig "b" (.ofList [("sound", .string "hh")]),
    .updateNodeConfig "c" (.ofList [("sound", .string "sd")]), .pauseGroup "a", .pauseGroup "b-c",
    .disconnect "e_1", .connect "2" "c" "a"]

/-- Rebuilt once, the cut off drum plays; rebuilt twice, it is paused. -/
theorem rejoined_pauses_differ_when_rebuilt_twice :
    let once := ofState ((Start.blank.session {} {}).run rejoinedPauses).snapshot {} {}
    let twice := ofState once.snapshot {} {}
    Text.allBlank ({} : Settings).defaultCpm.toList = false ∧ twice.snapshot ≠ once.snapshot ∧
      once.compile = "setcpm(30)\n$: sound(\"sd\")" ∧ twice.compile = "" := by
  decide +kernel

end Session

end Patchbay
