import Patchbay.Proofs.GroupPartition
import Patchbay.Proofs.SessionRun

namespace Patchbay

theorem Text.splitOn_intercalate_eq_flatMap (separator : Char) {texts : List (List Char)}
    (h : texts ≠ []) :
    ([separator].intercalate texts).splitOn separator = texts.flatMap (·.splitOn separator) := by
  induction texts with
  | nil => exact absurd rfl h
  | cons text rest ih =>
    by_cases hrest : rest = []
    · simp [hrest]
    · rw [List.intercalate_cons_of_ne_nil hrest, List.append_assoc, List.singleton_append,
        List.splitOn_append_cons_self, ih hrest, List.flatMap_cons]

/-- An id that holds no dash, as the ids of added nodes do unless their type holds one. -/
def IsPlain (id : String) : Prop :=
  '-' ∉ id.toList

namespace Group

variable {nodes : List Node} {edges : List Edge} {store : Store} {ids others : List String}
  {group other : Group}

/-- What stands between the dashes of the sorted ids. This is all that the id of their
group tells. -/
def words (ids : List String) : List (List Char) :=
  (sorted ids).flatMap fun id => id.toList.splitOn '-'

theorem splitOn_idOf (h : ids ≠ []) : (idOf ids).toList.splitOn '-' = words ids := by
  have hsorted : sorted ids ≠ [] := fun hnil => h (List.perm_nil.mp (hnil ▸ (sorted_perm ids).symm))
  have hdash : "-".toList = ['-'] := rfl
  rw [idOf, String.toList_intercalate, hdash,
    Text.splitOn_intercalate_eq_flatMap '-' (List.map_eq_nil_iff.not.mpr hsorted), words,
    List.flatMap_map]

theorem idOf_eq_iff (h : ids ≠ []) (h' : others ≠ []) :
    idOf ids = idOf others ↔ words ids = words others := by
  rw [← splitOn_idOf h, ← splitOn_idOf h']
  constructor
  · intro heq
    rw [heq]
  · intro heq
    have hjoined := congrArg (['-'].intercalate ·) heq
    simp only [List.intercalate_splitOn] at hjoined
    exact String.toList_inj.mp hjoined

theorem words_of_isPlain (h : ∀ id ∈ ids, IsPlain id) :
    words ids = (sorted ids).map String.toList := by
  rw [words, ← List.flatMap_singleton' (List.map String.toList _), List.flatMap_map]
  refine List.flatMap_congr fun id hid => List.splitOn_eq_singleton ?_
  exact h id ((sorted_perm ids).mem_iff.mp hid)

theorem perm_of_words_eq (h : ∀ id ∈ ids, IsPlain id) (h' : ∀ id ∈ others, IsPlain id)
    (hwords : words ids = words others) : ids.Perm others := by
  rw [words_of_isPlain h, words_of_isPlain h'] at hwords
  have hsorted : sorted ids = sorted others :=
    List.map_injective_iff.mpr (fun _ _ => String.toList_inj.mp) hwords
  exact (sorted_perm ids).symm.trans (hsorted ▸ sorted_perm others)

theorem eq_of_mem_of_mem (hgroup : group ∈ all nodes edges store)
    (hother : other ∈ all nodes edges store)
    {id : String} (hid : id ∈ group.nodeIds) (hid' : id ∈ other.nodeIds) : group = other := by
  obtain ⟨before, after, hsplit⟩ := List.append_of_mem hgroup
  rw [hsplit, List.mem_append, List.mem_cons, or_left_comm, ← List.mem_append] at hother
  rcases hother with rfl | hother
  · rfl
  · exact absurd hid (disjoint_of_split hsplit other hother hid')

theorem groupId_eq_iff (hgroup : group ∈ all nodes edges store)
    (hother : other ∈ all nodes edges store) :
    group.groupId = other.groupId ↔ words group.nodeIds = words other.nodeIds := by
  obtain ⟨hid, hne⟩ := groupId_eq hgroup
  obtain ⟨hid', hne'⟩ := groupId_eq hother
  rw [hid, hid', idOf_eq_iff hne hne']

theorem eq_of_groupId_eq (hplain : ∀ id, Contributes nodes store id → IsPlain id)
    (hgroup : group ∈ all nodes edges store) (hother : other ∈ all nodes edges store)
    (heq : group.groupId = other.groupId) : group = other := by
  have hids {group : Group} (hgroup : group ∈ all nodes edges store) :
      ∀ id ∈ group.nodeIds, IsPlain id :=
    fun id hid =>
      hplain id ((isMember_iff_contributes nodes store id).mp (isMember_of_mem hgroup hid))
  have hperm := perm_of_words_eq (hids hgroup) (hids hother) ((groupId_eq_iff hgroup hother).mp heq)
  obtain ⟨id, hid⟩ := List.exists_mem_of_ne_nil _ (groupId_eq hgroup).2
  exact eq_of_mem_of_mem hgroup hother hid (hperm.mem_iff.mp hid)

theorem find?_groupId (hgroup : group ∈ all nodes edges store)
    (hone : ∀ other ∈ all nodes edges store, group.groupId = other.groupId → group = other) :
    (all nodes edges store).find? (fun other => other.groupId == group.groupId) = some group := by
  cases hfind : (all nodes edges store).find? fun other => other.groupId == group.groupId with
  | none => exact absurd (List.find?_eq_none.mp hfind group hgroup) (by simp)
  | some other =>
    have hsame : other.groupId = group.groupId := by simpa using List.find?_some hfind
    rw [hone other (List.mem_of_find?_eq_some hfind) hsame.symm]

theorem splitOn_infix_groupId (hgroup : group ∈ all nodes edges store) {id : String}
    (hid : id ∈ group.nodeIds) : id.toList.splitOn '-' <:+: group.groupId.toList.splitOn '-' := by
  obtain ⟨hname, hne⟩ := groupId_eq hgroup
  rw [hname, splitOn_idOf hne, words, List.flatMap_def]
  exact List.infix_of_mem_flatten
    (List.mem_map_of_mem ((sorted_perm group.nodeIds).mem_iff.mpr hid))

end Group

/-- Only a pause files the record of a node under the id of a group. -/
theorem Placement.heldIn?_of_step {placement : Placement} {id groupId : String}
    {operation : Store.Operation} (h : ((placement.step id operation).heldIn? groupId).isSome) :
    (placement.heldIn? groupId).isSome ∨ ∃ ids, operation = .pause groupId ids ∧ id ∈ ids := by
  cases operation with
  | update other changes =>
    by_cases ho : other = id <;> cases placement <;> simp_all [step, edit, heldIn?]
  | mute other => by_cases ho : other = id <;> cases placement <;> simp_all [step, mute, heldIn?]
  | unmute other =>
    by_cases ho : other = id <;> cases placement <;> simp_all [step, unmute, heldIn?]
  | remove other => by_cases ho : other = id <;> cases placement <;> simp_all [step, heldIn?]
  | unpause other =>
    refine .inl ?_
    cases placement with
    | live record | muted record => exact h
    | held holder record isMuted =>
      by_cases ho : holder = other <;> cases isMuted <;> simp_all [step, unpause, heldIn?]
  | pause other ids =>
    by_cases hid : id ∈ ids
    · cases placement with
      | live record =>
        refine .inr ⟨ids, ?_, hid⟩
        by_cases hrecord : record = ∅ <;> simp_all [step, pause, heldIn?]
      | muted record | held holder record isMuted => simp_all [step, pause, heldIn?]
    · exact .inl (by simpa [step, hid] using h)

namespace Session

variable {session : Session} {group : Group} {id groupId : String}

/-- Every record in a paused group is filed under an id that tells the words of its node. -/
def WellFiled (session : Session) : Prop :=
  ∀ groupId id, (session.store.heldIn? groupId id).isSome →
    id.toList.splitOn '-' <:+: groupId.toList.splitOn '-'

theorem exists_group_of_pause {action : Action} {ids : List String}
    (h : session.operation? action = some (.pause groupId ids)) :
    ∃ group ∈ session.groups, group.groupId = groupId ∧ group.nodeIds = ids := by
  cases action with
  | pauseGroup other =>
    obtain ⟨group, hfind, heq⟩ := Option.map_eq_some_iff.mp h
    obtain ⟨rfl, rfl⟩ := Store.Operation.pause.inj heq
    exact ⟨group, List.mem_of_find?_eq_some hfind, by simpa using List.find?_some hfind, rfl⟩
  | updateNodeConfig other changes | removeNode other | muteNode other =>
    by_cases hother : session.hasNode other
    · cases Option.some.inj ((if_pos hother).symm.trans h)
    · cases (if_neg hother).symm.trans h
  | playGroup other | unmuteNode other => cases Option.some.inj h
  | _ => cases h

theorem WellFiled.act (h : session.WellFiled)
    (hkeeps : ∀ id, ∃ placement, session.Keeps id placement)
    (action : Action) : (session.act action).WellFiled := by
  intro groupId id hheld
  obtain ⟨placement, hplacement⟩ := hkeeps id
  rw [(hplacement.act action).placed.held] at hheld
  cases hoperation : session.operation? action with
  | none =>
    rw [hoperation, Option.elim_none, ← hplacement.placed.held] at hheld
    exact h groupId id hheld
  | some operation =>
    rw [hoperation, Option.elim_some] at hheld
    rcases Placement.heldIn?_of_step hheld with hbefore | ⟨ids, rfl, hid⟩
    · rw [← hplacement.placed.held] at hbefore
      exact h groupId id hbefore
    · obtain ⟨group, hgroup, rfl, rfl⟩ := exists_group_of_pause hoperation
      exact Group.splitOn_infix_groupId hgroup hid

theorem WellFiled.run (h : session.WellFiled)
    (hkeeps : ∀ id, ∃ placement, session.Keeps id placement)
    (actions : List Action) : (session.run actions).WellFiled := by
  induction actions generalizing session with
  | nil => exact h
  | cons action rest ih =>
    refine ih (h.act hkeeps action) fun id => ?_
    obtain ⟨placement, hplacement⟩ := hkeeps id
    exact ⟨_, hplacement.act action⟩

theorem wellFiled_run (start : Start) (runner : Runner) (settings : Settings)
    (actions : List Action) :
    ((start.session runner settings).run actions).WellFiled := by
  have hnone (groupId id : String) :
      (start.session runner settings).store.heldIn? groupId id = none := by
    cases start <;> rfl
  have hempty : (start.session runner settings).WellFiled := by
    intro groupId id hheld
    rw [hnone] at hheld
    cases hheld
  exact hempty.run (exists_keeps start runner settings []) actions

theorem exists_operations (session : Session) (actions : List Action) :
    ∃ operations, (session.run actions).store = session.store.run operations := by
  induction actions generalizing session with
  | nil => exact ⟨[], rfl⟩
  | cons action rest ih =>
    obtain ⟨operations, hstore⟩ := ih (session.act action)
    have hact := store_act session action
    cases hoperation : session.operation? action with
    | none =>
      rw [hoperation, Option.elim_none] at hact
      exact ⟨operations, hstore.trans (by rw [hact])⟩
    | some operation =>
      rw [hoperation, Option.elim_some] at hact
      exact ⟨operation :: operations, hstore.trans (by rw [hact]; rfl)⟩

theorem inhabited_run (start : Start) (runner : Runner) (settings : Settings)
    (actions : List Action) :
    ((start.session runner settings).run actions).store.Inhabited := by
  obtain ⟨operations, hstore⟩ := exists_operations (start.session runner settings) actions
  rw [hstore]
  refine Store.Inhabited.run ?_ operations
  cases start <;> exact fun groupId held hheld => nomatch hheld

theorem contributes_of_held {placement : Placement} (hkeeps : session.Keeps id placement)
    (hheld : (session.store.heldIn? groupId id).isSome) :
    Contributes session.nodes session.store id := by
  have hnode : session.hasNode id := by
    by_contra hnot
    rw [hkeeps.placed.held, hkeeps.known (Bool.eq_false_iff.mpr hnot)] at hheld
    cases hheld
  rw [hasNode_iff, ← ids_eq, ← lastNode?_isSome] at hnode
  obtain ⟨node, hlast⟩ := Option.isSome_iff_exists.mp hnode
  exact ⟨node, hlast, .inl (.inr (.inr ⟨groupId, hheld⟩))⟩

theorem mem_nodeIds_of_held (hfiled : session.WellFiled) {placement : Placement}
    (hkeeps : session.Keeps id placement)
    (hplain : ∀ id, Contributes session.nodes session.store id → IsPlain id)
    (hgroup : group ∈ session.groups) (hheld : (session.store.heldIn? group.groupId id).isSome) :
    id ∈ group.nodeIds := by
  obtain ⟨hname, hne⟩ := Group.groupId_eq hgroup
  have hids : ∀ id ∈ group.nodeIds, IsPlain id := fun id hid =>
    hplain id ((Group.isMember_iff_contributes _ _ id).mp (Group.isMember_of_mem hgroup hid))
  have hwords := hfiled group.groupId id hheld
  rw [List.splitOn_eq_singleton (hplain id (contributes_of_held hkeeps hheld)), hname,
    Group.splitOn_idOf hne, Group.words_of_isPlain hids] at hwords
  obtain ⟨other, hother, heq⟩ := List.mem_map.mp (hwords.subset List.mem_cons_self)
  rw [String.toList_inj.mp heq] at hother
  exact (Group.sorted_perm group.nodeIds).mem_iff.mp hother

theorem liveRecord_pauseGroup
    (hfind : session.groups.find? (·.groupId == group.groupId) = some group)
    (id : String) :
    (session.pauseGroup group.groupId).1.store.liveRecord id =
      if id ∈ group.nodeIds then ∅ else session.store.liveRecord id := by
  have hstore := store_act session (.pauseGroup group.groupId)
  rw [act, operation?, hfind] at hstore
  rw [hstore]
  exact Store.liveRecord_pauseGroup?_getD session.store group.groupId group.nodeIds id

theorem liveRecord_playGroup (session : Session) (groupId id : String) :
    (session.playGroup groupId).1.store.liveRecord id =
      if session.store.isMuted id then session.store.liveRecord id
      else (session.store.heldIn? groupId id).getD (session.store.liveRecord id) := by
  have hstore := store_act session (.playGroup groupId)
  rw [act, operation?, Option.elim_some, Store.apply] at hstore
  rw [hstore]
  cases hafter : session.store.unpauseGroup? groupId with
  | none =>
    have hnone := Store.heldIn?_eq_none (Option.map_eq_none_iff.mp hafter) id
    rw [Option.getD_none, hnone, Option.getD_none, ite_self]
  | some after =>
    rw [Option.getD_some, Store.liveRecord_unpauseGroup? hafter]

theorem isGroupPaused_iff (h : session.store.Inhabited) (groupId : String) :
    session.store.isGroupPaused groupId ↔ ∃ id, (session.store.heldIn? groupId id).isSome := by
  rw [Store.isGroupPaused, Table.contains, Option.isSome_iff_exists]
  constructor
  · rintro ⟨held, hheld⟩
    obtain ⟨id, record, hrecord⟩ := (Table.ne_empty_iff held).mp (h groupId held hheld)
    exact ⟨id, Option.isSome_iff_exists.mpr ⟨record,
      Store.heldIn?_eq_some.mpr ⟨held, hheld, hrecord⟩⟩⟩
  · rintro ⟨id, hid⟩
    obtain ⟨record, hrecord⟩ := Option.isSome_iff_exists.mp hid
    obtain ⟨held, hheld, _⟩ := Store.heldIn?_eq_some.mp hrecord
    exact ⟨held, hheld⟩

/-- Two groups of a graph have the same id exactly if the ids of their members, sorted and cut at
the dashes, are the same words. So without dashes no two groups share an id, and the id of a group
is good to pause it, to play it and to ask whether it is paused: this changes the members of no
other group. -/
theorem groupId_identifies_plain :
    (∀ (nodes : List Node) (edges : List Edge) (store : Store),
      let groups := Group.all nodes edges store
      (∀ group ∈ groups, ∀ other ∈ groups,
          group.groupId = other.groupId ↔ Group.words group.nodeIds = Group.words other.nodeIds) ∧
        ((∀ id, Contributes nodes store id → IsPlain id) →
          ∀ group ∈ groups, ∀ other ∈ groups, group ≠ other → group.groupId ≠ other.groupId)) ∧
      ∀ (start : Start) (runner : Runner) (settings : Settings) (actions : List Action),
        let session := (start.session runner settings).run actions
        (∀ id, Contributes session.nodes session.store id → IsPlain id) →
          ∀ group ∈ session.groups,
            (∀ id, (session.pauseGroup group.groupId).1.store.liveRecord id =
                if id ∈ group.nodeIds then ∅ else session.store.liveRecord id) ∧
              (∀ id, (session.playGroup group.groupId).1.store.liveRecord id =
                if id ∈ group.nodeIds ∧ session.store.isMuted id = false then
                  (session.store.heldIn? group.groupId id).getD (session.store.liveRecord id)
                else session.store.liveRecord id) ∧
              (session.store.isGroupPaused group.groupId ↔
                ∃ id ∈ group.nodeIds, (session.store.heldIn? group.groupId id).isSome) := by
  constructor
  · intro nodes edges store groups
    refine ⟨fun group hgroup other hother => Group.groupId_eq_iff hgroup hother, ?_⟩
    intro hplain group hgroup other hother hne heq
    exact hne (Group.eq_of_groupId_eq hplain hgroup hother heq)
  · intro start runner settings actions session hplain group hgroup
    have hmember {id : String} (hheld : (session.store.heldIn? group.groupId id).isSome) :
        id ∈ group.nodeIds := by
      obtain ⟨placement, hkeeps⟩ := exists_keeps start runner settings actions id
      exact mem_nodeIds_of_held (wellFiled_run start runner settings actions) hkeeps
        hplain hgroup hheld
    refine ⟨?_, fun id => ?_, ?_⟩
    · refine liveRecord_pauseGroup (Group.find?_groupId hgroup fun other hother heq => ?_)
      exact Group.eq_of_groupId_eq hplain hgroup hother heq
    · have hnone (hid : id ∉ group.nodeIds) : session.store.heldIn? group.groupId id = none :=
        Option.not_isSome_iff_eq_none.mp fun hheld => hid (hmember hheld)
      rw [liveRecord_playGroup]
      by_cases hid : id ∈ group.nodeIds
      · by_cases hmuted : session.store.isMuted id <;> simp [hid, hmuted]
      · simp [hid, hnone hid]
    · rw [isGroupPaused_iff (inhabited_run start runner settings actions)]
      exact exists_congr fun id => ⟨fun hheld => ⟨hmember hheld, hheld⟩, fun hid => hid.2⟩

def drumsAndSynth : List Action :=
  twoDrums ++ [.insertNode { id := "c", typeId := "synth" }]

theorem pausing_drums_spares_synth :
    let session := (Start.blank.session {} {}).run drumsAndSynth
    (∀ id, Contributes session.nodes session.store id → IsPlain id) ∧
      (∃ group ∈ session.groups, ∃ other ∈ session.groups,
        group ≠ other ∧ group.groupId ≠ other.groupId) ∧
      ∀ id, (session.pauseGroup "a-b").1.store.liveRecord id =
        if id ∈ ["a", "b"] then ∅ else session.store.liveRecord id := by
  intro session
  have hplain : ∀ id, Contributes session.nodes session.store id → IsPlain id := by
    rintro id ⟨node, hnode, _⟩
    have hid : id ∈ ["a", "b", "c"] :=
      (lastNode?_isSome session.nodes id).mp (Option.isSome_iff_exists.mpr ⟨node, hnode⟩)
    have hall : ∀ id ∈ ["a", "b", "c"], '-' ∉ id.toList := by decide
    exact hall id hid
  have hgroups : session.groups = [⟨"a-b", ["a", "b"]⟩, ⟨"c", ["c"]⟩] := by decide +kernel
  have hdrums : (⟨"a-b", ["a", "b"]⟩ : Group) ∈ session.groups := by simp [hgroups]
  have hsynth : (⟨"c", ["c"]⟩ : Group) ∈ session.groups := by simp [hgroups]
  obtain ⟨hgraph, hsession⟩ := groupId_identifies_plain
  refine ⟨hplain, ⟨_, hdrums, _, hsynth, by decide, ?_⟩, ?_⟩
  · exact (hgraph session.nodes session.edges session.store).2 hplain _ hdrums _ hsynth (by decide)
  · have hpause := (hsession .blank {} {} drumsAndSynth hplain _ hdrums).1
    dsimp only [session] at hpause ⊢
    exact hpause

/-- A drum node with a dash in its id, beside two joined ones whose group is then named the same. -/
def dashedDrum : List Action :=
  .insertNode { id := "a-b", typeId := "drum_sounds" } :: twoDrums

/-- The drum `a` plays in a group that goes by the id of another one, and pausing that id leaves `a`
playing. -/
theorem dashed_drum_takes_group_id :
    let session := (Start.blank.session {} {}).run dashedDrum
    (∃ group ∈ session.groups, ∃ other ∈ session.groups,
        group ≠ other ∧ group.groupId = other.groupId) ∧
      session.groupOf? "a" = some ⟨"a-b", ["a", "b"]⟩ ∧ session.store.liveRecord "a" ≠ ∅ ∧
      (session.pauseGroup "a-b").1.store.liveRecord "a" = session.store.liveRecord "a" := by
  intro session
  have hgroups : session.groups = [⟨"a-b", ["a-b"]⟩, ⟨"a-b", ["a", "b"]⟩] := by decide +kernel
  refine ⟨⟨⟨"a-b", ["a-b"]⟩, ?_, ⟨"a-b", ["a", "b"]⟩, ?_, by decide, rfl⟩, ?_, ?_, ?_⟩
  · simp [hgroups]
  · simp [hgroups]
  · rw [groupOf?, hgroups]
    rfl
  · decide +kernel
  · decide +kernel

end Session

end Patchbay
