import Patchbay.Proofs.HeldRecords
import Patchbay.Proofs.RefusedEdits
import Patchbay.Proofs.SessionRestore
import Patchbay.Proofs.SessionWellFormed

namespace Patchbay

theorem Store.isSome_heldIn?_apply (store : Store) (operation : Operation) (groupId id : String) :
    ((store.apply operation).heldIn? groupId id).isSome ↔
      match operation with
      | .pause other ids =>
          groupId = other ∧ id ∈ ids ∧ store.liveRecord id ≠ ∅ ∨ (store.heldIn? groupId id).isSome
      | .unpause other => groupId ≠ other ∧ (store.heldIn? groupId id).isSome
      | .remove other => id ≠ other ∧ (store.heldIn? groupId id).isSome
      | .update _ _ | .mute _ | .unmute _ => (store.heldIn? groupId id).isSome := by
  cases operation with
  | update other changes => simp [Store.apply, isSome_heldIn?_updateNode]
  | mute other =>
    cases hafter : store.muteNode? other with
    | none => simp [Store.apply, hafter]
    | some after =>
      obtain ⟨_, rfl⟩ := muteNode?_eq_some hafter
      simp [Store.apply, hafter, heldIn?]
  | unmute other =>
    cases hafter : store.unmuteNode? other with
    | none => simp [Store.apply, hafter]
    | some after =>
      obtain ⟨_, _, rfl⟩ := unmuteNode?_eq_some hafter
      simp [Store.apply, hafter, heldIn?]
  | pause other ids =>
    rw [Store.apply, heldIn?_pauseGroup?_getD]
    split
    · next hmoved => simp [hmoved]
    · next hnot => simp [hnot]
  | unpause other =>
    cases hafter : store.unpauseGroup? other with
    | none =>
      have hnone := heldIn?_eq_none (Option.map_eq_none_iff.mp hafter)
      rw [Store.apply, hafter, Option.getD_none, iff_and_self]
      rintro hheld rfl
      cases (hnone id) ▸ hheld
    | some after =>
      rw [Store.apply, hafter, Option.getD_some, heldIn?_unpauseGroup? hafter]
      by_cases hg : groupId = other <;> simp [hg]
  | remove other =>
    rw [Store.apply, heldIn?_removeNode]
    by_cases hid : id = other <;> simp [hid]

namespace Session

variable {session : Session} {id groupId : String}

/-- A paused group holds the record of the node. -/
def Held (session : Session) (id : String) : Prop :=
  ∃ groupId, (session.store.heldIn? groupId id).isSome

def ShownRunning (session : Session) (id : String) : Prop :=
  ∃ node ∈ session.nodes, node.id = id ∧ node.isRunning

/-- The node was running when everything was paused, and everything still is. -/
def Remembered (session : Session) (id : String) : Prop :=
  ∃ ids ∈ session.runningBefore, id ∈ ids

/-- The node is shown running, or will be as soon as a pause of everything ends. -/
def DueRunning (session : Session) (id : String) : Prop :=
  session.ShownRunning id ∨ session.Remembered id

/-- The node is to be shown running although a paused group holds its record. -/
def Misshown (session : Session) (id : String) : Prop :=
  session.Held id ∧ session.DueRunning id

def Pauses (session : Session) (groupId id : String) : Prop :=
  (session.pauseGroup groupId).2 = true ∧
    ∃ group, (session.groups.find? fun group => group.groupId == groupId) = some group ∧
    id ∈ group.nodeIds

/-- The action parks the record of a node that the end of a pause of everything will set running. -/
def ParksRemembered (session : Session) (id : String) : Action → Prop
  | .pauseGroup groupId =>
    session.Remembered id ∧ session.store.liveRecord id ≠ ∅ ∧ session.Pauses groupId id
  | _ => False

/-- The action plays a group, and the node is joined to its first one, but another group holds
its record. -/
def Reaches (session : Session) (id : String) : Action → Prop
  | .playGroup groupId =>
      (∃ other, other ≠ groupId ∧ (session.store.heldIn? other id).isSome) ∧
        ∃ held ∈ session.store.paused.get? groupId, session.Anchors held id
  | _ => False

/-- The action gives the record back, takes the node away or shows it paused for good. -/
def Corrects (session : Session) (id : String) : Action → Prop
  | .playGroup groupId => (session.store.heldIn? groupId id).isSome
  | .pauseGroup groupId => ¬ session.Remembered id ∧ session.Pauses groupId id
  | .removeNode other => other = id
  | _ => False

section Shown

theorem shownRunning_iff_mem (session : Session) (id : String) : session.ShownRunning id ↔
    (id, true) ∈ session.nodes.map fun node => (node.id, node.isRunning) := by
  simp [ShownRunning]

theorem shownRunning_setState (session : Session) (ids : List String) (state : RunState)
    (id : String) :
    (session.setState ids state).ShownRunning id ↔
      if id ∈ ids then state = .running ∧ session.hasNode id else session.ShownRunning id := by
  have hset (node : Node) :
      (if ids.contains node.id then node.setState state else node).id = node.id ∧
        ((if ids.contains node.id then node.setState state else node).isRunning ↔
          if node.id ∈ ids then state = .running else node.isRunning) := by
    by_cases hmem : node.id ∈ ids <;> simp [hmem, Node.setState, Node.isRunning]
  have hshown : (session.setState ids state).ShownRunning id ↔
      ∃ node ∈ session.nodes, node.id = id ∧
        if id ∈ ids then state = .running else node.isRunning := by
    simp only [ShownRunning, setState, List.mem_map, exists_exists_and_eq_and, hset]
    refine exists_congr fun node => and_congr_right fun _ => and_congr_right fun hid => ?_
    rw [hid]
  rw [hshown, hasNode_iff_mem_ids, List.mem_map]
  by_cases hmem : id ∈ ids
  · simp only [if_pos hmem]
    grind
  · simp only [if_neg hmem]
    rfl

theorem shownRunning_setState_paused (session : Session) (ids : List String) (id : String) :
    (session.setState ids .paused).ShownRunning id ↔ session.ShownRunning id ∧ id ∉ ids := by
  rw [shownRunning_setState]
  by_cases hmem : id ∈ ids <;> simp [hmem]

theorem shownRunning_setState_running (session : Session) (hnode : session.hasNode id)
    (ids : List String) :
    (session.setState ids .running).ShownRunning id ↔ session.ShownRunning id ∨ id ∈ ids := by
  rw [shownRunning_setState]
  by_cases hmem : id ∈ ids <;> simp [hmem, hnode]

end Shown

theorem Sound.hasNode_of_held (h : session.Sound) (hheld : session.Held id) :
    session.hasNode id := by
  obtain ⟨groupId, hheld⟩ := hheld
  exact h.wellFormed.held groupId id hheld

theorem shownRunning_iff_of_eq {next : Session} (h : next.nodes = session.nodes) :
    next.ShownRunning id ↔ session.ShownRunning id := by
  rw [ShownRunning, h, ShownRunning]

theorem remembered_iff_of_eq {next : Session} (h : next.runningBefore = session.runningBefore) :
    next.Remembered id ↔ session.Remembered id := by
  rw [Remembered, h, Remembered]

theorem remembered_iff {ids : List String} (h : session.runningBefore = some ids) :
    session.Remembered id ↔ id ∈ ids := by
  simp [Remembered, h]

theorem not_remembered (h : session.runningBefore = none) (id : String) :
    ¬ session.Remembered id := by
  simp [Remembered, h]

theorem misshown_pauseGroup (session : Session) (groupId id : String) :
    (session.act (.pauseGroup groupId)).Misshown id ↔
      session.Misshown id ∧ ¬ session.Corrects id (.pauseGroup groupId) ∨
        session.ParksRemembered id (.pauseGroup groupId) := by
  rw [Corrects, ParksRemembered, Pauses]
  cases hdone : (session.pauseGroup groupId).2 with
  | false =>
    rw [act, (pauseGroup_refused hdone).1]
    simp
  | true =>
    obtain ⟨group, store, hgroup, hstore, heq⟩ := pauseGroup_done hdone
    have hheld : (session.act (.pauseGroup groupId)).Held id ↔
        id ∈ group.nodeIds ∧ session.store.liveRecord id ≠ ∅ ∨ session.Held id := by
      have happly (other : String) :=
        session.store.isSome_heldIn?_apply (.pause groupId group.nodeIds) other id
      rw [Held, store_act, operation?, hgroup, Option.map_some, Option.elim_some]
      simp only [happly, exists_or, exists_eq_left, Held]
    have hdue : (session.act (.pauseGroup groupId)).DueRunning id ↔
        session.ShownRunning id ∧ id ∉ group.nodeIds ∨ session.Remembered id := by
      have hsame := runningBefore_act session (.pauseGroup groupId)
      rw [DueRunning, remembered_iff_of_eq hsame, act, heq]
      exact or_congr (shownRunning_setState_paused { session with store } group.nodeIds id) Iff.rfl
    rw [Misshown, hheld, hdue, Misshown, DueRunning]
    simp only [hgroup, Option.some.injEq, exists_eq_left', true_and]
    grind

section PlayGroup

variable {saved : Table Record} {store : Store}

def playedWith (session : Session) (saved : Table Record) : List String :=
  match saved.keys.head?.bind session.groupOf? with
  | some group => group.nodeIds
  | none => saved.keys

theorem playGroup_eq (hsaved : session.store.paused.get? groupId = some saved)
    (hstore : session.store.unpauseGroup? groupId = some store) :
    (session.playGroup groupId).1 =
      (({ session with store }).setState (({ session with store }).playedWith saved)
        .running).refreshed := by
  simp only [playGroup, Store.pausedGroup?, hsaved, hstore]
  rfl

/-- Once its record is given back, the first node is a member of its group unless it has
nothing to say. -/
theorem isMember_played (h : session.Sound)
    (hstore : session.store.unpauseGroup? groupId = some store)
    {record : Record} (hrecord : session.store.heldIn? groupId id = some record) :
    Group.isMember session.nodes store id ↔ record ≠ ∅ ∨ session.isSounding id := by
  have hheld : (session.store.heldIn? groupId id).isSome := by rw [hrecord]; rfl
  obtain ⟨placement, hkeeps⟩ := h.keeps id
  obtain ⟨kept, isMuted, rfl⟩ := hkeeps.placed.holder_eq hheld
  obtain rfl : kept = record := by
    have hsame := hkeeps.placed.held groupId
    rw [hrecord, Placement.heldIn?, if_pos rfl] at hsame
    exact (Option.some.inj hsame).symm
  have hat := hkeeps.placed.unpauseGroup? hstore
  rw [Placement.unpause, if_neg (not_not_intro rfl)] at hat
  rw [isMember_iff (h.hasNode_of_held ⟨groupId, hheld⟩), Store.hasSavedContribution_iff,
    hat.live, hat.muted]
  simp only [hat.held]
  cases isMuted <;> simp [Placement.live?, Placement.muted?, Placement.heldIn?]

theorem mem_playedWith (h : session.Sound) (hsaved : session.store.paused.get? groupId = some saved)
    (hstore : session.store.unpauseGroup? groupId = some store) {other : String}
    (hother : other ≠ groupId)
    (hheld : (session.store.heldIn? other id).isSome) :
    id ∈ ({ session with store }).playedWith saved ↔ session.Anchors saved id := by
  have hmember : Group.isMember session.nodes store id := by
    rw [isMember_iff (h.hasNode_of_held ⟨other, hheld⟩), Store.hasSavedContribution_iff]
    refine .inr (.inl (.inr ⟨other, ?_⟩))
    rw [Store.heldIn?_unpauseGroup? hstore, if_neg hother]
    exact hheld
  have hnot : id ∉ saved.keys := by
    rw [Table.mem_keys]
    intro hcontains
    have hgroup : (session.store.heldIn? groupId id).isSome := by
      rwa [Store.heldIn?, hsaved]
    exact hother (h.wellFormed.heldOnce id other groupId hheld hgroup)
  unfold playedWith Anchors
  cases hhead : saved.keys.head? with
  | none => simpa using hnot
  | some first =>
    obtain ⟨record, hrecord⟩ := Option.isSome_iff_exists.mp
      ((Table.mem_keys saved first).mp (List.mem_of_mem_head? hhead))
    have hfirst := isMember_played h hstore (Store.heldIn?_eq_some.mpr ⟨saved, hsaved, hrecord⟩)
    simp only [Option.mem_def, Option.bind_some, Option.some.injEq, exists_eq_left', hrecord, ne_eq]
    cases hgroup : ({ session with store }).groupOf? first with
    | none =>
      have hnone := groupOf?_eq_none hgroup
      exact iff_of_false hnot fun hanchors => Bool.eq_false_iff.mp hnone (hfirst.mpr hanchors.2)
    | some group =>
      obtain ⟨hmem, hin⟩ := groupOf?_eq_some hgroup
      rw [Group.mem_nodeIds hmem hin id, and_iff_left hmember]
      exact (and_iff_left (hfirst.mp (Group.isMember_of_mem hmem hin))).symm

theorem dueRunning_playGroup (hnode : session.hasNode id)
    (hsaved : session.store.paused.get? groupId = some saved)
    (hstore : session.store.unpauseGroup? groupId = some store) :
    (session.act (.playGroup groupId)).DueRunning id ↔
      session.DueRunning id ∨ id ∈ ({ session with store }).playedWith saved := by
  have hshown := shownRunning_setState_running { session with store } hnode
    (({ session with store }).playedWith saved)
  rw [DueRunning, remembered_iff_of_eq (runningBefore_act session (.playGroup groupId)), act,
    playGroup_eq hsaved hstore, DueRunning, or_right_comm]
  exact or_congr hshown Iff.rfl

theorem held_playGroup (session : Session) (groupId id : String) :
    (session.act (.playGroup groupId)).Held id ↔
      ∃ other, other ≠ groupId ∧ (session.store.heldIn? other id).isSome := by
  have happly (other : String) := session.store.isSome_heldIn?_apply (.unpause groupId) other id
  rw [Held, store_act, operation?, Option.elim_some]
  simp only [happly]

theorem held_elsewhere_iff (h : session.Sound) (groupId id : String) :
    (∃ other, other ≠ groupId ∧ (session.store.heldIn? other id).isSome) ↔
      session.Held id ∧ ¬ (session.store.heldIn? groupId id).isSome := by
  constructor
  · rintro ⟨other, hother, hheld⟩
    exact ⟨⟨other, hheld⟩,
      fun hgroup => hother (h.wellFormed.heldOnce id other groupId hheld hgroup)⟩
  · rintro ⟨⟨other, hheld⟩, hnot⟩
    exact ⟨other, fun heq => hnot (heq ▸ hheld), hheld⟩

theorem misshown_playGroup (h : session.Sound) (groupId id : String) :
    (session.act (.playGroup groupId)).Misshown id ↔
      session.Misshown id ∧ ¬ session.Corrects id (.playGroup groupId) ∨
        session.Reaches id (.playGroup groupId) := by
  have hheld := held_playGroup session groupId id
  rw [Misshown, Misshown, Corrects, Reaches, and_right_comm, ← held_elsewhere_iff h, hheld,
    ← and_or_left]
  refine and_congr_right fun ⟨other, hother, hsome⟩ => ?_
  cases hsaved : session.store.paused.get? groupId with
  | none =>
    have hsame : session.act (.playGroup groupId) = session := by
      simp only [act, playGroup, Store.pausedGroup?, hsaved]
    simp [hsame]
  | some saved =>
    obtain ⟨store, hstore⟩ : ∃ store, session.store.unpauseGroup? groupId = some store := by
      rw [Store.unpauseGroup?, hsaved]
      exact ⟨_, rfl⟩
    have hnode : session.hasNode id := h.hasNode_of_held ⟨other, hsome⟩
    rw [dueRunning_playGroup hnode hsaved hstore, mem_playedWith h hsaved hstore hother hsome]
    simp

end PlayGroup

theorem misshown_removeNode (h : session.Sound) (other id : String) :
    (session.act (.removeNode other)).Misshown id ↔
      session.Misshown id ∧ ¬ session.Corrects id (.removeNode other) := by
  change _ ↔ session.Misshown id ∧ ¬ other = id
  by_cases hother : session.hasNode other
  · have hheld : (session.act (.removeNode other)).Held id ↔ session.Held id ∧ ¬ other = id := by
      have happly (groupId : String) :=
        session.store.isSome_heldIn?_apply (.remove other) groupId id
      rw [Held, store_act, operation?, if_pos hother, Option.elim_some]
      simp only [happly, exists_and_left, Held, and_comm, eq_comm, ne_eq]
    rw [Misshown, hheld, Misshown, and_right_comm, and_congr_left_iff]
    intro hne
    have hremembered := runningBefore_act session (.removeNode other)
    rw [rememberedAfter, if_pos hother] at hremembered
    refine and_congr_right fun _ => or_congr ?_ ?_
    · rw [act, removeNode, if_pos hother]
      simp only [ShownRunning, nodes_refreshed, List.mem_filter, decide_eq_true_eq, and_assoc]
      refine exists_congr fun node => and_congr_right fun _ => and_iff_right_of_imp ?_
      rintro ⟨rfl, _⟩
      exact Ne.symm hne
    · rw [Remembered, hremembered, Remembered]
      simp [Ne.symm hne]
  · have hsame : session.act (.removeNode other) = session := by
      rw [act, removeNode, if_neg hother]
    rw [hsame, iff_self_and]
    rintro ⟨hheld, _⟩ rfl
    exact hother (h.hasNode_of_held hheld)

def Action.keepsPauses : Action → Bool
  | .pauseGroup _ | .playGroup _ | .removeNode _ => false
  | _ => true

section Keeps

variable {action : Action}

theorem held_act (h : action.keepsPauses) : (session.act action).Held id ↔ session.Held id := by
  have happly (operation : Store.Operation) (groupId : String) :=
    session.store.isSome_heldIn?_apply operation groupId id
  rw [Held, store_act, Held]
  cases action with
  | pauseGroup | playGroup | removeNode => cases h
  | updateNodeConfig other changes | muteNode other =>
    rw [operation?]
    split
    · simp only [Option.elim_some, happly]
    · rfl
  | unmuteNode other => simp only [operation?, Option.elim_some, happly]
  | _ => rfl

theorem shownRunning_append {node : Node} (hnode : session.hasNode id)
    (hnew : session.hasNode node.id = false) :
    ({ session with nodes := session.nodes ++ [node] }).ShownRunning id ↔
      session.ShownRunning id := by
  have hne : node.id ≠ id := by
    rintro rfl
    exact Bool.false_ne_true (hnew.symm.trans hnode)
  simp [ShownRunning, or_and_right, exists_or, hne]

theorem dueRunning_pauseAll (session : Session) (id : String) :
    (session.act .pauseAll).DueRunning id ↔ session.DueRunning id := by
  cases hplaying : session.isPausedAll with
  | true => rw [act, pauseAll, if_pos hplaying]
  | false =>
    have hnone : session.runningBefore = none :=
      Option.not_isSome_iff_eq_none.mp (Bool.eq_false_iff.mp hplaying)
    obtain ⟨ids, hids, hran⟩ := (pausedSince_pauseAll hplaying).1.remembered
    have hremembered : (session.act .pauseAll).Remembered id ↔ session.ShownRunning id :=
      (remembered_iff hids).trans (hran id)
    have hshown : (session.act .pauseAll).ShownRunning id → session.ShownRunning id := by
      rw [act, pauseAll, if_neg (Bool.eq_false_iff.mp hplaying)]
      exact fun h => ((shownRunning_setState_paused session _ id).mp h).1
    rw [DueRunning, hremembered, DueRunning, or_iff_left (not_remembered hnone id)]
    exact or_iff_right_of_imp hshown

theorem dueRunning_resumeAll (h : session.Sound) (id : String) :
    (session.act .resumeAll).DueRunning id ↔ session.DueRunning id := by
  rw [act]
  cases hrunning : session.runningBefore with
  | none => rw [resumeAll, hrunning]
  | some running =>
    have hnone : session.resumeAll.1.runningBefore = none := runningBefore_act session .resumeAll
    have hnodes : session.resumeAll.1.nodes = (session.unpaused running).nodes :=
      (congrArg nodes (resumeAll_eq hrunning) :)
    have hshown : session.resumeAll.1.ShownRunning id ↔ session.DueRunning id := by
      rw [shownRunning_iff_of_eq hnodes, unpaused, shownRunning_setState, DueRunning,
        remembered_iff hrunning]
      by_cases hid : id ∈ running
      · have hnode : session.hasNode id := h.remembered running hrunning id hid
        rw [if_pos hid]
        exact iff_of_true ⟨rfl, hnode⟩ (.inr hid)
      · rw [if_neg hid, or_iff_left hid]
        rfl
    rw [DueRunning, hshown, or_iff_left (not_remembered hnone id)]

theorem dueRunning_act (h : session.Sound) (hkeeps : action.keepsPauses)
    (hfresh : session.DrawsFresh action)
    (hnode : session.hasNode id) : (session.act action).DueRunning id ↔ session.DueRunning id := by
  have hremembered := runningBefore_act session action
  cases action with
  | pauseGroup | playGroup | removeNode => cases hkeeps
  | pauseAll => exact dueRunning_pauseAll session id
  | resumeAll => exact dueRunning_resumeAll h id
  | addNode token typeId position =>
    exact or_congr (shownRunning_append hnode hfresh) (remembered_iff_of_eq hremembered)
  | insertNode node =>
    refine or_congr ?_ (remembered_iff_of_eq hremembered)
    rw [act, insertNode]
    split
    · rfl
    · next hnew => exact shownRunning_append hnode (Bool.eq_false_iff.mpr hnew)
  | updateNodeData other changes =>
    refine or_congr ?_ (remembered_iff_of_eq hremembered)
    rw [act, updateNodeData]
    split
    · rw [shownRunning_iff_mem, shownRunning_iff_mem, map_changeFirst other (by exact fun _ => rfl)]
    · rfl
  | updateNodeConfig other changes =>
    refine or_congr (shownRunning_iff_of_eq ?_) (remembered_iff_of_eq hremembered)
    rw [act, updateNodeConfig]
    split <;> rfl
  | connect token source target =>
    refine or_congr (shownRunning_iff_of_eq ?_) (remembered_iff_of_eq hremembered)
    rw [act, connect]
    split <;> rfl
  | disconnect edgeId =>
    refine or_congr (shownRunning_iff_of_eq ?_) (remembered_iff_of_eq hremembered)
    rw [act, disconnect]
    split <;> rfl
  | muteNode other =>
    refine or_congr (shownRunning_iff_of_eq ?_) (remembered_iff_of_eq hremembered)
    rw [act, muteNode]
    split
    · split <;> rfl
    · rfl
  | unmuteNode other =>
    refine or_congr (shownRunning_iff_of_eq ?_) (remembered_iff_of_eq hremembered)
    rw [act, unmuteNode]
    split <;> rfl
  | setCpm | setTheme | setColorMode | refresh | sleep =>
    exact or_congr Iff.rfl (remembered_iff_of_eq hremembered)

end Keeps

theorem misshown_act (h : session.Sound) {action : Action} (hfresh : session.DrawsFresh action)
    (id : String) :
    (session.act action).Misshown id ↔ session.Misshown id ∧ ¬ session.Corrects id action ∨
      session.Reaches id action ∨ session.ParksRemembered id action := by
  by_cases hkeeps : action.keepsPauses
  · have hsame : (session.act action).Misshown id ↔ session.Misshown id := by
      rw [Misshown, held_act hkeeps, Misshown]
      exact and_congr_right fun hheld => dueRunning_act h hkeeps hfresh (h.hasNode_of_held hheld)
    cases action with
    | pauseGroup | playGroup | removeNode => cases hkeeps
    | _ => simpa [Corrects, Reaches, ParksRemembered] using hsame
  · cases action with
    | pauseGroup groupId =>
      simpa only [Reaches, false_or] using misshown_pauseGroup session groupId id
    | playGroup groupId =>
      simpa only [ParksRemembered, or_false] using misshown_playGroup h groupId id
    | removeNode other =>
      simpa only [Reaches, ParksRemembered, or_false] using misshown_removeNode h other id
    | _ => exact absurd rfl hkeeps

/-- Every id that the run draws for a node is new at that moment. -/
def FreshAlong (session : Session) : List Action → Prop
  | [] => True
  | action :: rest => session.DrawsFresh action ∧ (session.act action).FreshAlong rest

instance (session : Session) : (action : Action) → Decidable (session.DrawsFresh action)
  | .addNode token typeId _ =>
    inferInstanceAs (Decidable (session.hasNode (typeId ++ "_" ++ token) = false))
  | .insertNode _ | .updateNodeData _ _ | .updateNodeConfig _ _ | .removeNode _ | .connect _ _ _
  | .disconnect _ | .setCpm _ | .setTheme _ | .setColorMode _ | .pauseGroup _ | .playGroup _
  | .muteNode _ | .unmuteNode _ | .pauseAll | .resumeAll | .refresh
  | .sleep _ => .isTrue trivial

instance FreshAlong.decidable (session : Session) :
    (actions : List Action) → Decidable (session.FreshAlong actions)
  | [] => .isTrue trivial
  | action :: rest =>
      have := FreshAlong.decidable (session.act action) rest
      inferInstanceAs (Decidable (session.DrawsFresh action ∧ (session.act action).FreshAlong rest))

/-- No action of the run corrects the display of the node. -/
def LeavesWrong (session : Session) (id : String) : List Action → Prop
  | [] => True
  | action :: rest => ¬ session.Corrects id action ∧ (session.act action).LeavesWrong id rest

/-- Some action of the run is such an event for the node, and no later one corrects its display. -/
def Since (event : Session → String → Action → Prop) (session : Session) (id : String) :
    List Action → Prop
  | [] => False
  | action :: rest =>
      event session id action ∧ (session.act action).LeavesWrong id rest ∨
        Since event (session.act action) id rest

theorem leavesWrong_append (session : Session) (id : String) (front rest : List Action) :
    session.LeavesWrong id (front ++ rest) ↔
      session.LeavesWrong id front ∧ (session.run front).LeavesWrong id rest := by
  induction front generalizing session with
  | nil => exact (iff_of_eq (true_and _)).symm
  | cons action front ih =>
    exact (and_congr_right fun _ => ih (session.act action)).trans and_assoc.symm

theorem since_append (event : Session → String → Action → Prop) (session : Session) (id : String)
    (front rest : List Action) :
    Since event session id (front ++ rest) ↔
      Since event session id front ∧ (session.run front).LeavesWrong id rest ∨
        Since event (session.run front) id rest := by
  induction front generalizing session with
  | nil => exact (or_iff_right fun h => h.1).symm
  | cons action front ih =>
    have hlater := ih (session.act action)
    rw [List.cons_append, Since, Since, leavesWrong_append, or_and_right, and_assoc, or_assoc]
    exact or_congr_right hlater

/-- A node is to be shown running wrongly if it was before, or the run made it so, and nothing
corrected that since. -/
theorem misshown_run (h : session.Sound) {actions : List Action}
    (hfresh : session.FreshAlong actions) : (session.run actions).Misshown id ↔
      session.Misshown id ∧ session.LeavesWrong id actions ∨
        Since Reaches session id actions ∨ Since ParksRemembered session id actions := by
  induction actions generalizing session with
  | nil => simp [run, LeavesWrong, Since]
  | cons action rest ih =>
    have hstep := misshown_act h hfresh.1 id
    have hrest := ih (h.act hfresh.1) hfresh.2
    rw [hstep, or_and_right, or_and_right, and_assoc, or_assoc, or_or_or_comm] at hrest
    exact hrest

theorem Sound.run (h : session.Sound) {actions : List Action}
    (hfresh : session.FreshAlong actions) :
    (session.run actions).Sound := by
  induction actions generalizing session with
  | nil => exact h
  | cons action rest ih => exact ih (h.act hfresh.1) hfresh.2

theorem Sound.not_reaches (h : session.Sound) (hheld : (session.store.heldIn? groupId id).isSome) :
    ¬ session.Reaches id (.playGroup groupId) := by
  rintro ⟨⟨other, hother, hsome⟩, _⟩
  exact hother (h.wellFormed.heldOnce id other groupId hsome hheld)

theorem not_parked {actions : List Action} (hnone : session.runningBefore = none)
    (hplaying : .pauseAll ∉ actions) : ¬ Since ParksRemembered session id actions := by
  induction actions generalizing session with
  | nil => exact not_false
  | cons action rest ih =>
    rw [List.mem_cons, not_or] at hplaying
    have hafter : (session.act action).runningBefore = none := by
      rw [runningBefore_act]
      cases action with
      | pauseAll => exact absurd rfl hplaying.1
      | resumeAll => rfl
      | removeNode other => simp [rememberedAfter, hnone]
      | _ => exact hnone
    have hparks : ¬ session.ParksRemembered id action := by
      cases action with
      | pauseGroup => exact fun h => not_remembered hnone id h.1
      | _ => exact not_false
    rw [Since, not_or]
    exact ⟨fun h => hparks h.1, ih hafter hplaying.2⟩

theorem Start.sound (start : Start) (runner : Runner) (settings : Settings) :
    (start.session runner settings).Sound := by
  cases start with
  | blank => exact sound_withSettings runner settings
  | starter => exact sound_starterGraph runner settings

theorem not_held_start (start : Start) (runner : Runner) (settings : Settings) (id : String) :
    ¬ (start.session runner settings).Held id := by
  rintro ⟨groupId, hheld⟩
  cases start with
  | blank => cases hheld
  | starter => cases hheld

/-- Outside a pause of everything a node that a paused group holds is shown running just if it was
paused during such a pause, before which it was running: the end of that pause brings back exactly
the nodes that were running. Nothing is said of a node that was reached when another group was
played, as long as nothing corrects its display. -/
theorem held_shown_running_iff (start : Start) (runner : Runner) (settings : Settings)
    {actions : List Action} (hfresh : (start.session runner settings).FreshAlong actions)
    (hplaying : ((start.session runner settings).run actions).isPausedAll = false) {id : String}
    (hreached : ¬ Since Reaches (start.session runner settings) id actions) :
    let session := (start.session runner settings).run actions
    session.Held id ∧ session.ShownRunning id ↔
      Since ParksRemembered (start.session runner settings) id actions := by
  intro session
  have hnone : session.runningBefore = none :=
    Option.not_isSome_iff_eq_none.mp (Bool.eq_false_iff.mp hplaying)
  have hmisshown : session.Misshown id ↔ session.Held id ∧ session.ShownRunning id := by
    rw [Misshown, DueRunning, or_iff_left (not_remembered hnone id)]
  rw [← hmisshown, misshown_run (start.sound runner settings) hfresh,
    or_iff_right hreached, or_iff_right]
  exact fun hstart => not_held_start start runner settings id hstart.1.1

def playJoined : List Action :=
  [.addNode "1" "drum_sounds" {}, .addNode "2" "drum_sounds" {},
    .updateNodeConfig "drum_sounds_1" (.ofList [("sound", .string "bd")]),
    .updateNodeConfig "drum_sounds_2" (.ofList [("sound", .string "hh")]),
    .pauseGroup "drum_sounds_1", .pauseGroup "drum_sounds_2",
    .connect "3" "drum_sounds_1" "drum_sounds_2", .playGroup "drum_sounds_1"]

def pauseApart : List Action :=
  [.playGroup "drum_sounds_2", .disconnect "e_3", .pauseGroup "drum_sounds_1", .pauseAll,
    .pauseGroup "drum_sounds_2", .resumeAll]

theorem drum_paused_meanwhile_is_shown_running :
    let start := Start.blank.session {} {}
    let actions := playJoined ++ pauseApart
    start.FreshAlong actions ∧ (start.run actions).isPausedAll = false ∧
      (start.run playJoined).Misshown "drum_sounds_2" ∧
      (∀ id ∈ ["drum_sounds_1", "drum_sounds_2"],
        ¬ Since Reaches start id actions ∧ (start.run actions).Held id) ∧
      ¬ Since ParksRemembered start "drum_sounds_1" actions ∧
      Since ParksRemembered start "drum_sounds_2" actions := by
  intro start actions
  have hfresh : start.FreshAlong actions := by decide +kernel
  have hjoined : start.FreshAlong playJoined := by decide +kernel
  obtain ⟨hnone, hkept, hshown⟩ :
      (start.run playJoined).store.holder? "drum_sounds_1" = none ∧
        ((start.run playJoined).store.heldIn? "drum_sounds_2" "drum_sounds_2").isSome ∧
        ((start.run playJoined).nodes.map fun node => (node.id, node.isRunning)) =
          [("drum_sounds_1", true), ("drum_sounds_2", true)] := by
    decide +kernel
  obtain ⟨hplaying, hheld, hheld', hafter⟩ :
      (start.run actions).isPausedAll = false ∧
        ((start.run actions).store.heldIn? "drum_sounds_1" "drum_sounds_1").isSome ∧
        ((start.run actions).store.heldIn? "drum_sounds_2" "drum_sounds_2").isSome ∧
        ((start.run actions).nodes.map fun node => (node.id, node.isRunning)) =
          [("drum_sounds_1", false), ("drum_sounds_2", true)] := by
    decide +kernel
  have hsound : (start.run playJoined).Sound := (Start.blank.sound {} {}).run hjoined
  have hfree : ¬ (start.run playJoined).Held "drum_sounds_1" := by
    rintro ⟨groupId, hheld⟩
    rw [Store.holder?_eq_none.mp hnone] at hheld
    cases hheld
  have hfirst : ¬ Since Reaches start "drum_sounds_1" actions := by
    rw [since_append]
    rintro (⟨hreached, _⟩ | ⟨⟨⟨other, _, hheld⟩, _⟩, _⟩ | hlater)
    · exact hfree ((misshown_run (Start.blank.sound {} {}) hjoined).mpr (.inr (.inl hreached))).1
    · exact hfree ⟨other, hheld⟩
    · simp [Since, Reaches] at hlater
  have hsecond : ¬ Since Reaches start "drum_sounds_2" actions := by
    rw [since_append]
    rintro (⟨_, hwrong⟩ | ⟨hreaches, _⟩ | hlater)
    · exact hwrong.1 hkept
    · exact hsound.not_reaches hkept hreaches
    · simp [Since, Reaches] at hlater
  have hpaused : ∀ id ∈ ["drum_sounds_1", "drum_sounds_2"],
      ¬ Since Reaches start id actions ∧ (start.run actions).Held id := by
    simp only [List.forall_mem_cons]
    exact ⟨⟨hfirst, _, hheld⟩, ⟨hsecond, _, hheld'⟩, List.forall_mem_nil _⟩
  refine ⟨hfresh, hplaying, ⟨⟨_, hkept⟩, .inl ?_⟩, hpaused, fun hparked => ?_, ?_⟩
  · rw [shownRunning_iff_mem, hshown]
    simp
  · have hrunning := ((held_shown_running_iff .blank {} {} hfresh hplaying hfirst).mpr hparked).2
    rw [shownRunning_iff_mem, hafter] at hrunning
    simp at hrunning
  · refine (held_shown_running_iff .blank {} {} hfresh hplaying hsecond).mp ⟨⟨_, hheld'⟩, ?_⟩
    rw [shownRunning_iff_mem, hafter]
    simp

/-- What was reached when another group was played may be shown running without having
been parked. -/
theorem joined_drum_is_shown_running :
    let start := Start.blank.session {} {}
    start.FreshAlong playJoined ∧ (start.run playJoined).isPausedAll = false ∧
      (start.run playJoined).Held "drum_sounds_2" ∧
      (start.run playJoined).ShownRunning "drum_sounds_2" ∧
      ¬ Since ParksRemembered start "drum_sounds_2" playJoined := by
  refine ⟨by decide +kernel, by decide +kernel, ⟨"drum_sounds_2", by decide +kernel⟩, ?_,
    not_parked rfl (by simp [playJoined])⟩
  rw [shownRunning_iff_mem]
  decide +kernel

def pauseInTurn : List Action :=
  [.addNode "1" "drum_sounds" {}, .addNode "2" "drum_sounds" {},
    .updateNodeConfig "drum_sounds_1" (.ofList [("sound", .string "bd")]),
    .updateNodeConfig "drum_sounds_2" (.ofList [("sound", .string "hh")]),
    .pauseGroup "drum_sounds_1", .pauseAll, .pauseGroup "drum_sounds_2", .resumeAll]

/-- So not every node that a paused group holds is shown paused. -/
theorem held_drum_is_shown_running :
    ¬ ∀ actions, (withSettings {} {}).FreshAlong actions →
      ((withSettings {} {}).run actions).isPausedAll = false →
        ∀ node ∈ ((withSettings {} {}).run actions).nodes,
          (∃ groupId, (((withSettings {} {}).run actions).store.heldIn? groupId node.id).isSome) →
            ¬ node.isRunning := by
  intro h
  have hwrong : ∃ node ∈ ((withSettings {} {}).run pauseInTurn).nodes, node.isRunning ∧
      (((withSettings {} {}).run pauseInTurn).store.heldIn? "drum_sounds_2" node.id).isSome := by
    decide +kernel
  obtain ⟨node, hnode, hrunning, hheld⟩ := hwrong
  exact h pauseInTurn (by decide +kernel) (by decide +kernel) node hnode ⟨_, hheld⟩ hrunning

end Session

end Patchbay
