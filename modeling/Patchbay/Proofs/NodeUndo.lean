import Patchbay.Proofs.SessionWellFormed

namespace Patchbay

namespace Store

variable {store : Store} {id : String}

theorem Lacks.removeNode_eq (h : store.Lacks id) : store.removeNode id = store := by
  have hpaused : (store.removeNode id).paused = store.paused := by
    apply Table.ext
    intro groupId
    rw [paused_removeNode]
    cases hget : store.paused.get? groupId with
    | none => rfl
    | some held =>
      have hnone : held.get? id = none := by
        have hheld := h.held groupId
        rwa [heldIn?, hget] at hheld
      simp [Table.contains, hnone, Table.erase_of_none hnone]
  calc store.removeNode id
      = ⟨store.live.erase id, store.muted.erase id, (store.removeNode id).paused⟩ := rfl
    _ = store := by rw [Table.erase_of_none h.live, Table.erase_of_none h.muted, hpaused]

def Operation.IsOf (id : String) : Operation → Prop
  | .update other _ | .mute other | .unmute other => other = id
  | .pause _ _ | .unpause _ | .remove _ => False

theorem removeNode_updateNode (store : Store) (id : String) (edit : Record) :
    (store.updateNode id edit).removeNode id = store.removeNode id := by
  obtain ⟨groupId, held, record, _, hget, hrecord, hafter⟩ | ⟨_, _, _, hafter⟩ | ⟨_, _, hafter⟩ :=
    store.updateNode_cases id edit
  · rw [hafter]
    have hcontains : held.contains id := Option.isSome_iff_exists.mpr ⟨record, hrecord⟩
    have hpaused :
        (({ store with
          paused := store.paused.insert groupId (held.insert id (record.merge edit)) } :
        Store).removeNode id).paused = (store.removeNode id).paused := by
      apply Table.ext
      intro other
      rw [paused_removeNode, paused_removeNode, Table.get?_insert]
      by_cases ho : other = groupId
      · have hmerged : (held.insert id (record.merge edit)).contains id := by simp [Table.contains]
        rw [if_pos ho, ho, hget, Option.filter_some, Option.filter_some, hcontains, hmerged,
          Table.erase_insert]
        cases (held.erase id).isEmpty with
        | true => rfl
        | false => exact congrArg some (Table.erase_insert held id _)
      · rw [if_neg ho]
    exact congrArg (Store.mk _ _) hpaused
  · rw [hafter]
    simp only [removeNode, Table.erase_insert]
  · rw [hafter]
    simp only [removeNode, Table.erase_insert]

theorem removeNode_apply (store : Store) (operation : Operation) (h : operation.IsOf id) :
    (store.apply operation).removeNode id = store.removeNode id := by
  cases operation with
  | pause | unpause | remove => cases h
  | update other edit =>
    obtain rfl := h
    exact removeNode_updateNode store other edit
  | mute other =>
    obtain rfl := h
    rw [Store.apply]
    cases hafter : store.muteNode? other with
    | none => rfl
    | some after =>
      obtain ⟨_, rfl⟩ := muteNode?_eq_some hafter
      simp only [removeNode, Option.getD_some, Table.erase_insert]
  | unmute other =>
    obtain rfl := h
    rw [Store.apply]
    cases hafter : store.unmuteNode? other with
    | none => rfl
    | some after =>
      obtain ⟨record, _, rfl⟩ := unmuteNode?_eq_some hafter
      simp only [removeNode, Option.getD_some, Table.erase_insert, Table.erase_erase]

end Store

namespace Session

variable {session later : Session} {id : String}

/-- An action on a node, its records and its edges, and on nothing else: an edge that is cut is one
of the node's, and so is every edge with its id. -/
def ActsOn (session : Session) (id : String) : Action → Prop
  | .updateNodeConfig other _ | .updateNodeData other _ | .muteNode other | .unmuteNode other =>
    other = id
  | .connect _ source target => source = id ∨ target = id
  | .disconnect edgeId => ∀ edge ∈ session.edges, edge.id = edgeId → edge.touches id
  | _ => False

/-- Each action of a run acts on the node alone, in the session that it meets. -/
def ActsOnAlong (session : Session) (id : String) : List Action → Prop
  | [] => True
  | action :: rest => session.ActsOn id action ∧ (session.act action).ActsOnAlong id rest

/-- Two sessions would be the same if a node were removed from both. -/
structure SameWithout (id : String) (session later : Session) : Prop where
  nodes : (later.nodes.filter fun node => node.id ≠ id) =
    session.nodes.filter fun node => node.id ≠ id
  edges : (later.edges.filter fun edge => !edge.touches id) =
    session.edges.filter fun edge => !edge.touches id
  store : later.store.removeNode id = session.store.removeNode id
  runningBefore : later.runningBefore = session.runningBefore
  cpm : later.cpm = session.cpm

theorem SameWithout.refl (id : String) (session : Session) : session.SameWithout id session :=
  ⟨rfl, rfl, rfl, rfl, rfl⟩

theorem SameWithout.trans {last : Session} (h : session.SameWithout id later)
    (hlast : later.SameWithout id last) :
    session.SameWithout id last :=
  ⟨hlast.nodes.trans h.nodes, hlast.edges.trans h.edges, hlast.store.trans h.store,
    hlast.runningBefore.trans h.runningBefore, hlast.cpm.trans h.cpm⟩

theorem filter_changeFirst {change : Node → Node} (h : ∀ node, (change node).id = node.id)
    (nodes : List Node) :
    ((changeFirst id change nodes).filter fun node => node.id ≠ id) = nodes.filter fun node =>
      node.id ≠ id := by
  induction nodes with
  | nil => rfl
  | cons node rest ih =>
    rw [changeFirst]
    by_cases hid : node.id = id
    · rw [if_pos hid, List.filter_cons_of_neg (by simpa [h] using hid),
        List.filter_cons_of_neg (by simpa using hid)]
    · rw [if_neg hid, List.filter_cons_of_pos (by simpa using hid),
        List.filter_cons_of_pos (by simpa using hid), ih]

theorem sameWithout_act (session : Session) {action : Action} (h : session.ActsOn id action) :
    session.SameWithout id (session.act action) := by
  cases action with
  | updateNodeData other changes =>
    obtain rfl := h
    rw [act, updateNodeData]
    split
    · exact ⟨filter_changeFirst (by exact fun _ => rfl) session.nodes, rfl, rfl, rfl, rfl⟩
    · exact .refl other session
  | updateNodeConfig other changes =>
    obtain rfl := h
    rw [act, updateNodeConfig]
    split
    · exact ⟨rfl, rfl, session.store.removeNode_apply (.update other changes) rfl, rfl, rfl⟩
    · exact .refl other session
  | muteNode other =>
    obtain rfl := h
    have hstore := session.store.removeNode_apply (.mute other) rfl
    rw [act, muteNode]
    split
    · cases hafter : session.store.muteNode? other with
      | none => exact .refl other session
      | some after =>
        rw [Store.apply, hafter] at hstore
        exact ⟨rfl, rfl, hstore, rfl, rfl⟩
    · exact .refl other session
  | unmuteNode other =>
    obtain rfl := h
    have hstore := session.store.removeNode_apply (.unmute other) rfl
    rw [act, unmuteNode]
    cases hafter : session.store.unmuteNode? other with
    | none => exact .refl other session
    | some after =>
      rw [Store.apply, hafter] at hstore
      exact ⟨rfl, rfl, hstore, rfl, rfl⟩
  | connect token source target =>
    rw [act, connect]
    split
    · exact .refl id session
    · have htouches : (⟨"e_" ++ token, source, target⟩ : Edge).touches id := by
        obtain rfl | rfl := h <;> simp [Edge.touches]
      refine ⟨rfl, ?_, rfl, rfl, rfl⟩
      change (session.edges ++ [_]).filter _ = _
      rw [List.filter_append, List.filter_cons_of_neg (by simpa using htouches)]
      exact List.append_nil _
  | disconnect edgeId =>
    rw [act, disconnect]
    split
    · refine ⟨rfl, ?_, rfl, rfl, rfl⟩
      have hedges :
        ((session.edges.filter fun edge => edge.id ≠ edgeId).filter fun edge => !edge.touches id) =
          session.edges.filter fun edge => !edge.touches id := by
        rw [List.filter_filter]
        apply List.filter_congr
        intro edge hedge
        by_cases hid : edge.id = edgeId
        · simp [hid, h edge hedge hid]
        · simp [hid]
      exact hedges
    · exact .refl id session
  | _ => cases h

theorem sameWithout_run {actions : List Action} (h : session.ActsOnAlong id actions) :
    session.SameWithout id (session.run actions) := by
  induction actions generalizing session with
  | nil => exact .refl id session
  | cons action rest ih => exact (session.sameWithout_act h.1).trans (ih h.2)

theorem sameWithout_insertNode (session : Session) {node : Node}
    (hnew : session.hasNode node.id = false) :
    session.SameWithout node.id (session.act (.insertNode node)) := by
  rw [act, insertNode, hnew]
  refine ⟨?_, rfl, rfl, rfl, rfl⟩
  change (session.nodes ++ [node]).filter _ = _
  rw [List.filter_append, List.filter_cons_of_neg (by simp)]
  exact List.append_nil _

theorem hasNode_insertNode (session : Session) (node : Node) :
    (session.act (.insertNode node)).hasNode node.id := by
  rw [act, insertNode]
  split
  · next hnode => exact hnode
  · rw [hasNode_iff_mem_ids]
    simp

theorem hasNode_run {actions : List Action} (h : session.ActsOnAlong id actions)
    (hnode : session.hasNode id) :
    (session.run actions).hasNode id := by
  induction actions generalizing session with
  | nil => exact hnode
  | cons action rest ih =>
    refine ih h.2 (hasNode_act_of_ne hnode ?_)
    rintro rfl
    cases h.1

/-- A session has nothing of a node that it does not have. -/
structure Without (id : String) (session : Session) : Prop where
  nodes : (session.nodes.filter fun node => node.id ≠ id) = session.nodes
  edges : (session.edges.filter fun edge => !edge.touches id) = session.edges
  store : session.store.removeNode id = session.store
  runningBefore : (session.runningBefore.map fun ids => ids.filter (· ≠ id)) = session.runningBefore

theorem Sound.without (h : session.Sound) (hnew : session.hasNode id = false) :
    session.Without id := by
  have hne {other : String} (hother : session.hasNode other) : other ≠ id := by
    rintro rfl
    cases hother.symm.trans hnew
  refine ⟨?_, ?_, (h.known id hnew).removeNode_eq, ?_⟩
  · apply List.filter_eq_self.mpr
    intro node hnode
    have hid : session.hasNode node.id :=
      (hasNode_iff_mem_ids session node.id).mpr (List.mem_map_of_mem hnode)
    exact decide_eq_true (hne hid)
  · apply List.filter_eq_self.mpr
    intro edge hedge
    obtain ⟨_, hsource, htarget⟩ := h.graph.joined edge hedge
    rw [← hasNode_iff_mem_ids] at hsource htarget
    simp [Edge.touches, hne hsource, hne htarget]
  · cases hrunning : session.runningBefore with
    | none => rfl
    | some running =>
      apply congrArg some
      apply List.filter_eq_self.mpr
      intro other hother
      exact decide_eq_true (hne (h.remembered running hrunning other hother))

theorem SameWithout.removeNode (h : session.SameWithout id later) (hwithout : session.Without id)
    (hnode : later.hasNode id) :
    let removed := later.act (.removeNode id)
    removed.nodes = session.nodes ∧ removed.edges = session.edges ∧ removed.store = session.store ∧
      removed.runningBefore = session.runningBefore ∧ removed.compile = session.compile := by
  intro removed
  have hremoved : removed = refreshed { later with
      nodes := later.nodes.filter fun node => node.id ≠ id
      edges := later.edges.filter fun edge => !edge.touches id
      store := later.store.removeNode id
      runningBefore := later.runningBefore.map fun ids => ids.filter (· ≠ id) } := by
    simp only [removed, act, Session.removeNode, if_pos hnode]
  have hnodes : removed.nodes = session.nodes := by
    rw [hremoved]
    exact h.nodes.trans hwithout.nodes
  have hedges : removed.edges = session.edges := by
    rw [hremoved]
    exact h.edges.trans hwithout.edges
  have hstore : removed.store = session.store := by
    rw [hremoved]
    exact h.store.trans hwithout.store
  have hcpm : removed.cpm = session.cpm := by
    rw [hremoved]
    exact h.cpm
  have hrunning : removed.runningBefore = session.runningBefore := by
    rw [hremoved]
    exact (congrArg _ h.runningBefore).trans hwithout.runningBefore
  exact ⟨hnodes, hedges, hstore, hrunning, by rw [compile, hnodes, hedges, hstore, hcpm, compile]⟩

/-- A node that is added, worked on and removed again is there until then, and leaves no trace in
the graph, in the three tables of the store, in what is remembered of a pause, or in the program. -/
theorem removeNode_undoes_insertNode (h : session.Reachable) {node : Node}
    (hnew : session.hasNode node.id = false) {edits : List Action}
    (hedits : (session.act (.insertNode node)).ActsOnAlong node.id edits) :
    let later := (session.act (.insertNode node)).run edits
    let removed := later.act (.removeNode node.id)
    later.hasNode node.id ∧ removed.nodes = session.nodes ∧ removed.edges = session.edges ∧
      removed.store = session.store ∧ removed.runningBefore = session.runningBefore ∧
      removed.compile = session.compile := by
  intro later removed
  have hsame : session.SameWithout node.id later :=
    (session.sameWithout_insertNode hnew).trans (sameWithout_run hedits)
  have hnode : later.hasNode node.id := hasNode_run hedits (session.hasNode_insertNode node)
  exact ⟨hnode, hsame.removeNode (h.sound.without hnew) hnode⟩

/-- A drum that was running when everything was paused, and was then paused on its own. -/
def heldKick : Session :=
  let kick : Node := { id := "kick", typeId := "drum_sounds", data := { state := some .running } }
  (((withSettings {} {}).act (.insertNode kick)).act
    (.updateNodeConfig "kick" (.ofList [("sound", .string "bd")])))
    |>.act .pauseAll |>.act (.pauseGroup "kick")

def tryHats : List Action :=
  [.updateNodeConfig "hats" (.ofList [("sound", .string "hh")]), .connect "1" "kick" "hats",
    .muteNode "hats", .updateNodeData "hats" (.ofList [("label", .string "try")]),
    .updateNodeConfig "hats" (.ofList [("sound", .null)]), .disconnect "e_1",
    .connect "2" "hats" "kick", .unmuteNode "hats"]

theorem hats_leave_no_trace :
    let hats : Node := { id := "hats", typeId := "drum_sounds" }
    let later := (heldKick.act (.insertNode hats)).run tryHats
    let removed := later.act (.removeNode "hats")
    heldKick.Reachable ∧ heldKick.hasNode "hats" = false ∧
      (heldKick.act (.insertNode hats)).ActsOnAlong "hats" tryHats ∧
      later.edges = [⟨"e_2", "hats", "kick"⟩] ∧ removed.edges = [] ∧
      removed.store = heldKick.store ∧
      heldKick.store.pausedGroupIds = ["kick"] ∧ removed.runningBefore = some ["kick"] := by
  intro hats later removed
  have hreachable : heldKick.Reachable :=
    (((Reachable.start .blank {} {}).act (.insertNode _) trivial).act
      (.updateNodeConfig _ _) trivial)
      |>.act .pauseAll trivial |>.act (.pauseGroup "kick") trivial
  have hnew : heldKick.hasNode "hats" = false := by decide +kernel
  have hedits : (heldKick.act (.insertNode hats)).ActsOnAlong "hats" tryHats :=
    ⟨rfl, .inr rfl, rfl, rfl, rfl, by simp only [ActsOn]; decide +kernel, .inl rfl, rfl, trivial⟩
  obtain ⟨_, _, hedges, hstore, hrunning, _⟩ := removeNode_undoes_insertNode hreachable hnew hedits
  have hbefore : heldKick.runningBefore = some ["kick"] := by decide +kernel
  have hnone : heldKick.edges = [] := by decide +kernel
  exact ⟨hreachable, hnew, hedits, by decide +kernel, hedges.trans hnone, hstore, by decide +kernel,
    hrunning.trans hbefore⟩

end Session

end Patchbay
