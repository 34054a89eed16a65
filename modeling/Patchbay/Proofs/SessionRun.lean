import Patchbay.Proofs.StoreRun
import Patchbay.Session.Restore

namespace Patchbay

namespace Session

/-- What can be done to a session. The tokens stand for the random parts of new ids. -/
inductive Action where
  | addNode (token typeId : String) (position : Position)
  | insertNode (node : Node)
  | updateNodeData (id : String) (changes : Record)
  | updateNodeConfig (id : String) (changes : Record)
  | removeNode (id : String)
  | connect (token source target : String)
  | disconnect (edgeId : String)
  | setCpm (cpm : String)
  | setTheme (theme : String)
  | setColorMode (colorMode : ColorMode)
  | pauseGroup (groupId : String)
  | playGroup (groupId : String)
  | muteNode (id : String)
  | unmuteNode (id : String)
  | pauseAll
  | resumeAll
  | refresh
  | sleep (milliseconds : Nat)

def act (session : Session) : Action → Session
  | .addNode token typeId position => (session.addNode token typeId position).1
  | .insertNode node => (session.insertNode node).1
  | .updateNodeData id changes => (session.updateNodeData id changes).1
  | .updateNodeConfig id changes => (session.updateNodeConfig id changes).1
  | .removeNode id => (session.removeNode id).1
  | .connect token source target => (session.connect token source target).1
  | .disconnect edgeId => (session.disconnect edgeId).1
  | .setCpm cpm => (session.setCpm cpm).1
  | .setTheme theme => session.setTheme theme
  | .setColorMode colorMode => session.setColorMode colorMode
  | .pauseGroup groupId => (session.pauseGroup groupId).1
  | .playGroup groupId => (session.playGroup groupId).1
  | .muteNode id => (session.muteNode id).1
  | .unmuteNode id => (session.unmuteNode id).1
  | .pauseAll => session.pauseAll.1
  | .resumeAll => session.resumeAll.1
  | .refresh => session.refreshed
  | .sleep milliseconds => session.sleep milliseconds

def run (session : Session) (actions : List Action) : Session :=
  actions.foldl act session

def oneDrum : List Action :=
  [.insertNode { id := "a", typeId := "drum_sounds" },
    .insertNode { id := "b", typeId := "drum_sounds" }, .connect "1" "a" "b",
    .updateNodeConfig "a" (.ofList [("sound", .string "bd")])]

def twoDrums : List Action :=
  oneDrum ++ [.updateNodeConfig "b" (.ofList [("sound", .string "hh")])]

inductive Start where
  | blank
  | starter

def Start.session (runner : Runner) (settings : Settings) : Start → Session
  | blank => withSettings runner settings
  | starter => starterGraph runner settings

section Frame

variable (session : Session)

@[simp] theorem nodes_refreshed : session.refreshed.nodes = session.nodes := rfl

@[simp] theorem store_refreshed : session.refreshed.store = session.store := rfl

@[simp] theorem store_setState (ids : List String) (state : RunState) :
    (session.setState ids state).store = session.store := rfl

def kinds : List (String × String) :=
  session.nodes.map fun node => (node.id, node.typeId)

@[simp] theorem kinds_refreshed : session.refreshed.kinds = session.kinds := rfl

@[simp] theorem kinds_setState (ids : List String) (state : RunState) :
    (session.setState ids state).kinds = session.kinds := by
  simp only [kinds, setState, List.map_map]
  refine List.map_congr_left fun node _ => ?_
  rw [Function.comp_apply]
  split <;> rfl

theorem map_changeFirst {α : Type} (id : String) {change : Node → Node} {f : Node → α}
    (h : ∀ node, f (change node) = f node) (nodes : List Node) :
    (changeFirst id change nodes).map f = nodes.map f := by
  induction nodes with
  | nil => rfl
  | cons node rest ih =>
    unfold changeFirst
    split
    · rw [List.map_cons, List.map_cons, h node]
    · rw [List.map_cons, List.map_cons, ih]

@[simp] theorem kinds_updateNodeData (id : String) (changes : Record) :
    (session.updateNodeData id changes).1.kinds = session.kinds := by
  unfold updateNodeData
  split
  · simp only [kinds]
    exact map_changeFirst id (by exact fun _ => rfl) session.nodes
  · rfl

theorem ids_eq : session.nodes.map (·.id) = session.kinds.map (·.1) := by
  rw [kinds, List.map_map]
  rfl

theorem hasNode_iff_mem_ids (id : String) : session.hasNode id ↔ id ∈ session.nodes.map (·.id) := by
  simp [hasNode, node?]

theorem hasNode_iff (id : String) : session.hasNode id ↔ id ∈ session.kinds.map (·.1) := by
  rw [← ids_eq, hasNode_iff_mem_ids]

end Frame

def operation? (session : Session) : Action → Option Store.Operation
  | .updateNodeConfig id changes => if session.hasNode id then some (.update id changes) else none
  | .removeNode id => if session.hasNode id then some (.remove id) else none
  | .pauseGroup groupId =>
      (session.groups.find? fun group => group.groupId == groupId).map fun group =>
        .pause groupId group.nodeIds
  | .playGroup groupId => some (.unpause groupId)
  | .muteNode id => if session.hasNode id then some (.mute id) else none
  | .unmuteNode id => some (.unmute id)
  | _ => none

variable {session : Session}

theorem pauseGroup_refused {groupId : String}
    (h : (session.pauseGroup groupId).2 = false) :
    (session.pauseGroup groupId).1 = session ∧
      ∀ group, (session.groups.find? fun group => group.groupId == groupId) = some group →
        session.store.pauseGroup? groupId group.nodeIds = none := by
  unfold pauseGroup at h ⊢
  cases hgroup : session.groups.find? fun group => group.groupId == groupId with
  | none => exact ⟨rfl, nofun⟩
  | some group =>
    cases hstore : session.store.pauseGroup? groupId group.nodeIds with
    | none =>
      simp only [hstore, true_and]
      rintro _ ⟨⟩
      exact hstore
    | some store => simp [hgroup, hstore] at h

theorem pauseGroup_done {groupId : String} (h : (session.pauseGroup groupId).2 = true) :
    ∃ group store, (session.groups.find? fun group => group.groupId == groupId) = some group ∧
      session.store.pauseGroup? groupId group.nodeIds = some store ∧
      (session.pauseGroup groupId).1 =
        ({ session with store }.setState group.nodeIds .paused).refreshed := by
  unfold pauseGroup at h ⊢
  cases hgroup : session.groups.find? fun group => group.groupId == groupId with
  | none => simp [hgroup] at h
  | some group =>
    cases hstore : session.store.pauseGroup? groupId group.nodeIds with
    | none => simp [hgroup, hstore] at h
    | some store => exact ⟨group, store, rfl, hstore, by simp only [hstore]⟩

def unpaused (session : Session) (running : List String) : Session :=
  { session with runningBefore := none }.setState running .running

theorem resumeAll_eq {running : List String} (h : session.runningBefore = some running) :
    session.resumeAll.1 =
      { session.unpaused running with
        runner := (session.runner.resume (some (session.unpaused running).compile)).1 } := by
  rw [resumeAll, h]
  rfl

theorem store_act (session : Session) (action : Action) :
    (session.act action).store =
    (session.operation? action).elim session.store session.store.apply := by
  cases action with
  | addNode | setCpm | setTheme | setColorMode | refresh | sleep => rfl
  | insertNode node =>
    rw [act, insertNode]
    split <;> rfl
  | updateNodeData id changes =>
    rw [act, updateNodeData]
    split <;> rfl
  | updateNodeConfig id changes =>
    rw [act, updateNodeConfig, operation?]
    split <;> rfl
  | removeNode id =>
    rw [act, removeNode, operation?]
    split <;> rfl
  | connect token source target =>
    rw [act, connect]
    split <;> rfl
  | disconnect edgeId =>
    rw [act, disconnect]
    split <;> rfl
  | pauseGroup groupId =>
    rw [act, operation?]
    by_cases hdone : (session.pauseGroup groupId).2
    · obtain ⟨group, store, hgroup, hstore, heq⟩ := pauseGroup_done hdone
      rw [heq, hgroup]
      simp [Store.apply, hstore]
    · obtain ⟨hsame, hnone⟩ := pauseGroup_refused (Bool.eq_false_iff.mpr hdone)
      rw [hsame]
      cases hgroup : session.groups.find? fun group => group.groupId == groupId with
      | none => rfl
      | some group => simp [Store.apply, hnone group hgroup]
  | playGroup groupId =>
    rw [act, playGroup, operation?, Option.elim_some, Store.apply]
    cases hstore : session.store.unpauseGroup? groupId with
    | none => split <;> simp_all
    | some store =>
      obtain ⟨saved, hsaved, _⟩ := Store.unpauseGroup?_eq_some hstore
      simp [Store.pausedGroup?, hsaved]
  | muteNode id =>
    rw [act, muteNode, operation?]
    split
    · rw [Option.elim_some, Store.apply]
      cases session.store.muteNode? id <;> rfl
    · rfl
  | unmuteNode id =>
    rw [act, unmuteNode, operation?, Option.elim_some, Store.apply]
    cases session.store.unmuteNode? id <;> rfl
  | pauseAll =>
    rw [act, pauseAll]
    split <;> rfl
  | resumeAll =>
    rw [act, resumeAll]
    split <;> rfl

def Action.keepsGraph : Action → Bool
  | .addNode _ _ _ | .insertNode _ | .removeNode _ | .connect _ _ _ | .disconnect _ => false
  | _ => true

theorem graph_act (session : Session) {action : Action} (h : action.keepsGraph) :
    (session.act action).kinds = session.kinds ∧ (session.act action).edges = session.edges := by
  cases action with
  | addNode | insertNode | removeNode | connect | disconnect => cases h
  | setCpm | setTheme | setColorMode | refresh | sleep => exact ⟨rfl, rfl⟩
  | updateNodeData id changes =>
    refine ⟨kinds_updateNodeData session id changes, ?_⟩
    rw [act, updateNodeData]
    split <;> rfl
  | updateNodeConfig id changes =>
    rw [act, updateNodeConfig]
    split <;> exact ⟨rfl, rfl⟩
  | pauseGroup groupId =>
    rw [act]
    by_cases hdone : (session.pauseGroup groupId).2
    · obtain ⟨group, store, _, _, heq⟩ := pauseGroup_done hdone
      rw [heq]
      exact ⟨kinds_setState _ _ _, rfl⟩
    · rw [(pauseGroup_refused (Bool.eq_false_iff.mpr hdone)).1]
      exact ⟨rfl, rfl⟩
  | playGroup groupId =>
    rw [act, playGroup]
    split
    · exact ⟨kinds_setState _ _ _, rfl⟩
    · exact ⟨rfl, rfl⟩
  | muteNode id =>
    rw [act, muteNode]
    split
    · split <;> exact ⟨rfl, rfl⟩
    · exact ⟨rfl, rfl⟩
  | unmuteNode id =>
    rw [act, unmuteNode]
    split <;> exact ⟨rfl, rfl⟩
  | pauseAll =>
    rw [act, pauseAll]
    split
    · exact ⟨rfl, rfl⟩
    · exact ⟨kinds_setState session _ .paused, rfl⟩
  | resumeAll =>
    rw [act]
    cases hrunning : session.runningBefore with
    | none =>
      rw [resumeAll, hrunning]
      exact ⟨rfl, rfl⟩
    | some running =>
      have hkinds := kinds_setState { session with runningBefore := none } running .running
      rw [resumeAll_eq hrunning]
      simp only [kinds] at hkinds ⊢
      exact ⟨hkinds, rfl⟩

theorem graph_run (session : Session) {actions : List Action}
    (h : ∀ action ∈ actions, action.keepsGraph) :
    (session.run actions).kinds = session.kinds ∧ (session.run actions).edges = session.edges := by
  induction actions generalizing session with
  | nil => exact ⟨rfl, rfl⟩
  | cons action rest ih =>
    obtain ⟨hkinds, hedges⟩ := graph_act session (h action List.mem_cons_self)
    obtain ⟨hkinds', hedges'⟩ := ih (session.act action) fun other hother =>
      h other (List.mem_cons_of_mem action hother)
    exact ⟨hkinds'.trans hkinds, hedges'.trans hedges⟩

theorem hasNode_act (action : Action) {id : String} (h : session.hasNode id) :
    (session.act action).hasNode id ∨ session.operation? action = some (.remove id) := by
  rw [hasNode_iff] at h ⊢
  by_cases hkeeps : action.keepsGraph
  · rw [(graph_act session hkeeps).1]
    exact .inl h
  · cases action with
    | addNode token typeId position =>
      refine .inl ?_
      rw [act, addNode, kinds_refreshed, kinds, List.map_append, List.map_append]
      exact List.mem_append_left _ h
    | insertNode node =>
      refine .inl ?_
      rw [act, insertNode]
      split
      · exact h
      · rw [kinds_refreshed, kinds, List.map_append, List.map_append]
        exact List.mem_append_left _ h
    | removeNode other =>
      rw [act, removeNode, operation?]
      by_cases hother : session.hasNode other
      · by_cases ho : id = other
        · exact .inr (by simp [hother, ho])
        · refine .inl ?_
          rw [← ids_eq] at h ⊢
          obtain ⟨node, hmem, rfl⟩ := List.mem_map.mp h
          simpa [hother] using ⟨node, ⟨hmem, ho⟩, rfl⟩
      · simpa [hother] using h
    | connect token source target =>
      refine .inl ?_
      rw [act, connect]
      split <;> exact h
    | disconnect edgeId =>
      refine .inl ?_
      rw [act, disconnect]
      split <;> exact h
    | _ => exact absurd rfl hkeeps

end Session

def Store.Operation.Enters (id : String) : Store.Operation → Prop
  | .update other _ | .mute other => other = id
  | .unmute _ | .pause _ _ | .unpause _ | .remove _ => False

theorem Placement.step_nothing {id : String} {operation : Store.Operation}
    (h : ¬ operation.Enters id) : Placement.step id (.live ∅) operation = .live ∅ := by
  cases operation with
  | update other changes | mute other => exact if_neg h
  | unmute other | remove other => simp [step, unmute]
  | pause groupId ids => simp [step, pause]
  | unpause groupId => rfl

theorem Placement.step_remove (id : String) (placement : Placement) :
    Placement.step id placement (.remove id) = .live ∅ := if_pos rfl

theorem Placement.nullFree_step {placement : Placement}
    (h : placement.record.NullFree) (id : String)
    (operation : Store.Operation) : (placement.step id operation).record.NullFree := by
  cases operation with
  | update other changes =>
    by_cases ho : other = id
    · rw [step, if_pos ho, record_edit]
      exact h.merge changes
    · rwa [step, if_neg ho]
  | mute other => by_cases ho : other = id <;> simpa [step, ho] using h
  | unmute other => by_cases ho : other = id <;> simpa [step, ho] using h
  | pause groupId ids => by_cases hid : id ∈ ids <;> simpa [step, hid] using h
  | unpause groupId => simpa [step] using h
  | remove other =>
    by_cases ho : other = id
    · rw [step, if_pos ho]
      exact Record.nullFree_empty
    · rwa [step, if_neg ho]

namespace Session

variable {session : Session} {id : String} {placement : Placement}

/-- Where a session keeps the record of a node. There are no records without a node. -/
structure Keeps (session : Session) (id : String) (placement : Placement) : Prop where
  placed : session.store.At id placement
  nullFree : placement.record.NullFree
  known : session.hasNode id = false → placement = .live ∅

theorem hasNode_of_enters {action : Action} {operation : Store.Operation}
    (h : session.operation? action = some operation) (henters : operation.Enters id) :
    session.hasNode id := by
  cases action with
  | updateNodeConfig other changes | muteNode other =>
    by_cases hother : session.hasNode other
    · obtain rfl := Option.some.inj ((if_pos hother).symm.trans h)
      obtain rfl : other = id := henters
      exact hother
    · cases (if_neg hother).symm.trans h
  | removeNode other =>
    by_cases hother : session.hasNode other
    · obtain rfl := Option.some.inj ((if_pos hother).symm.trans h)
      cases henters
    · cases (if_neg hother).symm.trans h
  | pauseGroup groupId =>
    obtain ⟨group, _, rfl⟩ := Option.map_eq_some_iff.mp h
    cases henters
  | playGroup groupId | unmuteNode other =>
    obtain rfl := Option.some.inj h
    cases henters
  | _ => cases h

/-- Every action leaves the record of a node in one place, without `null` in it. -/
theorem Keeps.act (h : session.Keeps id placement) (action : Action) :
    (session.act action).Keeps id
      ((session.operation? action).elim placement (placement.step id)) := by
  have hstore := store_act session action
  cases hoperation : session.operation? action with
  | none =>
    rw [hoperation] at hstore
    refine ⟨by rw [hstore]; exact h.placed, h.nullFree, fun hnot => h.known ?_⟩
    by_contra hnode
    rcases hasNode_act action (Bool.not_eq_false _ ▸ hnode) with hyes | hremove
    · exact Bool.false_ne_true (hnot.symm.trans hyes)
    · cases hoperation.symm.trans hremove
  | some operation =>
    rw [hoperation] at hstore
    refine ⟨by rw [hstore]; exact h.placed.apply operation,
      Placement.nullFree_step h.nullFree id operation, fun hnot => ?_⟩
    by_cases hnode : session.hasNode id
    · rcases hasNode_act action hnode with hyes | hremove
      · exact absurd (hnot.symm.trans hyes) Bool.false_ne_true
      · obtain rfl := Option.some.inj (hoperation.symm.trans hremove)
        exact placement.step_remove id
    · rw [h.known (Bool.eq_false_iff.mpr hnode)]
      exact Placement.step_nothing fun henters => hnode (hasNode_of_enters hoperation henters)

theorem Keeps.run (h : session.Keeps id placement) (actions : List Action) :
    ∃ placement, (session.run actions).Keeps id placement := by
  induction actions generalizing session placement with
  | nil => exact ⟨placement, h⟩
  | cons action rest ih => exact ih (h.act action)

theorem keeps_withSettings (runner : Runner) (settings : Settings) (id : String) :
    (withSettings runner settings).Keeps id (.live ∅) :=
  ⟨Store.at_empty id, Record.nullFree_empty, fun _ => rfl⟩

theorem exists_keeps_starterGraph (runner : Runner) (settings : Settings) (id : String) :
    ∃ placement, (starterGraph runner settings).Keeps id placement := by
  have hfree : (Placement.live ∅).record.NullFree := Record.nullFree_empty
  refine ⟨_, ((Store.at_empty id).apply (.update "drums" starterSound)).apply
      (.update "gain" starterGain), ?_, fun hnot => ?_⟩
  · exact Placement.nullFree_step (Placement.nullFree_step hfree id _) id _
  · have hids : id ∉ ["drums", "gain"] := by
      intro hmem
      have hnode := (hasNode_iff (starterGraph runner settings) id).mpr hmem
      exact Bool.false_ne_true (hnot.symm.trans hnode)
    rw [Placement.step_nothing (by rintro rfl; simp at hids),
      Placement.step_nothing (by rintro rfl; simp at hids)]

theorem exists_keeps (start : Start) (runner : Runner) (settings : Settings) (actions : List Action)
    (id : String) :
    ∃ placement, ((start.session runner settings).run actions).Keeps id placement := by
  cases start with
  | blank => exact (keeps_withSettings runner settings id).run actions
  | starter =>
    obtain ⟨placement, h⟩ := exists_keeps_starterGraph runner settings id
    exact h.run actions

end Session

end Patchbay
