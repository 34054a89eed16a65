import Patchbay.Proofs.GlobalPause
import Patchbay.Proofs.RestoreRecords
import Patchbay.Proofs.StoreEntries

namespace Patchbay

namespace Graph

variable {ids : List String} {edges : List Edge}

/-- A graph without doubles: each id stands once, and each edge joins two different nodes that no
other edge joins. -/
structure Simple (ids : List String) (edges : List Edge) : Prop where
  nodup : ids.Nodup
  joined : ∀ edge ∈ edges, edge.source ≠ edge.target ∧ edge.source ∈ ids ∧ edge.target ∈ ids
  once : edges.Pairwise fun edge other => edge.joins other.source other.target = false

theorem simple_empty : Simple [] [] :=
  ⟨.nil, nofun, .nil⟩

theorem Simple.addNode (h : Simple ids edges) {id : String} (hnew : id ∉ ids) :
    Simple (ids ++ [id]) edges := by
  refine ⟨List.nodup_append.mpr ⟨h.nodup, List.nodup_singleton id, ?_⟩,
    fun edge hedge => ?_, h.once⟩
  · rintro other hother _ hid rfl
    exact hnew (List.mem_singleton.mp hid ▸ hother)
  · obtain ⟨hne, hsource, htarget⟩ := h.joined edge hedge
    exact ⟨hne, List.mem_append_left _ hsource, List.mem_append_left _ htarget⟩

theorem Simple.addEdge (h : Simple ids edges) (edge : Edge) (hne : edge.source ≠ edge.target)
    (hsource : edge.source ∈ ids) (htarget : edge.target ∈ ids)
    (hnew : ∀ other ∈ edges, other.joins edge.source edge.target = false) :
    Simple ids (edges ++ [edge]) := by
  refine ⟨h.nodup, fun other hother => ?_,
    List.pairwise_append.mpr ⟨h.once, List.pairwise_singleton _ edge, ?_⟩⟩
  · rcases List.mem_append.mp hother with hother | hother
    · exact h.joined other hother
    · rw [List.mem_singleton.mp hother]
      exact ⟨hne, hsource, htarget⟩
  · intro other hother last hlast
    rw [List.mem_singleton.mp hlast]
    exact hnew other hother

theorem Simple.removeEdges (h : Simple ids edges) (keeps : Edge → Bool) :
    Simple ids (edges.filter keeps) :=
  ⟨h.nodup, fun edge hedge => h.joined edge (List.mem_of_mem_filter hedge), h.once.filter keeps⟩

theorem Simple.removeNode (h : Simple ids edges) (id : String) :
    Simple (ids.filter (· ≠ id)) (edges.filter fun edge => !edge.touches id) := by
  refine ⟨h.nodup.filter _, fun edge hedge => ?_, h.once.filter _⟩
  obtain ⟨hedge, htouches⟩ := List.mem_filter.mp hedge
  obtain ⟨hne, hsource, htarget⟩ := h.joined edge hedge
  have hends : edge.source ≠ id ∧ edge.target ≠ id := by simpa [Edge.touches] using htouches
  exact ⟨hne, List.mem_filter.mpr ⟨hsource, by simpa using hends.1⟩,
    List.mem_filter.mpr ⟨htarget, by simpa using hends.2⟩⟩

end Graph

namespace Session

variable {session : Session}

/-- The session is as one wants it: nothing stands twice, and everything that is kept of a node goes
with the node. -/
structure WellFormed (session : Session) : Prop where
  graph : Graph.Simple (session.nodes.map (·.id)) session.edges
  live : ∀ id, session.store.live.contains id → session.hasNode id
  muted : ∀ id, session.store.muted.contains id → session.hasNode id
  held : ∀ groupId id, (session.store.heldIn? groupId id).isSome → session.hasNode id
  inhabited : ∀ groupId held, session.store.paused.get? groupId = some held → held ≠ ∅
  heldOnce : ∀ id groupId other, (session.store.heldIn? groupId id).isSome →
    (session.store.heldIn? other id).isSome → groupId = other
  remembered : ∀ running, session.runningBefore = some running → ∀ id ∈ running, session.hasNode id

/-- The id drawn for an added node is new. -/
def DrawsFresh (session : Session) : Action → Prop
  | .addNode token typeId _ => session.hasNode (typeId ++ "_" ++ token) = false
  | _ => True

/-- The sessions that work leads to: actions, failures of the engine, and restoring what
was kept. -/
inductive Reachable : Session → Prop where
  | start (start : Start) (runner : Runner) (settings : Settings) :
      Reachable (start.session runner settings)
  | act {session : Session} (action : Action) (h : Reachable session)
    (hfresh : session.DrawsFresh action) :
      Reachable (session.act action)
  | failWith {session : Session} (message : Option String) (h : Reachable session) :
      Reachable (session.failWith message)
  | rebuild {session : Session} (runner : Runner) (settings : Settings) (h : Reachable session) :
      Reachable (ofState session.snapshot runner settings)

/-- What every step keeps. That an id is held once comes from each record being in one place. -/
structure Sound (session : Session) : Prop where
  graph : Graph.Simple (session.nodes.map (·.id)) session.edges
  known : ∀ id, session.hasNode id = false → session.store.Lacks id
  inhabited : session.store.Inhabited
  keeps : ∀ id, ∃ placement, session.Keeps id placement
  remembered : ∀ running, session.runningBefore = some running → ∀ id ∈ running, session.hasNode id

theorem Sound.wellFormed (h : session.Sound) : session.WellFormed := by
  have hnode {id : String} (hsome : ¬ session.store.Lacks id) : session.hasNode id := by
    by_contra hnot
    exact hsome (h.known id (Bool.eq_false_iff.mpr hnot))
  refine ⟨h.graph, fun id hid => hnode fun hlacks => ?_, fun id hid => hnode fun hlacks => ?_,
    fun groupId id hid => hnode fun hlacks => ?_, h.inhabited, fun id groupId other hheld hother =>
      ?_,
    h.remembered⟩
  · rw [Table.contains, hlacks.live] at hid
    cases hid
  · rw [Table.contains, hlacks.muted] at hid
    cases hid
  · rw [hlacks.held] at hid
    cases hid
  · obtain ⟨placement, hkeeps⟩ := h.keeps id
    exact hkeeps.placed.eq_of_held hheld hother

section Act

theorem simple_insert (h : Graph.Simple (session.nodes.map (·.id)) session.edges) {node : Node}
    (hnew : session.hasNode node.id = false) :
    Graph.Simple ((session.nodes ++ [node]).map (·.id)) session.edges := by
  have hnot : node.id ∉ session.nodes.map (·.id) := by
    rw [← hasNode_iff_mem_ids, hnew]
    exact Bool.false_ne_true
  rw [List.map_append]
  exact h.addNode hnot

theorem graph_act_simple (h : Graph.Simple (session.nodes.map (·.id)) session.edges)
    {action : Action}
    (hfresh : session.DrawsFresh action) :
    Graph.Simple ((session.act action).nodes.map (·.id)) (session.act action).edges := by
  by_cases hkeeps : action.keepsGraph
  · obtain ⟨hkinds, hedges⟩ := graph_act session hkeeps
    rw [ids_eq, hkinds, ← ids_eq, hedges]
    exact h
  · cases action with
    | addNode token typeId position => exact simple_insert h hfresh
    | insertNode node =>
      rw [act, insertNode]
      split
      · exact h
      · next hnew => exact simple_insert h (Bool.eq_false_iff.mpr hnew)
    | removeNode id =>
      rw [act, removeNode]
      split
      · have hremoved := h.removeNode id
        rw [List.filter_map] at hremoved
        exact hremoved
      · exact h
    | connect token source target =>
      rw [act, connect]
      split
      · exact h
      · next hnew =>
        simp only [Bool.or_eq_true, Bool.not_eq_true', decide_eq_true_eq, not_or, Bool.not_eq_false,
          List.any_eq_true, not_exists, not_and, Bool.not_eq_true] at hnew
        obtain ⟨⟨⟨hne, hsource⟩, htarget⟩, hnone⟩ := hnew
        rw [hasNode_iff_mem_ids] at hsource htarget
        exact h.addEdge ⟨"e_" ++ token, source, target⟩ hne hsource htarget hnone
    | disconnect edgeId =>
      rw [act, disconnect]
      split
      · exact h.removeEdges _
      · exact h
    | _ => exact absurd rfl hkeeps

theorem lacks_act (h : ∀ id, session.hasNode id = false → session.store.Lacks id) (action : Action)
    {id : String} (hnot : (session.act action).hasNode id = false) :
    (session.act action).store.Lacks id := by
  have hgone (hnode : session.hasNode id) : session.operation? action = some (.remove id) :=
    (hasNode_act action hnode).resolve_left (Bool.eq_false_iff.mp hnot)
  rw [store_act]
  cases hoperation : session.operation? action with
  | none =>
    refine h id (Bool.eq_false_iff.mpr fun hnode => ?_)
    cases hoperation.symm.trans (hgone hnode)
  | some operation =>
    by_cases hnode : session.hasNode id
    · obtain rfl := Option.some.inj (hoperation.symm.trans (hgone hnode))
      exact Store.lacks_removeNode session.store id
    · exact (h id (Bool.eq_false_iff.mpr hnode)).apply operation fun henters =>
        hnode (hasNode_of_enters hoperation henters)

theorem inhabited_act (h : session.store.Inhabited) (action : Action) :
    (session.act action).store.Inhabited := by
  rw [store_act]
  cases session.operation? action with
  | none => exact h
  | some operation => exact h.apply operation

theorem remembered_act
    (h : ∀ running, session.runningBefore = some running → ∀ id ∈ running, session.hasNode id)
    (action : Action) {running : List String}
    (hrunning : (session.act action).runningBefore = some running)
    {id : String} (hid : id ∈ running) : (session.act action).hasNode id := by
  rw [runningBefore_act] at hrunning
  have hkept (hsame : session.runningBefore = some running) (hne : action ≠ .removeNode id) :
      (session.act action).hasNode id :=
    hasNode_act_of_ne (h running hsame id hid) hne
  cases action with
  | pauseAll =>
    refine hasNode_act_of_ne ?_ (by rintro ⟨⟩)
    rw [rememberedAfter] at hrunning
    cases hbefore : session.runningBefore with
    | some before =>
      rw [hbefore] at hrunning
      exact h before hbefore id (Option.some.inj hrunning ▸ hid)
    | none =>
      rw [hbefore] at hrunning
      obtain rfl := Option.some.inj hrunning
      obtain ⟨node, hnode, rfl⟩ := List.mem_map.mp hid
      rw [hasNode_iff_mem_ids]
      exact List.mem_map_of_mem (List.mem_of_mem_filter hnode)
  | resumeAll => cases hrunning
  | removeNode other =>
    rw [rememberedAfter] at hrunning
    split at hrunning
    · obtain ⟨before, hbefore, rfl⟩ := Option.map_eq_some_iff.mp hrunning
      obtain ⟨hmem, hne⟩ := List.mem_filter.mp hid
      refine hasNode_act_of_ne (h before hbefore id hmem) ?_
      rintro ⟨⟩
      simp at hne
    · next hother =>
      refine hkept hrunning ?_
      rintro ⟨⟩
      exact hother (h running hrunning id hid)
  | _ => exact hkept hrunning (by rintro ⟨⟩)

theorem Sound.act (h : session.Sound) {action : Action} (hfresh : session.DrawsFresh action) :
    (session.act action).Sound where
  graph := graph_act_simple h.graph hfresh
  known _ hnot := lacks_act h.known action hnot
  inhabited := inhabited_act h.inhabited action
  keeps id := (h.keeps id).elim fun _ hkeeps => ⟨_, hkeeps.act action⟩
  remembered _ hrunning _ hid := remembered_act h.remembered action hrunning hid

end Act

section Rebuild

structure Tidy (session : Session) : Prop where
  known : ∀ id, session.hasNode id = false → session.store.Lacks id
  inhabited : session.store.Inhabited

theorem Tidy.replayRecord (h : session.Tidy) (groupId : String) (entry : String × Record) :
    (session.replayRecord groupId entry).Tidy := by
  unfold Session.replayRecord
  split
  · exact h
  · next hnode =>
    have hne {id : String} (hnot : session.hasNode id = false) : id ≠ entry.1 := by
      rintro rfl
      simp [hnot] at hnode
    split
    · exact ⟨fun id hnot => (h.known id hnot).holdInPausedGroup (hne hnot) groupId entry.2,
        h.inhabited.holdInPausedGroup groupId entry.1 entry.2⟩
    · exact ⟨fun id hnot => (h.known id hnot).updateNode (hne hnot) entry.2,
        h.inhabited.apply (.update entry.1 entry.2)⟩

theorem Tidy.replayGroup (h : session.Tidy) (saved : String × Table Record) :
    (session.replayGroup saved).Tidy := by
  have hreplayed : (saved.2.entries.foldl (fun session entry => session.replayRecord saved.1 entry)
      session).Tidy :=
    List.foldlRecOn saved.2.entries _ h fun _ htidy entry _ => htidy.replayRecord saved.1 entry
  unfold Session.replayGroup
  dsimp only
  split
  · exact hreplayed
  · next group _ =>
    refine ⟨fun id hnot => ?_, ?_⟩
    · have hlacks := (hreplayed.known id hnot).rekeyPausedGroup saved.1 group.groupId
      exact hlacks.apply (.pause group.groupId group.nodeIds) not_false
    · have hinhabited := hreplayed.inhabited.rekeyPausedGroup saved.1 group.groupId
      exact hinhabited.apply (.pause group.groupId group.nodeIds)

theorem Tidy.rebuild (h : session.Tidy) (runner : Runner) (settings : Settings) :
    (ofState session.snapshot runner settings).Tidy := by
  unfold Session.ofState
  refine List.foldlRecOn _ _ ?_ fun _ htidy saved _ => htidy.replayGroup saved
  refine ⟨fun id hnot => ?_, by simp [Store.Inhabited]⟩
  have hlacks := h.known id hnot
  exact ⟨hlacks.live, hlacks.muted, fun _ => rfl⟩

theorem Sound.rebuild (h : session.Sound) (runner : Runner) (settings : Settings) :
    (ofState session.snapshot runner settings).Sound := by
  have htidy := Tidy.rebuild ⟨h.known, h.inhabited⟩ runner settings
  obtain ⟨store, hstore⟩ := exists_store_ofState session runner settings
  have hnode (id : String) : (ofState session.snapshot runner settings).hasNode id =
      session.hasNode id := by
    rw [hstore]
    rfl
  refine ⟨by rw [hstore]; exact h.graph, htidy.known, htidy.inhabited, fun id => ?_, ?_⟩
  · cases hid : session.hasNode id with
    | false =>
      have hlacks := htidy.known id ((hnode id).trans hid)
      exact ⟨_, hlacks.at, Record.nullFree_empty, fun _ => rfl⟩
    | true =>
      obtain ⟨placement, hkeeps⟩ := h.keeps id
      obtain ⟨restored, hat, hrecord, _⟩ := hkeeps.ofState runner settings
      refine ⟨restored, hat, hrecord ▸ hkeeps.nullFree, fun hnot => ?_⟩
      cases hnot.symm.trans ((hnode id).trans hid)
  · rw [hstore]
    exact nofun

end Rebuild

section Start

variable (runner : Runner) (settings : Settings)

theorem sound_withSettings : (withSettings runner settings).Sound :=
  ⟨Graph.simple_empty, fun id _ => Store.lacks_empty id, by simp [Store.Inhabited, withSettings],
    fun id => ⟨_, keeps_withSettings runner settings id⟩, nofun⟩

theorem sound_starterGraph : (starterGraph runner settings).Sound := by
  have hblank : (starterGraph runner settings).store =
      (({} : Store).apply (.update "drums" starterSound)).apply (.update "gain" starterGain) := rfl
  refine ⟨⟨by simp [starterGraph], by simp [starterGraph], List.pairwise_singleton _ _⟩,
    fun id hnot => ?_, ?_, exists_keeps_starterGraph runner settings, nofun⟩
  · rw [hblank]
    refine ((Store.lacks_empty id).apply _ ?_).apply _ ?_ <;>
      · rintro rfl
        cases hnot
  · rw [hblank]
    exact (Store.Inhabited.apply (by simp [Store.Inhabited]) _).apply _

end Start

theorem Reachable.sound (h : session.Reachable) : session.Sound := by
  induction h with
  | start start runner settings =>
    cases start with
    | blank => exact sound_withSettings runner settings
    | starter => exact sound_starterGraph runner settings
  | act action _ hfresh ih => exact ih.act hfresh
  | failWith message _ ih =>
    refine ⟨ih.graph, ih.known, ih.inhabited, fun id => ?_, ih.remembered⟩
    obtain ⟨placement, hplaced, hfree, hknown⟩ := ih.keeps id
    exact ⟨placement, hplaced, hfree, hknown⟩
  | rebuild runner settings _ ih => exact ih.rebuild runner settings

/-- Whatever is done to a session, and however often it is rebuilt from its snapshot: no id stands
twice, edges join different nodes and no two nodes twice, and the tables and what is remembered of a
pause are about nodes that exist. -/
theorem wellFormed_of_reachable (h : session.Reachable) : session.WellFormed :=
  h.sound.wellFormed

def rebuiltStarter : Session :=
  let drawn := (starterGraph {} {}).act (.addNode "1" "pad" {})
  ofState (drawn.act (.pauseGroup "drums-gain")).snapshot {} {}

theorem rebuilt_starter_wellFormed :
    rebuiltStarter.Reachable ∧ rebuiltStarter.store.pausedGroupIds = ["drums-gain"] ∧
      rebuiltStarter.WellFormed := by
  have hstart : (starterGraph {} {}).Reachable := .start .starter {} {}
  have hdrawn := hstart.act (.addNode "1" "pad" {}) rfl
  have hrebuilt : rebuiltStarter.Reachable :=
    (hdrawn.act (.pauseGroup "drums-gain") trivial).rebuild {} {}
  exact ⟨hrebuilt, by decide +kernel, wellFormed_of_reachable hrebuilt⟩

end Session

end Patchbay
