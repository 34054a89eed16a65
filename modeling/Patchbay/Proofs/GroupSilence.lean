import Patchbay.Proofs.ProgramStatements
import Patchbay.Proofs.SessionRun

namespace Patchbay

def startsPattern (typeId : String) : Bool :=
  (Transform.ofTypeId? typeId).any Transform.startsPattern

theorem startsPattern_iff (typeId : String) :
    startsPattern typeId ↔
      ∃ transform, Transform.ofTypeId? typeId = some transform ∧ transform.startsPattern := by
  rw [startsPattern, Option.any_eq_true]

theorem hasTransform_of_startsPattern {typeId : String} (h : startsPattern typeId) :
    hasTransform typeId := by
  obtain ⟨transform, htransform, _⟩ := (startsPattern_iff typeId).mp h
  rw [hasTransform, htransform]
  rfl

theorem applyType_empty_chain {typeId : String} (h : startsPattern typeId = false)
    (record : Record) :
    applyType typeId record "" = "" := by
  unfold applyType
  cases htransform : Transform.ofTypeId? typeId with
  | none => rfl
  | some transform =>
    rw [startsPattern, htransform] at h
    exact Transform.apply_empty_chain h record

def Store.Operation.releases : Store.Operation → Bool
  | .unpause _ | .remove _ => true
  | _ => false

theorem Placement.heldIn?_step (id groupId : String) (record : Record) (isMuted : Bool)
    {operation : Store.Operation} (h : operation.releases = false) :
    ((Placement.held groupId record isMuted).step id operation |>.heldIn? groupId).isSome := by
  cases operation with
  | update other changes => by_cases ho : other = id <;> simp [step, edit, heldIn?, ho]
  | mute other => by_cases ho : other = id <;> simp [step, mute, heldIn?, ho]
  | unmute other => by_cases ho : other = id <;> simp [step, unmute, heldIn?, ho]
  | pause other ids => by_cases hid : id ∈ ids <;> simp [step, pause, heldIn?, hid]
  | unpause | remove => cases h

namespace Session

/-- The actions that edit and mute nodes, pause groups and set the tempo. They neither change the
graph nor play a group. -/
def Action.isQuiet : Action → Bool
  | .updateNodeConfig _ _ | .updateNodeData _ _ | .muteNode _ | .unmuteNode _ | .setCpm _
  | .pauseGroup _ => true
  | _ => false

def InComponent (session : Session) (ids : List String) (id : String) : Prop :=
  ∃ member ∈ ids, Joined session.edges member id

/-- The component of these nodes contributes no statement to the program. -/
def Silent (session : Session) (ids : List String) : Prop :=
  ∀ group ∈ session.groups, (∃ id ∈ group.nodeIds, session.InComponent ids id) →
    Program.statement? session.nodes session.store group = none

/-- Whatever can start a pattern in the component of these nodes is held by a paused group. -/
def StartersHeld (session : Session) (ids : List String) : Prop :=
  ∀ id typeId, session.InComponent ids id → typeOf? session.nodes id = some typeId →
    startsPattern typeId → ∃ groupId, (session.store.heldIn? groupId id).isSome

variable {session : Session} {ids : List String} {id : String} {placement : Placement}

theorem StartersHeld.silent (h : session.StartersHeld ids)
    (hkeeps : ∀ id, ∃ placement, session.Keeps id placement) : session.Silent ids := by
  rintro group hgroup ⟨start, hstart, member, hmember, hjoined⟩
  have hvoice : ∀ id ∈ group.nodeIds, Program.voice session.nodes session.store "" id = "" := by
    intro id hid
    have hin : session.InComponent ids id :=
      ⟨member, hmember, hjoined.trans ((Group.mem_nodeIds hgroup hstart id).mp hid).1⟩
    unfold Program.voice
    cases htype : typeOf? session.nodes id with
    | none => rfl
    | some typeId =>
      by_cases hstarts : startsPattern typeId
      · obtain ⟨groupId, hheld⟩ := h id typeId hin htype hstarts
        obtain ⟨placement, hplacement⟩ := hkeeps id
        simp only [hplacement.placed.liveRecord_of_held hheld, applyType_empty_record]
      · exact applyType_empty_chain (Bool.eq_false_iff.mpr hstarts) _
  have hpattern : Program.pattern session.nodes session.store group.nodeIds = "" := by
    rw [Program.pattern_eq_foldl]
    refine List.foldlRecOn (motive := fun chain => chain = "") group.nodeIds _ rfl ?_
    rintro _ rfl id hid
    exact hvoice id hid
  rw [Program.statement?_eq_none, hpattern]
  exact Chain.blank_empty

theorem keepsGraph_of_isQuiet {action : Action} (h : action.isQuiet) : action.keepsGraph := by
  cases action <;> trivial

theorem releases_of_isQuiet {action : Action} (h : action.isQuiet) {operation : Store.Operation}
    (hoperation : session.operation? action = some operation) : operation.releases = false := by
  cases action with
  | updateNodeConfig other changes | muteNode other =>
    by_cases hother : session.hasNode other
    · obtain rfl := Option.some.inj ((if_pos hother).symm.trans hoperation)
      rfl
    · cases (if_neg hother).symm.trans hoperation
  | pauseGroup groupId =>
    obtain ⟨group, _, rfl⟩ := Option.map_eq_some_iff.mp hoperation
    rfl
  | unmuteNode other =>
    obtain rfl := Option.some.inj hoperation
    rfl
  | updateNodeData | setCpm => cases hoperation
  | _ => cases h

theorem heldIn?_act {action : Action} (hquiet : action.isQuiet)
    (hkeeps : session.Keeps id placement)
    {groupId : String} (hheld : (session.store.heldIn? groupId id).isSome) :
    ((session.act action).store.heldIn? groupId id).isSome := by
  obtain ⟨record, isMuted, rfl⟩ := hkeeps.placed.holder_eq hheld
  rw [(hkeeps.act action).placed.held]
  cases hoperation : session.operation? action with
  | none => simp [Placement.heldIn?]
  | some operation =>
    exact Placement.heldIn?_step id groupId record isMuted (releases_of_isQuiet hquiet hoperation)

theorem StartersHeld.act {action : Action} (hquiet : action.isQuiet) (h : session.StartersHeld ids)
    (hkeeps : ∀ id, ∃ placement, session.Keeps id placement) :
    (session.act action).StartersHeld ids := by
  obtain ⟨hkinds, hedges⟩ := graph_act session (keepsGraph_of_isQuiet hquiet)
  rintro id typeId ⟨member, hmember, hjoined⟩ htype hstarts
  rw [hedges] at hjoined
  rw [typeOf?_congr hkinds] at htype
  obtain ⟨groupId, hheld⟩ := h id typeId ⟨member, hmember, hjoined⟩ htype hstarts
  obtain ⟨placement, hplacement⟩ := hkeeps id
  exact ⟨groupId, heldIn?_act hquiet hplacement hheld⟩

/-- What is held stays held as long as no group is played, so the component stays silent. -/
theorem StartersHeld.silent_run (h : session.StartersHeld ids)
    (hkeeps : ∀ id, ∃ placement, session.Keeps id placement) {later : List Action}
    (hquiet : ∀ action ∈ later, action.isQuiet) : (session.run later).Silent ids := by
  induction later generalizing session with
  | nil => exact h.silent hkeeps
  | cons action rest ih =>
    refine ih (h.act (hquiet action List.mem_cons_self) hkeeps) (fun id => ?_)
      fun other hother => hquiet other (List.mem_cons_of_mem action hother)
    obtain ⟨placement, hplacement⟩ := hkeeps id
    exact ⟨_, hplacement.act action⟩

theorem isMember_of_startsPattern {typeId : String} (htype : typeOf? session.nodes id = some typeId)
    (hstarts : startsPattern typeId) (store : Store) : Group.isMember session.nodes store id := by
  obtain ⟨node, hnode, rfl⟩ := Option.map_eq_some_iff.mp htype
  simp only [Group.isMember, hnode, hasTransform_of_startsPattern hstarts, Bool.or_true]

theorem not_silent_of_starting {typeId : String} {transform : Transform} {record : Record}
    (hin : session.InComponent ids id) (htype : typeOf? session.nodes id = some typeId)
    (htransform : Transform.ofTypeId? typeId = some transform) (hstarts : transform.startsPattern)
    (hlive : session.store.liveRecord id = record.merge transform.startingChanges) :
    ¬ session.Silent ids := by
  intro hsilent
  have hmember := isMember_of_startsPattern htype
    ((startsPattern_iff typeId).mpr ⟨transform, htransform, hstarts⟩) session.store
  obtain ⟨group, hgroup, hid⟩ := Group.exists_group session.edges hmember
  have hvoice (chain : String) :
      ¬ Chain.Blank (Program.voice session.nodes session.store chain id) := by
    simp only [Program.voice, htype, applyType, htransform, hlive]
    exact Transform.not_blank_apply_starting hstarts record chain
  have hblank := (Program.statement?_eq_none group).mp (hsilent group hgroup ⟨id, hid, hin⟩)
  exact Program.not_blank_pattern hid hvoice hblank

theorem liveRecord_unmute_update (hkeeps : session.Keeps id placement) (hnode : session.hasNode id)
    (hnot : ∀ groupId, session.store.heldIn? groupId id = none) (changes : Record) :
    (session.run [.unmuteNode id, .updateNodeConfig id changes]).store.liveRecord id =
      placement.record.merge changes := by
  have hunmute := hkeeps.act (.unmuteNode id)
  have hnode' : (session.act (.unmuteNode id)).hasNode id := by
    rwa [hasNode_iff, (graph_act session rfl).1, ← hasNode_iff]
  have hedit := (hunmute.act (.updateNodeConfig id changes)).placed.live
  rw [run, List.foldl_cons, List.foldl_cons, List.foldl_nil, hedit]
  simp only [operation?, hnode', if_true, Option.elim_some, Placement.step]
  cases placement with
  | live record | muted record => rfl
  | held groupId record isMuted =>
    have hheld := hnot groupId
    rw [hkeeps.placed.held] at hheld
    simp [Placement.heldIn?] at hheld

/-- A starter that no paused group holds can be brought to sound: it is unmuted, and then given
something to play. -/
theorem exists_not_silent {typeId : String} (hkeeps : session.Keeps id placement)
    (hin : session.InComponent ids id) (htype : typeOf? session.nodes id = some typeId)
    (hstarts : startsPattern typeId) (hnot : ∀ groupId, session.store.heldIn? groupId id = none) :
    ∃ later : List Action, (∀ action ∈ later, action.isQuiet) ∧
      ¬ (session.run later).Silent ids := by
  obtain ⟨transform, htransform, hstarting⟩ := (startsPattern_iff typeId).mp hstarts
  have hnode : session.hasNode id := by
    rw [hasNode_iff, ← ids_eq, ← lastNode?_isSome]
    exact Option.isSome_map.symm.trans (congrArg Option.isSome htype)
  let later : List Action := [.unmuteNode id, .updateNodeConfig id transform.startingChanges]
  obtain ⟨hkinds, hedges⟩ := session.graph_run (show ∀ action ∈ later, action.keepsGraph by
    simp [later, Action.keepsGraph])
  refine ⟨later, by simp [later, Action.isQuiet], ?_⟩
  refine not_silent_of_starting ?_ ((typeOf?_congr hkinds id).trans htype) htransform hstarting
    (liveRecord_unmute_update hkeeps hnode hnot transform.startingChanges)
  rwa [InComponent, hedges]

theorem silent_run_iff (hkeeps : ∀ id, ∃ placement, session.Keeps id placement)
    (ids : List String) :
    (∀ later : List Action, (∀ action ∈ later, action.isQuiet) → (session.run later).Silent ids) ↔
      session.StartersHeld ids := by
  constructor
  · intro h id typeId hin htype hstarts
    by_contra hnot
    obtain ⟨placement, hplacement⟩ := hkeeps id
    obtain ⟨later, hquiet, hsound⟩ :=
      exists_not_silent hplacement hin htype hstarts fun groupId => by
      by_contra hheld
      exact hnot ⟨groupId, Option.isSome_iff_ne_none.mpr hheld⟩
    exact hsound (h later hquiet)
  · exact fun h later hquiet => h.silent_run hkeeps hquiet

/-- The sounding starters of a component, and those that a paused group holds already. -/
def StartersSound (session : Session) (ids : List String) : Prop :=
  ∀ id typeId, session.InComponent ids id → typeOf? session.nodes id = some typeId →
    startsPattern typeId →
      session.store.liveRecord id ≠ ∅ ∨ ∃ groupId, (session.store.heldIn? groupId id).isSome

theorem startersHeld_pauseGroup {groupId : String} {group : Group}
    (hgroup : (session.groups.find? fun group => group.groupId == groupId) = some group)
    (hdone : (session.pauseGroup groupId).2) :
    (session.pauseGroup groupId).1.StartersHeld group.nodeIds ↔
      session.StartersSound group.nodeIds := by
  obtain ⟨found, store, hfound, hstore, heq⟩ := pauseGroup_done hdone
  obtain rfl := Option.some.inj (hfound.symm.trans hgroup)
  have hgraph := session.graph_act (show (Action.pauseGroup groupId).keepsGraph from rfl)
  rw [act, heq] at hgraph
  rw [heq]
  unfold StartersHeld StartersSound InComponent
  rw [hgraph.2, store_refreshed, store_setState]
  refine forall₂_congr fun id typeId => forall_congr' fun hin => ?_
  rw [typeOf?_congr hgraph.1]
  refine forall₂_congr fun htype hstarts => ?_
  obtain ⟨member, hmember, hjoined⟩ := hin
  have hid : id ∈ found.nodeIds :=
    (Group.mem_nodeIds (List.mem_of_find?_eq_some hfound) hmember id).mpr
    ⟨hjoined, isMember_of_startsPattern htype hstarts session.store⟩
  simp only [Store.heldIn?_pauseGroup? hstore, hid, true_and]
  constructor
  · rintro ⟨other, hheld⟩
    by_cases hlive : session.store.liveRecord id = ∅
    · exact .inr ⟨other, by simpa [hlive] using hheld⟩
    · exact .inl hlive
  · rintro (hlive | ⟨other, hheld⟩)
    · exact ⟨groupId, by simp [hlive]⟩
    · refine ⟨other, ?_⟩
      split
      · rfl
      · exact hheld

/-- A paused group stays silent, whatever is edited, muted or paused afterwards, exactly if all
that could start a pattern in its component was sounding or held when it was paused. A node
without a record then, or a muted one, is not held, and the next edit or the end of its mute makes
it heard. -/
theorem paused_stays_silent_iff (start : Start) (runner : Runner) (settings : Settings)
    (actions : List Action) (groupId : String) :
    let session := (start.session runner settings).run actions
    ∀ group, (session.groups.find? fun group => group.groupId == groupId) = some group →
      (session.pauseGroup groupId).2 = true →
        ((∀ later : List Action, (∀ action ∈ later, action.isQuiet) →
            ((session.pauseGroup groupId).1.run later).Silent group.nodeIds) ↔
          session.StartersSound group.nodeIds) := by
  intro session group hgroup hdone
  have hkeeps (id : String) : ∃ placement, (session.pauseGroup groupId).1.Keeps id placement := by
    obtain ⟨placement, hplacement⟩ := exists_keeps start runner settings actions id
    exact ⟨_, hplacement.act (.pauseGroup groupId)⟩
  rw [silent_run_iff hkeeps, startersHeld_pauseGroup hgroup hdone]

theorem playing_drums_stay_silent :
    let session := (withSettings {} {}).run twoDrums
    ∀ later : List Action, (∀ action ∈ later, action.isQuiet) →
      ((session.pauseGroup "a-b").1.run later).Silent ["a", "b"] := by
  intro session
  refine (paused_stays_silent_iff .blank {} {} _ "a-b" ⟨"a-b", ["a", "b"]⟩
    (by decide +kernel) (by decide +kernel)).mpr ?_
  intro id typeId _ htype _
  have hid : id ∈ ["a", "b"] := by
    refine (lastNode?_isSome session.nodes id).mp ?_
    rw [← Option.isSome_map]
    exact congrArg Option.isSome htype
  rcases List.mem_pair.mp hid with rfl | rfl <;> exact .inl (by decide +kernel)

theorem unset_drum_breaks_silence :
    let session := (withSettings {} {}).run oneDrum
    (session.pauseGroup "a-b").2 = true ∧
      ∃ later : List Action, (∀ action ∈ later, action.isQuiet) ∧
        ¬ ((session.pauseGroup "a-b").1.run later).Silent ["a", "b"] := by
  intro session
  refine ⟨by decide +kernel, [.updateNodeConfig "b" (.ofList [("sound", .string "hh")])],
    by simp [Action.isQuiet], fun hsilent => ?_⟩
  have hnone :=
    hsilent ⟨"a-b", ["a", "b"]⟩ (by decide +kernel) ⟨"a", by decide, "a", by decide, .refl⟩
  revert hnone
  decide +kernel

end Session

end Patchbay
