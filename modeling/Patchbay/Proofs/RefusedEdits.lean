import Patchbay.Proofs.SessionRun

namespace Patchbay.Session

/-- Whether a session accepts an action, by the answer that the action itself gives. What gives no
such answer is never refused. -/
def accepts (session : Session) : Action → Bool
  | .insertNode node => (session.insertNode node).2.isOk
  | .updateNodeData id changes => (session.updateNodeData id changes).2
  | .updateNodeConfig id changes => (session.updateNodeConfig id changes).2.isOk
  | .removeNode id => (session.removeNode id).2
  | .connect token source target => (session.connect token source target).2.isSome
  | .disconnect edgeId => (session.disconnect edgeId).2
  | .pauseGroup groupId => (session.pauseGroup groupId).2
  | .playGroup groupId => (session.playGroup groupId).2
  | .muteNode id => (session.muteNode id).2
  | .unmuteNode id => (session.unmuteNode id).2
  | .pauseAll => session.pauseAll.2
  | .addNode _ _ _ | .setCpm _ | .setTheme _ | .setColorMode _ | .resumeAll | .refresh | .sleep _ =>
    true

def Action.isEdit : Action → Bool
  | .insertNode _ | .updateNodeConfig _ _ | .removeNode _ | .connect _ _ _ | .disconnect _
  | .pauseGroup _ | .playGroup _ | .muteNode _ | .unmuteNode _ => true
  | _ => false

/-- What an action needs so that it is not refused. -/
def Applies (session : Session) : Action → Prop
  | .insertNode node => session.hasNode node.id = false
  | .updateNodeData id _ | .updateNodeConfig id _ | .removeNode id => session.hasNode id
  | .connect _ source target =>
      source ≠ target ∧ session.hasNode source ∧ session.hasNode target ∧
        ∀ edge ∈ session.edges, edge.joins source target = false
  | .disconnect edgeId => ∃ edge ∈ session.edges, edge.id = edgeId
  | .pauseGroup groupId =>
      ∃ group, (session.groups.find? fun group => group.groupId == groupId) = some group ∧
        ∃ id ∈ group.nodeIds, session.store.liveRecord id ≠ ∅
  | .playGroup groupId => session.store.isGroupPaused groupId
  | .muteNode id => session.hasNode id ∧ session.store.isMuted id = false
  | .unmuteNode id => session.store.isMuted id
  | .pauseAll => session.isPausedAll = false
  | .addNode _ _ _ | .setCpm _ | .setTheme _ | .setColorMode _ | .resumeAll | .refresh | .sleep _ =>
    True

variable {session : Session}

/-- What comes of an edit: a refused one changes nothing; an accepted one leaves the runner alone
until the edited session is handed in, once. -/
inductive Edited (session : Session) : Bool → Session → Prop where
  | refused : Edited session false session
  | accepted (edited : Session) (hrunner : edited.runner = session.runner) :
      Edited session true edited.refreshed

theorem Edited.eq_of_refused {accepted : Bool} {next : Session} (h : session.Edited accepted next)
    (hrefused : accepted = false) : next = session := by
  cases h with
  | refused => rfl
  | accepted => cases hrefused

theorem Edited.submitted {accepted : Bool} {next : Session} (h : session.Edited accepted next)
    (haccepted : accepted = true) : next.runner = (session.runner.submit next.compile).1 := by
  cases h with
  | refused => cases haccepted
  | accepted edited hrunner =>
    rw [← hrunner]
    rfl

theorem edited_of_isEdit (session : Session) {action : Action} (h : action.isEdit) :
    session.Edited (session.accepts action) (session.act action) := by
  cases action with
  | insertNode node =>
    rw [accepts, act, insertNode]
    split
    · exact .refused
    · exact .accepted _ rfl
  | updateNodeConfig id changes =>
    rw [accepts, act, updateNodeConfig]
    split
    · exact .accepted { session with store := session.store.updateNode id changes } rfl
    · exact .refused
  | removeNode id =>
    rw [accepts, act, removeNode]
    split
    · exact .accepted _ rfl
    · exact .refused
  | connect token source target =>
    rw [accepts, act, connect]
    split
    · exact .refused
    · exact .accepted _ rfl
  | disconnect edgeId =>
    rw [accepts, act, disconnect]
    split
    · exact .accepted _ rfl
    · exact .refused
  | pauseGroup groupId =>
    rw [accepts, act]
    cases hdone : (session.pauseGroup groupId).2 with
    | false =>
      rw [(pauseGroup_refused hdone).1]
      exact .refused
    | true =>
      obtain ⟨group, store, _, _, heq⟩ := pauseGroup_done hdone
      rw [heq]
      exact .accepted _ rfl
  | playGroup groupId =>
    rw [accepts, act, playGroup]
    split
    · exact .accepted _ rfl
    · exact .refused
  | muteNode id =>
    rw [accepts, act, muteNode]
    split
    · split
      · exact .accepted _ rfl
      · exact .refused
    · exact .refused
  | unmuteNode id =>
    rw [accepts, act, unmuteNode]
    split
    · exact .accepted _ rfl
    · exact .refused
  | _ => cases h

/-- A refused action leaves everything as it was, down to what the runner waits for and what the
engine has been asked. -/
theorem act_of_refused (session : Session) {action : Action} (h : session.accepts action = false) :
    session.act action = session := by
  cases action with
  | updateNodeData id changes =>
    rw [accepts, updateNodeData] at h
    split at h
    · cases h
    · next hnode => rw [act, updateNodeData, if_neg hnode]
  | pauseAll =>
    rw [accepts, pauseAll] at h
    split at h
    · next hpaused => rw [act, pauseAll, if_pos hpaused]
    · cases h
  | addNode | setCpm | setTheme | setColorMode | resumeAll | refresh | sleep => cases h
  | _ => exact (session.edited_of_isEdit rfl).eq_of_refused h

theorem pauseGroup?_isSome_iff (store : Store) (groupId : String) (ids : List String) :
    (store.pauseGroup? groupId ids).isSome ↔ ∃ id ∈ ids, store.liveRecord id ≠ ∅ := by
  constructor
  · intro h
    obtain ⟨after, hafter⟩ := Option.isSome_iff_exists.mp h
    obtain ⟨id, record, hrecord⟩ := (Table.ne_empty_iff _).mp (Store.pauseGroup?_eq_some hafter).1
    rw [Store.get?_soundingRecords] at hrecord
    split at hrecord
    · next hlive => exact ⟨id, hlive⟩
    · cases hrecord
  · rintro ⟨id, hid, hlive⟩
    by_contra hnot
    have hnone := Store.soundingRecords_of_refused (Option.not_isSome_iff_eq_none.mp hnot)
    have hrecord := Store.get?_soundingRecords store ids id
    rw [if_pos ⟨hid, hlive⟩, hnone, Table.get?_empty] at hrecord
    cases hrecord

theorem accepts_iff_applies (session : Session) (action : Action) :
    session.accepts action ↔ session.Applies action := by
  cases action with
  | insertNode node =>
    rw [accepts, insertNode, Applies]
    cases session.hasNode node.id <;> simp [Except.isOk, Except.toBool]
  | updateNodeData id changes =>
    rw [accepts, updateNodeData, Applies]
    cases session.hasNode id <;> simp
  | updateNodeConfig id changes =>
    rw [accepts, updateNodeConfig, Applies]
    cases session.hasNode id <;> simp [Except.isOk, Except.toBool]
  | removeNode id =>
    rw [accepts, removeNode, Applies]
    cases session.hasNode id <;> simp
  | connect token source target =>
    have hjoined : session.edges.any (·.joins source target) = false ↔
        ∀ edge ∈ session.edges, edge.joins source target = false := by
      simp
    rw [accepts, connect, Applies, ← hjoined]
    by_cases hself : source = target
    · simp [hself]
    · cases session.hasNode source <;> cases session.hasNode target <;>
        cases session.edges.any (·.joins source target) <;> simp [hself]
  | disconnect edgeId =>
    rw [accepts, disconnect, Applies]
    split
    · next hedge => simpa using hedge
    · next hedge => simpa using hedge
  | pauseGroup groupId =>
    rw [accepts, pauseGroup, Applies]
    cases hgroup : session.groups.find? fun group => group.groupId == groupId with
    | none => simp
    | some group =>
      have hsome := pauseGroup?_isSome_iff session.store groupId group.nodeIds
      cases hstore : session.store.pauseGroup? groupId group.nodeIds with
      | none => simpa [hstore] using hsome
      | some store => simpa [hstore] using hsome
  | playGroup groupId =>
    rw [accepts, playGroup, Applies]
    cases hsaved : session.store.paused.get? groupId <;>
      simp [Store.pausedGroup?, Store.unpauseGroup?, Store.isGroupPaused, Table.contains, hsaved]
  | muteNode id =>
    rw [accepts, muteNode, Applies]
    cases session.hasNode id <;> cases hmuted :
      session.store.isMuted id <;> simp [Store.muteNode?, hmuted]
  | unmuteNode id =>
    rw [accepts, unmuteNode, Applies]
    cases hrecord : session.store.muted.get? id <;>
      simp [Store.unmuteNode?, Store.isMuted, Table.contains, hrecord]
  | pauseAll =>
    rw [accepts, pauseAll, Applies]
    cases session.isPausedAll <;> simp
  | addNode | setCpm | setTheme | setColorMode | resumeAll | refresh | sleep =>
    simp [accepts, Applies]

/-- A refused edit changes nothing, and an accepted one hands in the edited program once. Refused
are the actions with nothing to act on, in every session there can be. -/
theorem refused_or_submitted_once (session : Session) (action : Action) :
    (session.accepts action ↔ session.Applies action) ∧
      (session.accepts action = false → session.act action = session) ∧
      (session.accepts action → action.isEdit →
        (session.act action).runner = (session.runner.submit (session.act action).compile).1) :=
  ⟨session.accepts_iff_applies action, session.act_of_refused,
    fun haccepted hedit => (session.edited_of_isEdit hedit).submitted haccepted⟩

def strays : State where
  nodes := [{ id := "a", typeId := "drum_sounds" }, { id := "a", typeId := "drum_sounds" }]
  edges := [⟨"1", "a", "b"⟩]
  config := { muted := Table.empty.insert "b" (.ofList [("sound", .string "bd")]) }

theorem stray_record_is_unmuted :
    let session := ofState strays {} {}
    session.act (.connect "2" "a" "b") = session ∧
      session.store.liveRecord "b" = ∅ ∧ (session.act (.unmuteNode "b")).store.liveRecord "b" ≠ ∅ ∧
      (session.act (.unmuteNode "b")).runner =
        (session.runner.submit (session.act (.unmuteNode "b")).compile).1 := by
  intro session
  have hrefused : session.accepts (.connect "2" "a" "b") = false := by decide +kernel
  have haccepted : session.accepts (.unmuteNode "b") := by decide +kernel
  exact ⟨(refused_or_submitted_once session _).2.1 hrefused, by decide +kernel, by decide +kernel,
    (refused_or_submitted_once session _).2.2 haccepted rfl⟩

end Patchbay.Session
