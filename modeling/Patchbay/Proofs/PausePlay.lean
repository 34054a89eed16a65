import Patchbay.Proofs.GroupPartition
import Patchbay.Proofs.ProgramStatements
import Patchbay.Proofs.SessionRun

namespace Patchbay

namespace Store

variable {store after : Store} {groupId : String} {ids : List String}

theorem hasRecord_pauseGroup? (h : store.pauseGroup? groupId ids = some after) (id : String) :
    after.HasRecord id ↔ store.HasRecord id := by
  unfold HasRecord
  rw [liveRecord_pauseGroup? h, muted_pauseGroup? h]
  simp only [heldIn?_pauseGroup? h]
  -- A record that is moved is held instead of live; of any other node nothing changes.
  by_cases hmoved : id ∈ ids ∧ store.liveRecord id ≠ ∅
  · refine iff_of_true (.inr (.inr ⟨groupId, ?_⟩)) (.inl hmoved.2)
    rw [if_pos ⟨rfl, hmoved⟩]
    rfl
  · have hsame : (if id ∈ ids then ∅ else store.liveRecord id) = store.liveRecord id := by
      by_cases hid : id ∈ ids
      · rw [if_pos hid]
        by_contra hne
        exact hmoved ⟨hid, Ne.symm hne⟩
      · rw [if_neg hid]
    simp only [hsame, hmoved, and_false, if_false]

theorem get?_saved_pauseGroup? (h : store.pauseGroup? groupId ids = some after)
    (hfree : store.paused.get? groupId = none) {saved : Table Record}
    (hsaved : after.paused.get? groupId = some saved) (id : String) :
    saved.get? id =
      if id ∈ ids ∧ store.liveRecord id ≠ ∅ then some (store.liveRecord id) else none := by
  have hheld := heldIn?_pauseGroup? h groupId id
  rw [heldIn?, heldIn?, hsaved, hfree, Option.bind_some, Option.bind_none] at hheld
  simpa using hheld

theorem unpauseGroup?_pauseGroup? (h : store.pauseGroup? groupId ids = some after)
    (hfree : store.paused.get? groupId = none)
    (hlive : ∀ id, store.liveRecord id ≠ ∅ → store.isMuted id = false) :
    after.unpauseGroup? groupId = some store := by
  obtain ⟨_, hafter⟩ := pauseGroup?_eq_some h
  have hmuted : after.muted = store.muted := muted_pauseGroup? h
  have hsome : (after.unpauseGroup? groupId).isSome := by
    rw [unpauseGroup?, Option.isSome_map, hafter]
    simp
  obtain ⟨played, hplayed⟩ := Option.isSome_iff_exists.mp hsome
  obtain ⟨saved, hsaved, rfl⟩ := unpauseGroup?_eq_some hplayed
  have hget := get?_saved_pauseGroup? h hfree hsaved
  -- What was live is not muted, so all that is saved is played live again and nothing is muted.
  have hunmuted : (saved.filter fun id _ => after.isMuted id) = ∅ := by
    refine Table.ext fun id => ?_
    rw [Table.get?_filter, hget, Table.get?_empty]
    split
    · next hmoved =>
      rw [isMuted, hmuted, ← isMuted, hlive id hmoved.2]
      rfl
    · rfl
  have hback : after.live.insertAll (saved.filter fun id _ => !after.isMuted id).entries =
      store.live := by
    refine Table.ext fun id => ?_
    rw [Table.get?_insertAll_entries, Table.get?_filter, hget, get?_live_pauseGroup? h]
    by_cases hmoved : id ∈ ids ∧ store.liveRecord id ≠ ∅
    · rw [if_pos hmoved, isMuted, hmuted, ← isMuted, hlive id hmoved.2]
      have hne := hmoved.2
      unfold liveRecord at hne ⊢
      cases hrecord : store.live.get? id with
      | none => simp [hrecord] at hne
      | some record => rfl
    · rw [if_neg hmoved, if_neg hmoved]
      rfl
  have hpaused : after.paused.erase groupId = store.paused := by
    refine Table.ext fun id => ?_
    rw [Table.get?_erase, hafter]
    by_cases hid : id = groupId
    · rw [if_pos hid, hid, hfree]
    · simp [hid]
  rw [hplayed, hback, hunmuted, hpaused, hmuted]
  rfl

end Store

namespace Group

theorem all_congr {nodes : List Node} {edges : List Edge} {store other : Store}
    (h : ∀ id, isMember nodes store id = isMember nodes other id) :
    all nodes edges store = all nodes edges other := by
  have hmembers : membersOf nodes edges store = membersOf nodes edges other := by
    funext component
    exact List.filter_congr fun id _ => h id
  unfold all
  rw [hmembers]

theorem all_pauseGroup? {store after : Store} {groupId : String} {ids : List String}
    (h : store.pauseGroup? groupId ids = some after) (nodes : List Node) (edges : List Edge) :
    all nodes edges after = all nodes edges store := by
  refine all_congr fun id => ?_
  rw [Bool.eq_iff_iff, isMember_iff_contributes, isMember_iff_contributes]
  unfold Contributes
  simp only [Store.hasRecord_pauseGroup? h]

end Group

namespace Program

variable {nodes : List Node} {edges : List Edge} {store after : Store} {groupId : String}

theorem statement?_congr {other : Store} {group : Group}
    (h : ∀ id ∈ group.nodeIds, store.liveRecord id = other.liveRecord id) :
    statement? nodes store group = statement? nodes other group := by
  unfold statement?
  rw [pattern_congr (fun _ => rfl) fun id hid _ _ _ => h id hid]

/-- Pausing a group takes its own statement out of the program and leaves the others in
their order. -/
theorem statements_pauseGroup? {group : Group} {before later : List Group}
    (hsplit : Group.all nodes edges store = before ++ group :: later)
    (h : store.pauseGroup? groupId group.nodeIds = some after) :
    statements nodes edges after =
      before.filterMap (statement? nodes store) ++ later.filterMap (statement? nodes store) := by
  have hothers : ∀ other ∈ before ++ later,
      statement? nodes after other = statement? nodes store other := by
    intro other hother
    refine statement?_congr fun id hid => ?_
    rw [Store.liveRecord_pauseGroup? h, if_neg]
    exact fun hin => Group.disjoint_of_split hsplit other hother hid hin
  have hown : statement? nodes after group = none :=
    statement?_of_silent fun id hid => by rw [Store.liveRecord_pauseGroup? h, if_pos hid]
  rw [statements, Group.all_pauseGroup? h, hsplit, List.filterMap_append,
    List.filterMap_cons_none hown]
  rw [List.filterMap_congr fun other hother => hothers other (List.mem_append_left _ hother),
    List.filterMap_congr fun other hother => hothers other (List.mem_append_right _ hother)]

end Program

namespace Session

def statements (session : Session) : List String :=
  Program.statements session.nodes session.edges session.store

def statement? (session : Session) (group : Group) : Option String :=
  Program.statement? session.nodes session.store group

variable {session : Session} {id groupId : String} {placement : Placement}

theorem Keeps.isMuted_of_live (h : session.Keeps id placement)
    (hlive : session.store.liveRecord id ≠ ∅) :
    session.store.isMuted id = false := by
  rw [h.placed.live] at hlive
  rw [h.placed.isMuted_eq]
  cases placement with
  | live record => rfl
  | muted record | held holder record isMuted => exact absurd rfl hlive

theorem playGroup_done {store : Store} (h : session.store.unpauseGroup? groupId = some store) :
    (session.playGroup groupId).2 = true ∧ (session.playGroup groupId).1.store = store ∧
      (session.playGroup groupId).1.cpm = session.cpm := by
  obtain ⟨saved, hsaved, _⟩ := Store.unpauseGroup?_eq_some h
  simp only [playGroup, Store.pausedGroup?, hsaved, h, true_and]
  exact ⟨rfl, rfl⟩

/-- These are the statements of the session without the one of the first group of this id, which may
have none. -/
def StatementsWithout (session : Session) (groupId : String) (lines : List String) : Prop :=
  ∃ before group later, session.groups = before ++ group :: later ∧ group.groupId = groupId ∧
    (∀ other ∈ before, other.groupId ≠ groupId) ∧
    session.statements = before.filterMap session.statement? ++
      (session.statement? group).toList ++ later.filterMap session.statement? ∧
    lines = before.filterMap session.statement? ++ later.filterMap session.statement?

/-- Pausing a group takes exactly its own statement out of the program; playing it at once puts the
records and the program back as they were, unless a group of the same id was paused already. -/
theorem pauseGroup_then_playGroup (start : Start) (runner : Runner) (settings : Settings)
    (actions : List Action) (groupId : String) :
    let session := (start.session runner settings).run actions
    let paused := (session.pauseGroup groupId).1
    let played := (paused.playGroup groupId).1
    (session.pauseGroup groupId).2 = true →
      session.StatementsWithout groupId paused.statements ∧
        (session.store.isGroupPaused groupId = false →
          (paused.playGroup groupId).2 = true ∧ played.store = session.store ∧
            played.compile = session.compile) := by
  intro session paused played hdone
  obtain ⟨group, store, hgroup, hstore, hpaused⟩ := pauseGroup_done hdone
  obtain ⟨hkinds, hedges⟩ : paused.kinds = session.kinds ∧ paused.edges = session.edges :=
    graph_act session (show (Action.pauseGroup groupId).keepsGraph from rfl)
  have hafter : paused.store = store := congrArg Session.store hpaused
  refine ⟨?_, fun hnot => ?_⟩
  · obtain ⟨hid, before, later, hsplit, hbefore⟩ := List.find?_eq_some_iff_append.mp hgroup
    refine ⟨before, group, later, hsplit, by simpa using hid, by simpa using hbefore, ?_, ?_⟩
    · change session.groups.filterMap session.statement? = _
      rw [hsplit, List.filterMap_append, List.filterMap_cons, List.append_assoc]
      cases session.statement? group <;> rfl
    · rw [statements, hedges, hafter, Program.statements_congr hkinds fun _ _ _ _ => rfl]
      exact Program.statements_pauseGroup? hsplit hstore
  · have hfree : session.store.paused.get? groupId = none := by
      simpa [Store.isGroupPaused, Table.contains] using hnot
    have hback : paused.store.unpauseGroup? groupId = some session.store := by
      rw [hafter]
      refine Store.unpauseGroup?_pauseGroup? hstore hfree fun id hlive => ?_
      obtain ⟨_, hplacement⟩ := exists_keeps start runner settings actions id
      exact hplacement.isMuted_of_live hlive
    obtain ⟨hdone', hsame, htempo⟩ := playGroup_done hback
    obtain ⟨hkinds', hedges'⟩ : played.kinds = paused.kinds ∧ played.edges = paused.edges :=
      graph_act paused (show (Action.playGroup groupId).keepsGraph from rfl)
    have hcpm : played.cpm = session.cpm := htempo.trans (congrArg cpm hpaused :)
    refine ⟨hdone', hsame, ?_⟩
    rw [compile, compile, hcpm, hedges', hedges]
    exact Program.compile_congr session.cpm (hkinds'.trans hkinds) fun _ _ _ _ => by rw [hsame]

def drumsBesideSynth : List Action :=
  oneDrum ++ [.insertNode { id := "c", typeId := "synth" },
    .updateNodeConfig "c" (.ofList [("sound", .string "saw")])]

theorem drums_pause_beside_synth :
    let session := (Start.blank.session {} {}).run drumsBesideSynth
    let paused := (session.pauseGroup "a-b").1
    let played := (paused.playGroup "a-b").1
    (session.pauseGroup "a-b").2 = true ∧ session.store.isGroupPaused "a-b" = false ∧
      session.statements = ["$: sound(\"bd\")", "$: sound(\"saw\")"] ∧
      paused.statements = ["$: sound(\"saw\")"] ∧
      session.StatementsWithout "a-b" paused.statements ∧
      (paused.playGroup "a-b").2 = true ∧ played.store = session.store ∧
        played.compile = session.compile := by
  have hdone : (((Start.blank.session {} {}).run drumsBesideSynth).pauseGroup "a-b").2 = true := by
    decide +kernel
  have hfree :
      ((Start.blank.session {} {}).run drumsBesideSynth).store.isGroupPaused "a-b" = false := by
    decide +kernel
  have hboth := pauseGroup_then_playGroup .blank {} {} drumsBesideSynth "a-b" hdone
  exact ⟨hdone, hfree, by decide +kernel, by decide +kernel, hboth.1, hboth.2 hfree⟩

end Session

end Patchbay
