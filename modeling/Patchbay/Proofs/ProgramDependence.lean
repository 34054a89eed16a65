import Patchbay.Proofs.ProgramStatements
import Patchbay.Proofs.SessionRun

namespace Patchbay

namespace Store

/-- The record of the node is put aside, by a mute or by a paused group. -/
def Parked (store : Store) (id : String) : Prop :=
  store.isMuted id ∨ ∃ groupId, (store.heldIn? groupId id).isSome

theorem live_updateNode_of_parked {store : Store} {id : String} (h : store.Parked id)
    (changes : Record) : (store.updateNode id changes).live = store.live := by
  cases hholder : store.holder? id with
  | some entry => rw [updateNode, hholder]
  | none =>
    rcases h with hmuted | ⟨groupId, hheld⟩
    · obtain ⟨record, hrecord⟩ := Option.isSome_iff_exists.mp hmuted
      rw [updateNode_of_muted hholder hrecord]
    · rw [holder?_eq_none.mp hholder groupId] at hheld
      cases hheld

end Store

theorem exists_node_of_typeOf? {nodes : List Node} {id typeId : String}
    (h : typeOf? nodes id = some typeId) : ∃ node ∈ nodes, node.id = id ∧ node.typeId = typeId := by
  obtain ⟨node, hlast, htype⟩ := Option.map_eq_some_iff.mp h
  exact ⟨node, List.mem_reverse.mp (List.mem_of_find?_eq_some hlast),
    by simpa using List.find?_some hlast, htype⟩

namespace Program

/-- The two stores have the same live record for every node whose type has a transform. -/
def SoundAlike (nodes : List Node) (store other : Store) : Prop :=
  ∀ node ∈ nodes, hasTransform node.typeId → store.liveRecord node.id = other.liveRecord node.id

instance (nodes : List Node) (store other : Store) : Decidable (SoundAlike nodes store other) :=
  inferInstanceAs (Decidable (∀ node ∈ nodes, hasTransform node.typeId →
    store.liveRecord node.id = other.liveRecord node.id))

/-- The compiler hears nothing but the live records of the nodes that sound. What is muted, paused
or live of a node without a transform decides nothing, although it decides who is in a group, and
neither does what the editor keeps of a node. So no edit of a parked record changes the program. -/
theorem compile_hears_live_records :
    (∀ (nodes others : List Node) (edges : List Edge) (store other : Store) (tempo : String),
        (nodes.map fun node => (node.id, node.typeId)) =
          (others.map fun node => (node.id, node.typeId)) →
        SoundAlike nodes store other →
          compile nodes edges store tempo = compile others edges other tempo) ∧
      ∀ (session : Session) (id : String) (changes : Record), session.store.Parked id →
        (session.updateNodeConfig id changes).1.compile = session.compile := by
  constructor
  · intro nodes others edges store other tempo hkinds halike
    refine compile_congr tempo hkinds fun id typeId htype hsounds => ?_
    obtain ⟨node, hnode, rfl, rfl⟩ := exists_node_of_typeOf? htype
    exact halike node hnode hsounds
  · intro session id changes hparked
    rw [Session.updateNodeConfig]
    split
    · refine compile_congr session.cpm rfl fun other _ _ _ => ?_
      have hlive := Store.live_updateNode_of_parked hparked changes
      exact congrArg (fun live => (live.get? other).getD ∅) hlive
    · rfl

theorem parked_records_are_unheard :
    let drum : Record := .ofList [("sound", .string "bd")]
    let nodes : List Node :=
      [{ id := "a", typeId := "drum_sounds" }, { id := "tag", typeId := "label" }]
    let others : List Node :=
      [{ id := "a", typeId := "drum_sounds", data := { state := some .paused, values := drum } },
        { id := "tag", typeId := "label", data := { state := some .running } }]
    let edges : List Edge := [⟨"e", "a", "tag"⟩]
    let store : Store := { live := .ofList [("a", drum)] }
    let other : Store :=
      { live := .ofList [("a", drum), ("tag", drum)]
        muted := .ofList [("b", drum)]
        paused := .ofList [("a-tag", .ofList [("a", drum)])] }
    let session := (Session.withSettings {} {}).run (Session.twoDrums ++ [.muteNode "a"])
    (nodes.map (fun node => (node.id, node.typeId)) =
      others.map (fun node => (node.id, node.typeId)) ∧
      SoundAlike nodes store other ∧
        compile nodes edges store "30" = compile others edges other "30") ∧
      session.store.Parked "a" ∧
        (session.updateNodeConfig "a" (.ofList [("sound", .string "cp")])).1.compile =
          session.compile := by
  intro drum nodes others edges store other session
  have halike : SoundAlike nodes store other := by decide +kernel
  have hparked : session.store.Parked "a" := .inl (by decide +kernel)
  exact ⟨⟨rfl, halike, compile_hears_live_records.1 nodes others edges store other "30" rfl halike⟩,
    hparked, compile_hears_live_records.2 session "a" _ hparked⟩

end Program

end Patchbay
