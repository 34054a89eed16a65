import Patchbay.Group
import Patchbay.Proofs.GraphFlow

namespace Patchbay

theorem lastNode?_isSome (nodes : List Node) (id : String) :
    (lastNode? nodes id).isSome ↔ id ∈ nodes.map (·.id) := by
  simp [lastNode?]

namespace Group

variable {nodes : List Node} {edges : List Edge} {store : Store}

theorem exists_start {ids visited : List String} {component : List String}
    (h : component ∈ components edges ids visited) :
    ∃ id ∈ ids, component = connectedIds edges id := by
  induction ids generalizing visited with
  | nil => simp [components] at h
  | cons id rest ih =>
    unfold components at h
    by_cases hv : visited.contains id
    · rw [if_pos hv] at h
      obtain ⟨start, hmem, heq⟩ := ih h
      exact ⟨start, List.mem_cons_of_mem _ hmem, heq⟩
    · rw [if_neg hv] at h
      rcases List.mem_cons.mp h with heq | hrest
      · exact ⟨id, List.mem_cons_self, heq⟩
      · obtain ⟨start, hmem, heq⟩ := ih hrest
        exact ⟨start, List.mem_cons_of_mem _ hmem, heq⟩

theorem exists_component (edges : List Edge) {ids visited : List String} {id : String}
    (hid : id ∈ ids)
    (hnot : id ∉ visited) : ∃ component ∈ components edges ids visited, id ∈ component := by
  induction ids generalizing visited with
  | nil => cases hid
  | cons head rest ih =>
    unfold components
    by_cases hv : visited.contains head
    · rw [if_pos hv]
      rcases List.mem_cons.mp hid with rfl | hrest
      · exact absurd (List.contains_iff_mem.mp hv) hnot
      · exact ih hrest hnot
    · rw [if_neg hv]
      by_cases hc : id ∈ connectedIds edges head
      · exact ⟨_, List.mem_cons_self, hc⟩
      · rcases List.mem_cons.mp hid with rfl | hrest
        · exact absurd ((mem_connectedIds edges id id).mpr .refl) hc
        · obtain ⟨component, hmem, hin⟩ := ih hrest fun h =>
            (List.mem_append.mp h).elim hnot hc
          exact ⟨component, List.mem_cons_of_mem _ hmem, hin⟩

theorem mem_membersOf (start id : String) :
    id ∈ membersOf nodes edges store (connectedIds edges start) ↔
      Joined edges start id ∧ isMember nodes store id := by
  rw [membersOf, List.mem_filter, (flowOrder_perm edges start).mem_iff, mem_connectedIds]

def ofComponent? (nodes : List Node) (edges : List Edge) (store : Store) (component : List String) :
    Option Group :=
  let ids := membersOf nodes edges store component
  if ids.isEmpty then none else some ⟨idOf ids, ids⟩

theorem all_eq_filterMap (nodes : List Node) (edges : List Edge) (store : Store) :
    all nodes edges store =
      (components edges (nodes.map (·.id)) []).filterMap (ofComponent? nodes edges store) := rfl

theorem ofComponent?_eq_some {component : List String} {group : Group} :
    ofComponent? nodes edges store component = some group ↔
      group.nodeIds = membersOf nodes edges store component ∧ group.groupId = idOf group.nodeIds ∧
        group.nodeIds ≠ [] := by
  unfold ofComponent?
  simp only
  constructor
  · intro h
    split at h
    · cases h
    · next hne =>
      obtain rfl := Option.some.inj h
      exact ⟨rfl, rfl, fun hnil => hne (List.isEmpty_iff.mpr hnil)⟩
  · rintro ⟨hids, hname, hne⟩
    rw [hids] at hname hne
    rw [if_neg fun hempty => hne (List.isEmpty_iff.mp hempty), ← hname, ← hids]

theorem exists_start_of_mem_all {group : Group} (h : group ∈ all nodes edges store) :
    ∃ start, group.nodeIds = membersOf nodes edges store (connectedIds edges start) := by
  rw [all_eq_filterMap] at h
  obtain ⟨component, hmem, hgroup⟩ := List.mem_filterMap.mp h
  obtain ⟨start, _, rfl⟩ := exists_start hmem
  exact ⟨start, (ofComponent?_eq_some.mp hgroup).1⟩

theorem groupId_eq {group : Group} (h : group ∈ all nodes edges store) :
    group.groupId = idOf group.nodeIds ∧ group.nodeIds ≠ [] := by
  rw [all_eq_filterMap] at h
  obtain ⟨component, _, hgroup⟩ := List.mem_filterMap.mp h
  exact (ofComponent?_eq_some.mp hgroup).2

theorem mem_nodeIds {group : Group} (h : group ∈ all nodes edges store) {id : String}
    (hid : id ∈ group.nodeIds) (other : String) :
    other ∈ group.nodeIds ↔ Joined edges id other ∧ isMember nodes store other := by
  obtain ⟨start, heq⟩ := exists_start_of_mem_all h
  rw [heq, mem_membersOf] at hid ⊢
  constructor
  · rintro ⟨hjoined, hmember⟩
    exact ⟨hid.1.symm.trans hjoined, hmember⟩
  · rintro ⟨hjoined, hmember⟩
    exact ⟨hid.1.trans hjoined, hmember⟩

theorem isMember_of_mem {group : Group} (h : group ∈ all nodes edges store) {id : String}
    (hid : id ∈ group.nodeIds) : isMember nodes store id := by
  obtain ⟨start, heq⟩ := exists_start_of_mem_all h
  rw [heq, mem_membersOf] at hid
  exact hid.2

theorem exists_group (edges : List Edge) {id : String} (h : isMember nodes store id) :
    ∃ group ∈ all nodes edges store, id ∈ group.nodeIds := by
  have hnode : id ∈ nodes.map (·.id) := by
    rw [← lastNode?_isSome]
    unfold isMember at h
    cases hlast : lastNode? nodes id with
    | none => simp [hlast] at h
    | some node => rfl
  obtain ⟨component, hmem, hin⟩ :=
    exists_component edges hnode (List.not_mem_nil (a := id))
  obtain ⟨start, _, rfl⟩ := exists_start hmem
  have hid : id ∈ membersOf nodes edges store (connectedIds edges start) :=
    (mem_membersOf start id).mpr ⟨(mem_connectedIds edges start id).mp hin, h⟩
  refine ⟨⟨idOf (membersOf nodes edges store (connectedIds edges start)),
    membersOf nodes edges store (connectedIds edges start)⟩, ?_, hid⟩
  rw [all_eq_filterMap]
  exact List.mem_filterMap.mpr
    ⟨_, hmem, ofComponent?_eq_some.mpr ⟨rfl, rfl, List.ne_nil_of_mem hid⟩⟩

end Group

end Patchbay
