import Patchbay.Proofs.GroupMembers
import Patchbay.Proofs.StoreViews
import Mathlib.Data.Finset.Basic
import Mathlib.Data.List.Sort
import Mathlib.Data.String.Basic

namespace Patchbay

theorem joined_congr {edges others : List Edge} (h : edges.Perm others) (a b : String) :
    Joined edges a b ↔ Joined others a b := by
  unfold Joined
  simp only [h.mem_iff]

theorem lastNode?_congr {nodes others : List Node} (hnodup : (nodes.map (·.id)).Nodup)
    (h : nodes.Perm others) (id : String) : lastNode? nodes id = lastNode? others id := by
  have hone : ∀ node ∈ nodes, ∀ other ∈ nodes, node.id = other.id → node = other :=
    fun node hnode other hother heq => List.inj_on_of_nodup_map hnodup hnode hother heq
  ext node
  have hmem (list : List Node) (hlist : ∀ other, other ∈ list ↔ other ∈ nodes) :
      lastNode? list id = some node ↔ node ∈ nodes ∧ node.id = id := by
    unfold lastNode?
    constructor
    · intro hfind
      exact ⟨(hlist node).mp (List.mem_reverse.mp (List.mem_of_find?_eq_some hfind)),
        by simpa using List.find?_some hfind⟩
    · rintro ⟨hnode, rfl⟩
      cases hfind : list.reverse.find? fun other => other.id == node.id with
      | none =>
        have hnot :=
          List.find?_eq_none.mp hfind node (List.mem_reverse.mpr ((hlist node).mpr hnode))
        simp at hnot
      | some other =>
        have hother := (hlist other).mp (List.mem_reverse.mp (List.mem_of_find?_eq_some hfind))
        have heq : other.id = node.id := by simpa using List.find?_some hfind
        rw [hone other hother node hnode heq]
  rw [hmem nodes fun _ => Iff.rfl, hmem others fun _ => h.mem_iff.symm]

/-- Some record of the node is kept: a live one, one that a mute has parked, if they are not empty,
or one that a paused group holds. -/
def Store.HasRecord (store : Store) (id : String) : Prop :=
  store.liveRecord id ≠ ∅ ∨ (∃ record, store.muted.get? id = some record ∧ record ≠ ∅) ∨
    ∃ groupId, (store.heldIn? groupId id).isSome

/-- The id is in the node list and contributes: there is a record of it, or the type of its node has
a transform. -/
def Contributes (nodes : List Node) (store : Store) (id : String) : Prop :=
  ∃ node, lastNode? nodes id = some node ∧ (store.HasRecord id ∨ hasTransform node.typeId)

namespace Group

variable {nodes : List Node} {edges : List Edge} {store : Store}

theorem isMember_iff_contributes (nodes : List Node) (store : Store) (id : String) :
    isMember nodes store id ↔ Contributes nodes store id := by
  unfold isMember Contributes Store.HasRecord
  cases lastNode? nodes id with
  | none => simp
  | some node =>
    simp only [Bool.or_eq_true, Store.hasContribution_iff, Store.hasSavedContribution_iff,
      Option.some.injEq, exists_eq_left']

section Ids

theorem insertSorted_eq_orderedInsert (id : String) (ids : List String) :
    insertSorted id ids = ids.orderedInsert (· ≤ ·) id := by
  induction ids with
  | nil => rfl
  | cons head rest ih => rw [insertSorted, List.orderedInsert, ih]

theorem sorted_eq_insertionSort (ids : List String) : sorted ids = ids.insertionSort (· ≤ ·) := by
  induction ids with
  | nil => rfl
  | cons id rest ih =>
    rw [List.insertionSort_cons, ← ih, ← insertSorted_eq_orderedInsert]
    rfl

theorem sorted_perm (ids : List String) : (sorted ids).Perm ids := by
  rw [sorted_eq_insertionSort]
  exact List.perm_insertionSort _ ids

theorem pairwise_sorted (ids : List String) : (sorted ids).Pairwise (· ≤ ·) := by
  rw [sorted_eq_insertionSort]
  exact List.pairwise_insertionSort _ ids

theorem idOf_congr {ids others : List String} (h : ids.Perm others) : idOf ids = idOf others := by
  have hsame : (sorted ids).Perm (sorted others) :=
    (sorted_perm ids).trans (h.trans (sorted_perm others).symm)
  rw [idOf, idOf, hsame.eq_of_pairwise (fun _ _ _ _ => String.le_antisymm) (pairwise_sorted ids)
    (pairwise_sorted others)]

end Ids

theorem joined_mem_append {visited : List String}
    (hclosed : ∀ a ∈ visited, ∀ b, Joined edges a b → b ∈ visited)
    (start : String) : ∀ a ∈ visited ++ connectedIds edges start, ∀ b, Joined edges a b →
      b ∈ visited ++ connectedIds edges start := by
  intro a ha b hab
  refine List.mem_append.mpr ((List.mem_append.mp ha).imp (fun h => hclosed a h b hab) fun h => ?_)
  rw [mem_connectedIds] at h ⊢
  exact h.trans hab

/-- As long as the visited nodes are whole components, no two components share a node, and none
holds a visited one. -/
theorem pairwise_components (ids : List String) {visited : List String}
    (hclosed : ∀ a ∈ visited, ∀ b, Joined edges a b → b ∈ visited) :
    (components edges ids visited).Pairwise List.Disjoint ∧
      ∀ component ∈ components edges ids visited, component.Disjoint visited := by
  induction ids generalizing visited with
  | nil => exact ⟨List.Pairwise.nil, by simp [components]⟩
  | cons start rest ih =>
    unfold components
    by_cases hv : visited.contains start
    · rw [if_pos hv]
      exact ih hclosed
    · rw [if_neg hv]
      have hnot : start ∉ visited := fun h => hv (List.contains_iff_mem.mpr h)
      obtain ⟨hpairwise, hfresh⟩ := ih (joined_mem_append hclosed start)
      refine ⟨List.pairwise_cons.mpr ⟨fun component hmem => ?_, hpairwise⟩, ?_⟩
      · exact (List.disjoint_append_right.mp (hfresh component hmem)).2.symm
      · intro component hmem
        rcases List.mem_cons.mp hmem with rfl | hrest
        · intro id hid hvisited
          have hback := ((mem_connectedIds edges start id).mp hid).symm
          exact hnot (hclosed id hvisited start hback)
        · exact (List.disjoint_append_right.mp (hfresh component hrest)).1

theorem mem_of_mem_membersOf {start id : String}
    (h : id ∈ membersOf nodes edges store (connectedIds edges start)) :
    id ∈ connectedIds edges start :=
  (mem_connectedIds edges start id).mpr ((mem_membersOf start id).mp h).1

theorem nodup_membersOf (start : String) :
    (membersOf nodes edges store (connectedIds edges start)).Nodup :=
  ((flowOrder_perm edges start).nodup_iff.mpr (nodup_connectedIds edges start)).filter _

theorem nodup_nodeIds {group : Group} (h : group ∈ all nodes edges store) :
    group.nodeIds.Nodup := by
  obtain ⟨start, heq⟩ := exists_start_of_mem_all h
  rw [heq]
  exact nodup_membersOf start

theorem pairwise_disjoint_all (nodes : List Node) (edges : List Edge) (store : Store) :
    (all nodes edges store).Pairwise fun group other => group.nodeIds.Disjoint other.nodeIds := by
  rw [all_eq_filterMap, List.pairwise_filterMap]
  have hnone : ∀ a ∈ ([] : List String), ∀ b, Joined edges a b → b ∈ ([] : List String) := by simp
  have hpairwise := (pairwise_components (nodes.map (·.id)) hnone).1
  refine hpairwise.imp_of_mem
    fun {component next} hmem hnext hdisjoint group hgroup other hother => ?_
  obtain ⟨start, _, rfl⟩ := exists_start hmem
  obtain ⟨start', _, rfl⟩ := exists_start hnext
  rw [(ofComponent?_eq_some.mp hgroup).1, (ofComponent?_eq_some.mp hother).1]
  exact fun id hid hid' => hdisjoint (mem_of_mem_membersOf hid) (mem_of_mem_membersOf hid')

theorem disjoint_of_split {before after : List Group} {group : Group}
    (hsplit : all nodes edges store = before ++ group :: after) :
    ∀ other ∈ before ++ after, other.nodeIds.Disjoint group.nodeIds := by
  have hpairwise := pairwise_disjoint_all nodes edges store
  rw [hsplit, List.pairwise_append, List.pairwise_cons] at hpairwise
  obtain ⟨_, ⟨hafter, _⟩, hbefore⟩ := hpairwise
  intro other hother
  rcases List.mem_append.mp hother with hmem | hmem
  · exact hbefore other hmem group List.mem_cons_self
  · exact (hafter other hmem).symm

def shapes (groups : List Group) : Finset (String × Finset String) :=
  (groups.map fun group => (group.groupId, group.nodeIds.toFinset)).toFinset

theorem shapes_subset {others : List Node} {turned : List Edge}
    (hmember : ∀ id, isMember nodes store id ↔ isMember others store id)
    (hjoined : ∀ a b, Joined edges a b ↔ Joined turned a b) :
    shapes (all nodes edges store) ⊆ shapes (all others turned store) := by
  intro shape hshape
  simp only [shapes, List.mem_toFinset, List.mem_map] at hshape ⊢
  obtain ⟨group, hgroup, rfl⟩ := hshape
  obtain ⟨hgroupId, hne⟩ := groupId_eq hgroup
  -- Any member tells which group of the other graph is the same one.
  obtain ⟨id, hid⟩ := List.exists_mem_of_ne_nil _ hne
  obtain ⟨other, hother, hid'⟩ :=
    exists_group turned ((hmember id).mp (isMember_of_mem hgroup hid))
  have hperm : other.nodeIds.Perm group.nodeIds := by
    refine (List.perm_ext_iff_of_nodup (nodup_nodeIds hother)
      (nodup_nodeIds hgroup)).mpr fun a => ?_
    rw [mem_nodeIds hother hid', mem_nodeIds hgroup hid, hmember, hjoined]
  refine ⟨other, hother, ?_⟩
  rw [hgroupId, (groupId_eq hother).1, idOf_congr hperm, List.toFinset_eq_of_perm _ _ hperm]

/-- The groups are the contributing parts of the connected components. An id that contributes is in
one group, once; nothing else is in any group; two ids are together exactly if a path joins them,
over whatever else; and a group is named by its members in order. So the order of nodes with ids of
their own and the order of the edges make no difference. -/
theorem all_partitions (nodes : List Node) (edges : List Edge) (store : Store) :
    let groups := all nodes edges store
    (∀ id, Contributes nodes store id →
        ∃ before group after, groups = before ++ group :: after ∧ group.nodeIds.count id = 1 ∧
          ∀ other ∈ before ++ after, id ∉ other.nodeIds) ∧
      (∀ group ∈ groups, ∀ id ∈ group.nodeIds, Contributes nodes store id) ∧
      (∀ a b, Contributes nodes store a → Contributes nodes store b →
        ((∃ group ∈ groups, a ∈ group.nodeIds ∧ b ∈ group.nodeIds) ↔ Joined edges a b)) ∧
      (∀ group ∈ groups, group.nodeIds ≠ []) ∧
      (∀ group ∈ groups, ∃ ids : List String, ids.Perm group.nodeIds ∧ ids.Pairwise (· ≤ ·) ∧
        group.groupId = "-".intercalate ids) ∧
      ∀ (others : List Node) (turned : List Edge), (nodes.map (·.id)).Nodup → nodes.Perm others →
        edges.Perm turned → shapes (all others turned store) = shapes groups := by
  intro groups
  refine ⟨fun id hid => ?_, fun group hgroup id hid => ?_, fun a b ha hb => ?_,
    fun group hgroup => ?_, fun group hgroup => ?_, fun others turned hnodup hnodes hedges => ?_⟩
  · obtain ⟨group, hgroup, hmem⟩ :=
      exists_group edges ((isMember_iff_contributes nodes store id).mpr hid)
    obtain ⟨before, after, hsplit⟩ := List.append_of_mem hgroup
    exact ⟨before, group, after, hsplit, List.count_eq_one_of_mem (nodup_nodeIds hgroup) hmem,
      fun other hother hin => disjoint_of_split hsplit other hother hin hmem⟩
  · exact (isMember_iff_contributes nodes store id).mp (isMember_of_mem hgroup hid)
  · constructor
    · rintro ⟨group, hgroup, hina, hinb⟩
      exact ((mem_nodeIds hgroup hina b).mp hinb).1
    · intro hjoined
      obtain ⟨group, hgroup, hina⟩ :=
        exists_group edges ((isMember_iff_contributes nodes store a).mpr ha)
      exact ⟨group, hgroup, hina, (mem_nodeIds hgroup hina b).mpr
        ⟨hjoined, (isMember_iff_contributes nodes store b).mpr hb⟩⟩
  · exact (groupId_eq hgroup).2
  · exact ⟨sorted group.nodeIds, sorted_perm _, pairwise_sorted _, (groupId_eq hgroup).1⟩
  · have hmember (id : String) : isMember nodes store id ↔ isMember others store id := by
      rw [isMember, isMember, lastNode?_congr hnodup hnodes]
    exact (shapes_subset (fun id => (hmember id).symm)
      fun a b => (joined_congr hedges a b).symm).antisymm
        (shapes_subset hmember (joined_congr hedges))

theorem kick_and_hats_are_one_group :
    let nodes : List Node := [{ id := "kick", typeId := "drum_sounds" },
      { id := "note", typeId := "label" }, { id := "hats", typeId := "drum_sounds" }]
    let edges : List Edge := [⟨"1", "kick", "note"⟩, ⟨"2", "hats", "note"⟩, ⟨"3", "hats", "hats"⟩,
      ⟨"4", "note", "ghost"⟩, ⟨"5", "note", "kick"⟩]
    Contributes nodes {} "kick" ∧ Contributes nodes {} "hats" ∧ Joined edges "kick" "hats" ∧
      (∃ group ∈ all nodes edges {}, "kick" ∈ group.nodeIds ∧ "hats" ∈ group.nodeIds) ∧
      (nodes.map (·.id)).Nodup ∧ nodes.Perm nodes.reverse ∧ edges.Perm edges.reverse ∧
      shapes (all nodes.reverse edges.reverse {}) = shapes (all nodes edges {}) := by
  intro nodes edges
  obtain ⟨_, _, htogether, _, _, hturned⟩ := all_partitions nodes edges {}
  have hkick : Contributes nodes {} "kick" := ⟨_, rfl, .inr (by decide)⟩
  have hhats : Contributes nodes {} "hats" := ⟨_, rfl, .inr (by decide)⟩
  have hjoined : Joined edges "kick" "hats" :=
    (mem_connectedIds edges "kick" "hats").mp (by decide +kernel)
  have hnodup : (nodes.map (·.id)).Nodup := by decide
  exact ⟨hkick, hhats, hjoined, (htogether "kick" "hats" hkick hhats).mpr hjoined, hnodup,
    (List.reverse_perm nodes).symm, (List.reverse_perm edges).symm,
    hturned _ _ hnodup (List.reverse_perm nodes).symm (List.reverse_perm edges).symm⟩

end Group

end Patchbay
