import Patchbay.Proofs.BreadthFirst
import Patchbay.Proofs.GroupPartition
import Patchbay.Proofs.SignalFlow

namespace Patchbay

namespace Group

variable {nodes : List Node} {edges : List Edge} {store : Store}

/-- As long as the visited nodes are whole components, a component is searched from the first of its
nodes in the list. -/
theorem exists_first {ids visited component : List String}
    (hclosed : ∀ a ∈ visited, ∀ b, Joined edges a b → b ∈ visited)
    (h : component ∈ components edges ids visited) :
    ∃ before first after, ids = before ++ first :: after ∧ component = connectedIds edges first ∧
      first ∉ visited ∧ ∀ id ∈ before, ¬ Joined edges first id := by
  induction ids generalizing visited with
  | nil => simp [components] at h
  | cons head rest ih =>
    unfold components at h
    by_cases hv : visited.contains head
    · rw [if_pos hv] at h
      obtain ⟨before, first, after, rfl, hsearch, hfresh, hfirst⟩ := ih hclosed h
      refine ⟨head :: before, first, after, rfl, hsearch, hfresh,
        List.forall_mem_cons.mpr ⟨?_, hfirst⟩⟩
      exact fun hjoined => hfresh (hclosed head (List.contains_iff_mem.mp hv) first hjoined.symm)
    · rw [if_neg hv] at h
      rcases List.mem_cons.mp h with rfl | hrest
      · exact ⟨[], head, rest, rfl, rfl, fun hmem => hv (List.contains_iff_mem.mpr hmem),
          List.forall_mem_nil _⟩
      · obtain ⟨before, first, after, rfl, hsearch, hfresh, hfirst⟩ :=
          ih (joined_mem_append hclosed head) hrest
        obtain ⟨hvisited, hhead⟩ := not_or.mp (List.mem_append.not.mp hfresh)
        refine ⟨head :: before, first, after, rfl, hsearch, hvisited,
          List.forall_mem_cons.mpr ⟨?_, hfirst⟩⟩
        exact fun hjoined => hhead ((mem_connectedIds edges head first).mpr hjoined.symm)

theorem exists_first_node {group : Group} (h : group ∈ all nodes edges store) :
    ∃ before first after, nodes = before ++ first :: after ∧
      (∀ node ∈ before, ¬ Joined edges first.id node.id) ∧
      group.nodeIds = membersOf nodes edges store (connectedIds edges first.id) := by
  rw [all_eq_filterMap] at h
  obtain ⟨component, hmem, hgroup⟩ := List.mem_filterMap.mp h
  obtain ⟨before, first, after, hids, rfl, _, hfirst⟩ := exists_first (by simp) hmem
  obtain ⟨nodesBefore, others, rfl, rfl, hothers⟩ := List.map_eq_append_iff.mp hids
  obtain ⟨node, nodesAfter, rfl, rfl, _⟩ := List.map_eq_cons_iff.mp hothers
  exact ⟨nodesBefore, node, nodesAfter, rfl,
    fun other hother =>
      hfirst other.id (List.mem_map_of_mem hother), (ofComponent?_eq_some.mp hgroup).1⟩

theorem idxOf_lt_of_pairwise {ids : List String} (h : ids.Pairwise fun a b => ¬ LeadsTo edges b a)
    {s t : String} (hs : s ∈ ids) (ht : t ∈ ids) (hne : s ≠ t) (hleads : LeadsTo edges s t) :
    ids.idxOf s < ids.idxOf t := by
  by_contra hnot
  have hdiffers : ids.idxOf t ≠ ids.idxOf s := fun he => hne (List.idxOf_inj hs |>.mp he.symm)
  have hlt : ids.idxOf t < ids.idxOf s := by omega
  have hpair := List.pairwise_iff_getElem.mp h _ _ (List.idxOf_lt_length_iff.mpr ht)
    (List.idxOf_lt_length_iff.mpr hs) hlt
  rw [List.getElem_idxOf, List.getElem_idxOf] at hpair
  exact hpair hleads

/-- The members of a group are the contributing nodes of a component, each once. If nothing in the
component leads back to itself, a member stands before all the members that it leads to, over
whatever else; otherwise the members stand in the breadth-first order from the first node of the
component in the list. -/
theorem nodeIds_follow_flow (nodes : List Node) (edges : List Edge) (store : Store) :
    ∀ group ∈ all nodes edges store, ∃ before first after, nodes = before ++ first :: after ∧
      (∀ node ∈ before, ¬ Joined edges first.id node.id) ∧
      group.nodeIds.Nodup ∧
      (∀ id, id ∈ group.nodeIds ↔ Joined edges first.id id ∧ Contributes nodes store id) ∧
      (¬ HasCircuit edges first.id → ∀ s ∈ group.nodeIds, ∀ t ∈ group.nodeIds, LeadsTo edges s t →
        group.nodeIds.idxOf s < group.nodeIds.idxOf t) ∧
      (HasCircuit edges first.id → ∃ order,
        (∀ other, BreadthFirst edges first.id other ↔ other = order) ∧
        group.nodeIds = order.filter (isMember nodes store)) := by
  intro group hgroup
  obtain ⟨before, first, after, hnodes, hfirst, hids⟩ := exists_first_node hgroup
  refine ⟨before, first, after, hnodes, hfirst, nodup_nodeIds hgroup, fun id => ?_,
    fun hcircuit s hs t ht hleads => ?_, fun hcircuit => ?_⟩
  · rw [hids, mem_membersOf, isMember_iff_contributes]
  · have hpairwise : group.nodeIds.Pairwise fun a b => ¬ LeadsTo edges b a := by
      rw [hids]
      exact (pairwise_flowOrder edges first.id hcircuit).filter _
    refine idxOf_lt_of_pairwise hpairwise hs ht ?_ hleads
    rintro rfl
    rw [hids, mem_membersOf] at hs
    exact hcircuit ⟨s, hs.1, hleads⟩
  · have hsearch := breadthFirst_connectedIds edges first.id
    refine ⟨connectedIds edges first.id, fun other => ⟨hsearch.unique, ?_⟩, ?_⟩
    · rintro rfl
      exact hsearch
    · rw [hids, membersOf, flowOrder_of_hasCircuit edges first.id hcircuit]

/-- The kick comes before the hats, which it reaches over a label only and which are listed first;
two drums that feed each other stay as they are found. -/
theorem kick_leads_to_hats :
    let nodes : List Node :=
      [{ id := "hats", typeId := "drum_sounds" }, { id := "b", typeId := "drum_sounds" },
        { id := "note", typeId := "label" }, { id := "a", typeId := "drum_sounds" },
      { id := "kick", typeId := "drum_sounds" }]
    let edges : List Edge :=
      [⟨"1", "note", "hats"⟩, ⟨"2", "kick", "note"⟩, ⟨"3", "a", "b"⟩, ⟨"4", "b", "a"⟩]
    let line : Group := ⟨"hats-kick", ["kick", "hats"]⟩
    let ring : Group := ⟨"a-b", ["b", "a"]⟩
    line ∈ all nodes edges {} ∧ ring ∈ all nodes edges {} ∧ ¬ HasCircuit edges "kick" ∧
      LeadsTo edges "kick" "hats" ∧ line.nodeIds.idxOf "kick" < line.nodeIds.idxOf "hats" ∧
      HasCircuit edges "b" ∧ ∃ first ∈ nodes, ∃ order, BreadthFirst edges first.id order ∧
        ring.nodeIds = order.filter (isMember nodes {}) := by
  intro nodes edges line ring
  have hline : line ∈ all nodes edges {} := by decide +kernel
  have hring : ring ∈ all nodes edges {} := by decide +kernel
  have hcircuit : ¬ HasCircuit edges "kick" :=
    (flowsForward_iff edges "kick").mp (by decide +kernel)
  have hleads : LeadsTo edges "kick" "hats" :=
    .tail (.single ⟨⟨"2", "kick", "note"⟩, by decide, rfl, rfl⟩)
      ⟨⟨"1", "note", "hats"⟩, by decide, rfl, rfl⟩
  have hback : HasCircuit edges "b" :=
    ⟨"b", .refl,
      .tail (.single ⟨⟨"4", "b", "a"⟩, by decide, rfl, rfl⟩) ⟨⟨"3", "a", "b"⟩, by decide, rfl, rfl⟩⟩
  refine ⟨hline, hring, hcircuit, hleads, ?_, hback, ?_⟩
  · obtain ⟨_, first, _, _, _, _, hmem, hflow, _⟩ := nodeIds_follow_flow nodes edges {} line hline
    have hfirst : Joined edges first.id "kick" := ((hmem "kick").mp (by decide)).1
    exact hflow (fun h => hcircuit (h.of_joined hfirst)) "kick" (by decide) "hats"
      (by decide) hleads
  · obtain ⟨before, first, after, hnodes, _, _, hmem, _, hfound⟩ :=
      nodeIds_follow_flow nodes edges {} ring hring
    have hfirst : Joined edges first.id "b" := ((hmem "b").mp (by decide)).1
    obtain ⟨order, horder, hids⟩ := hfound (hback.of_joined hfirst.symm)
    have hin : first ∈ nodes := hnodes ▸ List.mem_append_right before List.mem_cons_self
    exact ⟨first, hin, order, (horder order).mpr rfl, hids⟩

end Group

end Patchbay
