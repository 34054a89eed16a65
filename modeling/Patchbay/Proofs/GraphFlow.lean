import Patchbay.Graph.FlowOrder
import Patchbay.Proofs.GraphJoined
import Mathlib.Algebra.BigOperators.Group.List.Basic
import Mathlib.Algebra.Ring.Nat

namespace Patchbay

theorem mem_successors (edges : List Edge) (a b : String) :
    b ∈ successors edges a ↔ ∃ edge ∈ edges, edge.source = a ∧ edge.target = b := by
  simp [successors, and_assoc]

theorem mem_neighbours_of_mem_successors {edges : List Edge} {a b : String}
    (h : b ∈ successors edges a) : b ∈ neighbours edges a := by
  obtain ⟨edge, hmem, hs, ht⟩ := (mem_successors edges a b).mp h
  exact (mem_neighbours edges a b).mpr ⟨edge, hmem, by simp [Edge.joins, hs, ht]⟩

theorem length_eraseDups_le (ids : List String) : ids.eraseDups.length ≤ ids.length :=
  (List.subperm_of_subset (nodup_eraseDups ids) fun _ h => List.mem_eraseDups.mp h).length_le

/-- No edge leaves two nodes, so the nodes of a list together feed at most as many as there are
edges. -/
theorem sum_length_successors_le (edges : List Edge) {ids : List String} (h : ids.Nodup) :
    (ids.map fun id => (successors edges id).length).sum ≤ edges.length := by
  induction ids generalizing edges with
  | nil => simp
  | cons id rest ih =>
    obtain ⟨hnot, hrest⟩ := List.nodup_cons.mp h
    have hfirst : (successors edges id).length ≤
        (edges.filter fun edge => edge.source == id).length := by
      simpa [successors] using
        length_eraseDups_le ((edges.filter fun edge => edge.source == id).map (·.target))
    have hothers : ∀ other ∈ rest, successors edges other =
        successors (edges.filter fun edge => !edge.source == id) other := by
      intro other hother
      have hne : other ≠ id := fun he => hnot (he ▸ hother)
      unfold successors
      rw [List.filter_filter]
      congr 2
      refine List.filter_congr fun edge _ => ?_
      by_cases hs : edge.source = other <;> simp [hs, hne]
    rw [List.map_cons, List.sum_cons, List.map_congr_left fun other ho => by rw [hothers other ho]]
    have hsplit := List.length_eq_length_filter_add (l := edges) fun edge => edge.source == id
    have hsum := ih (edges.filter fun edge => !edge.source == id) hrest
    omega

def finishing (tasks : List FlowTask) : List String :=
  tasks.filterMap fun
    | .visit _ => none
    | .finish id => some id

theorem finishing_visits (ids : List String) : finishing (ids.map FlowTask.visit) = [] := by
  simp [finishing]

/-- What a depth-first search keeps from task to task. The component is split into the nodes seen
and the nodes unseen; a node seen is in the order or waits for its finish; a node unseen has a
visit ahead; and the rounds left are enough for all of it. -/
structure Touring (edges : List Edge) (component : List String) (rounds : Nat)
    (tasks : List FlowTask) (seen order unseen : List String) : Prop where
  split : (seen ++ unseen).Perm component
  finished : (order ++ finishing tasks).Perm seen
  inside : ∀ id, FlowTask.visit id ∈ tasks → id ∈ component
  waiting : ∀ id ∈ unseen, FlowTask.visit id ∈ tasks
  enough : tasks.length + (unseen.map fun id => 1 + (successors edges id).length).sum ≤ rounds

namespace Touring

variable {edges : List Edge} {component seen order unseen : List String} {rounds : Nat}
  {tasks : List FlowTask} {id : String}

theorem done (h : Touring edges component rounds [] seen order unseen) : order.Perm component := by
  have hunseen : unseen = [] := List.eq_nil_iff_forall_not_mem.mpr fun id hid =>
    List.not_mem_nil (h.waiting id hid)
  have hsplit := h.split
  have hfinished := h.finished
  rw [hunseen, List.append_nil] at hsplit
  rw [finishing, List.filterMap_nil, List.append_nil] at hfinished
  exact hfinished.trans hsplit

theorem skip (hnodup : component.Nodup)
    (h : Touring edges component (rounds + 1) (.visit id :: tasks) seen order unseen)
    (hseen : id ∈ seen) : Touring edges component rounds tasks seen order unseen where
  split := h.split
  finished := h.finished
  inside := fun other hother => h.inside other (List.mem_cons_of_mem _ hother)
  waiting := by
    intro other hother
    have hdisjoint := (List.nodup_append.mp (h.split.nodup_iff.mpr hnodup)).2.2
    rcases List.mem_cons.mp (h.waiting other hother) with heq | hmem
    · cases heq
      exact absurd rfl (hdisjoint id hseen id hother)
    · exact hmem
  enough := by
    have := h.enough
    rw [List.length_cons] at this
    omega

theorem enter (hnodup : component.Nodup)
    (hclosed : ∀ a ∈ component, ∀ b ∈ successors edges a, b ∈ component)
    (h : Touring edges component (rounds + 1) (.visit id :: tasks) seen order unseen)
    (hseen : id ∉ seen) :
    Touring edges component rounds
      ((successors edges id).reverse.map FlowTask.visit ++ .finish id :: tasks)
      (id :: seen) order (unseen.erase id) := by
  have hid : id ∈ component := h.inside id List.mem_cons_self
  have hunseen : id ∈ unseen :=
    (List.mem_append.mp (h.split.mem_iff.mpr hid)).resolve_left hseen
  have hperm : unseen.Perm (id :: unseen.erase id) := List.perm_cons_erase hunseen
  refine ⟨?_, ?_, ?_, ?_, ?_⟩
  · exact ((hperm.append_left seen).trans List.perm_middle).symm.trans h.split
  · have hnext :
      finishing ((successors edges id).reverse.map FlowTask.visit ++ .finish id :: tasks) =
        id :: finishing tasks := by
      simp [finishing]
    rw [hnext]
    exact List.perm_middle.trans (h.finished.cons id)
  · intro other hother
    rcases List.mem_append.mp hother with hfed | hrest
    · obtain ⟨fed, hfed, heq⟩ := List.mem_map.mp hfed
      cases heq
      exact hclosed id hid _ (List.mem_reverse.mp hfed)
    · rcases List.mem_cons.mp hrest with heq | hmem
      · cases heq
      · exact h.inside other (List.mem_cons_of_mem _ hmem)
  · intro other hother
    have hold : other ∈ unseen := List.mem_of_mem_erase hother
    refine List.mem_append_right _ (List.mem_cons_of_mem _ ?_)
    rcases List.mem_cons.mp (h.waiting other hold) with heq | hmem
    · cases heq
      have hunodup := (List.nodup_append.mp (h.split.nodup_iff.mpr hnodup)).2.1
      exact absurd rfl (hunodup.mem_erase_iff.mp hother).1
    · exact hmem
  · have henough := h.enough
    rw [(hperm.map _).sum_eq] at henough
    simp only [List.length_cons, List.map_cons, List.sum_cons, List.length_append, List.length_map,
      List.length_reverse] at henough ⊢
    omega

theorem finish (h : Touring edges component (rounds + 1) (.finish id :: tasks) seen order unseen) :
    Touring edges component rounds tasks seen (id :: order) unseen where
  split := h.split
  finished := List.perm_middle.symm.trans h.finished
  inside := fun other hother => h.inside other (List.mem_cons_of_mem _ hother)
  waiting := by
    intro other hother
    rcases List.mem_cons.mp (h.waiting other hother) with heq | hmem
    · cases heq
    · exact hmem
  enough := by
    have := h.enough
    rw [List.length_cons] at this
    omega

theorem flowRounds (hnodup : component.Nodup)
    (hclosed : ∀ a ∈ component, ∀ b ∈ successors edges a, b ∈ component)
    (h : Touring edges component rounds tasks seen order unseen) :
    (Patchbay.flowRounds edges rounds tasks seen order).Perm component := by
  induction rounds generalizing tasks seen order unseen with
  | zero =>
    have htasks : tasks = [] := by
      have := h.enough
      exact List.length_eq_zero_iff.mp (by omega)
    subst htasks
    exact h.done
  | succ rounds ih =>
    match tasks with
    | [] => exact h.done
    | .visit id :: tasks =>
      unfold Patchbay.flowRounds
      by_cases hseen : id ∈ seen
      · simp only [List.contains_iff_mem, hseen, if_true]
        exact ih (h.skip hnodup hseen)
      · simp only [List.contains_iff_mem, hseen, if_false]
        exact ih (h.enter hnodup hclosed hseen)
    | .finish id :: tasks => exact ih h.finish

end Touring

theorem Touring.start (edges : List Edge) {component : List String} (hnodup : component.Nodup) :
    Touring edges component (2 * component.length + edges.length)
      (component.map FlowTask.visit) [] []
      component where
  split := .refl _
  finished := by
    rw [finishing_visits]
    exact .refl _
  inside := by
    intro id hid
    obtain ⟨other, hother, heq⟩ := List.mem_map.mp hid
    cases heq
    exact hother
  waiting := fun id hid => List.mem_map_of_mem hid
  enough := by
    have hsum := sum_length_successors_le edges hnodup
    have hones : (component.map fun _ => 1).sum = component.length := by
      rw [List.map_const', List.sum_replicate, Nat.nsmul_eq_mul, Nat.mul_one]
    rw [List.length_map, List.sum_map_add, hones]
    omega

theorem depthFirstOrder_perm {edges : List Edge} {component : List String}
    (hnodup : component.Nodup)
    (hclosed : ∀ a ∈ component, ∀ b ∈ successors edges a, b ∈ component) :
    (depthFirstOrder edges component).Perm component :=
  (Touring.start edges hnodup).flowRounds hnodup hclosed

theorem closed_connectedIds (edges : List Edge) (start : String) : ∀ a ∈ connectedIds edges start,
    ∀ b ∈ successors edges a, b ∈ connectedIds edges start := by
  obtain ⟨_, _, hclosed⟩ := searching_connectedIds edges start
  exact fun a ha b hb => hclosed a ha b (mem_neighbours_of_mem_successors hb)

theorem flowOrder_perm (edges : List Edge) (start : String) :
    (flowOrder edges (connectedIds edges start)).Perm (connectedIds edges start) := by
  unfold flowOrder
  simp only
  split
  · exact depthFirstOrder_perm (nodup_connectedIds edges start) (closed_connectedIds edges start)
  · exact .refl _

end Patchbay
