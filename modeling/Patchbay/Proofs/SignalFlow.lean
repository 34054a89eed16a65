import Patchbay.Proofs.GraphFlow

namespace Patchbay

/-- The signal flows from one node to the other, over one cable or more. -/
def LeadsTo (edges : List Edge) : String → String → Prop :=
  Relation.TransGen fun a b => ∃ edge ∈ edges, edge.source = a ∧ edge.target = b

/-- Some node that is joined to the first one leads back to itself. -/
def HasCircuit (edges : List Edge) (start : String) : Prop :=
  ∃ id, Joined edges start id ∧ LeadsTo edges id id

variable {edges : List Edge} {component : List String}

theorem HasCircuit.of_joined {a b : String} (h : HasCircuit edges a) (hjoined : Joined edges a b) :
    HasCircuit edges b := by
  obtain ⟨id, hid, hleads⟩ := h
  exact ⟨id, hjoined.symm.trans hid, hleads⟩

theorem leadsTo_of_mem_successors {a b : String} (h : b ∈ successors edges a) : LeadsTo edges a b :=
  .single ((mem_successors edges a b).mp h)

namespace FlowTask

def node : FlowTask → String
  | visit id | finish id => id

end FlowTask

/-- Every node that the tasks finish comes after all that it feeds: that is done, or its visit
stands before the finish. -/
def FinishesLast (edges : List Edge) : (done : List String) → List FlowTask → Prop
  | _, [] => True
  | done, .visit id :: tasks => FinishesLast edges (id :: done) tasks
  | done, .finish id :: tasks =>
      (∀ b ∈ successors edges id, b ∈ done) ∧ FinishesLast edges (id :: done) tasks

theorem FinishesLast.mono {done more : List String} {tasks : List FlowTask} (hmore : done ⊆ more)
    (h : FinishesLast edges done tasks) : FinishesLast edges more tasks := by
  induction tasks generalizing done more with
  | nil => trivial
  | cons task tasks ih =>
    cases task with
    | visit id => exact ih (List.cons_subset_cons id hmore) h
    | finish id => exact ⟨fun b hb => hmore (h.1 b hb), ih (List.cons_subset_cons id hmore) h.2⟩

theorem finishesLast_visits_append (ids : List String) {done : List String}
    {tasks : List FlowTask} :
    FinishesLast edges done (ids.map .visit ++ tasks) ↔
      FinishesLast edges (ids.reverse ++ done) tasks := by
  induction ids generalizing done with
  | nil => rfl
  | cons id rest ih =>
    rw [List.map_cons, List.cons_append, FinishesLast, ih, List.reverse_cons, List.append_assoc,
      List.singleton_append]

/-- What a depth-first search keeps where nothing leads back to itself. Whatever waits for
its finish leads to all that is to be done before, and a finished node stands before all that
it feeds. -/
structure Sorting (edges : List Edge) (component : List String) (rounds : Nat)
    (tasks : List FlowTask) (seen order unseen : List String) : Prop
    extends Touring edges component rounds tasks seen order unseen where
  below : tasks.Pairwise fun task later => ∀ id, later = .finish id → LeadsTo edges id task.node
  last : FinishesLast edges order tasks
  forward : ∀ a ∈ order, ∀ b ∈ successors edges a, b ∈ order ∧ order.idxOf a < order.idxOf b

namespace Sorting

variable {seen order unseen : List String} {rounds : Nat} {tasks : List FlowTask} {id : String}

/-- A node that is seen but not finished leads to all that stands above its finish, so it is not
visited again where nothing leads back to itself. -/
theorem finished_of_seen (hcircuit : ¬ LeadsTo edges id id)
    (h : Sorting edges component rounds (.visit id :: tasks) seen order unseen)
    (hseen : id ∈ seen) :
    id ∈ order := by
  rcases List.mem_append.mp (h.finished.mem_iff.mpr hseen) with horder | hfinishing
  · exact horder
  · have hfinish : FlowTask.finish id ∈ tasks := by
      obtain ⟨task, htask, hid⟩ := List.mem_filterMap.mp hfinishing
      cases task with
      | visit other => cases hid
      | finish other =>
        obtain rfl := Option.some.inj hid
        exact (List.mem_cons.mp htask).resolve_left nofun
    exact absurd ((List.pairwise_cons.mp h.below).1 _ hfinish id rfl) hcircuit

theorem skip (hnodup : component.Nodup) (hcircuit : ¬ LeadsTo edges id id)
    (h : Sorting edges component (rounds + 1) (.visit id :: tasks) seen order unseen)
    (hseen : id ∈ seen) :
    Sorting edges component rounds tasks seen order unseen where
  toTouring := h.toTouring.skip hnodup hseen
  below := (List.pairwise_cons.mp h.below).2
  last := h.last.mono
    (List.cons_subset.mpr ⟨h.finished_of_seen hcircuit hseen, List.Subset.refl order⟩)
  forward := h.forward

theorem enter (hnodup : component.Nodup)
    (hclosed : ∀ a ∈ component, ∀ b ∈ successors edges a, b ∈ component)
    (h : Sorting edges component (rounds + 1) (.visit id :: tasks) seen order unseen)
    (hseen : id ∉ seen) :
    Sorting edges component rounds
      ((successors edges id).reverse.map FlowTask.visit ++ .finish id :: tasks)
      (id :: seen) order (unseen.erase id) where
  toTouring := h.toTouring.enter hnodup hclosed hseen
  below := by
    obtain ⟨hhead, htasks⟩ := List.pairwise_cons.mp h.below
    refine List.pairwise_append.mpr ⟨?_, List.pairwise_cons.mpr ⟨hhead, htasks⟩, ?_⟩
    · refine List.Pairwise.map _ (fun _ _ _ other hother => ?_)
        (List.pairwise_of_forall fun _ _ => trivial)
      cases hother
    · intro task htask later hlater other hother
      obtain ⟨fed, hfed, rfl⟩ := List.mem_map.mp htask
      have hleads : LeadsTo edges id fed := leadsTo_of_mem_successors (List.mem_reverse.mp hfed)
      subst hother
      rcases List.mem_cons.mp hlater with hsame | hbelow
      · cases hsame
        exact hleads
      · exact (hhead _ hbelow other rfl).trans hleads
  last := by
    rw [finishesLast_visits_append, List.reverse_reverse]
    exact ⟨fun b hb => List.mem_append_left _ hb,
      h.last.mono (List.cons_subset_cons id (List.subset_append_right _ order))⟩
  forward := h.forward

theorem finish (hnodup : component.Nodup)
    (h : Sorting edges component (rounds + 1) (.finish id :: tasks) seen order unseen) :
    Sorting edges component rounds tasks seen (id :: order) unseen where
  toTouring := h.toTouring.finish
  below := (List.pairwise_cons.mp h.below).2
  last := h.last.2
  forward := by
    have hnext := h.toTouring.finish
    have hfresh : id ∉ order := by
      have hseen := (List.nodup_append.mp (hnext.split.nodup_iff.mpr hnodup)).1
      have horder := (List.nodup_append.mp (hnext.finished.nodup_iff.mpr hseen)).1
      exact (List.nodup_cons.mp horder).1
    have hlater (b : String) (hb : b ∈ order) : (id :: order).idxOf b = order.idxOf b + 1 :=
      List.idxOf_cons_ne _ fun he => hfresh (he ▸ hb)
    intro a ha b hb
    rcases List.mem_cons.mp ha with rfl | ha
    · have hdone : b ∈ order := h.last.1 b hb
      refine ⟨List.mem_cons_of_mem _ hdone, ?_⟩
      rw [List.idxOf_cons_self, hlater b hdone]
      exact Nat.succ_pos _
    · obtain ⟨hdone, hlt⟩ := h.forward a ha b hb
      refine ⟨List.mem_cons_of_mem _ hdone, ?_⟩
      rw [hlater a ha, hlater b hdone]
      exact Nat.succ_lt_succ hlt

theorem flowRounds (hnodup : component.Nodup)
    (hclosed : ∀ a ∈ component, ∀ b ∈ successors edges a, b ∈ component)
    (hcircuit : ∀ a ∈ component, ¬ LeadsTo edges a a)
    (h : Sorting edges component rounds tasks seen order unseen) :
    let order := Patchbay.flowRounds edges rounds tasks seen order
    ∀ a ∈ order, ∀ b ∈ successors edges a, b ∈ order ∧ order.idxOf a < order.idxOf b := by
  induction rounds generalizing tasks seen order unseen with
  | zero => exact h.forward
  | succ rounds ih =>
    match tasks with
    | [] => exact h.forward
    | .visit id :: tasks =>
      unfold Patchbay.flowRounds
      by_cases hseen : id ∈ seen
      · simp only [List.contains_iff_mem, hseen, if_true]
        exact ih (h.skip hnodup (hcircuit id (h.inside id List.mem_cons_self)) hseen)
      · simp only [List.contains_iff_mem, hseen, if_false]
        exact ih (h.enter hnodup hclosed hseen)
    | .finish id :: tasks => exact ih (h.finish hnodup)

end Sorting

theorem flowsForward_depthFirstOrder (hnodup : component.Nodup)
    (hclosed : ∀ a ∈ component, ∀ b ∈ successors edges a, b ∈ component)
    (hcircuit : ∀ a ∈ component, ¬ LeadsTo edges a a) :
    flowsForward edges (depthFirstOrder edges component) := by
  have hstart : Sorting edges component (2 * component.length + edges.length)
      (component.map FlowTask.visit) [] [] component := by
    refine { toTouring := Touring.start edges hnodup, below := ?_, last := ?_, forward := nofun }
    · refine List.Pairwise.map _ (fun _ _ _ id hid => ?_)
        (List.pairwise_of_forall fun _ _ => trivial)
      cases hid
    · rw [← List.append_nil (component.map FlowTask.visit), finishesLast_visits_append]
      trivial
  have hforward : ∀ a ∈ depthFirstOrder edges component, ∀ b ∈ successors edges a,
      b ∈ depthFirstOrder edges component ∧
        (depthFirstOrder edges component).idxOf a < (depthFirstOrder edges component).idxOf b :=
    hstart.flowRounds hnodup hclosed hcircuit
  refine List.all_eq_true.mpr fun edge hedge => ?_
  by_cases hsource : edge.source ∈ depthFirstOrder edges component
  · have hfed : edge.target ∈ successors edges edge.source :=
      (mem_successors edges _ _).mpr ⟨edge, hedge, rfl, rfl⟩
    simp [(hforward _ hsource _ hfed).2]
  · simp [hsource]

theorem idxOf_lt_of_leadsTo {order : List String} (hforward : flowsForward edges order)
    (hclosed : ∀ a ∈ order, ∀ b ∈ successors edges a, b ∈ order) {a b : String} (ha : a ∈ order)
    (h : LeadsTo edges a b) : b ∈ order ∧ order.idxOf a < order.idxOf b := by
  have hstep {a b : String} (ha : a ∈ order) (hfeeds : ∃ edge ∈ edges,
    edge.source = a ∧ edge.target = b) :
      b ∈ order ∧ order.idxOf a < order.idxOf b := by
    have hb := hclosed a ha b ((mem_successors edges a b).mpr hfeeds)
    obtain ⟨edge, hedge, rfl, rfl⟩ := hfeeds
    exact ⟨hb, by simpa [ha, hb] using List.all_eq_true.mp hforward edge hedge⟩
  induction h with
  | single hfeeds => exact hstep ha hfeeds
  | tail _ hfeeds ih =>
    obtain ⟨hmem, hlt⟩ := hstep ih.1 hfeeds
    exact ⟨hmem, ih.2.trans hlt⟩

section Component

variable (edges) (start : String)

theorem closed_depthFirstOrder : ∀ a ∈ depthFirstOrder edges (connectedIds edges start),
    ∀ b ∈ successors edges a, b ∈ depthFirstOrder edges (connectedIds edges start) := by
  have hclosed := closed_connectedIds edges start
  simpa only [(depthFirstOrder_perm (nodup_connectedIds edges start) hclosed).mem_iff] using hclosed

theorem flowsForward_iff : flowsForward edges (depthFirstOrder edges (connectedIds edges start)) ↔
    ¬ HasCircuit edges start := by
  have hclosed := closed_connectedIds edges start
  constructor
  · rintro hforward ⟨id, hjoined, hleads⟩
    have hid : id ∈ depthFirstOrder edges (connectedIds edges start) := by
      rwa [(depthFirstOrder_perm (nodup_connectedIds edges start) hclosed).mem_iff,
        mem_connectedIds]
    exact Nat.lt_irrefl _
      (idxOf_lt_of_leadsTo hforward (closed_depthFirstOrder edges start) hid hleads).2
  · intro hcircuit
    refine flowsForward_depthFirstOrder (nodup_connectedIds edges start) hclosed
      fun a ha hleads => ?_
    exact hcircuit ⟨a, (mem_connectedIds edges start a).mp ha, hleads⟩

theorem flowOrder_of_hasCircuit (h : HasCircuit edges start) :
    flowOrder edges (connectedIds edges start) = connectedIds edges start :=
  if_neg fun hforward => (flowsForward_iff edges start).mp hforward h

theorem pairwise_flowOrder (h : ¬ HasCircuit edges start) :
    (flowOrder edges (connectedIds edges start)).Pairwise fun a b => ¬ LeadsTo edges b a := by
  have hforward := (flowsForward_iff edges start).mpr h
  have horder : flowOrder edges (connectedIds edges start) =
      depthFirstOrder edges (connectedIds edges start) := if_pos hforward
  have hnodup := (flowOrder_perm edges start).nodup_iff.mpr (nodup_connectedIds edges start)
  rw [horder] at hnodup ⊢
  refine List.pairwise_iff_getElem.mpr fun i j hi hj hij hleads => ?_
  have hlt := (idxOf_lt_of_leadsTo hforward (closed_depthFirstOrder edges start)
    (List.getElem_mem hj) hleads).2
  rw [hnodup.idxOf_getElem, hnodup.idxOf_getElem] at hlt
  omega

end Component

end Patchbay
