import Patchbay.Proofs.GraphJoined

namespace Patchbay

/-- The list of a breadth-first search: the nodes that a path joins to the start, in the order in
which they are discovered, from the start and then from each node in turn along its edges. -/
structure BreadthFirst (edges : List Edge) (start : String) (order : List String) : Prop where
  joined : ∀ id, id ∈ order ↔ Joined edges start id
  discovered : order = (start :: order.flatMap (neighbours edges)).eraseDups

variable {edges : List Edge} {start : String} {order : List String}

theorem exists_keeps_addLayers {Keeps : (found layer : List String) → Prop}
    (hnext : ∀ found layer, Keeps found layer →
      Keeps (found ++ nextLayer edges found layer) (nextLayer edges found layer))
    {found layer : List String} (h : Keeps found layer) (rounds : Nat) :
    ∃ last, Keeps (addLayers edges rounds found layer) last := by
  induction rounds generalizing found layer with
  | zero => exact ⟨layer, h⟩
  | succ rounds ih =>
    unfold addLayers
    by_cases hempty : (nextLayer edges found layer).isEmpty
    · simp only [hempty, if_true]
      exact ⟨layer, h⟩
    · simp only [hempty]
      exact ih (hnext found layer h)

/-- What a search by layers has found is what it has discovered from the layers before the
last one. -/
def Discovering (edges : List Edge) (start : String) (found layer : List String) : Prop :=
  ∃ before, found = before ++ layer ∧ found = (start :: before.flatMap (neighbours edges)).eraseDups

namespace Discovering

variable {found layer : List String}

theorem start_only (edges : List Edge) (start : String) : Discovering edges start [start] [start] :=
  ⟨[], rfl, rfl⟩

theorem eraseDups_eq (h : Discovering edges start found layer) :
    (start :: found.flatMap (neighbours edges)).eraseDups =
      found ++ nextLayer edges found layer := by
  obtain ⟨before, hsplit, hfound⟩ := h
  have hmem (id : String) : id ∈ start :: before.flatMap (neighbours edges) ↔ id ∈ found := by
    rw [hfound, List.mem_eraseDups]
  have hfresh :
    (layer.flatMap (neighbours edges)).removeAll (start :: before.flatMap (neighbours edges)) =
      (layer.flatMap (neighbours edges)).filter fun id => !found.contains id := by
    refine List.filter_congr fun id _ => ?_
    simp only [List.elem_eq_contains, List.contains_eq_mem, hmem]
  calc (start :: found.flatMap (neighbours edges)).eraseDups
    _ = (start :: before.flatMap (neighbours edges) ++
          layer.flatMap (neighbours edges)).eraseDups := by
      rw [hsplit, List.flatMap_append, List.cons_append]
    _ = found ++ nextLayer edges found layer := by
      rw [List.eraseDups_append, ← hfound, hfresh]
      rfl

theorem next (h : Discovering edges start found layer) :
    Discovering edges start (found ++ nextLayer edges found layer) (nextLayer edges found layer) :=
  ⟨found, rfl, h.eraseDups_eq.symm⟩

end Discovering

theorem breadthFirst_connectedIds (edges : List Edge) (start : String) :
    BreadthFirst edges start (connectedIds edges start) where
  joined := mem_connectedIds edges start
  discovered := by
    obtain ⟨layer, hdiscovering⟩ := exists_keeps_addLayers (fun _ _ h => Discovering.next h)
      (Discovering.start_only edges start) (2 * edges.length)
    obtain ⟨_, _, hclosed⟩ := searching_connectedIds edges start
    have hnothing : nextLayer edges (connectedIds edges start) layer = [] := by
      refine List.eq_nil_iff_forall_not_mem.mpr fun id hid => ?_
      obtain ⟨⟨a, ha, hnext⟩, hnew⟩ := (mem_nextLayer edges _ layer id).mp hid
      obtain ⟨before, hsplit, _⟩ := hdiscovering
      have hfound : a ∈ connectedIds edges start := by
        rw [connectedIds, hsplit]
        exact List.mem_append_right _ ha
      exact hnew (hclosed a hfound id hnext)
    have hdiscovered := hdiscovering.eraseDups_eq
    rw [← connectedIds, hnothing, List.append_nil] at hdiscovered
    exact hdiscovered.symm

namespace BreadthFirst

theorem discovered_from (h : BreadthFirst edges start order) {part : List String}
    (hpart : part <+: order) :
    (start :: part.flatMap (neighbours edges)).eraseDups <+: order := by
  obtain ⟨rest, hsplit⟩ := hpart
  have hdiscovered := h.discovered
  rw [← hsplit, List.flatMap_append, ← List.cons_append, List.eraseDups_append,
    hsplit] at hdiscovered
  exact ⟨_, hdiscovered.symm⟩

theorem length_lt (h : BreadthFirst edges start order) {part : List String} (hpart : part <+: order)
    (hne : part ≠ order) :
    part.length < (start :: part.flatMap (neighbours edges)).eraseDups.length := by
  by_contra hle
  have hinside : (start :: part.flatMap (neighbours edges)).eraseDups <+: part :=
    List.prefix_of_prefix_length_le (h.discovered_from hpart) hpart (Nat.not_lt.mp hle)
  have hstart : start ∈ part := hinside.subset (List.mem_eraseDups.mpr List.mem_cons_self)
  have hall (id : String) (hid : Joined edges start id) : id ∈ part := by
    induction hid with
    | refl => exact hstart
    | tail _ hstep ih =>
      refine hinside.subset (List.mem_eraseDups.mpr (List.mem_cons_of_mem _ ?_))
      exact List.mem_flatMap.mpr ⟨_, ih, (mem_neighbours edges _ _).mpr hstep⟩
  have hnodup : order.Nodup := by
    rw [h.discovered]
    exact nodup_eraseDups _
  have hlength :=
    (List.subperm_of_subset hnodup fun id hid => hall id ((h.joined id).mp hid)).length_le
  exact hne (hpart.eq_of_length_le hlength)

theorem take_isPrefix {other : List String} (h : BreadthFirst edges start order)
    (hother : BreadthFirst edges start other) (length : Nat) : other.take length <+: order := by
  induction length with
  | zero => exact List.nil_prefix
  | succ length ih =>
    have hpart : other.take length <+: other := List.take_prefix length other
    by_cases hall : other.take length = other
    · have hlength : other.length ≤ length := hall ▸ List.length_take_le length other
      rw [List.take_of_length_le (Nat.le_succ_of_le hlength), ← hall]
      exact ih
    · have hlength : (other.take length).length = length := by
        rw [List.length_take, Nat.min_eq_left]
        exact Nat.le_of_lt (Nat.not_le.mp fun hle => hall (List.take_of_length_le hle))
      have hmore := hother.length_lt hpart hall
      rw [hlength] at hmore
      have hnext : other.take (length + 1) <+: other := List.take_prefix _ other
      have hfound := List.prefix_of_prefix_length_le hnext (hother.discovered_from hpart)
        ((List.length_take_le _ _).trans hmore)
      exact hfound.trans (h.discovered_from ih)

/-- There is only one breadth-first order from a node. -/
theorem unique {other : List String} (h : BreadthFirst edges start order)
    (hother : BreadthFirst edges start other) : other = order := by
  have hthere := h.take_isPrefix hother other.length
  have hback := hother.take_isPrefix h order.length
  rw [List.take_length] at hthere hback
  exact hthere.sublist.antisymm hback.sublist

end BreadthFirst

end Patchbay
