import Patchbay.Proofs.BreadthFirst

namespace Patchbay

inductive Walk (edges : List Edge) (start : String) : (length : Nat) → String → Prop where
  | start : Walk edges start 0 start
  | step {length : Nat} {a b : String} (h : Walk edges start length a)
    (hnext : b ∈ neighbours edges a) :
      Walk edges start (length + 1) b

/-- The distance of a node from the start: the length of a shortest walk to it. -/
structure Away (edges : List Edge) (start id : String) (distance : Nat) : Prop where
  walk : Walk edges start distance id
  shortest : ∀ length, Walk edges start length id → distance ≤ length

variable {edges : List Edge} {start : String}

theorem joined_iff_walk {id : String} :
    Joined edges start id ↔ ∃ length, Walk edges start length id := by
  constructor
  · intro h
    induction h with
    | refl => exact ⟨0, .start⟩
    | tail _ hstep ih =>
      obtain ⟨length, hwalk⟩ := ih
      exact ⟨length + 1, hwalk.step ((mem_neighbours edges _ _).mpr hstep)⟩
  · rintro ⟨length, hwalk⟩
    induction hwalk with
    | start => exact .refl
    | step _ hnext ih => exact ih.tail ((mem_neighbours edges _ _).mp hnext)

namespace Away

variable {a b : String} {m n : Nat}

theorem exists_of_walk {length : Nat} (h : Walk edges start length a) :
    ∃ n ≤ length, Away edges start a n := by
  classical
  have hex : ∃ n, Walk edges start n a := ⟨length, h⟩
  exact ⟨Nat.find hex, Nat.find_min' hex h, Nat.find_spec hex,
    fun _ hother => Nat.find_min' hex hother⟩

theorem unique (h : Away edges start a m) (hother : Away edges start a n) : m = n :=
  Nat.le_antisymm (h.shortest n hother.walk) (hother.shortest m h.walk)

theorem zero_iff : Away edges start a 0 ↔ a = start := by
  constructor
  · intro h
    cases h.walk with
    | start => rfl
  · rintro rfl
    exact ⟨.start, fun _ _ => Nat.zero_le _⟩

theorem exists_nearer (h : Away edges start b (n + 1)) :
    ∃ a, Away edges start a n ∧ b ∈ neighbours edges a := by
  cases h.walk with
  | @step _ a _ hwalk hnext =>
    refine ⟨a, ⟨hwalk, fun length hother => ?_⟩, hnext⟩
    have hlonger := h.shortest (length + 1) (hother.step hnext)
    omega

theorem exists_next (h : Away edges start a n) (hnext : b ∈ neighbours edges a) :
    ∃ m ≤ n + 1, Away edges start b m :=
  exists_of_walk (h.walk.step hnext)

end Away

/-- What a search by layers keeps: the last layer holds the nodes of one distance, and what is found
are the nodes up to that distance, the nearer ones first. -/
structure Layered (edges : List Edge) (start : String) (distance : Nat)
    (found layer : List String) : Prop where
  layer_iff : ∀ id, id ∈ layer ↔ Away edges start id distance
  found_iff : ∀ id, id ∈ found ↔ ∃ n ≤ distance, Away edges start id n
  sorted : found.Pairwise fun a b => ∀ m n, Away edges start a m → Away edges start b n → m ≤ n

namespace Layered

variable {distance : Nat} {found layer : List String}

theorem start_only (edges : List Edge) (start : String) :
    Layered edges start 0 [start] [start] where
  layer_iff := fun id => by rw [List.mem_singleton, Away.zero_iff]
  found_iff := fun id => by simp [Away.zero_iff]
  sorted := List.pairwise_singleton _ _

theorem mem_nextLayer_iff (h : Layered edges start distance found layer) (id : String) :
    id ∈ nextLayer edges found layer ↔ Away edges start id (distance + 1) := by
  rw [mem_nextLayer, h.found_iff]
  constructor
  · rintro ⟨⟨a, ha, hnext⟩, hnew⟩
    obtain ⟨m, hm, haway⟩ := ((h.layer_iff a).mp ha).exists_next hnext
    obtain rfl | hnear := Nat.eq_or_lt_of_le hm
    · exact haway
    · exact absurd ⟨m, Nat.le_of_lt_succ hnear, haway⟩ hnew
  · intro haway
    obtain ⟨a, ha, hnext⟩ := haway.exists_nearer
    refine ⟨⟨a, (h.layer_iff a).mpr ha, hnext⟩, ?_⟩
    rintro ⟨n, hn, hother⟩
    have heq := hother.unique haway
    omega

theorem next (h : Layered edges start distance found layer) :
    Layered edges start (distance + 1) (found ++ nextLayer edges found layer)
      (nextLayer edges found layer) where
  layer_iff := h.mem_nextLayer_iff
  found_iff := fun id => by
    rw [List.mem_append, h.found_iff, h.mem_nextLayer_iff]
    constructor
    · rintro (⟨n, hn, haway⟩ | haway)
      · exact ⟨n, Nat.le_succ_of_le hn, haway⟩
      · exact ⟨distance + 1, Nat.le_refl _, haway⟩
    · rintro ⟨n, hn, haway⟩
      obtain rfl | hnear := Nat.eq_or_lt_of_le hn
      · exact .inr haway
      · exact .inl ⟨n, Nat.le_of_lt_succ hnear, haway⟩
  sorted := by
    refine List.pairwise_append.mpr ⟨h.sorted, ?_, fun a ha b hb m n hm hn => ?_⟩
    · refine List.pairwise_of_forall_mem_list fun a ha b hb m n hm hn => ?_
      rw [hm.unique ((h.mem_nextLayer_iff a).mp ha), hn.unique ((h.mem_nextLayer_iff b).mp hb)]
    · obtain ⟨near, hnear, haway⟩ := (h.found_iff a).mp ha
      rw [hm.unique haway, hn.unique ((h.mem_nextLayer_iff b).mp hb)]
      exact Nat.le_succ_of_le hnear

end Layered

theorem sorted_connectedIds (edges : List Edge) (start : String) :
    (connectedIds edges start).Pairwise fun a b =>
      ∀ m n, Away edges start a m → Away edges start b n → m ≤ n := by
  have hnext (found layer : List String) (h : ∃ distance,
    Layered edges start distance found layer) :
      ∃ distance, Layered edges start distance (found ++ nextLayer edges found layer)
        (nextLayer edges found layer) := by
    obtain ⟨distance, hlayered⟩ := h
    exact ⟨distance + 1, hlayered.next⟩
  obtain ⟨_, _, hlayered⟩ :=
    exists_keeps_addLayers hnext ⟨0, Layered.start_only edges start⟩ (2 * edges.length)
  exact hlayered.sorted

section FirstPlaces

variable {ids order : List String} {a b : String}

theorem idxOf_lt_of_filter {keeps : String → Bool} (ha : keeps a) (hb : keeps b)
    (h : (ids.filter keeps).idxOf a < (ids.filter keeps).idxOf b) : ids.idxOf a < ids.idxOf b := by
  induction ids with
  | nil => exact h
  | cons id rest ih =>
    rw [List.idxOf_cons, List.idxOf_cons]
    by_cases hid : keeps id
    · rw [List.filter_cons_of_pos hid, List.idxOf_cons, List.idxOf_cons] at h
      grind
    · rw [List.filter_cons_of_neg hid] at h
      grind

theorem pairwise_eraseDups (ids : List String) :
    ids.eraseDups.Pairwise fun a b => ids.idxOf a < ids.idxOf b := by
  match ids with
  | [] => exact .nil
  | id :: rest =>
    have hkept {a : String} (ha : a ∈ (rest.filter fun other => !other == id).eraseDups) :
        id ≠ a := by
      rintro rfl
      simpa using (List.mem_filter.mp (List.mem_eraseDups.mp ha)).2
    have hfilter {a : String} (hne : id ≠ a) : (!a == id) = true := by
      simpa using hne.symm
    rw [List.eraseDups_cons]
    refine List.pairwise_cons.mpr ⟨fun b hb => ?_, ?_⟩
    · rw [List.idxOf_cons_self, List.idxOf_cons_ne rest (hkept hb)]
      exact Nat.succ_pos _
    · refine (pairwise_eraseDups (rest.filter fun other => !other == id)).imp_of_mem
        fun {a b} ha hb hlt => ?_
      have hrest := idxOf_lt_of_filter (hfilter (hkept ha)) (hfilter (hkept hb)) hlt
      rw [List.idxOf_cons_ne rest (hkept ha), List.idxOf_cons_ne rest (hkept hb)]
      exact Nat.succ_lt_succ hrest
termination_by ids.length
decreasing_by exact Nat.lt_succ_of_le (List.length_filter_le _ rest)

theorem exists_split_of_idxOf_flatMap {parts : String → List String}
    (h : (order.flatMap parts).idxOf a < (order.flatMap parts).idxOf b) :
    ∃ front id back, order = front ++ id :: back ∧
      (∀ other ∈ front, a ∉ parts other ∧ b ∉ parts other) ∧
      (parts id).idxOf a < (parts id).idxOf b := by
  induction order with
  | nil => exact absurd h (Nat.lt_irrefl _)
  | cons id rest ih =>
    rw [List.flatMap_cons, List.idxOf_append, List.idxOf_append] at h
    by_cases hnone : a ∉ parts id ∧ b ∉ parts id
    · rw [if_neg hnone.1, if_neg hnone.2] at h
      obtain ⟨front, first, back, rfl, hfront, hlt⟩ := ih (by omega)
      exact ⟨id :: front, first, back, rfl, List.forall_mem_cons.mpr ⟨hnone, hfront⟩, hlt⟩
    · refine ⟨[], id, rest, rfl, List.forall_mem_nil _, ?_⟩
      have ha : (parts id).idxOf a ≤ (parts id).length := List.idxOf_le_length
      grind

theorem neighbours_cons (edge : Edge) (edges : List Edge) (id : String) :
    neighbours (edge :: edges) id = (edge.otherEnd? id).toList ++ neighbours edges id := by
  rw [neighbours, List.filterMap_cons]
  cases edge.otherEnd? id <;> rfl

theorem findIdx_joins_lt {id : String}
    (h : (neighbours edges id).idxOf a < (neighbours edges id).idxOf b) :
    edges.findIdx (·.joins id a) < edges.findIdx (·.joins id b) := by
  induction edges with
  | nil => exact h
  | cons edge rest ih =>
    have hjoins (c : String) : edge.joins id c = decide (edge.otherEnd? id = some c) := by
      rw [Bool.eq_iff_iff, decide_eq_true_iff, Edge.otherEnd?_eq_some]
    rw [neighbours_cons] at h
    rw [List.findIdx_cons, List.findIdx_cons, hjoins, hjoins]
    cases hother : edge.otherEnd? id with
    | none =>
      rw [hother] at h
      exact Nat.succ_lt_succ (ih h)
    | some c =>
      rw [hother, Option.toList_some, List.singleton_append, List.idxOf_cons, List.idxOf_cons] at h
      grind

end FirstPlaces

/-- The node from which a node is discovered: the first one of the order that an edge
joins to it. -/
def discoverer? (edges : List Edge) (order : List String) (id : String) : Option String :=
  order.find? fun other => (neighbours edges other).contains id

/-- The first of two nodes is discovered from an earlier node, or from the same one along an
earlier edge. -/
def DiscoveredBefore (edges : List Edge) (order : List String) (a b : String) : Prop :=
  ∃ d e, discoverer? edges order a = some d ∧ discoverer? edges order b = some e ∧
    (order.idxOf d < order.idxOf e ∨ d = e ∧
      edges.findIdx (·.joins d a) < edges.findIdx (·.joins d b))

namespace BreadthFirst

variable {order : List String} {a b : String}

theorem exists_cons (h : BreadthFirst edges start order) : ∃ others, order = start :: others := by
  have hdiscovered := h.discovered
  rw [List.eraseDups_cons] at hdiscovered
  exact ⟨_, hdiscovered⟩

theorem nodup (h : BreadthFirst edges start order) : order.Nodup := by
  rw [h.discovered]
  exact nodup_eraseDups _

theorem mem_neighbours_of_mem (h : BreadthFirst edges start order) (hmem : a ∈ order)
    (hne : a ≠ start) :
    a ∈ order.flatMap (neighbours edges) := by
  rw [h.discovered, List.mem_eraseDups] at hmem
  exact (List.mem_cons.mp hmem).resolve_left hne

theorem pairwise_discovered (h : BreadthFirst edges start order) :
    order.Pairwise fun a b => a ≠ start → b ≠ start → DiscoveredBefore edges order a b := by
  have hplaces := pairwise_eraseDups (start :: order.flatMap (neighbours edges))
  rw [← h.discovered] at hplaces
  refine hplaces.imp_of_mem fun {a b} _ hb hlt hane hbne => ?_
  rw [List.idxOf_cons_ne _ hane.symm, List.idxOf_cons_ne _ hbne.symm] at hlt
  obtain ⟨front, d, back, horder, hfront, hfirst⟩ :=
    exists_split_of_idxOf_flatMap (Nat.lt_of_succ_lt_succ hlt)
  have hnear : a ∈ neighbours edges d :=
    List.idxOf_lt_length_iff.mp (hfirst.trans_le List.idxOf_le_length)
  have hd : discoverer? edges order a = some d :=
    List.find?_eq_some_iff_append.mpr
      ⟨by simpa using hnear, front, back, horder, fun other hother => by
      simpa using (hfront other hother).1⟩
  obtain ⟨e, he⟩ : ∃ e, discoverer? edges order b = some e := by
    obtain ⟨other, hother, hnext⟩ := List.mem_flatMap.mp (h.mem_neighbours_of_mem hb hbne)
    exact Option.isSome_iff_exists.mp (List.find?_isSome.mpr ⟨other, hother, by simpa using hnext⟩)
  refine ⟨d, e, hd, he, ?_⟩
  have hdfront : d ∉ front := fun hmem => (hfront d hmem).1 hnear
  have hefront : e ∉ front := fun hmem => (hfront e hmem).2 (by simpa using List.find?_some he)
  have hdplace : order.idxOf d = front.length := by
    rw [horder, List.idxOf_append_of_notMem hdfront, List.idxOf_cons_self, Nat.add_zero]
  have heplace : front.length ≤ order.idxOf e := by
    rw [horder, List.idxOf_append_of_notMem hefront]
    exact Nat.le_add_right _ _
  rcases Nat.lt_or_eq_of_le (hdplace.trans_le heplace) with hearlier | hsame
  · exact .inl hearlier
  · have hmem : d ∈ order := horder ▸ List.mem_append_right front List.mem_cons_self
    exact .inr ⟨(List.idxOf_inj hmem).mp hsame, findIdx_joins_lt hfirst⟩

end BreadthFirst

/-- A search finds the nodes that a path joins to the start, each once, the start first and the
nearer ones before those that are further away. At the same distance they stand in the order of the
nodes from which they are discovered, and those with the same one in the order of the first edges
that join them to it. -/
theorem connectedIds_by_distance (edges : List Edge) (start : String) :
    (connectedIds edges start).head? = some start ∧ (connectedIds edges start).Nodup ∧
      (∀ id, id ∈ connectedIds edges start ↔ Joined edges start id) ∧
      (connectedIds edges start).Pairwise fun a b =>
        ∃ m n, Away edges start a m ∧ Away edges start b n ∧
          (m < n ∨ m = n ∧ DiscoveredBefore edges (connectedIds edges start) a b) := by
  have hsearch := breadthFirst_connectedIds edges start
  have haway (id : String) (hid : id ∈ connectedIds edges start) : ∃ n, Away edges start id n := by
    obtain ⟨_, hwalk⟩ := joined_iff_walk.mp ((hsearch.joined id).mp hid)
    obtain ⟨n, _, haway⟩ := Away.exists_of_walk hwalk
    exact ⟨n, haway⟩
  refine ⟨?_, hsearch.nodup, hsearch.joined, ?_⟩
  · obtain ⟨others, hcons⟩ := hsearch.exists_cons
    rw [hcons, List.head?_cons]
  · have hboth :=
      ((sorted_connectedIds edges start).and hsearch.pairwise_discovered).and hsearch.nodup
    refine hboth.imp_of_mem fun {a b} ha hb ⟨⟨hsorted, hdiscovered⟩, hne⟩ => ?_
    obtain ⟨m, hm⟩ := haway a ha
    obtain ⟨n, hn⟩ := haway b hb
    refine ⟨m, n, hm, hn, ?_⟩
    rcases Nat.lt_or_eq_of_le (hsorted m n hm hn) with hlt | rfl
    · exact .inl hlt
    · refine .inr ⟨rfl, hdiscovered ?_ ?_⟩
      -- Two nodes at one distance are not the start, which is the only one at its own.
      · rintro rfl
        obtain rfl := hm.unique (Away.zero_iff.mpr rfl)
        exact hne (Away.zero_iff.mp hn).symm
      · rintro rfl
        obtain rfl := hn.unique (Away.zero_iff.mpr rfl)
        exact hne (Away.zero_iff.mp hm)

example :
    connectedIds [⟨"1", "c", "a"⟩, ⟨"2", "a", "b"⟩, ⟨"3", "b", "d"⟩, ⟨"4", "c", "e"⟩,
      ⟨"5", "a", "a"⟩, ⟨"6", "b", "a"⟩, ⟨"7", "d", "e"⟩] "a" = ["a", "c", "b", "e", "d"] := by
  decide +kernel

end Patchbay
