import Patchbay.Graph.Connected
import Mathlib.Data.List.Sort
import Mathlib.Logic.Relation

namespace Patchbay

/-- A path of edges leads from one node to the other, whatever the direction of each edge. -/
def Joined (edges : List Edge) : String → String → Prop :=
  Relation.ReflTransGen fun a b => ∃ edge ∈ edges, edge.joins a b

namespace Joined

variable {edges : List Edge} {a b c : String}

theorem symm (h : Joined edges a b) : Joined edges b a := by
  induction h with
  | refl => exact .refl
  | tail _ hstep ih =>
    obtain ⟨edge, hmem, hjoins⟩ := hstep
    refine Relation.ReflTransGen.head ⟨edge, hmem, ?_⟩ ih
    rw [Edge.joins, Bool.or_comm]
    exact hjoins

theorem trans (hab : Joined edges a b) (hbc : Joined edges b c) : Joined edges a c :=
  Relation.ReflTransGen.trans hab hbc

end Joined

theorem Edge.otherEnd?_eq_some (edge : Edge) (a b : String) :
    edge.otherEnd? a = some b ↔ edge.joins a b := by
  unfold otherEnd? joins
  by_cases hs : edge.source = a
  · simp only [hs, if_true, Option.some.injEq, beq_self_eq_true, Bool.true_and, Bool.or_eq_true,
      Bool.and_eq_true, beq_iff_eq]
    constructor
    · exact .inl
    · rintro (h | ⟨rfl, rfl⟩)
      · exact h
      · rfl
  · by_cases ht : edge.target = a <;> simp [hs, ht]

theorem mem_neighbours (edges : List Edge) (a b : String) :
    b ∈ neighbours edges a ↔ ∃ edge ∈ edges, edge.joins a b := by
  simp only [neighbours, List.mem_filterMap, Edge.otherEnd?_eq_some]

theorem nodup_eraseDups (ids : List String) : ids.eraseDups.Nodup := by
  match ids with
  | [] => exact List.nodup_nil
  | id :: rest =>
    rw [List.eraseDups_cons, List.nodup_cons]
    exact ⟨by simp, nodup_eraseDups _⟩
termination_by ids.length
decreasing_by exact Nat.lt_succ_of_le (List.length_filter_le _ rest)

theorem mem_nextLayer (edges : List Edge) (found layer : List String) (id : String) :
    id ∈ nextLayer edges found layer ↔ (∃ a ∈ layer, id ∈ neighbours edges a) ∧ id ∉ found := by
  simp [nextLayer]

def reachable (edges : List Edge) (start : String) : List String :=
  start :: edges.flatMap fun edge => [edge.source, edge.target]

theorem length_reachable (edges : List Edge) (start : String) :
    (reachable edges start).length = 2 * edges.length + 1 := by
  simp [reachable, Nat.mul_comm]

theorem mem_reachable_of_neighbour {edges : List Edge} {start a b : String}
    (h : b ∈ neighbours edges a) : b ∈ reachable edges start := by
  obtain ⟨edge, hmem, hjoins⟩ := (mem_neighbours edges a b).mp h
  refine List.mem_cons_of_mem _ (List.mem_flatMap.mpr ⟨edge, hmem, ?_⟩)
  simp only [Edge.joins, Bool.or_eq_true, Bool.and_eq_true, beq_iff_eq] at hjoins
  rcases hjoins with ⟨_, rfl⟩ | ⟨rfl, _⟩ <;> simp

/-- What a breadth-first search keeps from layer to layer: every node is found once, on a path
from the start, and all neighbours of the layers before the last one are found. -/
structure Searching (edges : List Edge) (start : String) (found layer : List String) : Prop where
  nodup : found.Nodup
  started : start ∈ found
  layered : ∀ id ∈ layer, id ∈ found
  sound : ∀ id ∈ found, Joined edges start id
  bounded : ∀ id ∈ found, id ∈ reachable edges start
  closed : ∀ a ∈ found, a ∉ layer → ∀ b ∈ neighbours edges a, b ∈ found

namespace Searching

variable {edges : List Edge} {start : String} {found layer : List String}

theorem start_only (edges : List Edge) (start : String) :
    Searching edges start [start] [start] where
  nodup := List.nodup_singleton start
  started := List.mem_singleton_self start
  layered := fun _ h => h
  sound := by
    intro id h
    rw [List.mem_singleton.mp h]
    exact .refl
  bounded := by simp [reachable]
  closed := fun a h hnot => absurd h hnot

theorem next (h : Searching edges start found layer) :
    Searching edges start (found ++ nextLayer edges found layer) (nextLayer edges found layer) where
  nodup := by
    refine List.nodup_append.mpr ⟨h.nodup, nodup_eraseDups _, ?_⟩
    rintro a ha b hb rfl
    exact ((mem_nextLayer edges found layer a).mp hb).2 ha
  started := List.mem_append_left _ h.started
  layered := fun id hid => List.mem_append_right _ hid
  sound := by
    intro id hid
    rcases List.mem_append.mp hid with hid | hid
    · exact h.sound id hid
    · obtain ⟨⟨a, ha, hab⟩, _⟩ := (mem_nextLayer edges found layer id).mp hid
      exact (h.sound a (h.layered a ha)).tail ((mem_neighbours edges a id).mp hab)
  bounded := by
    intro id hid
    rcases List.mem_append.mp hid with hid | hid
    · exact h.bounded id hid
    · obtain ⟨⟨a, _, hab⟩, _⟩ := (mem_nextLayer edges found layer id).mp hid
      exact mem_reachable_of_neighbour hab
  closed := by
    intro a ha hnot b hb
    have hfound : a ∈ found := (List.mem_append.mp ha).resolve_right hnot
    by_cases hlayer : a ∈ layer
    · by_cases hold : b ∈ found
      · exact List.mem_append_left _ hold
      · have hnext := (mem_nextLayer edges found layer b).mpr ⟨⟨a, hlayer, hb⟩, hold⟩
        exact List.mem_append_right _ hnext
    · exact List.mem_append_left _ (h.closed a hfound hlayer b hb)

theorem closed_of_isEmpty (h : Searching edges start found layer)
    (hempty : (nextLayer edges found layer).isEmpty) :
    ∀ a ∈ found, ∀ b ∈ neighbours edges a, b ∈ found := by
  intro a ha b hb
  by_cases hlayer : a ∈ layer
  · by_contra hnot
    have hnext := (mem_nextLayer edges found layer b).mpr ⟨⟨a, hlayer, hb⟩, hnot⟩
    rw [List.isEmpty_iff.mp hempty] at hnext
    exact List.not_mem_nil hnext
  · exact h.closed a ha hlayer b hb

/-- A search that has found as many nodes as there can be has found them all. -/
theorem closed_of_length_le (h : Searching edges start found layer)
    (hlen : (reachable edges start).length ≤ found.length) :
    ∀ a ∈ found, ∀ b ∈ neighbours edges a, b ∈ found := by
  intro a _ b hb
  have hsub : found.Subperm (reachable edges start) := List.subperm_of_subset h.nodup h.bounded
  exact (hsub.perm_of_length_le hlen).mem_iff.mpr (mem_reachable_of_neighbour hb)

/-- Each round but the last finds a node, so the rounds left and the nodes found together never
fall below the number of nodes that there can be. -/
theorem addLayers (rounds : Nat) (h : Searching edges start found layer)
    (hlen : (reachable edges start).length ≤ rounds + found.length) :
    ∃ last, Searching edges start (Patchbay.addLayers edges rounds found layer) last ∧
      ∀ a ∈ Patchbay.addLayers edges rounds found layer,
        ∀ b ∈ neighbours edges a, b ∈ Patchbay.addLayers edges rounds found layer := by
  induction rounds generalizing found layer with
  | zero => exact ⟨layer, h, h.closed_of_length_le (by omega)⟩
  | succ rounds ih =>
    unfold Patchbay.addLayers
    by_cases hempty : (nextLayer edges found layer).isEmpty
    · simp only [hempty, if_true]
      exact ⟨layer, h, h.closed_of_isEmpty hempty⟩
    · simp only [hempty]
      refine ih h.next ?_
      have hpos : 0 < (nextLayer edges found layer).length :=
        List.length_pos_iff.mpr fun hnil => hempty (List.isEmpty_iff.mpr hnil)
      rw [List.length_append]
      omega

end Searching

theorem searching_connectedIds (edges : List Edge) (start : String) :
    ∃ last, Searching edges start (connectedIds edges start) last ∧
      ∀ a ∈ connectedIds edges start, ∀ b ∈ neighbours edges a, b ∈ connectedIds edges start :=
  (Searching.start_only edges start).addLayers (2 * edges.length)
    (by rw [length_reachable, List.length_singleton])

theorem nodup_connectedIds (edges : List Edge) (start : String) :
    (connectedIds edges start).Nodup := by
  obtain ⟨_, hsearch, _⟩ := searching_connectedIds edges start
  exact hsearch.nodup

theorem mem_connectedIds (edges : List Edge) (start id : String) :
    id ∈ connectedIds edges start ↔ Joined edges start id := by
  obtain ⟨_, hsearch, hclosed⟩ := searching_connectedIds edges start
  refine ⟨hsearch.sound id, fun h => ?_⟩
  induction h with
  | refl => exact hsearch.started
  | tail _ hstep ih => exact hclosed _ ih _ ((mem_neighbours edges _ _).mpr hstep)

end Patchbay
