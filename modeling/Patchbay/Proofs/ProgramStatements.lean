import Patchbay.Program.Basic
import Patchbay.Proofs.GroupMembers
import Patchbay.Proofs.TransformSilence

namespace Patchbay

def typeOf? (nodes : List Node) (id : String) : Option String :=
  (lastNode? nodes id).map (·.typeId)

theorem typeOf?_congr {nodes others : List Node}
    (h : nodes.map (fun node => (node.id, node.typeId)) = others.map fun node =>
      (node.id, node.typeId))
    (id : String) : typeOf? nodes id = typeOf? others id := by
  have hkind (nodes : List Node) : typeOf? nodes id =
      ((nodes.map fun node => (node.id, node.typeId)).reverse.find? fun kind => kind.1 == id).map
        (·.2) := by
    rw [← List.map_reverse, List.find?_map, Option.map_map]
    rfl
  rw [hkind, hkind, h]

theorem applyType_of_not_hasTransform {typeId : String} (h : hasTransform typeId = false)
    (record : Record) (chain : String) : applyType typeId record chain = chain := by
  unfold applyType
  cases htype : Transform.ofTypeId? typeId with
  | none => rfl
  | some transform => simp [hasTransform, htype] at h

theorem applyType_empty_record (typeId chain : String) : applyType typeId ∅ chain = chain := by
  unfold applyType
  split
  · exact Transform.apply_empty_record _ chain
  · rfl

theorem not_blank_applyType (typeId : String) (record : Record) {chain : String}
    (h : ¬ Chain.Blank chain) : ¬ Chain.Blank (applyType typeId record chain) := by
  unfold applyType
  split
  · exact Transform.not_blank_apply _ record h
  · exact h

namespace Program

def voice (nodes : List Node) (store : Store) (chain id : String) : String :=
  match typeOf? nodes id with
  | some typeId => applyType typeId (store.liveRecord id) chain
  | none => chain

theorem pattern_eq_foldl (nodes : List Node) (store : Store) (ids : List String) :
    pattern nodes store ids = ids.foldl (voice nodes store) "" := by
  unfold pattern
  congr 1
  funext chain id
  unfold voice typeOf?
  cases lastNode? nodes id <;> rfl

variable {nodes : List Node} {edges : List Edge} {store : Store}

theorem voice_of_not_member {id : String} (h : Group.isMember nodes store id = false)
    (chain : String) : voice nodes store chain id = chain := by
  unfold voice typeOf?
  cases hlast : lastNode? nodes id with
  | none => rfl
  | some node =>
    have hnot : hasTransform node.typeId = false := by
      simp only [Group.isMember, hlast, Bool.or_eq_false_iff] at h
      exact h.2
    exact applyType_of_not_hasTransform hnot _ chain

theorem pattern_filter_isMember (ids : List String) :
    pattern nodes store (ids.filter (Group.isMember nodes store)) = pattern nodes store ids := by
  rw [pattern_eq_foldl, pattern_eq_foldl, List.foldl_filter]
  congr 1
  funext chain id
  by_cases h : Group.isMember nodes store id
  · rw [if_pos h]
  · rw [if_neg h, voice_of_not_member (Bool.eq_false_iff.mpr h)]

theorem not_blank_voice (id : String) {chain : String} (h : ¬ Chain.Blank chain) :
    ¬ Chain.Blank (voice nodes store chain id) := by
  unfold voice
  split
  · exact not_blank_applyType _ _ h
  · exact h

/-- One node that is heard whatever reaches it is enough: no later node silences it. -/
theorem not_blank_pattern {ids : List String} {id : String} (hid : id ∈ ids)
    (h : ∀ chain, ¬ Chain.Blank (voice nodes store chain id)) :
    ¬ Chain.Blank (pattern nodes store ids) := by
  obtain ⟨before, after, rfl⟩ := List.append_of_mem hid
  rw [pattern_eq_foldl, List.foldl_append, List.foldl_cons]
  exact List.foldlRecOn (motive := fun chain => ¬ Chain.Blank chain) after _ (h _)
    fun _ hchain other _ => not_blank_voice other hchain

theorem statement?_eq_none (group : Group) :
    statement? nodes store group = none ↔ Chain.Blank (pattern nodes store group.nodeIds) := by
  simp only [statement?, Chain.Blank, ite_eq_left_iff, reduceCtorEq, imp_false, not_not]

theorem statement?_of_silent {group : Group} (h : ∀ id ∈ group.nodeIds, store.liveRecord id = ∅) :
    statement? nodes store group = none := by
  have hpattern : pattern nodes store group.nodeIds = "" := by
    rw [pattern_eq_foldl]
    refine List.foldlRecOn (motive := fun chain => chain = "") group.nodeIds _ rfl ?_
    rintro _ rfl id hid
    unfold voice
    split
    · rw [h id hid, applyType_empty_record]
    · rfl
  rw [statement?_eq_none, hpattern]
  exact Chain.blank_empty

def lineOf? (text : String) : Option String :=
  if Text.allBlank text.toList then none else some (statementMark ++ text)

def componentPattern (nodes : List Node) (edges : List Edge) (store : Store)
    (component : List String) : String :=
  pattern nodes store (flowOrder edges component)

theorem pattern_membersOf (nodes : List Node) (edges : List Edge) (store : Store)
    (component : List String) :
    pattern nodes store (Group.membersOf nodes edges store component) =
      componentPattern nodes edges store component :=
  pattern_filter_isMember (flowOrder edges component)

/-- Who is a member decides nothing about the program: each component gives its line. -/
theorem statements_eq (nodes : List Node) (edges : List Edge) (store : Store) :
    statements nodes edges store =
      (Group.components edges (nodes.map (·.id)) []).filterMap fun component =>
        lineOf? (componentPattern nodes edges store component) := by
  unfold statements Group.all
  rw [List.filterMap_filterMap]
  congr 1
  funext component
  simp only
  by_cases hempty : (Group.membersOf nodes edges store component).isEmpty
  · have hpattern := pattern_membersOf nodes edges store component
    rw [List.isEmpty_iff.mp hempty] at hpattern
    rw [if_pos hempty, ← hpattern]
    rfl
  · rw [if_neg hempty, Option.bind_some, statement?, pattern_membersOf]
    rfl

theorem pattern_congr {others : List Node} {other : Store} {ids : List String}
    (htypes : ∀ id, typeOf? nodes id = typeOf? others id)
    (hlive : ∀ id ∈ ids, ∀ typeId, typeOf? nodes id = some typeId → hasTransform typeId →
      store.liveRecord id = other.liveRecord id) :
    pattern nodes store ids = pattern others other ids := by
  rw [pattern_eq_foldl, pattern_eq_foldl]
  refine List.foldl_ext _ _ _ fun chain id hid => ?_
  unfold voice
  rw [← htypes]
  cases htype : typeOf? nodes id with
  | none => rfl
  | some typeId =>
    by_cases ht : hasTransform typeId
    · simp only [hlive id hid typeId htype ht]
    · simp only [applyType_of_not_hasTransform (Bool.eq_false_iff.mpr ht)]

/-- The program depends on the ids and types of the nodes, on the edges, on the tempo, and on the
live records of the nodes whose types have a transform. -/
theorem statements_congr {others : List Node} {other : Store}
    (hkinds : nodes.map (fun node => (node.id, node.typeId)) =
      others.map fun node => (node.id, node.typeId))
    (hlive : ∀ id typeId, typeOf? nodes id = some typeId → hasTransform typeId →
      store.liveRecord id = other.liveRecord id) :
    statements nodes edges store = statements others edges other := by
  have hids : nodes.map (·.id) = others.map (·.id) := by
    have := congrArg (List.map (·.1)) hkinds
    simpa only [List.map_map, Function.comp_def] using this
  rw [statements_eq, statements_eq, hids]
  congr 1
  funext component
  rw [componentPattern, componentPattern,
    pattern_congr (typeOf?_congr hkinds) fun id _ typeId => hlive id typeId]

theorem compile_congr {others : List Node} {other : Store} (tempo : String)
    (hkinds : nodes.map (fun node => (node.id, node.typeId)) =
      others.map fun node => (node.id, node.typeId))
    (hlive : ∀ id typeId, typeOf? nodes id = some typeId → hasTransform typeId →
      store.liveRecord id = other.liveRecord id) :
    compile nodes edges store tempo = compile others edges other tempo := by
  rw [compile, compile, statements_congr hkinds hlive]

theorem compile_eq_empty_iff (nodes : List Node) (edges : List Edge) (store : Store)
    (tempo : String) :
    compile nodes edges store tempo = "" ↔ statements nodes edges store = [] := by
  rw [compile]
  cases statements nodes edges store with
  | nil => simp
  | cons line rest => simp [tempoStatement]

theorem compile_eq_iff (nodes : List Node) (edges : List Edge) (store : Store)
    (tempo other : String) :
    compile nodes edges store tempo = compile nodes edges store other ↔
      compile nodes edges store other = "" ∨ tempoStatement tempo = tempoStatement other := by
  rw [compile_eq_empty_iff, compile, compile]
  cases statements nodes edges store with
  | nil => simp
  | cons line rest => simp [String.append_left_inj]

end Program

end Patchbay
