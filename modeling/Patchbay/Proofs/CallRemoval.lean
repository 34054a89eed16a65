import Patchbay.Proofs.CallOffsets

namespace Patchbay.Program

open Text (byteLength byteSpan splitAtByte? slice?)

variable {opening text : List Char} {cut : Cut} {spans : List (Nat × Nat)} {span : Nat × Nat}
    {offset : Nat}

section Trimmed

/-- What is left behind a call: the text without the later calls, and each part without a semicolon
at its start. -/
def Cut.trimmed (cut : Cut) : List Char :=
  (cut.calls.map fun entry => Cut.dropSemicolon entry.1).flatten ++ Cut.dropSemicolon cut.rest

theorem Cut.trimmed_cons (before call rest : List Char) (calls : List (List Char × List Char)) :
    Cut.trimmed ⟨(before, call) :: calls, rest⟩ =
      Cut.dropSemicolon before ++ Cut.trimmed ⟨calls, rest⟩ := by
  simp [Cut.trimmed]

theorem Cut.remainder_cons (before call rest : List Char) (calls : List (List Char × List Char)) :
    Cut.remainder ⟨(before, call) :: calls, rest⟩ = before ++ Cut.trimmed ⟨calls, rest⟩ :=
  List.append_assoc _ _ _

end Trimmed

section Deleted

/-- What is deleted with the calls of a text: what lies in one of them, and a semicolon right
behind one. -/
def Deleted (spans : List (Nat × Nat)) (c : Char) (place : Nat) : Prop :=
  ∃ span ∈ spans, (span.1 ≤ place ∧ place < span.2) ∨ (place = span.2 ∧ c = ';')

instance (spans : List (Nat × Nat)) (c : Char) (place : Nat) : Decidable (Deleted spans c place) :=
  inferInstanceAs (Decidable (∃ span ∈ spans, _))

theorem deleted_cons {c : Char} {place : Nat} : Deleted (span :: spans) c place ↔
    ((span.1 ≤ place ∧ place < span.2) ∨ (place = span.2 ∧ c = ';')) ∨ Deleted spans c place :=
  List.exists_mem_cons_iff _ _ _

/-- The text, which starts at the place `offset`, without what is deleted. -/
def keptFrom (spans : List (Nat × Nat)) (offset : Nat) (text : List Char) : List Char :=
  ((text.zipIdx offset).filter fun entry => ¬ Deleted spans entry.1 entry.2).map (·.1)

theorem keptFrom_append (front rest : List Char) :
    keptFrom spans offset (front ++ rest) =
      keptFrom spans offset front ++ keptFrom spans (offset + front.length) rest := by
  simp only [keptFrom, List.zipIdx_append, List.filter_append, List.map_append]

theorem keptFrom_cons (c : Char) (rest : List Char) :
    keptFrom spans offset (c :: rest) =
      (if Deleted spans c offset then [] else [c]) ++ keptFrom spans (offset + 1) rest := by
  rw [keptFrom, List.zipIdx_cons, List.filter_cons]
  by_cases hdeleted : Deleted spans c offset <;> simp [hdeleted, keptFrom]

theorem keptFrom_eq_self
    (h : ∀ c place, offset ≤ place → place < offset + text.length → ¬ Deleted spans c place) :
    keptFrom spans offset text = text := by
  have hkept (entry : Char × Nat) (hmem : entry ∈ text.zipIdx offset) :
      decide (¬ Deleted spans entry.1 entry.2) = true :=
    decide_eq_true (h _ _ (List.le_snd_of_mem_zipIdx hmem) (List.snd_lt_add_of_mem_zipIdx hmem))
  rw [keptFrom, List.filter_eq_self.mpr hkept, List.zipIdx_map_fst]

theorem keptFrom_eq_nil
    (h : ∀ c place, offset ≤ place → place < offset + text.length → Deleted spans c place) :
    keptFrom spans offset text = [] := by
  have hdeleted (entry : Char × Nat) (hmem : entry ∈ text.zipIdx offset) :
      ¬ decide (¬ Deleted spans entry.1 entry.2) = true := by
    rw [decide_eq_true_eq, not_not]
    exact h _ _ (List.le_snd_of_mem_zipIdx hmem) (List.snd_lt_add_of_mem_zipIdx hmem)
  rw [keptFrom, List.filter_eq_nil_iff.mpr hdeleted, List.map_nil]

theorem keptFrom_skip (h : span.2 < offset) (text : List Char) :
    keptFrom (span :: spans) offset text = keptFrom spans offset text := by
  have hsame (entry : Char × Nat) (hmem : entry ∈ text.zipIdx offset) :
      decide (¬ Deleted (span :: spans) entry.1 entry.2) =
          decide (¬ Deleted spans entry.1 entry.2) := by
    have hle := List.le_snd_of_mem_zipIdx hmem
    have hbehind :
        ¬ ((span.1 ≤ entry.2 ∧ entry.2 < span.2) ∨ (entry.2 = span.2 ∧ entry.1 = ';')) := by omega
    rw [decide_eq_decide, deleted_cons, or_iff_right hbehind]
  rw [keptFrom, List.filter_congr hsame]
  rfl

theorem keptFrom_front (h : ∀ span ∈ spans, offset + text.length ≤ span.1 ∧ span.1 ≤ span.2) :
    keptFrom spans offset text = text := by
  refine keptFrom_eq_self fun c place _ hlt hdeleted => ?_
  obtain ⟨span, hmem, hin⟩ := hdeleted
  have hle := h span hmem
  omega

theorem keptFrom_of_mem (h : (offset, offset + text.length) ∈ spans) :
    keptFrom spans offset text = [] :=
  keptFrom_eq_nil fun _ _ hle hlt => ⟨_, h, .inl ⟨hle, hlt⟩⟩

/-- Right behind a call, and in front of the next one, only a semicolon is deleted. -/
theorem keptFrom_behind (hspan : span.2 = offset)
    (h : ∀ later ∈ spans, offset + text.length ≤ later.1 ∧ later.1 ≤ later.2) :
    keptFrom (span :: spans) offset text = Cut.dropSemicolon text := by
  cases text with
  | nil => rfl
  | cons c rest =>
    rw [List.length_cons] at h
    have hlater : ¬ Deleted spans c offset := by
      rintro ⟨later, hmem, hin⟩
      have hle := h later hmem
      omega
    have hfirst : Deleted (span :: spans) c offset ↔ c = ';' := by
      rw [deleted_cons, or_iff_left hlater, hspan]
      simp
    have hrest : keptFrom (span :: spans) (offset + 1) rest = rest := by
      rw [keptFrom_skip (by omega)]
      refine keptFrom_front fun later hmem => ?_
      have hle := h later hmem
      omega
    rw [keptFrom_cons, hrest]
    simp only [hfirst]
    by_cases hc : c = ';'
    · rw [if_pos hc, hc]
      rfl
    · rw [if_neg hc]
      simp [Cut.dropSemicolon, hc]

/-- The induction is on the calls, each with the call before it, whose semicolon may start what it
precedes. -/
theorem keptFrom_spansFrom (start offset : Nat) {calls : List (List Char × List Char)}
    (hcalls : ∀ entry ∈ calls, entry.2 ≠ []) (rest : List Char) :
    keptFrom ((start, offset) :: Cut.spansFrom offset calls) offset (Cut.joined ⟨calls, rest⟩) =
      Cut.trimmed ⟨calls, rest⟩ := by
  induction calls generalizing start offset with
  | nil => exact keptFrom_behind rfl (List.forall_mem_nil _)
  | cons entry calls ih =>
    obtain ⟨before, call⟩ := entry
    obtain ⟨hcall, hcalls⟩ := List.forall_mem_cons.mp hcalls
    have hpos : 0 < call.length := List.length_pos_of_ne_nil hcall
    have hbefore :
      keptFrom ((start, offset) :: Cut.spansFrom offset ((before, call) :: calls)) offset before =
        Cut.dropSemicolon before :=
      keptFrom_behind rfl fun _ hmem => Cut.start_le_of_mem_spansFrom hmem
    have hinside : keptFrom ((start, offset) :: Cut.spansFrom offset ((before, call) :: calls))
        (offset + before.length) call = [] :=
      keptFrom_of_mem (List.mem_cons_of_mem _ List.mem_cons_self)
    have hafter : keptFrom ((start, offset) :: Cut.spansFrom offset ((before, call) :: calls))
        (offset + before.length + call.length) (Cut.joined ⟨calls, rest⟩) =
          Cut.trimmed ⟨calls, rest⟩ := by
      rw [keptFrom_skip (by dsimp only; omega)]
      exact ih (offset + before.length) (offset + before.length + call.length) hcalls
    rw [Cut.joined_cons, List.append_assoc, keptFrom_append, keptFrom_append, hbefore, hinside,
      hafter, List.nil_append, Cut.trimmed_cons]

theorem keptFrom_spans (cut : Cut) (hcalls : ∀ entry ∈ cut.calls, entry.2 ≠ []) :
    keptFrom cut.spans 0 cut.joined = cut.remainder := by
  obtain ⟨calls, rest⟩ := cut
  cases calls with
  | nil => exact keptFrom_front (List.forall_mem_nil _)
  | cons entry calls =>
    obtain ⟨before, call⟩ := entry
    have hbefore : keptFrom (Cut.spansFrom 0 ((before, call) :: calls)) 0 before = before :=
      keptFrom_front fun _ hmem => Cut.start_le_of_mem_spansFrom hmem
    have hinside :
        keptFrom (Cut.spansFrom 0 ((before, call) :: calls)) (0 + before.length) call = [] :=
      keptFrom_of_mem List.mem_cons_self
    have hafter := keptFrom_spansFrom (0 + before.length) (0 + before.length + call.length)
      (List.forall_mem_cons.mp hcalls).2 rest
    rw [Cut.joined_cons, List.append_assoc, keptFrom_append, keptFrom_append, Cut.spans, hbefore,
      hinside, List.nil_append, Cut.remainder_cons]
    exact congrArg (before ++ ·) hafter

end Deleted

section Offsets

/-- Delete what lies between given offsets into the bytes of a text, from `offset` on, and each
semicolon right behind such a part. There is no result if an offset does not fall between two
characters, or lies before the last one. -/
def removeOffsets? (text : List Char) : (offset : Nat) → List (Nat × Nat) → Option (List Char)
  | offset, [] => slice? text offset (byteLength text)
  | offset, (start, stop) :: spans =>
      (slice? text offset start).bind fun kept =>
        (splitAtByte? stop text).bind fun halves =>
          let next := if halves.2.head? = some ';' then stop + 1 else stop
          (removeOffsets? text next spans).map (kept ++ ·)

theorem exists_semicolon (text : List Char) :
    ∃ semicolon, text = semicolon ++ Cut.dropSemicolon text ∧
      byteLength semicolon = if text.head? = some ';' then 1 else 0 := by
  cases text with
  | nil => exact ⟨[], rfl, rfl⟩
  | cons c rest =>
    by_cases hc : c = ';'
    · subst hc
      exact ⟨[';'], rfl, rfl⟩
    · exact ⟨[], by simp [Cut.dropSemicolon, hc], by simp [hc, byteLength]; rfl⟩

theorem exists_cursor (front : List Char) {part behind : List Char}
    (hhead : behind.head? = some ';' ↔ part.head? = some ';') :
    ∃ semicolon, part = semicolon ++ Cut.dropSemicolon part ∧
      (if behind.head? = some ';' then byteLength front + 1 else byteLength front) =
        byteLength (front ++ semicolon) := by
  obtain ⟨semicolon, hpart, hlength⟩ := exists_semicolon part
  refine ⟨semicolon, hpart, ?_⟩
  rw [Text.byteLength_append, hlength]
  simp only [hhead]
  split <;> rfl

/-- Two calls of which the later one follows at once, and has a semicolon of its own at
its start. -/
def Cut.Clash (entry : List Char × List Char) : Prop :=
  entry.1 = [] ∧ entry.2.head? = some ';'

instance : DecidablePred Cut.Clash :=
  fun entry => inferInstanceAs (Decidable (entry.1 = [] ∧ entry.2.head? = some ';'))

/-- Behind a call, deleting goes on behind its semicolon, and leaves the rest without the later
calls. Where a call clashes with the one before it, its own semicolon is taken for the other's. -/
theorem removeOffsets?_spansFrom {calls : List (List Char × List Char)}
    (hcalls : ∀ entry ∈ calls, entry.2 ≠ []) (front rest : List Char) :
    let behind := Cut.joined ⟨calls, rest⟩
    removeOffsets? (front ++ behind)
        (if behind.head? = some ';' then byteLength front + 1 else byteLength front)
        ((Cut.spansFrom front.length calls).map (byteSpan (front ++ behind))) =
      if ∃ entry ∈ calls, Cut.Clash entry then none else some (Cut.trimmed ⟨calls, rest⟩) := by
  induction calls generalizing front with
  | nil =>
    obtain ⟨semicolon, hrest, hcursor⟩ := exists_cursor front (Iff.refl (rest.head? = some ';'))
    have hslice := Text.slice?_rest (front ++ semicolon) (Cut.dropSemicolon rest)
    rw [List.append_assoc, ← hrest] at hslice
    rw [if_neg (by simp)]
    exact (congrArg (slice? (front ++ rest) · _) hcursor).trans hslice
  | cons entry calls ih =>
    obtain ⟨before, call⟩ := entry
    obtain ⟨hcall, hcalls⟩ := List.forall_mem_cons.mp hcalls
    have hwhole : front ++ Cut.joined ⟨(before, call) :: calls, rest⟩ =
        front ++ before ++ call ++ Cut.joined ⟨calls, rest⟩ := by
      simp only [Cut.joined_cons, List.append_assoc]
    by_cases hclash : Cut.Clash (before, call)
    · obtain ⟨rfl, hsemicolon⟩ := hclash
      have hhead : (Cut.joined ⟨([], call) :: calls, rest⟩).head? = some ';' := by
        rw [Cut.joined_cons, List.nil_append, List.head?_append_of_ne_nil _ hcall, hsemicolon]
      have hback : slice? (front ++ Cut.joined ⟨([], call) :: calls, rest⟩) (byteLength front + 1)
          (byteLength front) = none :=
        Text.slice?_backwards (Nat.lt_succ_self _) _
      have hspan : byteSpan (front ++ Cut.joined ⟨([], call) :: calls, rest⟩)
          (front.length, (front ++ call).length) =
              (byteLength front, byteLength (front ++ call)) := by
        rw [hwhole, List.append_nil, Text.byteSpan_append]
      have hfound : ∃ entry ∈ ([], call) :: calls, Cut.Clash entry :=
        ⟨_, List.mem_cons_self, rfl, hsemicolon⟩
      dsimp only
      rw [if_pos hfound, if_pos hhead, Cut.spansFrom_cons, List.append_nil, List.map_cons, hspan,
        removeOffsets?, hback, Option.bind_none]
    · have hhead : (Cut.joined ⟨(before, call) :: calls, rest⟩).head? = some ';' ↔
          before.head? = some ';' := by
        rw [Cut.joined_cons, List.append_assoc]
        cases before with
        | nil => simpa [List.head?_append_of_ne_nil _ hcall, Cut.Clash] using hclash
        | cons => rfl
      obtain ⟨semicolon, hbefore, hcursor⟩ := exists_cursor front hhead
      have hrest := ih hcalls (front ++ before ++ call)
      have hslice : slice? (front ++ before ++ call ++ Cut.joined ⟨calls, rest⟩)
          (byteLength (front ++ semicolon)) (byteLength (front ++ before)) =
            some (Cut.dropSemicolon before) := by
        have hslice := Text.slice?_append (front ++ semicolon) (Cut.dropSemicolon before)
          (call ++ Cut.joined ⟨calls, rest⟩)
        rw [List.append_assoc front, ← hbefore] at hslice
        rwa [List.append_assoc (front ++ before)]
      have hlater : (∃ entry ∈ (before, call) :: calls, Cut.Clash entry) ↔
          ∃ entry ∈ calls, Cut.Clash entry := by
        rw [List.exists_mem_cons_iff, or_iff_right hclash]
      dsimp only at hrest ⊢
      rw [hcursor, hwhole, Cut.spansFrom_cons, List.map_cons, Text.byteSpan_append, removeOffsets?,
        hslice, Option.bind_some, Text.splitAtByte?_byteLength, Option.bind_some]
      dsimp only
      rw [hrest, Cut.trimmed_cons, apply_ite (Option.map _), Option.map_none, Option.map_some]
      exact if_congr hlater.symm rfl rfl

theorem removeOffsets?_spans (cut : Cut) (hcalls : ∀ entry ∈ cut.calls, entry.2 ≠ []) :
    removeOffsets? cut.joined 0 (cut.spans.map (byteSpan cut.joined)) =
      if ∃ entry ∈ cut.calls.tail, Cut.Clash entry then none else some cut.remainder := by
  obtain ⟨calls, rest⟩ := cut
  cases calls with
  | nil => exact Text.slice?_rest [] rest
  | cons entry calls =>
    obtain ⟨before, call⟩ := entry
    have hrest := removeOffsets?_spansFrom (List.forall_mem_cons.mp hcalls).2 (before ++ call) rest
    have hspans : Cut.spans ⟨(before, call) :: calls, rest⟩ =
        (before.length, (before ++ call).length) :: Cut.spansFrom (before ++ call).length calls :=
      Cut.spansFrom_cons [] before call calls
    dsimp only at hrest
    have hslice : slice? (before ++ call ++ Cut.joined ⟨calls, rest⟩) 0 (byteLength before) =
        some before := by
      rw [List.append_assoc]
      exact Text.slice?_append [] before (call ++ Cut.joined ⟨calls, rest⟩)
    rw [Cut.joined_cons, hspans, List.map_cons, Text.byteSpan_append, removeOffsets?, hslice,
      Option.bind_some, Text.splitAtByte?_byteLength, Option.bind_some]
    dsimp only
    rw [hrest, Cut.remainder_cons, apply_ite (Option.map _), Option.map_none, Option.map_some,
      List.tail_cons]

/-- Of any two calls the later one does not follow at once. -/
def Apart (spans : List (Nat × Nat)) : Prop :=
  spans.Pairwise fun one next => one.2 < next.1

instance (spans : List (Nat × Nat)) : Decidable (Apart spans) :=
  inferInstanceAs (Decidable (spans.Pairwise _))

theorem apart_spansFrom (offset : Nat) (calls : List (List Char × List Char)) :
    Apart (Cut.spansFrom offset calls) ↔ ∀ entry ∈ calls.tail, entry.1 ≠ [] := by
  induction calls generalizing offset with
  | nil => exact iff_of_true .nil (List.forall_mem_nil _)
  | cons entry calls ih =>
    obtain ⟨before, call⟩ := entry
    rw [Cut.spansFrom, Apart, List.pairwise_cons, ← Apart, ih, List.tail_cons]
    cases calls with
    | nil => simp [Cut.spansFrom]
    | cons next calls =>
      obtain ⟨between, later⟩ := next
      rw [List.tail_cons, List.forall_mem_cons, and_congr_left_iff]
      intro _
      constructor
      · intro h
        have hfirst : 0 < between.length := by simpa using h _ List.mem_cons_self
        exact List.ne_nil_of_length_pos hfirst
      · intro hsome span hspan
        have hpos : 0 < between.length := List.length_pos_of_ne_nil hsome
        have hle := (Cut.start_le_of_mem_spansFrom hspan).1
        dsimp only
        omega

end Offsets

/-- For every opening that ends in a parenthesis and every text: the search over offsets ends,
counts the open parentheses never below zero and cuts the text only between characters; it finds
exactly the calls of the text. Deleting them with the semicolons behind them leaves the rest. The
deletion stays within the text, except where calls that start with a semicolon follow each other
at once. -/
theorem cutCalls_exact (name text : List Char) :
    let opening := name ++ ['(']
    let cut := cutCalls opening text
    let offsets := cut.spans.map (byteSpan text)
    SpansOf opening text cut.spans ∧
      callOffsets? opening text (text.length + 1) 0 = some offsets ∧
      (offsets.map fun span => slice? text span.1 span.2) = cut.callTexts.map some ∧
      cut.remainder = keptFrom cut.spans 0 text ∧
      removeOffsets? text 0 offsets =
        if name.head? = some ';' ∧ ¬ Apart cut.spans then none else some cut.remainder := by
  have hopening : name ++ ['('] ≠ [] := by simp
  have hcut := cutInto_cutCalls hopening text
  have hspans := spansOf_cutCalls hopening text
  have hsearch := hcut.callOffsets?_eq [] (Nat.lt_succ_self text.length)
  have hcalls := hcut.prefix_of_mem
  have hjoined := hcut.joined_eq
  dsimp only
  generalize cutCalls (name ++ ['(']) text = cut at *
  subst hjoined
  have hnonempty (entry : List Char × List Char) (hmem : entry ∈ cut.calls) : entry.2 ≠ [] :=
    (hcalls entry hmem).ne_nil hopening
  have hstart (entry : List Char × List Char) (hmem : entry ∈ cut.calls) :
      entry.2.head? = some ';' ↔ name.head? = some ';' := by
    obtain ⟨more, hcall⟩ := hcalls entry hmem
    rw [← hcall]
    cases name <;> simp
  have hclash : (∃ entry ∈ cut.calls.tail, Cut.Clash entry) ↔
      name.head? = some ';' ∧ ¬ Apart cut.spans := by
    rw [Cut.spans, apart_spansFrom]
    constructor
    · rintro ⟨entry, hmem, hnone, hsemicolon⟩
      exact ⟨(hstart entry (List.mem_of_mem_tail hmem)).mp hsemicolon, fun h => h entry hmem hnone⟩
    · rintro ⟨hname, hnot⟩
      simp only [not_forall, not_not] at hnot
      obtain ⟨entry, hmem, hnone⟩ := hnot
      exact ⟨entry, hmem, hnone, (hstart entry (List.mem_of_mem_tail hmem)).mpr hname⟩
  refine ⟨hspans, hsearch, cut.slices_spans, (keptFrom_spans cut hnonempty).symm, ?_⟩
  rw [removeOffsets?_spans cut hnonempty]
  exact if_congr hclash rfl rfl

example :
    let text := "é setcpm(60*(2));a setcpm((1".toList
    callOffsets? tempoOpening text (text.length + 1) 0 = some [(3, 17), (20, 29)] ∧
      removeOffsets? text 0 [(3, 17), (20, 29)] = some "é a ".toList := by
  decide +kernel

/-- Behind the first of these calls the semicolon of the second is skipped, and then its start
lies behind. -/
theorem adjacent_calls_leave_bounds :
    ¬ ∀ name text : List Char,
      let cut := cutCalls (name ++ ['(']) text
      removeOffsets? text 0 (cut.spans.map (byteSpan text)) = some (keptFrom cut.spans 0 text) := by
  intro h
  have hspans : (cutCalls ";(".toList ";();()".toList).spans.map (byteSpan ";();()".toList) =
      [(0, 3), (3, 6)] := by
    decide +kernel
  have hnone : removeOffsets? ";();()".toList 0 [(0, 3), (3, 6)] = none := by decide +kernel
  have hsome := h [';'] ";();()".toList
  rw [← hspans] at hnone
  cases hnone.symm.trans hsome

end Patchbay.Program
