import Patchbay.Proofs.ByteOffsets
import Patchbay.Proofs.CallLines

namespace Patchbay.Program

variable {opening text before found kept : List Char} {cut : Cut} {span : Nat × Nat}

section Places

/-- A call has its place in a text: it ends with the parenthesis that closes its opening's, or, if
there is none, with the text. -/
inductive IsCall (opening : List Char) : (text : List Char) → (span : Nat × Nat) → Prop where
  | closed (front rest : List Char) {inner : List Char} (hinner : closesAll 0 inner) :
      IsCall opening (front ++ (opening ++ inner ++ [')']) ++ rest)
        (front.length, (front ++ (opening ++ inner ++ [')'])).length)
  | unclosed (front : List Char) {kept : List Char}
      (hkept : ∀ inner rest, kept = inner ++ ')' :: rest → ¬ closesAll 0 inner) :
      IsCall opening (front ++ (opening ++ kept)) (front.length,
        (front ++ (opening ++ kept)).length)

theorem IsCall.start_lt (hopening : opening ≠ []) (h : IsCall opening text span) :
    span.1 < span.2 := by
  have hpos := List.length_pos_of_ne_nil hopening
  cases h <;> simp only [List.length_append] <;> omega

theorem IsCall.stop_le (h : IsCall opening text span) : span.2 ≤ text.length := by
  cases h with
  | closed front rest => exact (List.prefix_append _ rest).length_le
  | unclosed => exact Nat.le_refl _

theorem takeCall_of_unclosed {depth : Nat}
    (h : ∀ inner rest, text = inner ++ ')' :: rest → ¬ closesAll depth inner)
    (done : List Char) : takeCall (depth + 1) text done = (done.reverse ++ text, []) := by
  induction text generalizing depth done with
  | nil => rw [takeCall, List.append_nil]
  | cons c rest ih =>
    have htail {inner after : List Char} (hrest : rest = inner ++ ')' :: after) :
        ¬ closesAll depth (c :: inner) :=
      h (c :: inner) after (congrArg (c :: ·) hrest)
    rw [takeCall]
    split
    · next hopen =>
      simp only [closesAll, if_pos hopen] at htail
      rw [ih fun _ _ => htail]
      simp
    · next hopen =>
      split
      · next hclose =>
        -- The parenthesis that would close the call is the one that is not there.
        obtain ⟨depth, rfl⟩ : ∃ outer, depth = outer + 1 := by
          refine Nat.exists_eq_succ_of_ne_zero ?_
          rintro rfl
          exact h [] rest (congrArg (· :: rest) hclose) rfl
        simp only [closesAll, if_neg hopen, if_pos hclose, Nat.add_sub_cancel] at htail
        rw [if_neg (by omega), Nat.add_sub_cancel, ih fun _ _ hrest => by simpa using htail hrest]
        simp
      · next hclose =>
        simp only [closesAll, if_neg hopen, if_neg hclose] at htail
        rw [ih fun _ _ => htail]
        simp

theorem isCall_takeCall (front kept : List Char) :
    IsCall opening (front ++ (opening ++ kept))
      (front.length, (front ++ (opening ++ (takeCall 1 kept []).1)).length) := by
  by_cases hclosed : ∃ inner rest, kept = inner ++ ')' :: rest ∧ closesAll 0 inner
  · obtain ⟨inner, rest, rfl, hinner⟩ := hclosed
    have hcall : IsCall opening (front ++ (opening ++ inner ++ [')']) ++ rest) _ :=
      .closed front rest hinner
    rw [takeCall_of_closesAll hinner]
    simpa using hcall
  · have hkept : ∀ inner rest, kept = inner ++ ')' :: rest → ¬ closesAll 0 inner :=
      fun inner rest hsplit hinner => hclosed ⟨inner, rest, hsplit, hinner⟩
    rw [takeCall_of_unclosed hkept]
    exact .unclosed front hkept

end Places

section Order

theorem Cut.spansFrom_cons (front before call : List Char) (calls : List (List Char × List Char)) :
    Cut.spansFrom front.length ((before, call) :: calls) =
      ((front ++ before).length, (front ++ before ++ call).length) ::
        Cut.spansFrom (front ++ before ++ call).length calls := by
  simp only [Cut.spansFrom, List.length_append]

theorem Cut.le_of_mem_spansFrom {offset : Nat} {calls : List (List Char × List Char)}
    (h : span ∈ Cut.spansFrom offset calls) : offset ≤ span.1 ∧ span.1 ≤ span.2 := by
  induction calls generalizing offset with
  | nil => cases h
  | cons entry calls ih =>
    rcases List.mem_cons.mp h with rfl | hmem
    · dsimp only
      omega
    · have hle := ih hmem
      omega

theorem Cut.start_le_of_mem_spansFrom {offset : Nat} {before call : List Char}
    {calls : List (List Char × List Char)}
    (h : span ∈ Cut.spansFrom offset ((before, call) :: calls)) :
    offset + before.length ≤ span.1 ∧ span.1 ≤ span.2 := by
  rcases List.mem_cons.mp h with rfl | hmem
  · exact ⟨Nat.le_refl _, Nat.le_add_right _ _⟩
  · have hle := Cut.le_of_mem_spansFrom hmem
    omega

theorem Cut.pairwise_spansFrom (offset : Nat) (calls : List (List Char × List Char)) :
    (Cut.spansFrom offset calls).Pairwise fun one next => one.2 ≤ next.1 := by
  induction calls generalizing offset with
  | nil => exact .nil
  | cons entry calls ih => exact .cons (fun _ hmem => (Cut.le_of_mem_spansFrom hmem).1) (ih _)

end Order

section Found

theorem findOpening_first {done : List Char}
    (h : findOpening opening text done = some (before, found)) :
    ∀ place, opening <+: text.drop place → before.length ≤ done.length + place := by
  induction text generalizing done with
  | nil => cases h
  | cons c rest ih =>
    intro place hstart
    rw [findOpening] at h
    split at h
    · cases h
      simp
    · next hfirst =>
      cases place with
      | zero => exact absurd (List.isPrefixOf_iff_prefix.mpr hstart) hfirst
      | succ place =>
        have hle := ih h place hstart
        rw [List.length_cons] at hle
        omega

theorem text_eq_of_findOpening (h : findOpening opening text [] = some (before, opening ++ kept)) :
    text = before ++ (opening ++ (takeCall 1 kept []).1) ++ (takeCall 1 kept []).2 := by
  obtain ⟨_, rfl, rfl, _⟩ := findOpening_split h
  have hsplit := takeCall_split 1 kept []
  rw [List.reverse_nil, List.nil_append] at hsplit
  rw [List.append_assoc, List.append_assoc, hsplit]

theorem CutInto.isCall (h : CutInto opening text cut) (front : List Char) :
    ∀ span ∈ Cut.spansFrom front.length cut.calls, IsCall opening (front ++ text) span := by
  induction h generalizing front with
  | whole => exact List.forall_mem_nil _
  | @call text before kept cut hfind _ ih =>
    have htext := text_eq_of_findOpening hfind
    rw [Cut.spansFrom_cons, List.forall_mem_cons]
    constructor
    · have hcall : IsCall opening (front ++ before ++ (opening ++ kept)) _ :=
        isCall_takeCall (front ++ before) kept
      obtain ⟨_, rfl, rfl, _⟩ := findOpening_split hfind
      simpa using hcall
    · have hrest := ih (front ++ before ++ (opening ++ (takeCall 1 kept []).1))
      rw [htext]
      simpa only [List.append_assoc] using hrest

theorem CutInto.exists_span (h : CutInto opening text cut) (offset : Nat) :
    ∀ place, opening <+: text.drop place →
      ∃ span ∈ Cut.spansFrom offset cut.calls, span.1 ≤ offset + place ∧
        offset + place < span.2 := by
  induction h generalizing offset with
  | @whole text hnone =>
    intro place hstart
    exact absurd (hstart.isInfix.trans (List.drop_suffix place text).isInfix) hnone
  | @call text before kept cut hfind _ ih =>
    intro place hstart
    have hfirst := findOpening_first hfind place hstart
    have htext := text_eq_of_findOpening hfind
    by_cases hin : place < (before ++ (opening ++ (takeCall 1 kept []).1)).length
    · refine ⟨_, List.mem_cons_self, ?_⟩
      simp only [List.length_append, List.length_nil] at hin hfirst ⊢
      omega
    · obtain ⟨further, rfl⟩ := Nat.exists_eq_add_of_le (Nat.not_lt.mp hin)
      rw [htext, List.drop_length_add_append] at hstart
      obtain ⟨span, hmem, hspan⟩ := ih _ further hstart
      refine ⟨span, List.mem_cons_of_mem _ hmem, ?_⟩
      simp only [List.length_append] at hspan ⊢
      omega

/-- The places at which a text holds calls: they follow each other, and no other place holds one. -/
structure SpansOf (opening text : List Char) (spans : List (Nat × Nat)) : Prop where
  isCall : ∀ span ∈ spans, IsCall opening text span
  within : ∀ span ∈ spans, span.1 < span.2 ∧ span.2 ≤ text.length
  ordered : spans.Pairwise fun one next => one.2 ≤ next.1
  all : ∀ place, opening <+: text.drop place → ∃ span ∈ spans, span.1 ≤ place ∧ place < span.2

theorem spansOf_cutCalls (hopening : opening ≠ []) (text : List Char) :
    SpansOf opening text (cutCalls opening text).spans where
  isCall := (cutInto_cutCalls hopening text).isCall []
  within span hspan :=
    have hcall := (cutInto_cutCalls hopening text).isCall [] span hspan
    ⟨hcall.start_lt hopening, hcall.stop_le⟩
  ordered := Cut.pairwise_spansFrom 0 _
  all place hstart := by
    obtain ⟨span, hmem, hspan⟩ := (cutInto_cutCalls hopening text).exists_span 0 place hstart
    rw [Nat.zero_add] at hspan
    exact ⟨span, hmem, hspan⟩

end Found

end Patchbay.Program
