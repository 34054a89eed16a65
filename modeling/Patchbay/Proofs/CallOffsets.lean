import Patchbay.Proofs.CallSpans

namespace Patchbay.Program

open Text (byteLength byteSpan splitAtByte? slice?)

variable {opening text before kept : List Char} {cut : Cut} {span : Nat × Nat}

section Search

/-- The offset behind the parenthesis that closes the last open one, else that of the end of the
text. There is no result if a parenthesis closes while none is open. -/
def closingOffset? : (depth offset : Nat) → List Char → Option Nat
  | _, offset, [] => some offset
  | depth, offset, c :: rest =>
      let next := offset + byteLength [c]
      if c = '(' then closingOffset? (depth + 1) next rest
      else if c = ')' then
        if depth = 0 then none
        else if depth = 1 then some next
        else closingOffset? (depth - 1) next rest
      else closingOffset? depth next rest

/-- The search for calls over offsets into the bytes of a text: it looks for the next opening from
the end of the last call on, and counts parentheses from the one that ends the opening. There is no
result if an offset does not fall between two characters, or if the rounds are used up. -/
def callOffsets? (opening text : List Char) : (rounds offset : Nat) → Option (List (Nat × Nat))
  | 0, _ => none
  | rounds + 1, offset =>
      (splitAtByte? offset text).bind fun halves =>
        match findOpening opening halves.2 [] with
        | none => some []
        | some (before, _) =>
            let start := offset + byteLength before
            let parenthesis := start + byteLength opening - 1
            (splitAtByte? parenthesis text).bind fun halves =>
              (closingOffset? 0 parenthesis halves.2).bind fun stop =>
                (callOffsets? opening text rounds stop).map ((start, stop) :: ·)

theorem takeCall_done (depth : Nat) (text done : List Char) :
    takeCall depth text done =
      (done.reverse ++ (takeCall depth text []).1, (takeCall depth text []).2) := by
  induction text generalizing depth done with
  | nil => simp [takeCall]
  | cons c rest ih =>
    rw [takeCall, takeCall]
    split
    · rw [ih _ (c :: done), ih _ [c]]
      simp
    · split
      · split
        · simp
        · rw [ih _ (c :: done), ih _ [c]]
          simp
      · rw [ih _ (c :: done), ih _ [c]]
        simp

theorem byteLength_takeCall_singleton (depth : Nat) (c : Char) (rest : List Char) :
    byteLength (takeCall depth rest [c]).1 =
      byteLength [c] + byteLength (takeCall depth rest []).1 := by
  rw [takeCall_done, List.reverse_singleton, Text.byteLength_append]

/-- As long as a parenthesis is open, the count of the open ones never falls below zero, and it ends
where the call does. -/
theorem closingOffset?_eq (depth offset : Nat) (text : List Char) :
    closingOffset? (depth + 1) offset text =
      some (offset + byteLength (takeCall (depth + 1) text []).1) := by
  induction text generalizing depth offset with
  | nil => rfl
  | cons c rest ih =>
    rw [closingOffset?, takeCall]
    split
    · rw [ih, byteLength_takeCall_singleton, Nat.add_assoc]
    · split
      · rw [if_neg (Nat.succ_ne_zero depth)]
        cases depth with
        | zero => rfl
        | succ depth =>
          rw [if_neg (by omega), if_neg (by omega), Nat.add_sub_cancel, ih,
            byteLength_takeCall_singleton, Nat.add_assoc]
      · rw [ih, byteLength_takeCall_singleton, Nat.add_assoc]

/-- The search over offsets finds the calls of a text, whatever stands in front of it. -/
theorem CutInto.callOffsets?_eq {name : List Char} (h : CutInto (name ++ ['(']) text cut)
    (front : List Char)
    {rounds : Nat} (hrounds : text.length < rounds) :
    callOffsets? (name ++ ['(']) (front ++ text) rounds (byteLength front) =
      some ((Cut.spansFrom front.length cut.calls).map (byteSpan (front ++ text))) := by
  induction h generalizing front rounds with
  | @whole text hnone =>
    obtain ⟨rounds, rfl⟩ := Nat.exists_eq_succ_of_ne_zero (Nat.ne_zero_of_lt hrounds)
    have hfind := (findOpening_eq_none_iff (by simp) []).mpr hnone
    rw [callOffsets?, Text.splitAtByte?_byteLength, Option.bind_some, hfind]
    rfl
  | @call text before kept cut hfind _ ih =>
    obtain ⟨rounds, rfl⟩ := Nat.exists_eq_succ_of_ne_zero (Nat.ne_zero_of_lt hrounds)
    have htext := text_eq_of_findOpening hfind
    have hkept : text = before ++ (name ++ ['('] ++ kept) := by
      obtain ⟨_, rfl, rfl, _⟩ := findOpening_split hfind
      rfl
    generalize hcall : name ++ ['('] ++ (takeCall 1 kept []).1 = call at htext ⊢
    have hfull : front ++ text = front ++ before ++ call ++ (takeCall 1 kept []).2 := by
      simp [htext]
    have hsplit : front ++ text = front ++ before ++ name ++ '(' :: kept := by simp [hkept]
    have hparenthesis : byteLength front + byteLength before + byteLength (name ++ ['(']) - 1 =
        byteLength (front ++ before ++ name) := by
      have hone : byteLength ['('] = 1 := rfl
      simp only [Text.byteLength_append, hone]
      omega
    have hstop : closingOffset? 0 (byteLength (front ++ before ++ name)) ('(' :: kept) =
        some (byteLength (front ++ before ++ call)) := by
      rw [closingOffset?, if_pos rfl, closingOffset?_eq, ← hcall]
      simp only [Text.byteLength_append, Nat.add_assoc]
    have hlater : (takeCall 1 kept []).2.length < rounds := by
      have hpos : 0 < call.length := List.length_pos_of_ne_nil (by simp [← hcall])
      rw [htext] at hrounds
      simp only [List.length_append] at hrounds
      omega
    have hrest := ih (front ++ before ++ call) hlater
    rw [← hfull] at hrest
    rw [callOffsets?, Text.splitAtByte?_byteLength, Option.bind_some, hfind]
    dsimp only
    rw [hparenthesis, hsplit, Text.splitAtByte?_byteLength, Option.bind_some, hstop,
      Option.bind_some, ← hsplit, hrest, Option.map_some, Cut.spansFrom_cons, List.map_cons, hfull,
      Text.byteSpan_append, Text.byteLength_append front before]

end Search

section Slices

def Cut.joined (cut : Cut) : List Char :=
  (cut.calls.flatMap fun entry => entry.1 ++ entry.2) ++ cut.rest

theorem Cut.joined_cons (before call rest : List Char) (calls : List (List Char × List Char)) :
    Cut.joined ⟨(before, call) :: calls, rest⟩ = before ++ call ++ Cut.joined ⟨calls, rest⟩ := by
  simp [Cut.joined]

theorem CutInto.joined_eq (h : CutInto opening text cut) : cut.joined = text := by
  induction h with
  | whole => rfl
  | call hfind _ ih => rw [Cut.joined_cons, ih, ← text_eq_of_findOpening hfind]

theorem CutInto.prefix_of_mem (h : CutInto opening text cut) :
    ∀ entry ∈ cut.calls, opening <+: entry.2 := by
  induction h with
  | whole => exact List.forall_mem_nil _
  | call _ _ ih => exact List.forall_mem_cons.mpr ⟨List.prefix_append opening _, ih⟩

theorem slices_spansFrom (calls : List (List Char × List Char)) (front rest : List Char) :
    let whole := front ++ Cut.joined ⟨calls, rest⟩
    ((Cut.spansFrom front.length calls).map (byteSpan whole)).map
    (fun span => slice? whole span.1 span.2) =
      (calls.map (·.2)).map some := by
  induction calls generalizing front with
  | nil => rfl
  | cons entry calls ih =>
    obtain ⟨before, call⟩ := entry
    dsimp only
    have hwhole : front ++ Cut.joined ⟨(before, call) :: calls, rest⟩ =
        front ++ before ++ call ++ Cut.joined ⟨calls, rest⟩ := by
      simp only [Cut.joined_cons, List.append_assoc]
    rw [hwhole, Cut.spansFrom_cons, List.map_cons, List.map_cons, Text.byteSpan_append,
      Text.slice?_append, List.map_cons, List.map_cons]
    exact congrArg (some call :: ·) (ih (front ++ before ++ call))

theorem Cut.slices_spans (cut : Cut) :
    ((cut.spans.map (byteSpan cut.joined)).map fun span => slice? cut.joined span.1 span.2) =
      cut.callTexts.map some :=
  slices_spansFrom cut.calls [] cut.rest

end Slices

end Patchbay.Program
