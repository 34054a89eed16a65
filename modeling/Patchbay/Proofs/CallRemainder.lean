import Patchbay.Proofs.CallRemoval

namespace Patchbay.Program

variable {opening text before left : List Char} {cut : Cut} {c : Char}

/-- What is left of a text without its calls: a character with which no call starts stays, and a
call goes, with the semicolon right behind it, or with all that follows if nothing closes it. -/
inductive Leaves (opening : List Char) : (text left : List Char) → Prop where
  | nil : Leaves opening [] []
  | char {c : Char} {rest left : List Char} (hstart : ¬ opening <+: c :: rest)
    (hrest : Leaves opening rest left) :
      Leaves opening (c :: rest) (c :: left)
  | closed {inner rest left : List Char} (hinner : closesAll 0 inner)
      (hrest : Leaves opening (Cut.dropSemicolon rest) left) :
      Leaves opening (opening ++ inner ++ ')' :: rest) left
  | unclosed {kept : List Char} (hkept : ∀ inner rest,
    kept = inner ++ ')' :: rest → ¬ closesAll 0 inner) :
      Leaves opening (opening ++ kept) []

section Push

def Cut.push (c : Char) : Cut → Cut
  | ⟨[], rest⟩ => ⟨[], c :: rest⟩
  | ⟨(before, call) :: calls, rest⟩ => ⟨(c :: before, call) :: calls, rest⟩

theorem Cut.remainder_push (c : Char) (cut : Cut) :
    (cut.push c).remainder = c :: cut.remainder := by
  obtain ⟨calls, rest⟩ := cut
  cases calls <;> rfl

theorem Cut.trimmed_push (cut : Cut) : (cut.push ';').trimmed = cut.remainder := by
  obtain ⟨calls, rest⟩ := cut
  cases calls with
  | nil => rfl
  | cons entry calls =>
    obtain ⟨before, call⟩ := entry
    rw [Cut.push, Cut.trimmed_cons, Cut.remainder_cons]
    rfl

theorem findOpening_done {found : List Char}
    (h : findOpening opening text [] = some (before, found))
    (done : List Char) : findOpening opening text done = some (done.reverse ++ before, found) := by
  obtain ⟨passed, hpassed⟩ := exists_findOpening h done
  obtain ⟨_, rfl, htext, _⟩ := findOpening_split h
  obtain ⟨_, rfl, htext', _⟩ := findOpening_split hpassed
  obtain rfl := List.append_cancel_right (htext.symm.trans htext')
  exact hpassed

theorem CutInto.push (hstart : ¬ opening <+: c :: text) (h : CutInto opening text cut) :
    CutInto opening (c :: text) (cut.push c) := by
  cases h with
  | whole hnone =>
    refine .whole ?_
    rw [List.infix_cons_iff, not_or]
    exact ⟨hstart, hnone⟩
  | call hfind hrest =>
    refine .call ?_ hrest
    rw [findOpening, if_neg (List.isPrefixOf_iff_prefix.not.mpr hstart)]
    exact findOpening_done hfind [c]

theorem cutCalls_cons (hopening : opening ≠ []) (hstart : ¬ opening <+: c :: text) :
    cutCalls opening (c :: text) = (cutCalls opening text).push c :=
  CutInto.unique hopening ((cutInto_cutCalls hopening text).push hstart)

end Push

section Semicolons

theorem not_prefix_cons (hopening : opening ≠ []) (hc : opening.head? ≠ some c) (text : List Char) :
    ¬ opening <+: c :: text := by
  intro hstart
  rcases List.prefix_cons_iff.mp hstart with hnil | ⟨tail, rfl, _⟩
  · exact hopening hnil
  · exact hc rfl

theorem dropSemicolon_of_head? (h : text.head? ≠ some ';') : Cut.dropSemicolon text = text := by
  cases text with
  | nil => rfl
  | cons c rest =>
    have hc : c ≠ ';' := fun hc => h (congrArg some hc)
    simp [Cut.dropSemicolon, hc]

theorem isSuffix_dropSemicolon (text : List Char) : Cut.dropSemicolon text <:+ text := by
  obtain ⟨semicolon, htext, _⟩ := exists_semicolon text
  exact ⟨semicolon, htext.symm⟩

theorem Cut.trimmed_of_head? (h : cut.joined.head? ≠ some ';') : cut.trimmed = cut.remainder := by
  obtain ⟨calls, rest⟩ := cut
  cases calls with
  | nil => exact dropSemicolon_of_head? h
  | cons entry calls =>
    obtain ⟨before, call⟩ := entry
    rw [Cut.trimmed_cons, Cut.remainder_cons]
    cases before with
    | nil => rfl
    | cons c before =>
      have hsame : Cut.dropSemicolon (c :: before) = c :: before := dropSemicolon_of_head? h
      rw [hsame]

theorem trimmed_cutCalls (hopening : opening ≠ []) (hsemicolon : opening.head? ≠ some ';')
    (text : List Char) :
    (cutCalls opening text).trimmed = (cutCalls opening (Cut.dropSemicolon text)).remainder := by
  by_cases hhead : text.head? = some ';'
  · obtain ⟨rest, rfl⟩ := List.head?_eq_some_iff.mp hhead
    rw [cutCalls_cons hopening (not_prefix_cons hopening hsemicolon rest), Cut.trimmed_push]
    rfl
  · have hjoined := (cutInto_cutCalls hopening text).joined_eq
    rw [dropSemicolon_of_head? hhead]
    exact Cut.trimmed_of_head? (by rwa [hjoined])

end Semicolons

section Leaving

variable (hopening : opening ≠ [])

include hopening

theorem remainder_closed (hsemicolon : opening.head? ≠ some ';') {inner : List Char}
    (hinner : closesAll 0 inner)
    (rest : List Char) : (cutCalls opening (opening ++ inner ++ ')' :: rest)).remainder =
      (cutCalls opening (Cut.dropSemicolon rest)).remainder := by
  rw [cutCalls_append hopening hinner, Cut.remainder_cons, List.nil_append]
  exact trimmed_cutCalls hopening hsemicolon rest

theorem remainder_unclosed {kept : List Char}
    (hkept : ∀ inner rest, kept = inner ++ ')' :: rest → ¬ closesAll 0 inner) :
    (cutCalls opening (opening ++ kept)).remainder = [] := by
  have hfind : findOpening opening (opening ++ kept) [] = some ([], opening ++ kept) := by
    obtain ⟨c, tail, rfl⟩ := List.exists_cons_of_ne_nil hopening
    have hstart : (c :: tail).isPrefixOf (c :: (tail ++ kept)) :=
      List.isPrefixOf_iff_prefix.mpr (List.prefix_append (c :: tail) kept)
    rw [List.cons_append, findOpening, if_pos hstart]
    rfl
  have htaken := takeCall_of_unclosed hkept []
  have hnothing : CutInto opening (takeCall 1 kept []).2 ⟨[], []⟩ := by
    rw [htaken]
    exact .whole fun hnil => hopening (List.eq_nil_of_infix_nil hnil)
  rw [CutInto.unique hopening (.call hfind hnothing)]
  rfl

theorem Leaves.remainder_eq (hsemicolon : opening.head? ≠ some ';') (h : Leaves opening text left) :
    (cutCalls opening text).remainder = left := by
  induction h with
  | nil => rfl
  | char hstart _ ih => rw [cutCalls_cons hopening hstart, Cut.remainder_push, ih]
  | closed hinner _ ih => rw [remainder_closed hopening hsemicolon hinner, ih]
  | unclosed hkept => exact remainder_unclosed hopening hkept

/-- What the cut of a text leaves is what the text leaves. The induction is on its length, as the
text behind a call is a part of it. -/
theorem leaves_remainder (hsemicolon : opening.head? ≠ some ';') (text : List Char) :
    Leaves opening text (cutCalls opening text).remainder := by
  suffices hsome : ∃ left, Leaves opening text left by
    obtain ⟨left, hleft⟩ := hsome
    rwa [hleft.remainder_eq hopening hsemicolon]
  induction hlength : text.length using Nat.strongRecOn generalizing text with
  | ind length ih =>
    by_cases hcall : opening <+: text
    · obtain ⟨kept, rfl⟩ := hcall
      by_cases hclosed : ∃ inner rest, kept = inner ++ ')' :: rest ∧ closesAll 0 inner
      · obtain ⟨inner, rest, rfl, hinner⟩ := hclosed
        have hbehind := (isSuffix_dropSemicolon rest).length_le
        simp only [List.length_append, List.length_cons] at hlength
        obtain ⟨left, hleft⟩ := ih _ (by omega) (Cut.dropSemicolon rest) rfl
        rw [← List.append_assoc]
        exact ⟨left, .closed hinner hleft⟩
      · exact ⟨[], .unclosed fun inner rest hsplit hinner => hclosed ⟨inner, rest, hsplit, hinner⟩⟩
    · cases text with
      | nil => exact ⟨[], .nil⟩
      | cons c rest =>
        rw [List.length_cons] at hlength
        obtain ⟨left, hleft⟩ := ih _ (by omega) rest rfl
        exact ⟨c :: left, .char hcall hleft⟩

omit hopening in
theorem Leaves.sublist (h : Leaves opening text left) : left.Sublist text := by
  induction h with
  | nil => exact .slnil
  | char _ _ ih => exact ih.cons_cons _
  | @closed inner rest left _ _ ih =>
    have hbehind : left.Sublist rest := ih.trans (isSuffix_dropSemicolon rest).sublist
    exact (hbehind.cons ')').trans (List.sublist_append_right _ _)
  | unclosed => exact List.nil_sublist _

theorem Leaves.length_eq_iff (h : Leaves opening text left) :
    left.length = text.length ↔ ¬ opening <:+: text := by
  induction h with
  | nil => exact iff_of_true rfl fun hnil => hopening (List.eq_nil_of_infix_nil hnil)
  | char hstart _ ih =>
    rw [List.length_cons, List.length_cons, Nat.succ_inj, ih, List.infix_cons_iff, not_or]
    exact ⟨fun hnone => ⟨hstart, hnone⟩, fun hboth => hboth.2⟩
  | @closed inner rest left _ hrest _ =>
    have hbehind := hrest.sublist.length_le.trans (isSuffix_dropSemicolon rest).length_le
    refine iff_of_false (fun hlength => ?_) (not_not.mpr ?_)
    · simp only [List.length_append, List.length_cons] at hlength
      omega
    · rw [List.append_assoc]
      exact (List.prefix_append opening _).isInfix
  | @unclosed kept _ =>
    have hpos := List.length_pos_of_ne_nil hopening
    refine iff_of_false (fun hlength => ?_) (not_not.mpr (List.prefix_append opening kept).isInfix)
    rw [List.length_nil, List.length_append] at hlength
    omega

end Leaving

end Patchbay.Program
