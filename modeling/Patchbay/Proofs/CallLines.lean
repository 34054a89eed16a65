import Patchbay.Proofs.TempoLine

namespace Patchbay

namespace Text

variable {line blanks : List Char}

/-- A text is its lines: one without a line feed is the last of them. -/
theorem induction_lines {motive : List Char → Prop} (last : ∀ line, '\n' ∉ line → motive line)
    (feed : ∀ line rest, '\n' ∉ line → motive rest → motive (line ++ '\n' :: rest))
    (text : List Char) : motive text := by
  induction hlength : text.length using Nat.strongRecOn generalizing text with
  | ind length ih =>
    by_cases hfeed : '\n' ∈ text
    · obtain ⟨line, rest, rfl, hline⟩ := List.eq_append_cons_of_mem hfeed
      refine feed line rest hline (ih rest.length ?_ rest rfl)
      rw [← hlength, List.length_append, List.length_cons]
      omega
    · exact last text hfeed

theorem lines_of_feedless (h : '\n' ∉ line) :
    lines line = [line].filter fun line => !line.isEmpty := by
  rw [lines, List.splitOn_eq_singleton h]
  rfl

theorem exists_returned (line : List Char) :
    ∃ returned, allBlank returned ∧ line = dropCarriageReturn line ++ returned := by
  unfold dropCarriageReturn
  split
  · next hlast => exact ⟨['\r'], rfl, (List.dropLast_append_getLast? '\r' hlast).symm⟩
  · exact ⟨[], rfl, (List.append_nil line).symm⟩

theorem exists_trailingBlanks (line : List Char) :
    ∃ blanks, allBlank blanks ∧ line = dropTrailingBlanks line ++ blanks := by
  have hsplit := List.rdropWhile_append_rtakeWhile (p := isBlank) (l := line)
  exact ⟨line.rtakeWhile isBlank,
    List.all_eq_true.mpr fun c => List.mem_rtakeWhile_imp, hsplit.symm⟩

theorem allBlank_cons (c : Char) (rest : List Char) :
    allBlank (c :: rest) = (isBlank c && allBlank rest) :=
  rfl

theorem dropTrailingBlanks_append (h : allBlank blanks) (line : List Char) :
    dropTrailingBlanks (line ++ blanks) = dropTrailingBlanks line := by
  have hblank : ∀ c ∈ blanks.reverse, isBlank c := fun c hc =>
    List.all_eq_true.mp h c (List.mem_reverse.mp hc)
  rw [dropTrailingBlanks, dropTrailing, List.reverse_append, List.dropWhile_append_of_pos hblank]
  rfl

theorem infix_append_blanks_iff {needle : List Char} (hneedle : needle ≠ [])
    (hsound : ∀ c ∈ needle, isBlank c = false) (hblanks : allBlank blanks) (line : List Char) :
    needle <:+: line ++ blanks ↔ needle <:+: line := by
  have hnil {part : List Char} (hneeded : part ⊆ needle) (hblank : part ⊆ blanks) : part = [] := by
    refine List.eq_nil_iff_forall_not_mem.mpr fun c hc => ?_
    have htrue := List.all_eq_true.mp hblanks c (hblank hc)
    exact absurd htrue (Bool.eq_false_iff.mp (hsound c (hneeded hc)))
  rw [List.infix_append_iff]
  constructor
  · rintro (hline | hwhole | ⟨front, back, rfl, hfront, hback⟩)
    · exact hline
    · exact absurd (hnil (List.Subset.refl needle) hwhole.subset) hneedle
    · rw [hnil (List.subset_append_right front back) hback.subset, List.append_nil]
      exact hfront.isInfix
  · exact .inl

end Text

namespace Program

variable {opening text kept before found : List Char} {cut : Cut}

section Search

theorem findOpening_append {done : List Char}
    (h : findOpening opening text done = some (before, found))
    (more : List Char) :
    findOpening opening (text ++ more) done = some (before, found ++ more) := by
  induction text generalizing done with
  | nil => cases h
  | cons c rest ih =>
    rw [findOpening] at h
    rw [List.cons_append, findOpening]
    split at h
    · next hstart =>
      cases h
      have hlonger : opening <+: c :: (rest ++ more) :=
        (List.isPrefixOf_iff_prefix.mp hstart).trans (List.prefix_append (c :: rest) more)
      rw [if_pos (List.isPrefixOf_iff_prefix.mpr hlonger)]
      rfl
    · next hstart =>
      -- What is found further on fits into the text, so the opening cannot start here and run over
      -- its end.
      obtain ⟨passed, _, hrest, hfound⟩ := findOpening_split h
      have hfits : opening.length ≤ (c :: rest).length := by
        have hlength := hfound.length_le
        rw [hrest, List.length_cons, List.length_append]
        omega
      have hshort (hlonger : opening <+: c :: (rest ++ more)) : opening <+: c :: rest :=
        List.prefix_of_prefix_length_le hlonger (List.prefix_append (c :: rest) more) hfits
      rw [if_neg fun hlonger => hstart
        (List.isPrefixOf_iff_prefix.mpr (hshort (List.isPrefixOf_iff_prefix.mp hlonger)))]
      exact ih h

theorem exists_findOpening (h : findOpening opening text [] = some (before, found))
    (done : List Char) :
    ∃ passed, findOpening opening text done = some (passed, found) := by
  suffices hany : ∀ start, findOpening opening text start = some (before, found) →
      ∃ passed, findOpening opening text done = some (passed, found) from hany [] h
  clear h
  induction text generalizing done with
  | nil => intro start h; cases h
  | cons c rest ih =>
    intro start h
    rw [findOpening] at h ⊢
    split at h
    · next hstart =>
      cases h
      exact ⟨done.reverse, if_pos hstart⟩
    · next hstart =>
      rw [if_neg hstart]
      exact ih (c :: done) (c :: start) h

theorem findOpening_skip {c : Char} (hc : c ∉ opening) (hnone : ¬ opening <:+: text)
    (rest done : List Char) :
    findOpening opening (text ++ c :: rest) done =
      findOpening opening rest (c :: (text.reverse ++ done)) := by
  have hopening : opening ≠ [] := by
    rintro rfl
    exact hnone List.nil_infix
  have hstop {front : List Char} (hfront : ¬ opening <+: front) :
      ¬ opening <+: front ++ c :: rest := by
    intro hstart
    have hshown : front ++ [c] <+: front ++ c :: rest := ⟨rest, by simp⟩
    rcases List.prefix_or_prefix_of_prefix hstart hshown with hstart | hover
    · rcases List.prefix_concat_iff.mp hstart with heq | hstart
      · exact hc (heq ▸ List.mem_append_right _ (List.mem_singleton_self c))
      · exact hfront hstart
    · exact hc (hover.subset (List.mem_append_right _ (List.mem_singleton_self c)))
  induction text generalizing done with
  | nil =>
    have hstart : ¬ opening <+: [] ++ c :: rest :=
      hstop fun hnil => hopening (List.prefix_nil.mp hnil)
    rw [List.nil_append] at hstart ⊢
    rw [findOpening, if_neg (List.isPrefixOf_iff_prefix.not.mpr hstart)]
    rfl
  | cons d tail ih =>
    rw [List.infix_cons_iff, not_or] at hnone
    have hstart : ¬ opening <+: d :: tail ++ c :: rest := hstop hnone.1
    rw [List.cons_append] at hstart ⊢
    rw [findOpening, if_neg (List.isPrefixOf_iff_prefix.not.mpr hstart), ih hnone.2]
    simp

end Search

/-- How a text is cut at its calls: one that has none stays whole, else the first one is cut off and
what follows it is cut. -/
inductive CutInto (opening : List Char) : List Char → Cut → Prop where
  | whole {text : List Char} (hnone : ¬ opening <:+: text) : CutInto opening text ⟨[], text⟩
  | call {text before kept : List Char} {cut : Cut}
      (hfind : findOpening opening text [] = some (before, opening ++ kept))
      (hrest : CutInto opening (takeCall 1 kept []).2 cut) :
      CutInto opening text ⟨(before, opening ++ (takeCall 1 kept []).1) :: cut.calls, cut.rest⟩

theorem cutInto_cutRounds (hopening : opening ≠ []) {rounds : Nat} (h : text.length ≤ rounds) :
    CutInto opening text (cutRounds opening rounds text) := by
  induction rounds generalizing text with
  | zero =>
    obtain rfl := List.length_eq_zero_iff.mp (Nat.le_zero.mp h)
    exact .whole fun hnil => hopening (List.eq_nil_of_infix_nil hnil)
  | succ rounds ih =>
    rw [cutRounds]
    cases hfind : findOpening opening text [] with
    | none => exact .whole ((findOpening_eq_none_iff hopening []).mp hfind)
    | some split =>
      obtain ⟨before, found⟩ := split
      obtain ⟨passed, _, rfl, kept, rfl⟩ := findOpening_split hfind
      have htaken := congrArg List.length (takeCall_split 1 kept [])
      have hpos : 0 < opening.length := List.length_pos_of_ne_nil hopening
      simp only [List.length_append, List.reverse_nil, List.nil_append] at h htaken
      simp only [List.drop_left]
      exact .call hfind (ih (by omega))

theorem cutInto_cutCalls (hopening : opening ≠ []) (text : List Char) :
    CutInto opening text (cutCalls opening text) :=
  cutInto_cutRounds hopening (Nat.le_refl _)

theorem CutInto.unique (hopening : opening ≠ []) (h : CutInto opening text cut) :
    cutCalls opening text = cut := by
  suffices hany : ∀ other, CutInto opening text other → other = cut from
    hany _ (cutInto_cutCalls hopening text)
  induction h with
  | whole hnone =>
    intro other hother
    cases hother with
    | whole _ => rfl
    | call hfind _ => cases ((findOpening_eq_none_iff hopening []).mpr hnone).symm.trans hfind
  | call hfind _ ih =>
    intro other hother
    cases hother with
    | whole hnone => cases ((findOpening_eq_none_iff hopening []).mpr hnone).symm.trans hfind
    | call hother hrest =>
      obtain ⟨rfl, hkept⟩ := Prod.mk.inj (Option.some.inj (hother.symm.trans hfind))
      obtain rfl := List.append_cancel_left hkept
      rw [ih _ hrest]

section Blanks

variable {line blanks : List Char}

/-- Blanks after a call are not part of it, unless the call is not closed and takes all that
follows. -/
theorem exists_takeCall_append (hblanks : Text.allBlank blanks) (depth : Nat)
    (text done : List Char) :
    ∃ tail, Text.allBlank tail ∧
      (takeCall depth (text ++ blanks) done).2 = (takeCall depth text done).2 ++ tail := by
  induction text generalizing depth done with
  | nil =>
    refine ⟨[], rfl, ?_⟩
    rw [List.nil_append, List.append_nil, takeCall]
    induction blanks generalizing done with
    | nil => rfl
    | cons c rest ih =>
      rw [Text.allBlank_cons, Bool.and_eq_true] at hblanks
      have hopen : c ≠ '(' := by rintro rfl; cases hblanks.1
      have hclose : c ≠ ')' := by rintro rfl; cases hblanks.1
      rw [takeCall, if_neg hopen, if_neg hclose]
      exact ih hblanks.2 (c :: done)
  | cons c rest ih =>
    rw [List.cons_append, takeCall, takeCall]
    split
    · exact ih (depth + 1) (c :: done)
    · split
      · split
        · exact ⟨blanks, hblanks, rfl⟩
        · exact ih (depth - 1) (c :: done)
      · exact ih depth (c :: done)

theorem dropSemicolon_append (hblanks : Text.allBlank blanks) (text : List Char) :
    Cut.dropSemicolon (text ++ blanks) = Cut.dropSemicolon text ++ blanks := by
  match text with
  | [] =>
    cases blanks with
    | nil => rfl
    | cons c rest =>
      have hc : c ≠ ';' := by
        rintro rfl
        cases hblanks
      simp [Cut.dropSemicolon, hc]
  | c :: rest =>
    rw [List.cons_append]
    by_cases hc : c = ';'
    · rw [hc]
      rfl
    · simp [Cut.dropSemicolon, hc]

/-- Cut at the same places, a text with blanks at its end leaves the same, but for blanks at
the end. -/
theorem remainder_append {longer : Cut} (hcalls : longer.calls.map (·.1) = cut.calls.map (·.1))
    (hblanks : Text.allBlank blanks) (hrest : longer.rest = cut.rest ++ blanks) :
    longer.remainder = cut.remainder ++ blanks := by
  obtain ⟨calls, rest⟩ := cut
  obtain ⟨others, longerRest⟩ := longer
  dsimp only at hcalls hrest
  subst hrest
  unfold Cut.remainder
  cases calls with
  | nil =>
    obtain rfl := List.map_eq_nil_iff.mp hcalls
    rfl
  | cons entry calls =>
    obtain ⟨other, others, rfl, hbefore, hcalls⟩ := List.map_eq_cons_iff.mp hcalls
    have hpieces := congrArg (List.map Cut.dropSemicolon) hcalls
    simp only [List.map_map, Function.comp_def] at hpieces
    simp only [hbefore, hpieces, dropSemicolon_append hblanks, List.append_assoc]

theorem CutInto.append_blanks (hopening : opening ≠ [])
    (hsound : ∀ c ∈ opening, Text.isBlank c = false)
    (h : CutInto opening text cut) (hblanks : Text.allBlank blanks) :
    ∃ longer tail, CutInto opening (text ++ blanks) longer ∧ Text.allBlank tail ∧
      longer.calls.map (·.1) = cut.calls.map (·.1) ∧ longer.rest = cut.rest ++ tail := by
  induction h generalizing blanks with
  | @whole text hnone =>
    have hnone' := (Text.infix_append_blanks_iff hopening hsound hblanks text).not.mpr hnone
    exact ⟨_, blanks, .whole hnone', hblanks, rfl, rfl⟩
  | @call text before kept cut hfind _ ih =>
    have hfind' := findOpening_append hfind blanks
    rw [List.append_assoc] at hfind'
    obtain ⟨spared, hspared, htaken⟩ := exists_takeCall_append hblanks 1 kept []
    obtain ⟨longer, tail, hlonger, htail, hcalls, hrest⟩ := ih hspared
    rw [← htaken] at hlonger
    exact ⟨_, tail, .call hfind' hlonger, htail, congrArg (before :: ·) hcalls, hrest⟩

end Blanks

section Closed

theorem exists_inner_takeCall (depth : Nat) (text done : List Char) :
    ∃ arguments, (takeCall (depth + 1) text done).1 = done.reverse ++ arguments ∧
      (closesAll (depth + 1) arguments → ∃ inner,
        arguments = inner ++ [')'] ∧ closesAll depth inner) := by
  induction text generalizing depth done with
  | nil => exact ⟨[], (List.append_nil _).symm, nofun⟩
  | cons c rest ih =>
    rw [takeCall]
    split
    · next hopen =>
      obtain ⟨arguments, htaken, hends⟩ := ih (depth + 1) (c :: done)
      refine ⟨c :: arguments, by simp [htaken], fun hcloses => ?_⟩
      rw [closesAll, if_pos hopen] at hcloses
      obtain ⟨inner, rfl, hinner⟩ := hends hcloses
      exact ⟨c :: inner, rfl, by rwa [closesAll, if_pos hopen]⟩
    · next hopen =>
      split
      · next hclose =>
        split
        · next hlast =>
          obtain rfl : depth = 0 := by omega
          exact ⟨[c], List.reverse_cons, fun _ => ⟨[], by rw [hclose, List.nil_append], rfl⟩⟩
        · next hmore =>
          obtain ⟨depth, rfl⟩ := Nat.exists_eq_succ_of_ne_zero (n := depth) (by omega)
          obtain ⟨arguments, htaken, hends⟩ := ih depth (c :: done)
          refine ⟨c :: arguments, by simp [htaken], fun hcloses => ?_⟩
          rw [closesAll, if_neg hopen, if_pos hclose] at hcloses
          obtain ⟨inner, rfl, hinner⟩ := hends (Bool.and_eq_true_iff.mp hcloses).2
          exact ⟨c :: inner,
            rfl, by rw [closesAll, if_neg hopen, if_pos hclose]; simpa using hinner⟩
      · next hclose =>
        obtain ⟨arguments, htaken, hends⟩ := ih depth (c :: done)
        refine ⟨c :: arguments, by simp [htaken], fun hcloses => ?_⟩
        rw [closesAll, if_neg hopen, if_neg hclose] at hcloses
        obtain ⟨inner, rfl, hinner⟩ := hends hcloses
        exact ⟨c :: inner, rfl, by rwa [closesAll, if_neg hopen, if_neg hclose]⟩

def tempoCalls (text : List Char) : List (List Char) :=
  (cutCalls tempoOpening text).callTexts

theorem tempoOpening_ne_nil : tempoOpening ≠ [] := by
  decide

theorem not_blank_tempoOpening : ∀ c ∈ tempoOpening, Text.isBlank c = false := by
  have hall : tempoOpening.all fun c => !Text.isBlank c := rfl
  simpa using hall

theorem tempoCalls_skip {c : Char} (hc : c ∉ tempoOpening) (hnone : ¬ tempoOpening <:+: text)
    (rest : List Char) : tempoCalls (text ++ c :: rest) = tempoCalls rest := by
  have hskip := findOpening_skip hc hnone rest []
  have hrest := cutInto_cutCalls tempoOpening_ne_nil rest
  rw [tempoCalls, tempoCalls]
  generalize cutCalls tempoOpening rest = cut at hrest ⊢
  cases hrest with
  | whole hrest =>
    have hwhole : ¬ tempoOpening <:+: text ++ c :: rest := by
      rw [Text.infix_append_cons_iff hc, not_or]
      exact ⟨hnone, hrest⟩
    rw [CutInto.unique tempoOpening_ne_nil (.whole hwhole)]
    rfl
  | call hfind hafter =>
    obtain ⟨passed, hpassed⟩ := exists_findOpening hfind (c :: (text.reverse ++ []))
    rw [CutInto.unique tempoOpening_ne_nil (.call (hskip.trans hpassed) hafter)]
    rfl

/-- Behind calls that are closed, and something that is no part of a call's opening, the calls go on
as if nothing stood in front. -/
theorem CutInto.tempoCalls_append (h : CutInto tempoOpening text cut)
    (hclosed : ∀ call ∈ cut.callTexts, closesAll 0 call) {c : Char} (hc : c ∉ tempoOpening)
    (rest : List Char) : tempoCalls (text ++ c :: rest) = cut.callTexts ++ tempoCalls rest := by
  induction h with
  | whole hnone => exact tempoCalls_skip hc hnone rest
  | @call text before kept cut hfind _ ih =>
    obtain ⟨arguments, htaken, hends⟩ := exists_inner_takeCall 0 kept []
    have hcall := hclosed _ List.mem_cons_self
    rw [htaken] at hcall
    obtain ⟨inner, rfl, hinner⟩ := hends hcall
    have hkept : kept = inner ++ ')' :: (takeCall 1 kept []).2 := by
      have hsplit := takeCall_split 1 kept []
      rw [htaken] at hsplit
      simpa using hsplit.symm
    have hlonger : takeCall 1 (kept ++ c :: rest) [] =
        ((takeCall 1 kept []).1, (takeCall 1 kept []).2 ++ c :: rest) := by
      have hcall := takeCall_of_closesAll hinner ((takeCall 1 kept []).2 ++ c :: rest) []
      rw [← List.cons_append, ← List.append_assoc, ← hkept] at hcall
      rw [hcall, htaken]
      simp
    have hfind' := findOpening_append hfind (c :: rest)
    rw [List.append_assoc] at hfind'
    have hafter := cutInto_cutCalls tempoOpening_ne_nil (takeCall 1 (kept ++ c :: rest) []).2
    have hcut := CutInto.unique tempoOpening_ne_nil (.call hfind' hafter)
    have hrest := ih fun call hcall => hclosed call (List.mem_cons_of_mem _ hcall)
    rw [tempoCalls, hcut, Cut.callTexts, List.map_cons, hlonger]
    exact congrArg (_ :: ·) hrest

variable {line blanks : List Char}

theorem tempoless_of_blank (h : Text.allBlank line) : ¬ tempoOpening <:+: line := by
  rw [← List.nil_append line,
    Text.infix_append_blanks_iff tempoOpening_ne_nil not_blank_tempoOpening h]
  exact fun hnil => tempoOpening_ne_nil (List.eq_nil_of_infix_nil hnil)

theorem tempoCalls_of_blank (h : Text.allBlank line) : tempoCalls line = [] := by
  rw [tempoCalls, CutInto.unique tempoOpening_ne_nil (.whole (tempoless_of_blank h))]
  rfl

theorem tempoCalls_append_blanks (hclosed : ∀ call ∈ tempoCalls line, closesAll 0 call)
    (hblanks : Text.allBlank blanks) : tempoCalls (line ++ blanks) = tempoCalls line := by
  cases blanks with
  | nil => rw [List.append_nil]
  | cons c rest =>
    rw [Text.allBlank_cons, Bool.and_eq_true] at hblanks
    have hc : c ∉ tempoOpening := fun hmem =>
      Bool.eq_false_iff.mp (not_blank_tempoOpening c hmem) hblanks.1
    have hcut := cutInto_cutCalls tempoOpening_ne_nil line
    rw [hcut.tempoCalls_append hclosed hc, tempoCalls_of_blank hblanks.2, List.append_nil]
    rfl

/-- If every call of a line is closed on it, a search of the whole text finds the calls of
its lines. -/
theorem tempoCalls_lines (text : List Char)
    (hclosed : ∀ line ∈ Text.lines text, ∀ call ∈ tempoCalls line, closesAll 0 call) :
    tempoCalls text = (Text.lines text).flatMap tempoCalls := by
  induction text using Text.induction_lines with
  | last line hfeed =>
    rw [Text.lines_of_feedless hfeed]
    cases line with
    | nil => rfl
    | cons c rest => exact (List.append_nil _).symm
  | feed line rest hfeed ih =>
    rw [Text.lines_append_feed hfeed] at hclosed ⊢
    obtain ⟨hline, hrest⟩ := List.forall_mem_cons.mp hclosed
    obtain ⟨returned, hreturned, hsplit⟩ := Text.exists_returned line
    have hsame := tempoCalls_append_blanks hline hreturned
    rw [← hsplit] at hsame
    have hcut := cutInto_cutCalls tempoOpening_ne_nil line
    rw [← hsame] at hline
    rw [List.flatMap_cons, ← ih hrest, ← hsame]
    exact hcut.tempoCalls_append hline (by decide) rest

end Closed

end Program

end Patchbay
