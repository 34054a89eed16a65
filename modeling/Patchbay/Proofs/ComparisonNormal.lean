import Patchbay.Runner
import Patchbay.Proofs.CallRemainder

namespace Patchbay

theorem forall_of_filter_map_filter_eq {α : Type} {keeps shows : α → Bool} {change : α → α}
    {items : List α}
    (h : ((items.filter keeps).map change).filter shows = items) :
    ∀ item ∈ items, keeps item ∧ change item = item ∧ shows item := by
  have hlength := congrArg List.length h
  have hshown := List.length_filter_le shows ((items.filter keeps).map change)
  have hkept := List.length_filter_le keeps items
  rw [List.length_map] at hshown
  have hkeeps : ∀ item ∈ items, keeps item := List.length_filter_eq_length_iff.mp (by omega)
  rw [List.filter_eq_self.mpr hkeeps] at h hlength
  have hshows : ∀ item ∈ items.map change, shows item :=
    List.length_filter_eq_length_iff.mp (by rw [hlength, List.length_map])
  rw [List.filter_eq_self.mpr hshows] at h
  have hsame : ∀ item ∈ items, change item = item :=
    List.map_inj_left.mp (h.trans (List.map_id items).symm)
  intro item hitem
  have hshow := hshows _ (List.mem_map_of_mem hitem)
  rw [hsame item hitem] at hshow
  exact ⟨hkeeps item hitem, hsame item hitem, hshow⟩

namespace Text

variable {text line blanks : List Char}

theorem not_feed_of_mem_lines (h : line ∈ lines text) : '\n' ∉ line := by
  induction text using induction_lines with
  | last whole hfeed =>
    rw [lines_of_feedless hfeed] at h
    obtain rfl := List.mem_singleton.mp (List.mem_of_mem_filter h)
    exact hfeed
  | feed first rest hfeed ih =>
    rw [lines_append_feed hfeed] at h
    rcases List.mem_cons.mp h with rfl | hrest
    · obtain ⟨returned, _, hfirst⟩ := exists_returned first
      rw [hfirst] at hfeed
      exact fun hmem => hfeed (List.mem_append_left _ hmem)
    · exact ih hrest

theorem isPrefix_dropTrailingBlanks (line : List Char) : dropTrailingBlanks line <+: line :=
  List.rdropWhile_prefix isBlank line

/-- A line with something on it, and no blank at its end. -/
structure Shown (line : List Char) : Prop where
  sound : allBlank line = false
  trimmed : dropTrailingBlanks line = line

theorem Shown.ne_nil (h : Shown line) : line ≠ [] := by
  rintro rfl
  cases h.sound

theorem Shown.getLast?_ne (h : Shown line) {c : Char} (hc : isBlank c) :
    line.getLast? ≠ some c := by
  intro hlast
  obtain ⟨front, rfl⟩ := List.getLast?_eq_some_iff.mp hlast
  have hblank : allBlank [c] := by simpa [allBlank] using hc
  have hsame := (dropTrailingBlanks_append hblank front).symm.trans h.trimmed
  have hlength := (isPrefix_dropTrailingBlanks front).length_le
  rw [hsame, List.length_append, List.length_singleton] at hlength
  omega

theorem dropTrailingBlanks_dropTrailingBlanks (line : List Char) :
    dropTrailingBlanks (dropTrailingBlanks line) = dropTrailingBlanks line :=
  List.rdropWhile_idempotent isBlank line

theorem lines_intercalate {shown : List (List Char)}
    (h : ∀ line ∈ shown, '\n' ∉ line ∧ Shown line) :
    lines (['\n'].intercalate shown) = shown := by
  induction shown with
  | nil => rfl
  | cons line rest ih =>
    obtain ⟨⟨hfeed, hline⟩, hrest⟩ := List.forall_mem_cons.mp h
    by_cases hlast : rest = []
    · subst hlast
      have hsome : line.isEmpty = false := List.isEmpty_eq_false_iff.mpr hline.ne_nil
      rw [List.intercalate_singleton, lines_of_feedless hfeed]
      simp [hsome]
    · rw [List.intercalate_cons_of_ne_nil hlast, List.append_assoc, List.singleton_append,
        lines_append_cons hfeed (hline.getLast?_ne rfl), ih hrest]

end Text

namespace Program

variable {line left blanks : List Char} {program : String}

section Lines

def untimed (line : List Char) : List Char :=
  (cutCalls tempoOpening line).remainder

theorem leaves_untimed (line : List Char) : Leaves tempoOpening line (untimed line) :=
  leaves_remainder tempoOpening_ne_nil (by decide) line

theorem untimed_eq (h : Leaves tempoOpening line left) : untimed line = left :=
  h.remainder_eq tempoOpening_ne_nil (by decide)

theorem comparisonLine_eq (line : List Char) :
    comparisonLine line = Text.dropTrailingBlanks (untimed line) :=
  rfl

theorem isComment_of_blank (h : Text.allBlank line) : isComment line = false := by
  have hnone : Text.dropBlanks line = [] := List.dropWhile_eq_nil_iff.mpr (List.all_eq_true.mp h)
  rw [isComment, hnone]
  rfl

theorem isComment_concat {c : Char} (hc : Text.isBlank c) (line : List Char) :
    isComment (line ++ [c]) = isComment line := by
  rw [isComment, isComment, Text.dropBlanks, Text.dropBlanks, List.dropWhile_append]
  split
  · next hblank =>
    rw [List.isEmpty_iff.mp hblank, List.dropWhile_cons_of_pos hc]
    rfl
  · have hslashes : ['/', '/'] ≠ List.dropWhile Text.isBlank line ++ [c] := by
      intro heq
      obtain rfl : '/' = c := by simpa using congrArg List.getLast? heq
      cases hc
    rw [Bool.eq_iff_iff, List.isPrefixOf_iff_prefix, List.isPrefixOf_iff_prefix,
      List.prefix_concat_iff, or_iff_right hslashes]

theorem isComment_append_blanks (hblanks : Text.allBlank blanks) (line : List Char) :
    isComment (line ++ blanks) = isComment line := by
  induction blanks generalizing line with
  | nil => rw [List.append_nil]
  | cons c rest ih =>
    rw [Text.allBlank_cons, Bool.and_eq_true] at hblanks
    rw [← List.singleton_append, ← List.append_assoc, ih hblanks.2, isComment_concat hblanks.1]

theorem isComment_dropTrailingBlanks (line : List Char) :
    isComment (Text.dropTrailingBlanks line) = isComment line := by
  obtain ⟨blanks, hblanks, hline⟩ := Text.exists_trailingBlanks line
  rw [← isComment_append_blanks hblanks, ← hline]

theorem infix_dropTrailingBlanks_iff (line : List Char) :
    tempoOpening <:+: Text.dropTrailingBlanks line ↔ tempoOpening <:+: line := by
  obtain ⟨blanks, hblanks, hline⟩ := Text.exists_trailingBlanks line
  rw [← Text.infix_append_blanks_iff tempoOpening_ne_nil not_blank_tempoOpening hblanks, ← hline]

theorem untimed_eq_self_iff (line : List Char) :
    untimed line = line ↔ ¬ tempoOpening <:+: line := by
  have hleaves := leaves_untimed line
  rw [← hleaves.length_eq_iff tempoOpening_ne_nil]
  exact ⟨congrArg List.length, hleaves.sublist.eq_of_length⟩

theorem comparisonLine_eq_self_iff (line : List Char) :
    comparisonLine line = line ↔
      ¬ tempoOpening <:+: line ∧ Text.dropTrailingBlanks line = line := by
  rw [comparisonLine_eq, ← untimed_eq_self_iff]
  constructor
  · intro hsame
    have hlong := (Text.isPrefix_dropTrailingBlanks (untimed line)).length_le
    rw [hsame] at hlong
    have huntimed := (leaves_untimed line).sublist.eq_of_length_le hlong
    rw [huntimed] at hsame
    exact ⟨huntimed, hsame⟩
  · rintro ⟨huntimed, htrimmed⟩
    rw [huntimed, htrimmed]

end Lines

section Form

def shownLines (program : String) : List (List Char) :=
  let kept := (Text.lines program.toList).filter fun line => !isComment line
  (kept.map comparisonLine).filter fun line => !Text.allBlank line

theorem mem_shownLines_iff {shown : List Char} : shown ∈ shownLines program ↔
    ∃ line ∈ Text.lines program.toList, isComment line = false ∧ comparisonLine line = shown ∧
      Text.allBlank shown = false := by
  simp only [shownLines, List.mem_filter, List.mem_map, Bool.not_eq_true']
  constructor
  · rintro ⟨⟨line, ⟨hline, hcomment⟩, rfl⟩, hblank⟩
    exact ⟨line, hline, hcomment, rfl, hblank⟩
  · rintro ⟨line, hline, hcomment, rfl, hblank⟩
    exact ⟨⟨line, ⟨hline, hcomment⟩, rfl⟩, hblank⟩

theorem toList_comparisonForm (program : String) :
    (comparisonForm program).toList = ['\n'].intercalate (shownLines program) :=
  String.toList_ofList

theorem shown_of_mem_shownLines {shown : List Char} (h : shown ∈ shownLines program) :
    '\n' ∉ shown ∧ Text.Shown shown := by
  obtain ⟨line, hline, _, rfl, hblank⟩ := mem_shownLines_iff.mp h
  have hshorter : comparisonLine line <+: untimed line := Text.isPrefix_dropTrailingBlanks _
  refine ⟨fun hfeed => ?_, hblank, Text.dropTrailingBlanks_dropTrailingBlanks _⟩
  exact Text.not_feed_of_mem_lines hline
    ((leaves_untimed line).sublist.subset (hshorter.subset hfeed))

theorem lines_comparisonForm (program : String) :
    Text.lines (comparisonForm program).toList = shownLines program := by
  rw [toList_comparisonForm, Text.lines_intercalate fun line hline => shown_of_mem_shownLines hline]

/-- A program with nothing in it that a comparison leaves out: its lines, with single line feeds
between them, are shown, none is a comment, and there is no tempo call. -/
structure IsNormal (program : String) : Prop where
  joined : ['\n'].intercalate (Text.lines program.toList) = program.toList
  shown : ∀ line ∈ Text.lines program.toList, Text.Shown line
  notComment : ∀ line ∈ Text.lines program.toList, isComment line = false
  tempoless : ¬ tempoOpening <:+: program.toList

theorem tempoless_iff (hjoined : ['\n'].intercalate (Text.lines program.toList) = program.toList) :
    ¬ tempoOpening <:+: program.toList ↔
      ∀ line ∈ Text.lines program.toList, ¬ tempoOpening <:+: line := by
  have hfeed : '\n' ∉ tempoOpening := by decide
  have hsplit := Text.infix_intercalate_iff tempoOpening_ne_nil hfeed (Text.lines program.toList)
  rw [hjoined] at hsplit
  rw [hsplit]
  simp only [not_exists, not_and]

theorem comparisonForm_eq_self_iff (program : String) :
    comparisonForm program = program ↔ IsNormal program := by
  constructor
  · intro hsame
    have hlines := lines_comparisonForm program
    have htext := toList_comparisonForm program
    rw [hsame] at hlines htext
    have hjoined : ['\n'].intercalate (Text.lines program.toList) = program.toList := by
      rw [hlines, htext]
    have hline := forall_of_filter_map_filter_eq hlines.symm
    refine ⟨hjoined, fun line hmem => ?_, fun line hmem => ?_,
      (tempoless_iff hjoined).mpr fun line hmem => ?_⟩
    · exact (shown_of_mem_shownLines (hlines ▸ hmem)).2
    · simpa using (hline line hmem).1
    · exact ((comparisonLine_eq_self_iff line).mp (hline line hmem).2.1).1
  · intro h
    have htempoless := (tempoless_iff h.joined).mp h.tempoless
    have hkept : ((Text.lines program.toList).filter fun line => !isComment line) =
        Text.lines program.toList :=
      List.filter_eq_self.mpr fun line hmem => by rw [h.notComment line hmem]; rfl
    have hsame : ∀ line ∈ Text.lines program.toList, comparisonLine line = id line :=
      fun line hmem =>
      (comparisonLine_eq_self_iff line).mpr ⟨htempoless line hmem, (h.shown line hmem).trimmed⟩
    have hshown : ((Text.lines program.toList).filter fun line => !Text.allBlank line) =
        Text.lines program.toList :=
      List.filter_eq_self.mpr fun line hmem => by rw [(h.shown line hmem).sound]; rfl
    rw [← String.toList_inj, toList_comparisonForm, shownLines, hkept, List.map_congr_left hsame,
      List.map_id, hshown, h.joined]

/-- Without its tempo calls the line leaves no comment, and its parts make up no new tempo call. -/
def LeavesClean (line : List Char) : Prop :=
  ∀ left, Leaves tempoOpening line left → isComment left = false ∧ ¬ tempoOpening <:+: left

theorem leavesClean_iff_untimed (line : List Char) :
    LeavesClean line ↔ isComment (untimed line) = false ∧ ¬ tempoOpening <:+: untimed line := by
  constructor
  · intro h
    exact h _ (leaves_untimed line)
  · intro h left hleft
    rwa [← untimed_eq hleft]

theorem leavesClean_of_blank (h : Text.allBlank (untimed line)) : LeavesClean line :=
  (leavesClean_iff_untimed line).mpr ⟨isComment_of_blank h, tempoless_of_blank h⟩

theorem leavesClean_iff (line : List Char) : LeavesClean line ↔
    isComment (comparisonLine line) = false ∧ ¬ tempoOpening <:+: comparisonLine line := by
  rw [comparisonLine_eq, isComment_dropTrailingBlanks, infix_dropTrailingBlanks_iff,
    leavesClean_iff_untimed]

theorem isNormal_comparisonForm_iff (program : String) : IsNormal (comparisonForm program) ↔
    ∀ line ∈ Text.lines program.toList, isComment line = false → LeavesClean line := by
  have hlines := lines_comparisonForm program
  have hjoined : ['\n'].intercalate (Text.lines (comparisonForm program).toList) =
      (comparisonForm program).toList := by
    rw [hlines, toList_comparisonForm]
  constructor
  · intro h line hline hcomment
    cases hblank : Text.allBlank (comparisonLine line) with
    | true => exact leavesClean_of_blank (Text.allBlank_dropTrailingBlanks (untimed line) ▸ hblank)
    | false =>
      have hmem : comparisonLine line ∈ Text.lines (comparisonForm program).toList := by
        rw [hlines]
        exact mem_shownLines_iff.mpr ⟨line, hline, hcomment, rfl, hblank⟩
      exact (leavesClean_iff line).mpr
        ⟨h.notComment _ hmem, (tempoless_iff hjoined).mp h.tempoless _ hmem⟩
  · intro h
    have hclean (shown : List Char) (hmem : shown ∈ Text.lines (comparisonForm program).toList) :
        isComment shown = false ∧ ¬ tempoOpening <:+: shown := by
      rw [hlines] at hmem
      obtain ⟨line, hline, hcomment, rfl, _⟩ := mem_shownLines_iff.mp hmem
      exact (leavesClean_iff line).mp (h line hline hcomment)
    refine ⟨hjoined, fun line hmem => ?_, fun line hmem => (hclean line hmem).1, ?_⟩
    · rw [hlines] at hmem
      exact (shown_of_mem_shownLines hmem).2
    · exact (tempoless_iff hjoined).mpr fun line hmem => (hclean line hmem).2

end Form

section Blank

/-- A line made of blanks and tempo calls, each with a semicolon right behind it or without one. A
call that nothing closes takes the rest of the line. -/
inductive OnlyTempo : List Char → Prop where
  | nil : OnlyTempo []
  | blank {c : Char} {rest : List Char} (hc : Text.isBlank c) (hrest : OnlyTempo rest) :
    OnlyTempo (c :: rest)
  | closed {inner rest : List Char} (hinner : closesAll 0 inner)
    (hrest : OnlyTempo (Cut.dropSemicolon rest)) :
      OnlyTempo (tempoOpening ++ inner ++ ')' :: rest)
  | unclosed {kept : List Char} (hkept : ∀ inner rest,
    kept = inner ++ ')' :: rest → ¬ closesAll 0 inner) :
      OnlyTempo (tempoOpening ++ kept)

theorem OnlyTempo.exists_leaves (h : OnlyTempo line) :
    ∃ left, Leaves tempoOpening line left ∧ Text.allBlank left := by
  induction h with
  | nil => exact ⟨[], .nil, rfl⟩
  | @blank c rest hc _ ih =>
    obtain ⟨left, hleaves, hleft⟩ := ih
    have hhead : tempoOpening.head? ≠ some c := by
      rintro ⟨⟩
      cases hc
    refine ⟨c :: left, .char (not_prefix_cons tempoOpening_ne_nil hhead rest) hleaves, ?_⟩
    rw [Text.allBlank_cons, Bool.and_eq_true]
    exact ⟨hc, hleft⟩
  | closed hinner _ ih =>
    obtain ⟨left, hleaves, hleft⟩ := ih
    exact ⟨left, .closed hinner hleaves, hleft⟩
  | unclosed hkept => exact ⟨[], .unclosed hkept, rfl⟩

theorem onlyTempo_of_leaves (h : Leaves tempoOpening line left) (hleft : Text.allBlank left) :
    OnlyTempo line := by
  induction h with
  | nil => exact .nil
  | char _ _ ih =>
    rw [Text.allBlank_cons, Bool.and_eq_true] at hleft
    exact .blank hleft.1 (ih hleft.2)
  | closed hinner _ ih => exact .closed hinner (ih hleft)
  | unclosed hkept => exact .unclosed hkept

theorem OnlyTempo.untimed_blank (h : OnlyTempo line) : Text.allBlank (untimed line) := by
  obtain ⟨left, hleaves, hleft⟩ := h.exists_leaves
  rwa [untimed_eq hleaves]

theorem untimed_blank_iff (line : List Char) : Text.allBlank (untimed line) ↔ OnlyTempo line :=
  ⟨onlyTempo_of_leaves (leaves_untimed line), OnlyTempo.untimed_blank⟩

/-- A program counts as blank exactly if all its lines are comments or only set the tempo. -/
theorem comparisonForm_eq_empty_iff (program : String) : comparisonForm program = "" ↔
    ∀ line ∈ Text.lines program.toList, isComment line ∨ OnlyTempo line := by
  constructor
  · intro hempty line hline
    cases hcomment : isComment line with
    | true => exact .inl rfl
    | false =>
      refine .inr ((untimed_blank_iff line).mp ?_)
      by_contra hblank
      have hshown : Text.allBlank (comparisonLine line) = false := by
        rw [comparisonLine_eq, Text.allBlank_dropTrailingBlanks]
        exact Bool.eq_false_iff.mpr hblank
      have hmem := mem_shownLines_iff.mpr ⟨line, hline, hcomment, rfl, hshown⟩
      rw [← lines_comparisonForm, hempty] at hmem
      cases hmem
  · intro h
    have hnone : shownLines program = [] := by
      refine List.eq_nil_iff_forall_not_mem.mpr fun shown hmem => ?_
      obtain ⟨line, hline, hcomment, rfl, hshown⟩ := mem_shownLines_iff.mp hmem
      rcases h line hline with hnote | honly
      · cases hcomment.symm.trans hnote
      · rw [comparisonLine_eq, Text.allBlank_dropTrailingBlanks, honly.untimed_blank] at hshown
        cases hshown
    rw [← String.toList_inj, toList_comparisonForm, hnone]
    rfl

end Blank

/-- The lines of a comparison form are never blank and end in no blanks. The form is normal, and
then the same as its own form, exactly if no line leaves a comment or a new tempo call behind when
its tempo calls go, as when each of these lines only sets the tempo. It is empty exactly for
programs of comments and such lines. -/
theorem comparisonForm_is_normal_iff (program : String) :
    let form := comparisonForm program
    (∀ line ∈ Text.lines form.toList, Text.Shown line) ∧
      (IsNormal form ↔ ∀ line ∈ Text.lines program.toList,
        isComment line = false → LeavesClean line) ∧
      (comparisonForm form = form ↔ IsNormal form) ∧
      ((∀ line ∈ Text.lines program.toList,
        tempoOpening <:+: line → isComment line ∨ OnlyTempo line) →
        IsNormal form) ∧
      (form = "" ↔ ∀ line ∈ Text.lines program.toList, isComment line ∨ OnlyTempo line) := by
  intro form
  have hnormal := isNormal_comparisonForm_iff program
  refine ⟨fun line hline => ?_, hnormal, comparisonForm_eq_self_iff form,
    fun halone => hnormal.mpr ?_, comparisonForm_eq_empty_iff program⟩
  · rw [lines_comparisonForm] at hline
    exact (shown_of_mem_shownLines hline).2
  · intro line hline hcomment
    by_cases hcall : tempoOpening <:+: line
    · rcases halone line hline hcall with hnote | honly
      · cases hcomment.symm.trans hnote
      · exact leavesClean_of_blank honly.untimed_blank
    · rw [leavesClean_iff_untimed, (untimed_eq_self_iff line).mpr hcall]
      exact ⟨hcomment, hcall⟩

/-- A comment behind a tempo call is left as a line of its own, so that the program does not count
as blank and is scheduled; and where a call is cut out of a word, another can appear. -/
theorem commented_tempo_leaves_comment :
    let program := "setcpm(30) // half speed"
    let form := comparisonForm program
    form = " // half speed" ∧ (∃ line ∈ Text.lines form.toList, isComment line) ∧
      comparisonForm form = "" ∧
      (({} : Runner).submit program).2 = .scheduled ∧
      comparisonForm "setsetcpm(60)cpm(30)" = "setcpm(30)" ∧ comparisonForm "setcpm(30)" = "" := by
  decide +kernel

end Program

end Patchbay
