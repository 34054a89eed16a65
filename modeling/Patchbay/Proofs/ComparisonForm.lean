import Patchbay.Program.Comparison
import Patchbay.Proofs.ProgramStatements

namespace Patchbay

namespace Text

theorem dropCarriageReturn_cons {c : Char} (hc : c ≠ '\r') (rest : List Char) :
    ∃ kept, dropCarriageReturn (c :: rest) = c :: kept := by
  unfold dropCarriageReturn
  split
  · next hlast =>
    cases rest with
    | nil => exact absurd (Option.some.inj hlast) hc
    | cons d tail => exact ⟨_, List.dropLast_cons_cons⟩
  · exact ⟨rest, rfl⟩

theorem exists_mem_lines {c : Char} (hfeed : c ≠ '\n') (hreturn : c ≠ '\r')
    (before rest : List Char) :
    ∃ kept, c :: kept ∈ lines (before ++ '\n' :: c :: rest) := by
  obtain ⟨piece, pieces, hrest⟩ := List.exists_cons_of_ne_nil (List.splitOn_ne_nil '\n' rest)
  have hpieces : (before ++ '\n' :: c :: rest).splitOn '\n' =
      before.splitOn '\n' ++ (c :: piece) :: pieces := by
    rw [List.splitOn_append_cons_self, List.splitOn_cons_eq_if_modifyHead,
      if_neg (by simpa using hfeed), hrest, List.modifyHead_cons]
  rw [lines, hpieces]
  cases pieces with
  | nil => exact ⟨piece, List.mem_append_right _ (by simp)⟩
  | cons next others =>
    obtain ⟨kept, hkept⟩ := dropCarriageReturn_cons hreturn piece
    refine ⟨kept, List.mem_append_left _ (List.mem_map.mpr ⟨c :: piece, ?_, hkept⟩)⟩
    rw [List.dropLast_append_cons, List.dropLast_cons_cons]
    exact List.mem_append_right _ List.mem_cons_self

theorem mem_intercalate {c : Char} {line : List Char} (hc : c ∈ line) {lines : List (List Char)}
    (hline : line ∈ lines) (separator : List Char) : c ∈ separator.intercalate lines := by
  induction lines with
  | nil => cases hline
  | cons head rest ih =>
    by_cases hrest : rest = []
    · subst hrest
      obtain rfl := List.mem_singleton.mp hline
      simpa using hc
    · rw [List.intercalate_cons_of_ne_nil hrest]
      rcases List.mem_cons.mp hline with rfl | hline
      · exact List.mem_append_left _ (List.mem_append_left _ hc)
      · exact List.mem_append_right _ (ih hline)

theorem allBlank_dropTrailingBlanks (text : List Char) :
    allBlank (dropTrailingBlanks text) = allBlank text := by
  have hsplit := List.takeWhile_append_dropWhile (p := isBlank) (l := text.reverse)
  have htaken : (text.reverse.takeWhile isBlank).all isBlank :=
    List.all_takeWhile
  have hall := congrArg (List.all · isBlank) hsplit
  simp only [List.all_append, htaken, Bool.true_and, List.all_reverse] at hall
  rw [allBlank, dropTrailingBlanks, dropTrailing, List.all_reverse, hall, allBlank]

end Text

namespace Program

theorem findOpening_split {opening text done before found : List Char}
    (h : findOpening opening text done = some (before, found)) :
    ∃ kept, before = done.reverse ++ kept ∧ text = kept ++ found ∧ opening <+: found := by
  induction text generalizing done with
  | nil => cases h
  | cons c rest ih =>
    rw [findOpening] at h
    split at h
    · next hstart =>
      cases h
      exact ⟨[], (List.append_nil _).symm, rfl, List.isPrefixOf_iff_prefix.mp hstart⟩
    · obtain ⟨kept, rfl, rfl, hstart⟩ := ih h
      exact ⟨c :: kept, by simp, rfl, hstart⟩

theorem exists_remainder_cutCalls {opening : List Char} {c : Char} {rest : List Char}
    (h : opening.isPrefixOf (c :: rest) = false) :
    ∃ kept, (cutCalls opening (c :: rest)).remainder = c :: kept := by
  rw [cutCalls, List.length_cons, cutRounds]
  cases hfind : findOpening opening (c :: rest) [] with
  | none => exact ⟨rest, rfl⟩
  | some cut =>
    obtain ⟨before, found⟩ := cut
    rw [findOpening, if_neg (Bool.eq_false_iff.mp h)] at hfind
    obtain ⟨kept, rfl, _⟩ := findOpening_split hfind
    exact ⟨_, rfl⟩

theorem not_blank_comparisonLine (rest : List Char) :
    isComment ('$' :: rest) = false ∧ Text.allBlank (comparisonLine ('$' :: rest)) = false := by
  constructor
  · rfl
  · have hprefix : tempoOpening.isPrefixOf ('$' :: rest) = false := rfl
    obtain ⟨kept, hkept⟩ := exists_remainder_cutCalls hprefix
    rw [comparisonLine, Text.allBlank_dropTrailingBlanks, hkept]
    rfl

theorem comparisonForm_ne_empty {program : String} {rest : List Char}
    (h : '$' :: rest ∈ Text.lines program.toList) : comparisonForm program ≠ "" := by
  obtain ⟨hcomment, hblank⟩ := not_blank_comparisonLine rest
  obtain ⟨c, hc, _⟩ := List.all_eq_false.mp hblank
  have hkept : '$' :: rest ∈ (Text.lines program.toList).filter fun line => !isComment line :=
    List.mem_filter.mpr ⟨h, by rw [hcomment]; rfl⟩
  have hshown : comparisonLine ('$' :: rest) ∈
      (((Text.lines program.toList).filter fun line => !isComment line).map comparisonLine).filter
        fun line => !Text.allBlank line :=
    List.mem_filter.mpr ⟨List.mem_map_of_mem hkept, by rw [hblank]; rfl⟩
  have hmem := Text.mem_intercalate hc hshown ['\n']
  intro hempty
  rw [comparisonForm, ← String.toList_inj, String.toList_ofList] at hempty
  rw [hempty] at hmem
  cases hmem

theorem comparisonForm_empty : comparisonForm "" = "" := by
  decide +kernel

theorem exists_statementMark {nodes : List Node} {edges : List Edge} {store : Store} {line : String}
    (h : line ∈ statements nodes edges store) : ∃ text, line = statementMark ++ text := by
  obtain ⟨group, _, hline⟩ := List.mem_filterMap.mp h
  rw [statement?] at hline
  split at hline
  · cases hline
  · exact ⟨_, (Option.some.inj hline).symm⟩

theorem exists_toList_intercalate (text : String) (others : List String) :
    ∃ rest, ("\n".intercalate ((statementMark ++ text) :: others)).toList = '$' :: rest := by
  rw [String.intercalate_cons_append, String.toList_append]
  exact ⟨_, rfl⟩

/-- A program is nothing to compare only if it is empty: the mark of a statement is always left. -/
theorem comparisonForm_compile (nodes : List Node) (edges : List Edge) (store : Store)
    (tempo : String) :
    comparisonForm (compile nodes edges store tempo) = "" ↔
      compile nodes edges store tempo = "" := by
  constructor
  · intro h
    by_contra hne
    rw [compile_eq_empty_iff] at hne
    obtain ⟨line, others, hlines⟩ := List.exists_cons_of_ne_nil hne
    obtain ⟨text, rfl⟩ := exists_statementMark (hlines ▸ List.mem_cons_self)
    obtain ⟨rest, hrest⟩ := exists_toList_intercalate text others
    obtain ⟨kept, hkept⟩ := Text.exists_mem_lines (c := '$') (by decide) (by decide)
      (tempoStatement tempo).toList rest
    have hline : '$' :: kept ∈ Text.lines (compile nodes edges store tempo).toList := by
      rw [compile, hlines]
      simp only [String.toList_append, hrest, List.append_assoc]
      exact hkept
    exact comparisonForm_ne_empty hline h
  · intro h
    rw [h, comparisonForm_empty]

end Program

end Patchbay
