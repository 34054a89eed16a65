import Patchbay.Proofs.CallCut
import Mathlib.Data.List.DropRight

namespace Patchbay

namespace Text

theorem trimChars_trimChars (text : List Char) : trimChars (trimChars text) = trimChars text := by
  have hdrop (kept : List Char) : dropTrailingBlanks kept = kept.rdropWhile isBlank := rfl
  rw [trimChars, trimChars, hdrop, hdrop]
  have hfront : dropBlanks ((dropBlanks text).rdropWhile isBlank) =
      (dropBlanks text).rdropWhile isBlank := by
    refine List.dropWhile_eq_self_iff.mpr fun hpos => ?_
    have hkept := List.rdropWhile_prefix isBlank (l := dropBlanks text)
    rw [hkept.getElem hpos]
    exact List.dropWhile_eq_self_iff.mp (List.dropWhile_idempotent isBlank text) _
  rw [hfront, List.rdropWhile_idempotent]

theorem trim_trim (text : String) : trim (trim text) = trim text := by
  rw [trim, trim, String.toList_ofList, trimChars_trimChars]

theorem infix_append_cons_iff {needle : List Char} {separator : Char} (h : separator ∉ needle)
    (before after : List Char) :
    needle <:+: before ++ separator :: after ↔ needle <:+: before ∨ needle <:+: after := by
  -- A part of the text that starts with the separator can only be empty.
  have hpart {part : List Char} (hsubset : part ⊆ needle) (hstarts : part <+: separator :: after) :
      part = [] := by
    rcases List.prefix_cons_iff.mp hstarts with hnil | ⟨tail, rfl, _⟩
    · exact hnil
    · exact absurd (hsubset List.mem_cons_self) h
  rw [List.infix_append_iff, List.infix_cons_iff]
  constructor
  · rintro (hbefore | (hstart | hafter) | ⟨front, back, rfl, hfront, hback⟩)
    · exact .inl hbefore
    · exact .inl (hpart (List.Subset.refl needle) hstart ▸ List.nil_infix)
    · exact .inr hafter
    · rw [hpart (List.subset_append_right front back) hback, List.append_nil]
      exact .inl hfront.isInfix
  · rintro (hbefore | hafter)
    · exact .inl hbefore
    · exact .inr (.inl (.inr hafter))

theorem infix_intercalate_iff {needle : List Char} {separator : Char} (hneedle : needle ≠ [])
    (h : separator ∉ needle) (lines : List (List Char)) :
    needle <:+: [separator].intercalate lines ↔ ∃ line ∈ lines, needle <:+: line := by
  induction lines with
  | nil => simpa using hneedle
  | cons head rest ih =>
    by_cases hrest : rest = []
    · simp [hrest]
    · rw [List.intercalate_cons_of_ne_nil hrest, List.append_assoc, List.singleton_append,
        infix_append_cons_iff h, ih]
      simp

theorem lines_append_feed {line : List Char} (hfeed : '\n' ∉ line) (rest : List Char) :
    lines (line ++ '\n' :: rest) = dropCarriageReturn line :: lines rest := by
  have hpieces := List.splitOn_ne_nil '\n' rest
  have hsplit : line.splitOn '\n' = [line] := List.splitOn_eq_singleton hfeed
  simp only [lines, List.splitOn_append_cons_self, hsplit, List.singleton_append]
  rw [List.dropLast_cons_of_ne_nil hpieces, List.getLast?_cons_of_ne_nil hpieces, List.map_cons,
    List.cons_append]

theorem lines_append_cons {line : List Char} (hfeed : '\n' ∉ line)
    (hreturn : line.getLast? ≠ some '\r')
    (rest : List Char) : lines (line ++ '\n' :: rest) = line :: lines rest := by
  rw [lines_append_feed hfeed, dropCarriageReturn, if_neg hreturn]

end Text

namespace Program

variable {tempo other : String}

theorem tempoStatement_trim (tempo : String) :
    tempoStatement (Text.trim tempo) = tempoStatement tempo := by
  rw [tempoStatement, tempoStatement, Text.trim_trim]

/-- A tempo whose call is closed where it ends, on one line. -/
structure ClosedTempo (tempo : String) : Prop where
  closes : closesAll 0 (Text.trim tempo).toList
  feedless : '\n' ∉ (Text.trim tempo).toList

theorem ClosedTempo.exists_inner (h : ClosedTempo tempo) : ∃ inner,
    (tempoStatement tempo).toList = tempoOpening ++ inner ++ [')'] ∧ closesAll 0 inner ∧
      '\n' ∉ inner := by
  refine ⟨(if (Text.trim tempo).isEmpty then defaultTempo else Text.trim tempo).toList, ?_, ?_⟩
  · rw [tempoStatement, String.toList_append, String.toList_append]
    rfl
  · split
    · decide
    · exact ⟨h.closes, h.feedless⟩

theorem lastTempo?_eq_none_iff (program : String) :
    lastTempo? program = none ↔ ¬ tempoOpening <:+: program.toList := by
  have hopening : tempoOpening ≠ [] := by decide
  rw [lastTempo?, Option.map_eq_none_iff, List.getLast?_eq_none_iff, Cut.callTexts,
    List.map_eq_nil_iff, calls_eq_nil_iff hopening]

theorem ClosedTempo.lastTempo?_append (h : ClosedTempo tempo) (rest : String) :
    lastTempo? (tempoStatement tempo ++ rest) =
      (lastTempo? rest).or (some (tempoStatement tempo)) := by
  have hopening : tempoOpening ≠ [] := by decide
  obtain ⟨inner, htext, hinner, _⟩ := h.exists_inner
  have hcut := cutCalls_append hopening hinner rest.toList
  have hprogram : (tempoStatement tempo ++ rest).toList =
      tempoOpening ++ inner ++ ')' :: rest.toList := by
    rw [String.toList_append, htext, List.append_assoc, List.singleton_append]
  have hstatement : String.ofList (tempoOpening ++ inner ++ [')']) = tempoStatement tempo := by
    rw [← htext, String.ofList_toList]
  rw [lastTempo?, hprogram, hcut, Cut.callTexts, List.map_cons, List.getLast?_cons, Option.map_some]
  rw [lastTempo?, Cut.callTexts]
  cases ((cutCalls tempoOpening rest.toList).calls.map (·.2)).getLast? with
  | none => exact congrArg some hstatement
  | some call => rfl

theorem ClosedTempo.comparisonForm_append (h : ClosedTempo tempo) (rest : String) :
    comparisonForm (tempoStatement tempo ++ "\n" ++ rest) = comparisonForm rest := by
  have hopening : tempoOpening ≠ [] := by decide
  obtain ⟨inner, htext, hinner, hfeed⟩ := h.exists_inner
  have hcut := cutCalls_append hopening hinner []
  have hprogram : (tempoStatement tempo ++ "\n" ++ rest).toList =
      tempoOpening ++ inner ++ [')'] ++ '\n' :: rest.toList := by
    rw [String.toList_append, String.toList_append, htext, List.append_assoc _ "\n".toList]
    rfl
  have hlines : Text.lines (tempoStatement tempo ++ "\n" ++ rest).toList =
      (tempoOpening ++ inner ++ [')']) :: Text.lines rest.toList := by
    have hopeningFeed : '\n' ∉ tempoOpening := by decide
    have hline : '\n' ∉ tempoOpening ++ inner ++ [')'] := by
      rw [List.mem_append, List.mem_append, not_or, not_or]
      exact ⟨⟨hopeningFeed, hfeed⟩, by decide⟩
    rw [hprogram, Text.lines_append_cons hline (by simp)]
  have hcomment : isComment (tempoOpening ++ inner ++ [')']) = false := rfl
  have hblank : comparisonLine (tempoOpening ++ inner ++ [')']) = [] := by
    rw [comparisonLine, hcut]
    rfl
  rw [comparisonForm, hlines, List.filter_cons_of_pos (by rw [hcomment]; rfl), List.map_cons,
    hblank, List.filter_cons_of_neg (by decide), comparisonForm]

variable {nodes : List Node} {edges : List Edge} {store : Store}

theorem compile_of_statements (h : statements nodes edges store ≠ []) (tempo : String) :
    compile nodes edges store tempo =
      tempoStatement tempo ++ "\n" ++ "\n".intercalate (statements nodes edges store) := by
  rw [compile]
  cases hlines : statements nodes edges store with
  | nil => exact absurd hlines h
  | cons line rest => rfl

theorem compile_trim (nodes : List Node) (edges : List Edge) (store : Store) (tempo : String) :
    compile nodes edges store (Text.trim tempo) = compile nodes edges store tempo := by
  rw [compile, compile, tempoStatement_trim]

theorem comparisonForm_compile_congr (htempo : ClosedTempo tempo) (hother : ClosedTempo other) :
    comparisonForm (compile nodes edges store tempo) =
      comparisonForm (compile nodes edges store other) := by
  by_cases hnone : statements nodes edges store = []
  · rw [(compile_eq_empty_iff nodes edges store tempo).mpr hnone,
      (compile_eq_empty_iff nodes edges store other).mpr hnone]
  · rw [compile_of_statements hnone, compile_of_statements hnone, htempo.comparisonForm_append,
      hother.comparisonForm_append]

theorem ClosedTempo.lastTempo?_compile (h : ClosedTempo tempo)
    (hsome : statements nodes edges store ≠ []) :
    lastTempo? (compile nodes edges store tempo) =
      (lastTempo? ("\n" ++ "\n".intercalate (statements nodes edges store))).or
        (some (tempoStatement tempo)) := by
  rw [compile_of_statements hsome, String.append_assoc, h.lastTempo?_append]

theorem lastTempo?_statements_eq_none_iff (lines : List String) :
    lastTempo? ("\n" ++ "\n".intercalate lines) = none ↔
      ∀ line ∈ lines, ¬ tempoOpening <:+: line.toList := by
  have hopening : tempoOpening ≠ [] := by decide
  have hfeed : '\n' ∉ tempoOpening := by decide
  have htext : ("\n" ++ "\n".intercalate lines).toList =
      [] ++ '\n' :: ['\n'].intercalate (lines.map String.toList) := by
    rw [String.toList_append, String.toList_intercalate]
    rfl
  rw [lastTempo?_eq_none_iff, htext, Text.infix_append_cons_iff hfeed,
    Text.infix_intercalate_iff hopening hfeed]
  simp [hopening]

theorem lastTempo?_compile_ne_iff (htempo : ClosedTempo tempo) (hother : ClosedTempo other)
    (hsome : statements nodes edges store ≠ [])
    (hne : tempoStatement tempo ≠ tempoStatement other) :
    lastTempo? (compile nodes edges store tempo) ≠ lastTempo? (compile nodes edges store other) ↔
      ∀ line ∈ statements nodes edges store, ¬ tempoOpening <:+: line.toList := by
  rw [htempo.lastTempo?_compile hsome, hother.lastTempo?_compile hsome,
    ← lastTempo?_statements_eq_none_iff]
  cases lastTempo? ("\n" ++ "\n".intercalate (statements nodes edges store)) with
  | none => simpa using hne
  | some call => simp

end Program

end Patchbay
