import Patchbay.Proofs.ComparisonForm

namespace Patchbay.Program

variable {opening text : List Char}

theorem findOpening_eq_none_iff (hopening : opening ≠ []) (done : List Char) :
    findOpening opening text done = none ↔ ¬ opening <:+: text := by
  induction text generalizing done with
  | nil => simp [findOpening, hopening]
  | cons c rest ih =>
    rw [findOpening, List.infix_cons_iff, not_or]
    by_cases hstart : opening <+: c :: rest
    · rw [if_pos (List.isPrefixOf_iff_prefix.mpr hstart)]
      simp [hstart]
    · rw [if_neg (List.isPrefixOf_iff_prefix.not.mpr hstart), ih]
      simp [hstart]

theorem takeCall_split (depth : Nat) (text done : List Char) :
    (takeCall depth text done).1 ++ (takeCall depth text done).2 = done.reverse ++ text := by
  induction text generalizing depth done with
  | nil => simp [takeCall]
  | cons c rest ih =>
    rw [takeCall]
    split
    · simp [ih]
    · split
      · split <;> simp [ih]
      · simp [ih]

/-- Whether a text closes all the parentheses that it opens and `depth` more, and no others. -/
def closesAll : (depth : Nat) → List Char → Bool
  | depth, [] => depth == 0
  | depth, c :: rest =>
      if c = '(' then closesAll (depth + 1) rest
      else if c = ')' then depth != 0 && closesAll (depth - 1) rest
      else closesAll depth rest

theorem takeCall_of_closesAll {depth : Nat} {inner : List Char} (h : closesAll depth inner)
    (rest done : List Char) :
    takeCall (depth + 1) (inner ++ ')' :: rest) done = (done.reverse ++ inner ++ [')'], rest) := by
  induction inner generalizing depth done with
  | nil =>
    obtain rfl : depth = 0 := by simpa [closesAll] using h
    simp [takeCall]
  | cons c inner ih =>
    rw [closesAll] at h
    rw [List.cons_append, takeCall]
    split at h
    · next hopen => rw [if_pos hopen, ih h]; simp
    · next hopen =>
      rw [if_neg hopen]
      split at h
      · next hclose =>
        obtain ⟨hdepth, hinner⟩ := Bool.and_eq_true_iff.mp h
        obtain ⟨depth, rfl⟩ := Nat.exists_eq_succ_of_ne_zero (bne_iff_ne.mp hdepth)
        rw [Nat.succ_sub_one] at hinner
        rw [if_pos hclose, if_neg (by omega), Nat.add_sub_cancel, ih hinner]
        simp
      · next hclose =>
        rw [if_neg hclose, ih h]
        simp

theorem cutRounds_congr (hopening : opening ≠ []) {rounds others : Nat}
    (hrounds : text.length ≤ rounds)
    (hothers : text.length ≤ others) :
    cutRounds opening rounds text = cutRounds opening others text := by
  induction rounds generalizing others text with
  | zero =>
    obtain rfl := List.length_eq_zero_iff.mp (Nat.le_zero.mp hrounds)
    cases others <;> rfl
  | succ rounds ih =>
    cases others with
    | zero =>
      obtain rfl := List.length_eq_zero_iff.mp (Nat.le_zero.mp hothers)
      rfl
    | succ others =>
      rw [cutRounds, cutRounds]
      cases hfind : findOpening opening text [] with
      | none => rfl
      | some split =>
        obtain ⟨before, found⟩ := split
        obtain ⟨_, _, rfl, kept, rfl⟩ := findOpening_split hfind
        have htaken := congrArg List.length (takeCall_split 1 kept [])
        have hpos : 0 < opening.length := List.length_pos_of_ne_nil hopening
        simp only [List.length_append, List.reverse_nil, List.nil_append] at hrounds hothers htaken
        have hrest : cutRounds opening rounds (takeCall 1 kept []).2 =
            cutRounds opening others (takeCall 1 kept []).2 := ih (by omega) (by omega)
        simp only [List.drop_left, hrest]

theorem calls_eq_nil_iff (hopening : opening ≠ []) (text : List Char) :
    (cutCalls opening text).calls = [] ↔ ¬ opening <:+: text := by
  cases text with
  | nil => simp [cutCalls, cutRounds, hopening]
  | cons c rest =>
    rw [← findOpening_eq_none_iff hopening [], cutCalls, List.length_cons, cutRounds]
    cases findOpening opening (c :: rest) [] <;> simp

theorem cutCalls_append {inner : List Char} (hopening : opening ≠ []) (hinner : closesAll 0 inner)
    (rest : List Char) :
    cutCalls opening (opening ++ inner ++ ')' :: rest) =
      ⟨([], opening ++ inner ++ [')']) :: (cutCalls opening rest).calls,
        (cutCalls opening rest).rest⟩ := by
  obtain ⟨c, tail, rfl⟩ := List.exists_cons_of_ne_nil hopening
  have hfind : findOpening (c :: tail) (c :: tail ++ (inner ++ ')' :: rest)) [] =
      some ([], c :: tail ++ (inner ++ ')' :: rest)) := by
    rw [List.cons_append, findOpening, if_pos]
    · rfl
    · exact List.isPrefixOf_iff_prefix.mpr ⟨inner ++ ')' :: rest, rfl⟩
  have hcut : cutRounds (c :: tail) (tail ++ (inner ++ ')' :: rest)).length rest =
      cutCalls (c :: tail) rest :=
    cutRounds_congr hopening (by simp only [List.length_append, List.length_cons]; omega)
      (Nat.le_refl _)
  rw [List.append_assoc, cutCalls, List.cons_append, List.length_cons, cutRounds,
    ← List.cons_append, hfind]
  simp only [List.drop_left, takeCall_of_closesAll hinner, hcut]
  simp

end Patchbay.Program
