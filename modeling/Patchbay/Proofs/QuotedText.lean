import Patchbay.Transform.Basic
import Mathlib.Algebra.Group.Nat.Even
import Mathlib.Data.List.DropRight

namespace Patchbay.Chain

variable {held code rest before text : List Char} {c : Char}

/-- What a string literal holds and what follows it, read up to the first quote that is not escaped.
A backslash that is not escaped itself escapes the next character, which is then held as it is. -/
def readBody : (escaped : Bool) → List Char → Option (List Char × List Char)
  | _, [] => none
  | true, c :: rest => (readBody false rest).map fun found => (c :: found.1, found.2)
  | false, c :: rest =>
      if c = '\\' then readBody true rest
      else if c = '"' then some ([], rest)
      else (readBody false rest).map fun found => (c :: found.1, found.2)

def literal? : List Char → Option (List Char × List Char)
  | '"' :: rest => readBody false rest
  | _ => none

section Body

theorem readBody_taken : readBody true (c :: text) = some (held, rest) ↔
    ∃ later, readBody false text = some (later, rest) ∧ held = c :: later := by
  rw [readBody, Option.map_eq_some_iff]
  constructor
  · rintro ⟨⟨later, _⟩, hlater, heq⟩
    obtain ⟨rfl, rfl⟩ := Prod.mk.inj heq
    exact ⟨later, hlater, rfl⟩
  · rintro ⟨later, hlater, rfl⟩
    exact ⟨(later, rest), hlater, rfl⟩

theorem readBody_backslash : readBody false ('\\' :: text) = readBody true text := rfl

theorem readBody_quote : readBody false ('"' :: text) = some ([], text) := rfl

theorem readBody_plain (hslash : c ≠ '\\') (hquote : c ≠ '"') :
    readBody false (c :: text) = readBody true (c :: text) := by
  simp only [readBody, if_neg hslash, if_neg hquote]

end Body

section Escape

def escapeQuotes (text : List Char) : List Char :=
  text.flatMap fun c => if c = '"' then ['\\', '"'] else [c]

theorem escapeQuotes_quote : escapeQuotes ('"' :: text) = '\\' :: '"' :: escapeQuotes text := rfl

theorem escapeQuotes_cons (h : c ≠ '"') : escapeQuotes (c :: text) = c :: escapeQuotes text := by
  rw [escapeQuotes, List.flatMap_cons, if_neg h]
  rfl

theorem length_escapeQuotes (text : List Char) :
    (escapeQuotes text).length = text.length + text.count '"' := by
  induction text with
  | nil => rfl
  | cons c rest ih =>
    by_cases h : c = '"'
    · subst h
      rw [escapeQuotes_quote, List.count_cons_self]
      simp only [List.length_cons, ih]
      omega
    · rw [escapeQuotes_cons h, List.count_cons_of_ne h]
      simp only [List.length_cons, ih]
      omega

theorem literal?_quoted (text : String) (code : List Char) :
    literal? ((quoted text).toList ++ code) =
      readBody false (escapeQuotes text.toList ++ '"' :: code) := by
  have htext : (quoted text).toList ++ code = '"' :: (escapeQuotes text.toList ++ '"' :: code) := by
    simp [quoted, escapeQuotes]
  rw [htext, literal?]

end Escape

section Length

def leastLength (text : List Char) : Nat :=
  text.length + text.count '"' + text.count '\\'

theorem leastLength_cons_le (c : Char) (text : List Char) :
    leastLength (c :: text) ≤ leastLength text + 2 := by
  by_cases hquote : c = '"'
  · subst hquote
    simp only [leastLength, List.length_cons, List.count_cons_self,
      List.count_cons_of_ne (show '"' ≠ '\\' by decide)]
    omega
  · simp only [leastLength, List.length_cons, List.count_cons_of_ne hquote, List.count_cons]
    split <;> omega

theorem leastLength_cons (hslash : c ≠ '\\') (hquote : c ≠ '"') (text : List Char) :
    leastLength (c :: text) = leastLength text + 1 := by
  simp only [leastLength, List.length_cons, List.count_cons_of_ne hquote,
    List.count_cons_of_ne hslash]
  omega

/-- What is held and what follows fit in the text that is read. An escape in front of it is one
character more. -/
theorem leastLength_le {escaped : Bool} (h : readBody escaped text = some (held, rest)) :
    leastLength held + 1 + rest.length ≤ text.length + escaped.toNat := by
  induction text generalizing escaped held with
  | nil => cases escaped <;> cases h
  | cons c text ih =>
    rw [List.length_cons]
    cases escaped with
    | true =>
      obtain ⟨later, hlater, rfl⟩ := readBody_taken.mp h
      have hcons := leastLength_cons_le c later
      have hlength := ih hlater
      rw [Bool.toNat_false] at hlength
      rw [Bool.toNat_true]
      omega
    | false =>
      rw [Bool.toNat_false]
      by_cases hslash : c = '\\'
      · subst hslash
        rw [readBody_backslash] at h
        have hlength := ih h
        rw [Bool.toNat_true] at hlength
        omega
      · by_cases hquote : c = '"'
        · subst hquote
          rw [readBody_quote] at h
          obtain ⟨rfl, rfl⟩ := Prod.mk.inj (Option.some.inj h)
          simp only [leastLength, List.length_nil, List.count_nil]
          omega
        · rw [readBody_plain hslash hquote] at h
          obtain ⟨later, hlater, rfl⟩ := readBody_taken.mp h
          have hcons := leastLength_cons hslash hquote later
          have hlength := ih hlater
          rw [Bool.toNat_false] at hlength
          omega

theorem ne_of_readBody (h : readBody false text = some (held, rest)) : rest ≠ text := by
  rintro rfl
  have hlength := leastLength_le h
  rw [Bool.toNat_false] at hlength
  omega

end Length

/-- A text is held as it is exactly if it has no backslash: each would take two characters, but only
the quotes are given two. -/
theorem readBody_escapeQuotes_iff (text code : List Char) :
    readBody false (escapeQuotes text ++ '"' :: code) = some (text, code) ↔ '\\' ∉ text := by
  constructor
  · intro h
    have hlength := leastLength_le h
    rw [leastLength, List.length_append, List.length_cons, length_escapeQuotes,
      Bool.toNat_false] at hlength
    apply List.count_eq_zero.mp
    omega
  · intro h
    induction text with
    | nil => rfl
    | cons c rest ih =>
      obtain ⟨hslash, hrest⟩ := List.ne_and_not_mem_of_not_mem_cons h
      by_cases hquote : c = '"'
      · subst hquote
        rw [escapeQuotes_quote, List.cons_append, readBody_backslash, List.cons_append]
        exact readBody_taken.mpr ⟨rest, ih hrest, rfl⟩
      · rw [escapeQuotes_cons hquote, List.cons_append, readBody_plain hslash.symm hquote]
        exact readBody_taken.mpr ⟨rest, ih hrest, rfl⟩

section Backslashes

def finalBackslashes (text : List Char) : Nat :=
  (text.rtakeWhile (· = '\\')).length

theorem finalBackslashes_backslash (text : List Char) :
    finalBackslashes (text ++ ['\\']) = finalBackslashes text + 1 := by
  rw [finalBackslashes, List.rtakeWhile_concat_pos _ _ _ (by decide), List.length_append]
  rfl

theorem finalBackslashes_of_ne (h : c ≠ '\\') (text : List Char) :
    finalBackslashes (text ++ [c]) = 0 := by
  rw [finalBackslashes, List.rtakeWhile_concat_neg _ _ _ (by simpa using h)]
  rfl

/-- Behind `before`, the backslashes in front of each quote of a text and at its end are even
in number. -/
def EvenBehind (before text : List Char) : Prop :=
  ∀ upTo after, text = upTo ++ after → (after = [] ∨ after.head? = some '"') →
    Even (finalBackslashes (before ++ upTo))

theorem evenBehind_nil (before : List Char) :
    EvenBehind before [] ↔ Even (finalBackslashes before) := by
  constructor
  · intro h
    simpa using h [] [] rfl (.inl rfl)
  · rintro h upTo after hsplit _
    obtain ⟨rfl, rfl⟩ := List.append_eq_nil_iff.mp hsplit.symm
    simpa using h

theorem evenBehind_cons (before : List Char) (c : Char) (text : List Char) :
    EvenBehind before (c :: text) ↔
      (c = '"' → Even (finalBackslashes before)) ∧ EvenBehind (before ++ [c]) text := by
  constructor
  · intro h
    refine ⟨fun hquote => ?_, fun upTo after hsplit hafter => ?_⟩
    · simpa using h [] (c :: text) rfl (.inr (by rw [List.head?_cons, hquote]))
    · have heven := h (c :: upTo) after (by rw [hsplit, List.cons_append]) hafter
      rwa [List.append_cons] at heven
  · rintro ⟨hquote, hrest⟩ upTo after hsplit hafter
    obtain ⟨rfl, rfl⟩ | ⟨later, rfl, htext⟩ := List.cons_eq_append_iff.mp hsplit
    · rw [List.append_nil]
      exact hquote (by simpa using hafter)
    · rw [List.append_cons]
      exact hrest later after htext hafter

def midEscape (before : List Char) : Bool :=
  !decide (Even (finalBackslashes before))

theorem midEscape_eq_false : midEscape before = false ↔ Even (finalBackslashes before) := by
  rw [midEscape, Bool.not_eq_false', decide_eq_true_iff]

theorem midEscape_backslash (before : List Char) :
    midEscape (before ++ ['\\']) = !midEscape before := by
  simp only [midEscape, finalBackslashes_backslash, Nat.even_add_one, decide_not]

theorem midEscape_of_ne (h : c ≠ '\\') (before : List Char) :
    midEscape (before ++ [c]) = false := by
  rw [midEscape_eq_false, finalBackslashes_of_ne h]
  decide

end Backslashes

section Closes

variable {escaped : Bool}

/-- The literal that is being read ends in front of the code. -/
def Closes (escaped : Bool) (text code : List Char) : Prop :=
  ∃ held, readBody escaped text = some (held, code)

theorem closes_taken : Closes true (c :: text) code ↔ Closes false text code := by
  constructor
  · rintro ⟨held, hheld⟩
    obtain ⟨later, hlater, _⟩ := readBody_taken.mp hheld
    exact ⟨later, hlater⟩
  · rintro ⟨later, hlater⟩
    exact ⟨c :: later, readBody_taken.mpr ⟨later, hlater, rfl⟩⟩

theorem closes_plain (hslash : c ≠ '\\') (hquote : c ≠ '"') :
    Closes escaped (c :: text) code ↔ Closes false text code := by
  cases escaped with
  | true => exact closes_taken
  | false =>
    rw [Closes, readBody_plain hslash hquote]
    exact closes_taken

theorem not_closes_self (text : List Char) : ¬ Closes false text text :=
  fun ⟨_, hheld⟩ => ne_of_readBody hheld rfl

theorem not_closes_early (text code : List Char) :
    ¬ Closes false ('"' :: (text ++ '"' :: code)) code := by
  rintro ⟨held, hheld⟩
  rw [readBody_quote] at hheld
  have hsame := congrArg List.length (Prod.mk.inj (Option.some.inj hheld)).2
  rw [List.length_append, List.length_cons] at hsame
  omega

theorem closes_escapeQuotes_iff (before text code : List Char) :
    Closes (midEscape before) (escapeQuotes text ++ '"' :: code) code ↔ EvenBehind before text := by
  induction text generalizing before with
  | nil =>
    rw [evenBehind_nil, ← midEscape_eq_false]
    cases midEscape before with
    | false => exact iff_of_true ⟨[], rfl⟩ rfl
    | true => exact iff_of_false (fun hcloses =>
      not_closes_self code (closes_taken.mp hcloses)) (by decide)
  | cons c text ih =>
    rw [evenBehind_cons, ← ih, ← midEscape_eq_false]
    by_cases hslash : c = '\\'
    · subst hslash
      have hnext : (Closes (midEscape before) ('\\' :: (escapeQuotes text ++ '"' :: code)) code ↔
          Closes (!midEscape before) (escapeQuotes text ++ '"' :: code) code) := by
        cases midEscape before with
        | false => exact Iff.rfl
        | true => exact closes_taken
      rw [midEscape_backslash, escapeQuotes_cons (by decide), List.cons_append, hnext]
      exact (and_iff_right fun hquote => absurd hquote (by decide)).symm
    · rw [midEscape_of_ne hslash]
      by_cases hquote : c = '"'
      · subst hquote
        rw [escapeQuotes_quote, List.cons_append, List.cons_append]
        cases midEscape before with
        | false => exact closes_taken.trans (and_iff_right fun _ => rfl).symm
        | true =>
          refine iff_of_false (fun hcloses => ?_) (by simp)
          exact not_closes_early (escapeQuotes text) code (closes_taken.mp hcloses)
      · rw [escapeQuotes_cons hquote, List.cons_append, closes_plain hslash hquote]
        exact (and_iff_right fun hc => absurd hc hquote).symm

end Closes

/-- Whatever code follows it, the literal of a text holds just the text exactly if the text has no
backslash, and it ends in front of the code exactly if the backslashes before each quote of the
text, and those at its end, are even in number. -/
theorem quoted_reads_back_iff (text : String) (code : List Char) :
    (literal? ((quoted text).toList ++ code) = some (text.toList, code) ↔ '\\' ∉ text.toList) ∧
      ((∃ held, literal? ((quoted text).toList ++ code) = some (held, code)) ↔
        EvenBehind [] text.toList) := by
  rw [literal?_quoted]
  refine ⟨readBody_escapeQuotes_iff text.toList code, ?_⟩
  have hcloses := closes_escapeQuotes_iff [] text.toList code
  rwa [show midEscape [] = false from rfl] at hcloses

/-- The literal of a sound that ends with a backslash takes the code after it for its own. -/
theorem final_backslash_swallows_code :
    drumSounds (.ofList [("sound", .string "bd\\")]) "" = "sound(\"bd\\\")" ∧
      literal? (quoted "bd\\").toList = none ∧
      ¬ ∀ text : String, literal? (quoted text).toList = some (text.toList, []) := by
  have hopen : literal? (quoted "bd\\").toList = none := by decide +kernel
  refine ⟨by decide +kernel, hopen, fun h => ?_⟩
  cases hopen.symm.trans (h "bd\\")

end Patchbay.Chain
