import Patchbay.Proofs.JsonDecoding

namespace Patchbay.Numeral

/-- The text writes a whole number: digits, perhaps behind a sign. -/
def WritesWhole (text : List Char) (i : Int) : Prop :=
  ∃ (sign : Sign) (digits : List Char), text = sign.text ++ digits ∧ digits ≠ [] ∧
    (∀ c ∈ digits, c.isDigit) ∧
    i = if sign.isNegative then -(ofDigits digits : Int) else ofDigits digits

theorem text_take (text : List Char) : (Sign.take text).1.text ++ (Sign.take text).2 = text := by
  rw [Sign.take.eq_def]
  split <;> rfl

theorem wholeNumber?_eq_some_iff (text : List Char) (i : Int) :
    wholeNumber? text = some i ↔ WritesWhole text i := by
  rw [wholeNumber?]
  constructor
  · intro h
    simp only at h
    split at h
    · cases h
    · next hdigits =>
      simp only [Bool.or_eq_true, List.isEmpty_iff, Bool.not_eq_true', not_or, Bool.not_eq_false,
        List.all_eq_true] at hdigits
      exact ⟨_, _, (text_take text).symm, hdigits.1, hdigits.2, (Option.some.inj h).symm⟩
  · rintro ⟨sign, digits, rfl, hne, hall, rfl⟩
    have hunsigned : ∀ c ∈ digits.head?, c ≠ '+' ∧ c ≠ '-' :=
      fun c hc => not_sign_of_isDigit (hall c (List.mem_of_mem_head? hc))
    have hdigits : (digits.isEmpty || !digits.all Char.isDigit) = false := by
      simp [hne, List.all_eq_true.mpr hall]
    rw [sign_take_append sign hunsigned]
    simp only [hdigits, Bool.false_eq_true, if_false]

def Fits64 (i : Int) : Prop :=
  -0x8000000000000000 ≤ i ∧ i < 0x8000000000000000

instance (i : Int) : Decidable (Fits64 i) :=
  inferInstanceAs (Decidable (_ ∧ _))

def Integer64 (text : List Char) (i : Int) : Prop :=
  WritesWhole text i ∧ Fits64 i

theorem int64?_eq_some_iff (text : List Char) (i : Int) :
    int64? text = some i ↔ Integer64 text i := by
  rw [int64?, Option.filter_eq_some_iff, wholeNumber?_eq_some_iff, Bool.and_eq_true,
    decide_eq_true_iff, decide_eq_true_iff]
  exact Iff.rfl

theorem writesWhole_ofInt (i : Int) : WritesWhole (Numeral.ofInt i).text i := by
  refine ⟨(ofInt i).sign, (ofInt i).whole, by simp [text, ofInt], Nat.toDigits_ne_nil,
    fun c hc => isDigit_of_mem_toDigits hc, ?_⟩
  have hdigits : ofDigits (ofInt i).whole = i.natAbs := Number.ofDigits_toDigits i.natAbs
  rw [hdigits, ofInt]
  by_cases hneg : i < 0
  · simp only [hneg, if_true, Sign.isNegative]
    omega
  · simp only [hneg, if_false, Sign.isNegative, Bool.false_eq_true]
    omega

/-- The text writes a whole number of 64 bits without a sign: digits, perhaps behind a plus. -/
def Natural64 (text : List Char) (n : Nat) : Prop :=
  ∃ digits, (text = digits ∨ text = '+' :: digits) ∧ digits ≠ [] ∧ (∀ c ∈ digits, c.isDigit) ∧
    ofDigits digits = n ∧ n < 0x10000000000000000

theorem nat64?_eq_some_iff (text : List Char) (n : Nat) :
    nat64? text = some n ↔ Natural64 text n := by
  by_cases hminus : text.head? = some '-'
  · refine iff_of_false (by simp [nat64?, hminus]) ?_
    obtain ⟨rest, rfl⟩ := List.head?_eq_some_iff.mp hminus
    rintro ⟨_, rfl | heq, _, hall, _⟩
    · exact Bool.false_ne_true (hall '-' List.mem_cons_self)
    · cases heq
  · rw [nat64?, if_neg hminus, Option.filter_eq_some_iff, Option.map_eq_some_iff,
      decide_eq_true_iff]
    simp only [wholeNumber?_eq_some_iff]
    constructor
    · rintro ⟨⟨i, ⟨sign, digits, rfl, hne, hall, rfl⟩, rfl⟩, hlt⟩
      cases sign with
      | minus => exact absurd rfl hminus
      | absent => exact ⟨digits, .inl rfl, hne, hall, rfl, hlt⟩
      | plus => exact ⟨digits, .inr rfl, hne, hall, rfl, hlt⟩
    · rintro ⟨digits, rfl | rfl, hne, hall, rfl, hlt⟩
      · exact ⟨⟨_, ⟨.absent, text, rfl, hne, hall, rfl⟩, rfl⟩, hlt⟩
      · exact ⟨⟨_, ⟨.plus, digits, rfl, hne, hall, rfl⟩, rfl⟩, hlt⟩

end Patchbay.Numeral
