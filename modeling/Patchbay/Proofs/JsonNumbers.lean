import Patchbay.Json.Decode
import Patchbay.Proofs.TextBytes
import Mathlib.Data.List.DropRight

namespace Patchbay

namespace Numeral

structure Digital (n : Numeral) : Prop where
  whole : ∀ c ∈ n.whole, c.isDigit
  fraction : ∀ digits ∈ n.fraction, ∀ c ∈ digits, c.isDigit
  exponent : ∀ exponent ∈ n.exponent, exponent.2 ≠ [] ∧ ∀ c ∈ exponent.2, c.isDigit

theorem takeDigits_append {digits rest : List Char} (h : ∀ c ∈ digits, c.isDigit)
    (hrest : ∀ c ∈ rest.head?, c.isDigit = false) :
    takeDigits (digits ++ rest) = (digits, rest) := by
  have hnone : rest.takeWhile Char.isDigit = [] ∧ rest.dropWhile Char.isDigit = rest := by
    cases rest with
    | nil => exact ⟨rfl, rfl⟩
    | cons c more =>
      have hc := hrest c rfl
      simp [hc]
  rw [takeDigits, List.takeWhile_append_of_pos h, List.dropWhile_append_of_pos h, hnone.1, hnone.2,
    List.append_nil]

theorem sign_take_append (sign : Sign) {rest : List Char}
    (h : ∀ c ∈ rest.head?, c ≠ '+' ∧ c ≠ '-') :
    Sign.take (sign.text ++ rest) = (sign, rest) := by
  cases sign with
  | plus | minus => rfl
  | absent =>
    cases rest with
    | nil => rfl
    | cons c more =>
      obtain ⟨hplus, hminus⟩ := h c rfl
      rw [Sign.text, List.nil_append, Sign.take.eq_def]
      split
      · next heq => exact absurd (List.cons.inj heq).1 hplus
      · next heq => exact absurd (List.cons.inj heq).1 hminus
      · rfl

theorem not_sign_of_isDigit {c : Char} (h : c.isDigit) : c ≠ '+' ∧ c ≠ '-' := by
  constructor <;> rintro rfl <;> cases h

def fractionText : Option (List Char) → List Char
  | none => []
  | some digits => '.' :: digits

def IsExponentMark (mark : Char) : Prop :=
  mark = 'e' ∨ mark = 'E'

def exponentText (mark : Char) : Option (Sign × List Char) → List Char
  | none => []
  | some (sign, digits) => mark :: (sign.text ++ digits)

def markedText (mark : Char) (n : Numeral) : List Char :=
  n.sign.text ++ (n.whole ++ (fractionText n.fraction ++ exponentText mark n.exponent))

theorem text_eq_markedText (n : Numeral) : n.text = n.markedText 'e' := by
  simp only [text, List.append_assoc]
  rfl

variable {mark : Char}

theorem head?_exponentText (hmark : IsExponentMark mark) (exponent : Option (Sign × List Char)) :
    ∀ c ∈ (exponentText mark exponent).head?, IsExponentMark c := by
  cases exponent with
  | none => exact fun c hc => nomatch hc
  | some exponent =>
    intro c hc
    obtain rfl := Option.some.inj hc
    exact hmark

theorem head?_fractionText_append (hmark : IsExponentMark mark) (fraction : Option (List Char))
    (exponent : Option (Sign × List Char)) :
    ∀ c ∈ (fractionText fraction ++ exponentText mark exponent).head?, c = '.' ∨
      IsExponentMark c := by
  cases fraction with
  | some digits => exact fun c hc => .inl (Option.some.inj hc).symm
  | none => exact fun c hc => .inr (head?_exponentText hmark exponent c hc)

theorem ne_of_isExponentMark {c : Char} (h : IsExponentMark c) : c ≠ '.' ∧ c.isDigit = false := by
  rcases h with rfl | rfl <;> decide

theorem takeFraction_append {fraction : Option (List Char)}
    (hdigits : ∀ digits ∈ fraction, ∀ c ∈ digits, c.isDigit) {rest : List Char}
    (h : ∀ c ∈ rest.head?, IsExponentMark c) :
    takeFraction (fractionText fraction ++ rest) = (fraction, rest) := by
  cases fraction with
  | some digits =>
    have hrest : ∀ c ∈ rest.head?, c.isDigit = false :=
      fun c hc => (ne_of_isExponentMark (h c hc)).2
    simp only [fractionText, List.cons_append, takeFraction,
      takeDigits_append (hdigits digits rfl) hrest]
  | none =>
    cases rest with
    | nil => rfl
    | cons c more =>
      rw [fractionText, List.nil_append, takeFraction.eq_def]
      split
      · next heq => exact absurd (List.cons.inj heq).1 (ne_of_isExponentMark (h c rfl)).1
      · rfl

theorem Digital.parse?_markedText {n : Numeral} (h : n.Digital) (hmark : IsExponentMark mark) :
    parse? (n.markedText mark) = some n := by
  have hparts := head?_fractionText_append hmark n.fraction n.exponent
  have hunsigned :
    ∀ c ∈ (n.whole ++ (fractionText n.fraction ++ exponentText mark n.exponent)).head?,
      c ≠ '+' ∧ c ≠ '-' := by
    intro c hc
    cases hwhole : n.whole with
    | nil =>
      rw [hwhole] at hc
      rcases hparts c hc with rfl | rfl | rfl <;> decide
    | cons d more =>
      rw [hwhole] at hc
      obtain rfl := Option.some.inj hc
      exact not_sign_of_isDigit (h.whole d (by simp [hwhole]))
  have hsign := sign_take_append n.sign hunsigned
  have hwhole := takeDigits_append h.whole fun c hc => by
    rcases hparts c hc with rfl | rfl | rfl <;> rfl
  have hfraction := takeFraction_append h.fraction (head?_exponentText hmark n.exponent)
  rw [parse?, markedText, hsign]
  simp only [hwhole, hfraction]
  cases hexponent : n.exponent with
  | none =>
    rw [exponentText]
    simp only [← hexponent]
  | some exponent =>
    obtain ⟨sign, digits⟩ := exponent
    obtain ⟨hne, hall⟩ := h.exponent _ hexponent
    have hunsigned : ∀ c ∈ digits.head?, c ≠ '+' ∧ c ≠ '-' :=
      fun c hc => not_sign_of_isDigit (hall c (List.mem_of_mem_head? hc))
    have hsign := sign_take_append sign hunsigned
    have hlast : takeDigits (digits ++ []) = (digits, []) := takeDigits_append hall (by simp)
    rw [List.append_nil] at hlast
    simp only [exponentText, hsign, hlast]
    rw [if_pos ⟨hmark, hne, trivial⟩, ← hexponent]

def IsMark (c : Char) : Prop :=
  c.isDigit ∨ c = '+' ∨ c = '-' ∨ c = '.' ∨ IsExponentMark c

theorem isMark_of_mem_sign {sign : Sign} {c : Char} (h : c ∈ sign.text) : IsMark c := by
  cases sign with
  | absent => cases h
  | plus => exact .inr (.inl (List.mem_singleton.mp h))
  | minus => exact .inr (.inr (.inl (List.mem_singleton.mp h)))

theorem Digital.isMark {n : Numeral} (h : n.Digital) (hmark : IsExponentMark mark) {c : Char}
    (hc : c ∈ n.markedText mark) : IsMark c := by
  rw [markedText, List.mem_append, List.mem_append, List.mem_append] at hc
  rcases hc with hc | hc | hc | hc
  · exact isMark_of_mem_sign hc
  · exact .inl (h.whole c hc)
  · cases hfraction : n.fraction with
    | none =>
      rw [hfraction] at hc
      cases hc
    | some digits =>
      rw [hfraction] at hc
      rcases List.mem_cons.mp hc with rfl | hc
      · exact .inr (.inr (.inr (.inl rfl)))
      · exact .inl (h.fraction digits hfraction c hc)
  · cases hexponent : n.exponent with
    | none =>
      rw [hexponent] at hc
      cases hc
    | some exponent =>
      rw [hexponent] at hc
      rcases List.mem_cons.mp hc with rfl | hc
      · exact .inr (.inr (.inr (.inr hmark)))
      · rcases List.mem_append.mp hc with hc | hc
        · exact isMark_of_mem_sign hc
        · exact .inl ((h.exponent _ hexponent).2 c hc)

end Numeral

namespace Json

theorem isNumberByte_of_isMark {c : Char} (h : Numeral.IsMark c) :
    c.toNat < 0x80 ∧ isNumberByte c.toNat.toUInt8 := by
  rcases h with h | rfl | rfl | rfl | rfl | rfl
  · have hbounds : 0x30 ≤ c.toNat ∧ c.toNat ≤ 0x39 := by
      rw [Char.isDigit, Bool.and_eq_true, decide_eq_true_eq, decide_eq_true_eq] at h
      exact ⟨h.1, h.2⟩
    have hnat := Utf8.toNat_toUInt8 (n := c.toNat) (by omega)
    have hlow : (0x30 : UInt8) ≤ c.toNat.toUInt8 :=
      UInt8.le_iff_toNat_le.mpr (by rw [hnat]; exact hbounds.1)
    have hhigh : c.toNat.toUInt8 ≤ 0x39 := UInt8.le_iff_toNat_le.mpr (by rw [hnat]; exact hbounds.2)
    exact ⟨by omega, by simp [isNumberByte, hlow, hhigh]⟩
  all_goals decide

/-- A numeral is read up to its end, whatever follows it but a byte that could belong to it. -/
theorem takeNumber_append {n : Numeral} (h : n.Digital) (hnumber : isNumber n) {mark : Char}
    (hmark : Numeral.IsExponentMark mark) {rest : List UInt8}
    (hrest : ∀ b ∈ rest.head?, isNumberByte b = false) :
    takeNumber (Utf8.encode (n.markedText mark) ++ rest) = some (.number n, rest) := by
  have hmarks : ∀ c ∈ n.markedText mark, c.toNat < 0x80 ∧ isNumberByte c.toNat.toUInt8 :=
    fun c hc => isNumberByte_of_isMark (h.isMark hmark hc)
  have hbytes := Utf8.encode_of_ascii fun c hc => (hmarks c hc).1
  have hall : ∀ b ∈ Utf8.encode (n.markedText mark), isNumberByte b := by
    rw [hbytes]
    intro b hb
    obtain ⟨c, hc, rfl⟩ := List.mem_map.mp hb
    exact (hmarks c hc).2
  have hnone : rest.takeWhile isNumberByte = [] ∧ rest.dropWhile isNumberByte = rest := by
    cases rest with
    | nil => exact ⟨rfl, rfl⟩
    | cons b more =>
      have hb := hrest b rfl
      simp [hb]
  have hback : (Utf8.encode (n.markedText mark)).map (fun b => Char.ofNat b.toNat) =
      n.markedText mark := by
    rw [hbytes, List.map_map]
    refine (List.map_congr_left fun c hc => ?_).trans (List.map_id _)
    rw [Function.comp_apply, Utf8.toNat_toUInt8 (Nat.lt_trans (hmarks c hc).1 (by decide)),
      Char.ofNat_toNat]
    rfl
  rw [takeNumber, List.takeWhile_append_of_pos hall, List.dropWhile_append_of_pos hall, hnone.1,
    hnone.2, List.append_nil, hback, h.parse?_markedText hmark]
  simp only [hnumber, if_true]

theorem takeToken_of_isNumberByte {b : UInt8} (h : isNumberByte b) (rest : List UInt8) :
    takeToken (b :: rest) = takeNumber (b :: rest) := by
  have hne (other : UInt8) (hother : isNumberByte other = false) : b ≠ other := by
    rintro rfl
    exact Bool.false_ne_true (hother.symm.trans h)
  rw [takeToken]
  simp only [if_neg (hne '['.toUInt8 (by decide)), if_neg (hne ']'.toUInt8 (by decide)),
    if_neg (hne '{'.toUInt8 (by decide)), if_neg (hne '}'.toUInt8 (by decide)),
    if_neg (hne ','.toUInt8 (by decide)), if_neg (hne ':'.toUInt8 (by decide)),
    if_neg (hne '"'.toUInt8 (by decide)), if_neg (hne 'n'.toUInt8 (by decide)),
    if_neg (hne 't'.toUInt8 (by decide)), if_neg (hne 'f'.toUInt8 (by decide))]

theorem isSpace_of_isNumberByte {b : UInt8} (h : isNumberByte b) : isSpace b = false := by
  have hne (other : UInt8) (hother : isNumberByte other = false) : b ≠ other := by
    rintro rfl
    exact Bool.false_ne_true (hother.symm.trans h)
  simp [isSpace, hne 0x20 (by decide), hne 0x09 (by decide),
    hne 0x0A (by decide), hne 0x0D (by decide)]

theorem exists_takeToken_numeral {n : Numeral} (h : n.Digital) (hnumber : isNumber n) {mark : Char}
    (hmark : Numeral.IsExponentMark mark) :
    ∃ b more, Utf8.encode (n.markedText mark) = b :: more ∧ isSpace b = false ∧
      ∀ rest : List UInt8, (∀ b ∈ rest.head?, isNumberByte b = false) →
        takeToken (b :: (more ++ rest)) = some (.number n, rest) := by
  have hwhole : n.whole ≠ [] := by
    intro hnil
    simp [isNumber, hnil] at hnumber
  obtain ⟨c, chars, htext⟩ : ∃ c chars, n.markedText mark = c :: chars := by
    refine List.exists_cons_of_ne_nil ?_
    rw [Numeral.markedText]
    simp [hwhole]
  have hc := isNumberByte_of_isMark (h.isMark hmark (c := c) (by simp [htext]))
  refine ⟨c.toNat.toUInt8, Utf8.encode chars, ?_, isSpace_of_isNumberByte hc.2,
    fun rest hrest => ?_⟩
  · rw [htext, Utf8.encode_cons, Utf8.encodeChar_of_lt hc.1]
    rfl
  · have htake := takeNumber_append h hnumber hmark hrest
    rw [htext, Utf8.encode_cons, Utf8.encodeChar_of_lt hc.1] at htake
    rw [takeToken_of_isNumberByte hc.2]
    exact htake

end Json

/-- Numerals as they are printed for JSON: without blank parts and without zeros in front. -/
structure Numeral.Printed (n : Numeral) : Prop where
  digital : n.Digital
  number : Json.isNumber n

section Layout

theorem head?_toDigits {n : Nat} (h : n ≠ 0) : (Nat.toDigits 10 n).head? ≠ some '0' := by
  induction n using Nat.strongRecOn with
  | ind n ih =>
    by_cases hlt : n < 10
    · have hdigit : ∀ k < 10, k ≠ 0 → some k.digitChar ≠ some '0' := by decide
      rw [Nat.toDigits_of_lt_base hlt]
      exact hdigit n hlt h
    · rw [Nat.toDigits_of_base_le (by decide) (Nat.not_lt.mp hlt)]
      have hne : Nat.toDigits 10 (n / 10) ≠ [] := Nat.toDigits_ne_nil
      rw [List.head?_append_of_ne_nil _ hne]
      exact ih (n / 10) (by omega) (by omega)

theorem isDigit_of_mem_toDigits {n : Nat} {c : Char} (h : c ∈ Nat.toDigits 10 n) : c.isDigit :=
  Nat.isDigit_of_mem_toDigits (by decide) (by decide) h

theorem printed_ofInt (i : Int) : (Numeral.ofInt i).Printed := by
  refine ⟨⟨fun c hc =>
    isDigit_of_mem_toDigits hc, by simp [Numeral.ofInt], by simp [Numeral.ofInt]⟩, ?_⟩
  have hhead : (Nat.toDigits 10 i.natAbs).length = 1 ∨
      (Nat.toDigits 10 i.natAbs).head? ≠ some '0' := by
    by_cases hi : i.natAbs = 0
    · exact .inl (by rw [hi]; rfl)
    · exact .inr (head?_toDigits hi)
  have hne : Nat.toDigits 10 i.natAbs ≠ [] := Nat.toDigits_ne_nil
  have hsign : (if i < 0 then Sign.minus else Sign.absent) ≠ .plus := by split <;> decide
  rw [Numeral.ofInt, Json.isNumber]
  simp [hsign, hne, hhead]

/-- The digits that a decimal shows: at least one, and no zero in front of others. -/
structure Shown (digits : List Char) : Prop where
  isDigit : ∀ c ∈ digits, c.isDigit
  ne_nil : digits ≠ []
  head : digits ≠ ['0'] → digits.head? ≠ some '0'

variable {sign : Sign} {digits : List Char} {weight : Int}

theorem isDigit_of_mem_zeros {count : Nat} {c : Char} (h : c ∈ DecimalLayout.zeros count) :
    c.isDigit := by
  rw [(List.mem_replicate.mp h).2]
  rfl

theorem Shown.printed_positional (h : Shown digits) (hsign : sign ≠ .plus)
    (hzero : digits = ['0'] → weight ≤ 0) :
    (DecimalLayout.positional sign digits weight).Printed := by
  rw [DecimalLayout.positional]
  split
  · next hweight =>
    have hfirst : ∃ c more, digits = c :: more := List.exists_cons_of_ne_nil h.ne_nil
    obtain ⟨c, more, rfl⟩ := hfirst
    refine ⟨⟨fun d hd => ?_, fun fraction hfraction d hd => ?_, by simp⟩, ?_⟩
    · rcases List.mem_append.mp hd with hd | hd
      · exact h.isDigit d (List.mem_of_mem_take hd)
      · exact isDigit_of_mem_zeros hd
    · obtain rfl := Option.some.inj hfraction
      split at hd
      · rw [List.mem_singleton.mp hd]
        rfl
      · exact h.isDigit d (List.mem_of_mem_drop hd)
    · have hfraction (fraction : List Char) :
          (if fraction.isEmpty then ['0'] else fraction) ≠ [] := by
        cases fraction <;> simp
      have hlead : ((c :: more).take (weight.toNat + 1) ++
            DecimalLayout.zeros (weight.toNat + 1 - (c :: more).length)).length = 1 ∨ c ≠ '0' := by
        by_cases hlone : c :: more = ['0']
        · refine .inl ?_
          have hnat : weight.toNat = 0 := by
            have := hzero hlone
            omega
          simp [hlone, hnat, DecimalLayout.zeros]
        · exact .inr fun hc => h.head hlone (by rw [hc]; rfl)
      rw [Json.isNumber, Bool.and_eq_true, Bool.and_eq_true, Bool.and_eq_true, Bool.or_eq_true]
      refine ⟨⟨⟨by simpa using hsign, by simp⟩, ?_⟩,
        decide_eq_true fun heq => hfraction _ (Option.some.inj heq)⟩
      exact hlead.imp (fun hlone => decide_eq_true hlone) fun hne => by simpa using hne
  · refine ⟨⟨by simp, fun fraction hfraction d hd => ?_, by simp⟩, ?_⟩
    · obtain rfl := Option.some.inj hfraction
      rcases List.mem_append.mp hd with hd | hd
      · exact isDigit_of_mem_zeros hd
      · exact h.isDigit d hd
    · simp [Json.isNumber, hsign, h.ne_nil]

theorem Shown.printed_exponential (h : Shown digits) (hsign : sign ≠ .plus) :
    (DecimalLayout.exponential sign digits weight).Printed := by
  obtain ⟨c, more, rfl⟩ := List.exists_cons_of_ne_nil h.ne_nil
  have hdigits : ∀ d ∈ more, d.isDigit := fun d hd => h.isDigit d (List.mem_cons_of_mem c hd)
  refine ⟨⟨fun d hd => ?_, fun fraction hfraction => ?_, fun exponent hexponent => ?_⟩, ?_⟩
  · exact h.isDigit d (List.mem_of_mem_take hd)
  · rw [DecimalLayout.exponential] at hfraction
    cases more with
    | nil => cases hfraction
    | cons d rest =>
      obtain rfl := Option.some.inj hfraction
      exact hdigits
  · obtain rfl := Option.some.inj hexponent
    exact ⟨Nat.toDigits_ne_nil, fun d hd => isDigit_of_mem_toDigits hd⟩
  · rw [Json.isNumber, DecimalLayout.exponential]
    cases more <;> simp [hsign]

theorem shown_toDigits (n : Nat) :
    let significant := ((Nat.toDigits 10 n).reverse.dropWhile (· == '0')).reverse
    let shown := if significant.isEmpty then ['0'] else significant
    Shown shown ∧ (shown = ['0'] → n = 0) := by
  intro significant shown
  have hsub : significant <+: Nat.toDigits 10 n := List.rdropWhile_prefix (· == '0') _
  by_cases hn : n = 0
  · have hshown : shown = ['0'] := by
      rw [show shown = if significant.isEmpty then ['0'] else significant from rfl,
        show significant = [] by simp only [significant, hn]; rfl]
      rfl
    have hdigit : ∀ c ∈ ['0'], c.isDigit := fun c hc => by
      rw [List.mem_singleton.mp hc]
      rfl
    rw [hshown]
    exact ⟨⟨hdigit, List.cons_ne_nil _ _, fun hne => absurd rfl hne⟩, fun _ => hn⟩
  · have hhead := head?_toDigits hn
    have hne : significant ≠ [] := by
      intro hnil
      have hdropped : List.rdropWhile (· == '0') (Nat.toDigits 10 n) = [] := hnil
      have hall := List.rdropWhile_eq_nil_iff.mp hdropped
      obtain ⟨c, more, hdigits⟩ :=
        List.exists_cons_of_ne_nil (Nat.toDigits_ne_nil (n := n) (b := 10))
      have hc : c = '0' := by simpa using hall c (by simp [hdigits])
      exact hhead (by rw [hdigits, hc]; rfl)
    have hshown : shown = significant := if_neg fun hempty => hne (List.isEmpty_iff.mp hempty)
    have hsame : significant.head? = (Nat.toDigits 10 n).head? := by
      obtain ⟨rest, hrest⟩ := hsub
      rw [← hrest, List.head?_append_of_ne_nil _ hne]
    rw [hshown]
    refine ⟨⟨fun c hc => isDigit_of_mem_toDigits (hsub.subset hc), hne, fun _ => by rwa [hsame]⟩,
      ?_⟩
    intro hzero
    rw [← hsame, hzero] at hhead
    exact absurd rfl hhead

/-- A decimal is laid out in the form of JSON, unless it is a zero of tens. -/
theorem printed_numeral (layout : DecimalLayout) (hsign : sign ≠ .plus) {d : Decimal}
    (hzero : d.coefficient = 0 → d.exponent = 0) : (layout.numeral sign d).Printed := by
  obtain ⟨hshown, hlone⟩ := shown_toDigits d.coefficient
  unfold DecimalLayout.numeral
  extract_lets digits weight significant shown
  split
  · refine hshown.printed_positional hsign fun heq => ?_
    have hcoefficient := hlone heq
    simp only [weight, digits, hcoefficient, hzero hcoefficient]
    decide
  · exact hshown.printed_exponential hsign

end Layout

namespace Binary64

theorem holds_interval_zero {x : Binary64} (h : x.isZero = false) (weight : Int) :
    x.interval.holds (gridPoint 0 weight x.interval.exponent) = false := by
  have hsignificand : x.significand ≠ 0 := by simpa [isZero] using h
  have hlow : 0 < x.interval.low := by
    simp only [interval]
    split <;> omega
  have hden : 0 < (gridPoint 0 weight x.interval.exponent).2 :=
    Nat.mul_pos (Nat.pow_pos (by decide)) (Nat.pow_pos (by decide))
  have hnum : (gridPoint 0 weight x.interval.exponent).1 = 0 := by simp [gridPoint]
  have hpos := Nat.mul_pos hlow hden
  rw [Interval.holds, hnum]
  split
  · simp
    omega
  · simp

theorem coefficient_onGrid? {x : Binary64} (h : x.isZero = false) {weight : Int} {d : Decimal}
    (hd : x.onGrid? weight = some d) : d.coefficient ≠ 0 := by
  have hzero := holds_interval_zero h weight
  simp only [onGrid?] at hd
  generalize x.ratio.1 * Nat.pow 10 (-weight).toNat / (x.ratio.2 * Nat.pow 10 weight.toNat) =
    below at hd
  have hbelow (hlower : x.interval.holds (gridPoint below weight x.interval.exponent) = true) :
      below ≠ 0 := by
    rintro rfl
    exact Bool.false_ne_true (hzero.symm.trans hlower)
  split at hd
  · next hlower _ =>
    obtain rfl := Option.some.inj hd
    have := hbelow hlower
    simp only
    split <;> omega
  · next hlower _ =>
    obtain rfl := Option.some.inj hd
    exact hbelow hlower
  · obtain rfl := Option.some.inj hd
    exact Nat.succ_ne_zero below
  · cases hd

theorem exponent_shortest_of_zero {x : Binary64} (h : x.shortest.coefficient = 0) :
    x.shortest.exponent = 0 := by
  unfold shortest at h ⊢
  cases hzero : x.isZero with
  | true => rfl
  | false =>
    simp only [hzero, Bool.false_eq_true, if_false] at h ⊢
    generalize hfound : (List.range 17).findSome? _ = found? at h ⊢
    cases found? with
    | none => rfl
    | some d =>
      obtain ⟨count, _, hd⟩ := List.exists_of_findSome?_eq_some hfound
      exact absurd h (coefficient_onGrid? hzero hd)

end Binary64

theorem Number.printed_numeral (n : Number) : n.numeral.Printed := by
  cases n with
  | integer i fits => exact printed_ofInt i
  | float x =>
    refine Patchbay.printed_numeral layout ?_ Binary64.exponent_shortest_of_zero
    split <;> decide

end Patchbay
