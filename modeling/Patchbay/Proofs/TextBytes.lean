import Patchbay.Text.Utf8
import Mathlib.Data.List.Basic

namespace Patchbay.Utf8

theorem le_of_mem_encodeChar {c : Char} (h : 0x80 ≤ c.toNat) {b : UInt8} (hb : b ∈ encodeChar c) :
    0x80 ≤ b.toNat := by
  have hbound : c.toNat < 0x110000 := by
    rcases c.valid with hc | hc
    · exact Nat.lt_trans hc (by decide)
    · exact hc.2
  unfold encodeChar at hb
  simp only [if_neg (Nat.not_lt.mpr h)] at hb
  split at hb
  · simp only [List.mem_cons, List.not_mem_nil, or_false] at hb
    rcases hb with rfl | rfl <;> simp <;> omega
  · split at hb
    · simp only [List.mem_cons, List.not_mem_nil, or_false] at hb
      rcases hb with rfl | rfl | rfl <;> simp <;> omega
    · simp only [List.mem_cons, List.not_mem_nil, or_false] at hb
      rcases hb with rfl | rfl | rfl | rfl <;> simp <;> omega

theorem encodeChar_of_lt {c : Char} (h : c.toNat < 0x80) : encodeChar c = [c.toNat.toUInt8] :=
  if_pos h

theorem toNat_toUInt8 {n : Nat} (h : n < 256) : n.toUInt8.toNat = n := by
  simp
  omega

theorem tail_cons {value low high n : Nat} (h : low ≤ n) (h' : n ≤ high)
    (hhigh : high < 256) (more : Nat)
    (rest : List UInt8) :
    tail value low high (more + 1) (n.toUInt8 :: rest) =
      tail (64 * value + (n - 0x80)) 0x80 0xBF more rest := by
  have hn : n.toUInt8.toNat = n := toNat_toUInt8 (by omega)
  simp only [tail, hn, h, h', decide_true, Bool.and_self, if_true]

theorem tail_zero (c : Char) {value low high : Nat} (h : value = c.toNat) (rest : List UInt8) :
    tail value low high 0 rest = .char c rest := by
  rw [tail, h, Char.ofNat_toNat]

/-- The bounds on a number that is not encoded in fewer bytes are those that its head looks for. -/
theorem exists_head_encodeChar (c : Char) :
    ∃ b more, encodeChar c = b :: more ∧ ∀ rest, head b (more ++ rest) = .char c rest := by
  have hvalid : c.toNat < 0xD800 ∨ 0xDFFF < c.toNat ∧ c.toNat < 0x110000 := c.valid
  unfold encodeChar
  generalize hn : c.toNat = n at *
  by_cases h₁ : n < 0x80
  · refine ⟨_, _, if_pos h₁, fun rest => ?_⟩
    rw [head, toNat_toUInt8 (by omega), if_pos h₁, ← hn, Char.ofNat_toNat]
    rfl
  · by_cases h₂ : n < 0x800
    · refine ⟨_, _, by rw [if_neg h₁, if_pos h₂], fun rest => ?_⟩
      rw [head, toNat_toUInt8 (by omega), if_neg (by omega), if_neg (by omega), if_pos (by omega),
        List.cons_append, tail_cons (by omega) (by omega) (by omega)]
      exact tail_zero c (by omega) rest
    · by_cases h₃ : n < 0x10000
      · refine ⟨_, _, by rw [if_neg h₁, if_neg h₂, if_pos h₃], fun rest => ?_⟩
        rw [head, toNat_toUInt8 (by omega), if_neg (by omega), if_neg (by omega), if_neg (by omega),
          List.cons_append, List.cons_append]
        by_cases he : n < 0x1000
        · rw [if_pos (by omega), tail_cons (by omega) (by omega) (by omega),
            tail_cons (by omega) (by omega) (by omega)]
          exact tail_zero c (by omega) rest
        · rw [if_neg (by omega)]
          by_cases hd : n / 4096 = 0xD
          · rw [if_pos (by omega), tail_cons (by omega) (by omega) (by omega),
              tail_cons (by omega) (by omega) (by omega)]
            exact tail_zero c (by omega) rest
          · rw [if_neg (by omega), if_pos (by omega), tail_cons (by omega) (by omega) (by omega),
              tail_cons (by omega) (by omega) (by omega)]
            exact tail_zero c (by omega) rest
      · refine ⟨_, _, by rw [if_neg h₁, if_neg h₂, if_neg h₃], fun rest => ?_⟩
        rw [head, toNat_toUInt8 (by omega), if_neg (by omega), if_neg (by omega), if_neg (by omega),
          if_neg (by omega), if_neg (by omega), if_neg (by omega), List.cons_append,
          List.cons_append, List.cons_append]
        by_cases h0 : n < 0x40000
        · rw [if_pos (by omega), tail_cons (by omega) (by omega) (by omega),
            tail_cons (by omega) (by omega) (by omega), tail_cons (by omega) (by omega) (by omega)]
          exact tail_zero c (by omega) rest
        · rw [if_neg (by omega)]
          by_cases h4 : n < 0x100000
          · rw [if_pos (by omega), tail_cons (by omega) (by omega) (by omega),
              tail_cons (by omega) (by omega) (by omega),
              tail_cons (by omega) (by omega) (by omega)]
            exact tail_zero c (by omega) rest
          · rw [if_neg (by omega), if_pos (by omega), tail_cons (by omega) (by omega) (by omega),
              tail_cons (by omega) (by omega) (by omega),
              tail_cons (by omega) (by omega) (by omega)]
            exact tail_zero c (by omega) rest

theorem encode_cons (c : Char) (text : List Char) :
    encode (c :: text) = encodeChar c ++ encode text :=
  List.flatMap_cons

theorem length_le_length_encode (text : List Char) : text.length ≤ (encode text).length := by
  induction text with
  | nil => exact Nat.le_refl 0
  | cons c rest ih =>
    obtain ⟨b, more, heq, _⟩ := exists_head_encodeChar c
    rw [encode_cons, List.length_append, heq, List.length_cons, List.length_cons]
    omega

theorem decodeRounds_encode (replacement : Option Char) {text : List Char} {rounds : Nat}
    (h : text.length ≤ rounds) (done : List Char) :
    decodeRounds replacement rounds (encode text) done = some (done.reverse ++ text) := by
  induction text generalizing rounds done with
  | nil => simp [encode, decodeRounds]
  | cons c rest ih =>
    obtain ⟨rounds, rfl⟩ : ∃ n, rounds = n + 1 := ⟨rounds - 1, by simp at h; omega⟩
    obtain ⟨b, more, heq, hhead⟩ := exists_head_encodeChar c
    rw [encode_cons, heq, List.cons_append, decodeRounds, hhead]
    simp only
    rw [ih (by simpa using h)]
    simp

theorem decode?_encode (text : List Char) : decode? (encode text) = some text :=
  decodeRounds_encode none (length_le_length_encode text) []

theorem toString?_ofString (text : String) : toString? (ofString text) = some text := by
  rw [toString?, ofString, decode?_encode, Option.map_some, String.ofList_toList]

theorem encode_append (text more : List Char) :
    encode (text ++ more) = encode text ++ encode more :=
  List.flatMap_append

theorem ofString_empty : ofString "" = [] :=
  rfl

theorem ofString_comma : ofString "," = [','.toUInt8] :=
  rfl

theorem ofString_append (text more : String) :
    ofString (text ++ more) = ofString text ++ ofString more := by
  rw [ofString, String.toList_append, encode_append, ofString, ofString]

theorem encode_of_ascii {text : List Char} (h : ∀ c ∈ text, c.toNat < 0x80) :
    encode text = text.map fun c => c.toNat.toUInt8 := by
  induction text with
  | nil => rfl
  | cons c rest ih =>
    rw [encode_cons, encodeChar_of_lt (h c List.mem_cons_self),
      ih fun other hother => h other (List.mem_cons_of_mem c hother)]
    rfl

end Patchbay.Utf8
