import Patchbay.Proofs.TextBytes
import Patchbay.Url.Query

namespace Patchbay.Url

theorem hexDigit_spec : ∀ n < 16, EscapeSet.form (hexDigit n) = false ∧ (hexDigit n).toNat < 0x80 ∧
    hexDigitValue? (hexDigit n).toNat.toUInt8 = some n := by
  decide

theorem lt_of_isAlphanumeric {c : Char} (h : isAlphanumeric c) : c.toNat < 0x80 := by
  have hbelow {last : Char} (hlast : last.toNat < 0x80) (hle : c.val ≤ last.val) : c.toNat < 0x80 :=
    Nat.lt_of_le_of_lt (UInt32.le_iff_toNat_le.mp hle) hlast
  rcases Bool.or_eq_true_iff.mp h with halpha | hdigit
  · rcases Bool.or_eq_true_iff.mp halpha with hupper | hlower
    · exact hbelow (show 'Z'.toNat < 0x80 by decide) (of_decide_eq_true hupper).2
    · exact hbelow (show 'z'.toNat < 0x80 by decide)
        (of_decide_eq_true (Bool.and_eq_true_iff.mp hlower).2)
  · exact hbelow (show '9'.toNat < 0x80 by decide)
      (of_decide_eq_true (Bool.and_eq_true_iff.mp hdigit).2)

theorem lt_of_form {c : Char} (h : EscapeSet.form c = false) : c.toNat < 0x80 := by
  have hall : "*-._".toList.all (fun d => d.toNat < 0x80) := by decide
  rw [EscapeSet.form, Bool.not_eq_false', Bool.or_eq_true] at h
  refine h.elim lt_of_isAlphanumeric fun hmark => ?_
  exact of_decide_eq_true (List.all_eq_true.mp hall c (List.contains_iff_mem.mp hmark))

theorem ne_of_form {c d : Char} (h : EscapeSet.form c = false) (hd : EscapeSet.form d = true) :
    c ≠ d := by
  rintro rfl
  exact Bool.false_ne_true (h.symm.trans hd)

theorem eq_of_byte_eq {c d : Char} (hc : c.toNat < 0x80) (hd : d.toNat < 0x80)
    (h : c.toNat.toUInt8 = d.toUInt8) : c = d := by
  have hnat : c.toNat.toUInt8.toNat = d.toNat.toUInt8.toNat := congrArg UInt8.toNat h
  rw [Utf8.toNat_toUInt8 (by omega), Utf8.toNat_toUInt8 (by omega)] at hnat
  exact Char.toNat_inj.mp hnat

section Unescape

variable {rest done : List UInt8}

theorem unescapeOnto_of_ne {a : UInt8} (h : a ≠ '%'.toUInt8) :
    unescapeOnto (a :: rest) done = unescapeOnto rest (a :: done) := by
  match rest with
  | [] | [_] => rfl
  | b :: c :: rest => rw [unescapeOnto, if_neg h]

theorem mem_escapeByte {b : UInt8} {c : Char} (h : c ∈ escapeByte b) :
    c = '%' ∨ EscapeSet.form c = false := by
  have hlt := b.toNat_lt
  simp only [escapeByte, List.mem_cons, List.not_mem_nil, or_false] at h
  obtain rfl | rfl | rfl := h
  · exact .inl rfl
  · exact .inr (hexDigit_spec _ (by omega)).1
  · exact .inr (hexDigit_spec _ (by omega)).1

theorem lt_of_mem_escapeByte {b : UInt8} {c : Char} (h : c ∈ escapeByte b) : c.toNat < 0x80 := by
  obtain rfl | hform := mem_escapeByte h
  · decide
  · exact lt_of_form hform

theorem unescapeOnto_escapeByte (b : UInt8) :
    unescapeOnto (Utf8.encode (escapeByte b) ++ rest) done = unescapeOnto rest (b :: done) := by
  have hlt := b.toNat_lt
  have hhigh := (hexDigit_spec (b.toNat / 16) (by omega)).2.2
  have hlow := (hexDigit_spec (b.toNat % 16) (by omega)).2.2
  have hbyte : (16 * (b.toNat / 16) + b.toNat % 16).toUInt8 = b := by
    rw [Nat.div_add_mod]
    exact UInt8.ofNat_toNat
  have hpercent : '%'.toNat.toUInt8 = '%'.toUInt8 := rfl
  rw [Utf8.encode_of_ascii fun c hc => lt_of_mem_escapeByte hc]
  simp only [escapeByte, List.map_cons, List.map_nil, List.cons_append, List.nil_append]
  rw [unescapeOnto, if_pos hpercent]
  simp only [hhigh, hlow, hbyte]

end Unescape

namespace Query

def spacedBytes (text : List Char) : List UInt8 :=
  (Utf8.encode text).map fun b => if b = '+'.toUInt8 then ' '.toUInt8 else b

theorem spacedBytes_append (text more : List Char) :
    spacedBytes (text ++ more) = spacedBytes text ++ spacedBytes more := by
  rw [spacedBytes, Utf8.encode_append, List.map_append, spacedBytes, spacedBytes]

theorem spacedBytes_of_not_plus {text : List Char} (hascii : ∀ c ∈ text, c.toNat < 0x80)
    (hplus : '+' ∉ text) : spacedBytes text = Utf8.encode text := by
  rw [spacedBytes, Utf8.encode_of_ascii hascii, List.map_map]
  refine List.map_congr_left fun c hc => if_neg fun heq => hplus ?_
  exact eq_of_byte_eq (hascii c hc) (by decide) heq ▸ hc

def encodeChar (c : Char) : List Char :=
  if c = ' ' then ['+'] else escape EscapeSet.form [c]

theorem encodePart_eq (text : String) : encodePart text = text.toList.flatMap encodeChar := rfl

theorem encodeChar_of_plain {c : Char} (h : EscapeSet.form c = false) : encodeChar c = [c] := by
  rw [encodeChar, if_neg (ne_of_form h (by decide)), escape, List.flatMap_singleton,
    if_neg (Bool.eq_false_iff.mp h)]

theorem encodeChar_of_escaped {c : Char} (h : EscapeSet.form c = true) (hspace : c ≠ ' ') :
    encodeChar c = (Utf8.encodeChar c).flatMap escapeByte := by
  rw [encodeChar, if_neg hspace, escape, List.flatMap_singleton, if_pos h]

theorem mem_encodeChar {c d : Char} (h : d ∈ encodeChar c) :
    d = '+' ∨ d = '%' ∨ EscapeSet.form d = false := by
  by_cases hspace : c = ' '
  · rw [encodeChar, if_pos hspace] at h
    exact .inl (List.mem_singleton.mp h)
  · cases hform : EscapeSet.form c with
    | false =>
      rw [encodeChar_of_plain hform] at h
      exact .inr (.inr (List.mem_singleton.mp h ▸ hform))
    | true =>
      rw [encodeChar_of_escaped hform hspace] at h
      obtain ⟨b, _, hb⟩ := List.mem_flatMap.mp h
      exact .inr (mem_escapeByte hb)

theorem not_mem_encodePart (text : String) : '&' ∉ encodePart text ∧ '=' ∉ encodePart text := by
  have hform {d : Char} (hd : d ∈ encodePart text) : d = '+' ∨ d = '%' ∨
      EscapeSet.form d = false := by
    obtain ⟨c, _, hc⟩ := List.mem_flatMap.mp (encodePart_eq text ▸ hd)
    exact mem_encodeChar hc
  constructor <;>
    · intro hmem
      have hcase := hform hmem
      revert hcase
      decide

section Decode

variable {rest done : List UInt8}

theorem unescapeOnto_escapedBytes (bytes : List UInt8) :
    unescapeOnto (spacedBytes (bytes.flatMap escapeByte) ++ rest) done =
      unescapeOnto rest (bytes.reverse ++ done) := by
  induction bytes generalizing done with
  | nil => rfl
  | cons b bytes ih =>
    have hplus : '+' ∉ escapeByte b := fun hmem => by
      have hcase := mem_escapeByte hmem
      revert hcase
      decide
    rw [List.flatMap_cons, spacedBytes_append, List.append_assoc,
      spacedBytes_of_not_plus (fun c hc => lt_of_mem_escapeByte hc) hplus, unescapeOnto_escapeByte,
      ih, List.reverse_cons, List.append_assoc, List.singleton_append]

theorem unescapeOnto_encodeChar (c : Char) :
    unescapeOnto (spacedBytes (encodeChar c) ++ rest) done =
      unescapeOnto rest ((Utf8.encodeChar c).reverse ++ done) := by
  by_cases hspace : c = ' '
  · subst hspace
    exact unescapeOnto_of_ne (by decide)
  · cases hform : EscapeSet.form c with
    | false =>
      have hlt := lt_of_form hform
      have hpercent : c.toNat.toUInt8 ≠ '%'.toUInt8 := fun heq =>
        ne_of_form hform (by decide) (eq_of_byte_eq hlt (by decide) heq)
      have hplus : '+' ∉ [c] :=
        fun hmem => ne_of_form hform (by decide) (List.mem_singleton.mp hmem).symm
      rw [encodeChar_of_plain hform,
        spacedBytes_of_not_plus (fun d hd => List.mem_singleton.mp hd ▸ hlt) hplus,
        Utf8.encode_cons, Utf8.encodeChar_of_lt hlt]
      exact unescapeOnto_of_ne hpercent
    | true => rw [encodeChar_of_escaped hform hspace, unescapeOnto_escapedBytes]

theorem unescapeOnto_encode (text : List Char) :
    unescapeOnto (spacedBytes (text.flatMap encodeChar)) done =
      done.reverse ++ Utf8.encode text := by
  induction text generalizing done with
  | nil => exact (List.append_nil _).symm
  | cons c rest ih =>
    rw [List.flatMap_cons, spacedBytes_append, unescapeOnto_encodeChar, ih, Utf8.encode_cons,
      List.reverse_append, List.reverse_reverse, List.append_assoc]

end Decode

theorem decodePart_encodePart (text : String) : decodePart (encodePart text) = text := by
  have hbytes : unescape (spacedBytes (encodePart text)) = Utf8.encode text.toList :=
    unescapeOnto_encode text.toList
  have hread :=
    Utf8.decodeRounds_encode (some '\uFFFD') (Utf8.length_le_length_encode text.toList) []
  rw [decodePart, ← spacedBytes, hbytes, Utf8.decodeLossy, hread]
  exact String.ofList_toList

theorem decodePair_encodePair (pair : String × String) : decodePair (encodePair pair) = pair := by
  have hname : ∀ c ∈ encodePart pair.1, decide (c ≠ '=') = true := fun c hc =>
    decide_eq_true fun heq => (not_mem_encodePart pair.1).2 (heq ▸ hc)
  have htake : (encodePair pair).takeWhile (· ≠ '=') = encodePart pair.1 := by
    rw [encodePair, List.takeWhile_append_of_pos hname, List.takeWhile_cons_of_neg (by simp),
      List.append_nil]
  have hdrop : (encodePair pair).dropWhile (· ≠ '=') = '=' :: encodePart pair.2 := by
    rw [encodePair, List.dropWhile_append_of_pos hname, List.dropWhile_cons_of_neg (by simp)]
  rw [decodePair, htake, hdrop, List.drop_one, List.tail_cons, decodePart_encodePart,
    decodePart_encodePart]

theorem decode_encode_pairs (pairs : List (String × String)) : decode (encode pairs) = pairs := by
  cases pairs with
  | nil => rfl
  | cons pair rest =>
    have hpair {text : List Char} (htext : text ∈ (pair :: rest).map encodePair) :
        '&' ∉ text ∧ !text.isEmpty := by
      obtain ⟨other, _, rfl⟩ := List.mem_map.mp htext
      have hname := (not_mem_encodePart other.1).1
      have hvalue := (not_mem_encodePart other.2).1
      exact ⟨by simp [encodePair, hname, hvalue], by simp [encodePair]⟩
    rw [decode, encode, List.splitOn_intercalate '&' (fun _ htext => (hpair htext).1) (by simp),
      List.filter_eq_self.mpr fun _ htext => (hpair htext).2, List.map_map]
    exact List.map_id'' decodePair_encodePair _

end Query

end Patchbay.Url
