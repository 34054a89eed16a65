import Patchbay.Json.Quoted
import Patchbay.Json.Reader
import Patchbay.Proofs.TextBytes

namespace Patchbay.Json

def IsPlainByte (b : UInt8) : Prop :=
  b ≠ '"'.toUInt8 ∧ b ≠ '\\'.toUInt8 ∧ 0x20 ≤ b

theorem unescape_plain {bytes : List UInt8} (h : ∀ b ∈ bytes, IsPlainByte b)
    (rest done : List UInt8) :
    unescape (bytes ++ rest) done = unescape rest (bytes.reverse ++ done) := by
  induction bytes generalizing done with
  | nil => rfl
  | cons b more ih =>
    obtain ⟨_, hslash, _⟩ := h b List.mem_cons_self
    rw [List.cons_append, unescape.eq_def]
    simp only [if_pos hslash]
    rw [ih fun other hother => h other (List.mem_cons_of_mem b hother)]
    simp

theorem isPlainByte_of_mem_encodeChar {c : Char} (hquote : c ≠ '"') (hslash : c ≠ '\\')
    (hcontrol : 0x20 ≤ c.toNat) {b : UInt8} (hb : b ∈ Utf8.encodeChar c) : IsPlainByte b := by
  by_cases hascii : c.toNat < 0x80
  · rw [Utf8.encodeChar_of_lt hascii, List.mem_singleton] at hb
    have hnat : b.toNat = c.toNat := by
      rw [hb]
      exact Utf8.toNat_toUInt8 (by omega)
    have hne (d : Char) (hd : c ≠ d) (hlt : d.toNat < 256) : b ≠ d.toUInt8 := by
      intro heq
      refine hd (Char.toNat_inj.mp ?_)
      rw [← hnat, heq]
      exact Utf8.toNat_toUInt8 hlt
    have hlow : 0x20 ≤ b := UInt8.le_iff_toNat_le.mpr (by rw [hnat]; exact hcontrol)
    exact ⟨hne _ hquote (by decide), hne _ hslash (by decide), hlow⟩
  · have hle := Utf8.le_of_mem_encodeChar (Nat.not_lt.mp hascii) hb
    refine ⟨?_, ?_, UInt8.le_iff_toNat_le.mpr (Nat.le_trans (by decide) hle)⟩ <;>
      · rintro rfl
        exact absurd hle (by decide)

theorem control_digits : ∀ n < 0x20,
    let high := (n / 16).digitChar.toNat.toUInt8
    let low := (n % 16).digitChar.toNat.toUInt8
    isHexDigit high ∧ isHexDigit low ∧ hexUnit 0x30 0x30 high low = n ∧
      (n / 16).digitChar.toNat < 0x80 ∧ (n % 16).digitChar.toNat < 0x80 := by
  decide

theorem unescape_letter {letter : UInt8} (hu : letter ≠ 'u'.toUInt8) (rest done : List UInt8) :
    unescape ('\\'.toUInt8 :: letter :: rest) done =
      unescape rest (escapedByte letter :: done) := by
  rw [unescape.eq_def]
  simp [hu]

theorem encode_escapeChar_of_control {c : Char} (h : c.toNat < 0x20)
    (hescape : escapeChar c =
      ['\\', 'u', '0', '0', (c.toNat / 16).digitChar, (c.toNat % 16).digitChar]) :
    Utf8.encode (escapeChar c) = '\\'.toUInt8 :: 'u'.toUInt8 :: 0x30 :: 0x30 ::
      [(c.toNat / 16).digitChar.toNat.toUInt8, (c.toNat % 16).digitChar.toNat.toUInt8] := by
  obtain ⟨_, _, _, hhigh, hlow⟩ := control_digits c.toNat h
  rw [hescape, Utf8.encode_of_ascii]
  · rfl
  · simp only [List.mem_cons, List.not_mem_nil, or_false]
    rintro d (rfl | rfl | rfl | rfl | rfl | rfl)
    all_goals first | exact hhigh | exact hlow | decide

theorem escapeChar_cases (c : Char) :
    (∃ letter, Utf8.encode (escapeChar c) = ['\\'.toUInt8, letter] ∧ isEscapeLetter letter ∧
        letter ≠ 'u'.toUInt8 ∧ Utf8.encodeChar c = [escapedByte letter]) ∨
      (c.toNat < 0x20 ∧
        escapeChar c = ['\\', 'u', '0', '0', (c.toNat / 16).digitChar, (c.toNat % 16).digitChar]) ∨
      (escapeChar c = [c] ∧ c ≠ '"' ∧ c ≠ '\\' ∧ 0x20 ≤ c.toNat) := by
  by_cases hquote : c = '"'
  · exact .inl ⟨'"'.toUInt8, by rw [hquote]; decide⟩
  by_cases hslash : c = '\\'
  · exact .inl ⟨'\\'.toUInt8, by rw [hslash]; decide⟩
  by_cases hback : c = '\x08'
  · exact .inl ⟨'b'.toUInt8, by rw [hback]; decide⟩
  by_cases hfeed : c = '\x0c'
  · exact .inl ⟨'f'.toUInt8, by rw [hfeed]; decide⟩
  by_cases hline : c = '\n'
  · exact .inl ⟨'n'.toUInt8, by rw [hline]; decide⟩
  by_cases hreturn : c = '\r'
  · exact .inl ⟨'r'.toUInt8, by rw [hreturn]; decide⟩
  by_cases htab : c = '\t'
  · exact .inl ⟨'t'.toUInt8, by rw [htab]; decide⟩
  unfold escapeChar
  simp only [if_neg hquote, if_neg hslash, if_neg hback, if_neg hfeed, if_neg hline, if_neg hreturn,
    if_neg htab]
  by_cases hcontrol : c.toNat < 0x20
  · exact .inr (.inl ⟨hcontrol, if_pos hcontrol⟩)
  · exact .inr (.inr ⟨if_neg hcontrol, hquote, hslash, Nat.not_lt.mp hcontrol⟩)

theorem unescape_escapeChar (c : Char) (rest done : List UInt8) :
    unescape (Utf8.encode (escapeChar c) ++ rest) done =
      unescape rest ((Utf8.encodeChar c).reverse ++ done) := by
  rcases escapeChar_cases c with ⟨letter, heq, _, hu, hchar⟩ | ⟨hcontrol, hescape⟩ | ⟨heq, hplain⟩
  · rw [heq, hchar]
    exact unescape_letter hu rest done
  · obtain ⟨_, _, hunit, _⟩ := control_digits c.toNat hcontrol
    rw [encode_escapeChar_of_control hcontrol hescape]
    simp only [List.cons_append, List.nil_append]
    rw [unescape.eq_def]
    have hlow : c.toNat < 0xD800 := by omega
    simp [hunit, hlow]
  · rw [heq, Utf8.encode, List.flatMap_singleton]
    refine unescape_plain (fun b hb => ?_) rest done
    exact isPlainByte_of_mem_encodeChar hplain.1 hplain.2.1 hplain.2.2 hb

/-- What may stand between the quotes of a string: bytes that stand for themselves, and escapes. -/
inductive StringBody : List UInt8 → Prop where
  | nil : StringBody []
  | plain {b : UInt8} {rest : List UInt8} (h : IsPlainByte b) (more : StringBody rest) :
      StringBody (b :: rest)
  | letter {letter : UInt8} {rest : List UInt8} (h : isEscapeLetter letter)
    (more : StringBody rest) :
      StringBody ('\\'.toUInt8 :: letter :: rest)
  | unit {h₁ h₂ h₃ h₄ : UInt8} {rest : List UInt8} (digits : ∀ b ∈ [h₁, h₂, h₃, h₄], isHexDigit b)
      (more : StringBody rest) :
        StringBody ('\\'.toUInt8 :: 'u'.toUInt8 :: h₁ :: h₂ :: h₃ :: h₄ :: rest)

theorem StringBody.takeString_append {body : List UInt8} (h : StringBody body)
    (rest done : List UInt8) :
    takeString (body ++ '"'.toUInt8 :: rest) done = some (done.reverse ++ body, rest) := by
  have hslash : ('\\'.toUInt8 : UInt8) ≠ '"'.toUInt8 := by decide
  induction h generalizing done with
  | nil =>
    rw [takeString.eq_def]
    simp
  | @plain b more hb _ ih =>
    obtain ⟨hquote, hslash, hcontrol⟩ := hb
    rw [List.cons_append, takeString.eq_def]
    simp only [if_neg hquote, if_neg hslash, if_neg (UInt8.not_lt.mpr hcontrol), ih]
    simp
  | @letter letter more hletter _ ih =>
    have hu : letter ≠ 'u'.toUInt8 := by
      rintro rfl
      exact absurd hletter (by decide)
    rw [List.cons_append, List.cons_append, takeString.eq_def]
    simp only [if_neg hslash, if_neg hu, hletter, if_true, ih]
    simp
  | @unit h₁ h₂ h₃ h₄ more hdigits _ ih =>
    simp only [List.forall_mem_cons] at hdigits
    obtain ⟨hd₁, hd₂, hd₃, hd₄, _⟩ := hdigits
    simp only [List.cons_append]
    rw [takeString.eq_def]
    simp only [if_neg hslash, hd₁, hd₂, hd₃, hd₄, Bool.and_self, if_true, ih]
    simp

theorem StringBody.plain_append {bytes rest : List UInt8} (h : ∀ b ∈ bytes, IsPlainByte b)
    (more : StringBody rest) : StringBody (bytes ++ rest) := by
  induction bytes with
  | nil => exact more
  | cons b bytes ih =>
    obtain ⟨hb, hbytes⟩ := List.forall_mem_cons.mp h
    exact .plain hb (ih hbytes)

def escapedBytes (text : String) : List UInt8 :=
  Utf8.encode (escape text.toList)

theorem encode_escape_cons (c : Char) (text : List Char) :
    Utf8.encode (escape (c :: text)) = Utf8.encode (escapeChar c) ++ Utf8.encode (escape text) := by
  rw [escape, List.flatMap_cons, Utf8.encode_append, ← escape]

theorem stringBody_escape (text : List Char) : StringBody (Utf8.encode (escape text)) := by
  induction text with
  | nil => exact .nil
  | cons c more ih =>
    rw [encode_escape_cons]
    rcases escapeChar_cases c with ⟨letter, heq, hletter, _⟩ | ⟨hcontrol, hescape⟩ | ⟨heq, hplain⟩
    · rw [heq]
      exact .letter hletter ih
    · obtain ⟨hhigh, hlow, _⟩ := control_digits c.toNat hcontrol
      rw [encode_escapeChar_of_control hcontrol hescape]
      have hdigits : ∀ b ∈ [0x30, 0x30, (c.toNat / 16).digitChar.toNat.toUInt8,
          (c.toNat % 16).digitChar.toNat.toUInt8], isHexDigit b := by
        simp only [List.forall_mem_cons]
        exact ⟨by decide, by decide, hhigh, hlow, by simp⟩
      exact .unit hdigits ih
    · refine .plain_append (fun b hb => ?_) ih
      rw [heq, Utf8.encode, List.flatMap_singleton] at hb
      exact isPlainByte_of_mem_encodeChar hplain.1 hplain.2.1 hplain.2.2 hb

theorem stringBody_escapedBytes (text : String) : StringBody (escapedBytes text) :=
  stringBody_escape text.toList

theorem unescape_escape (text : List Char) (done : List UInt8) :
    unescape (Utf8.encode (escape text)) done = some (done.reverse ++ Utf8.encode text) := by
  induction text generalizing done with
  | nil =>
    rw [unescape.eq_def]
    simp [escape, Utf8.encode]
  | cons c more ih =>
    rw [encode_escape_cons, unescape_escapeChar, ih, Utf8.encode_cons]
    simp

theorem unquote_escapedBytes (text : String) : unquote (escapedBytes text) = some text := by
  rw [unquote, escapedBytes, unescape_escape, List.reverse_nil, List.nil_append, Option.bind_some]
  exact Utf8.toString?_ofString text

theorem ofString_quote (text : String) :
    Utf8.ofString (quote text) = '"'.toUInt8 :: (escapedBytes text ++ ['"'.toUInt8]) := by
  rw [Utf8.ofString, quote, String.toList_ofList, escapedBytes, List.cons_append, Utf8.encode_cons,
    Utf8.encode_append]
  rfl

end Patchbay.Json
