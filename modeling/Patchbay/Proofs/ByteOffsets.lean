import Patchbay.Proofs.TextBytes

namespace Patchbay.Text

variable {front part rest : List Char}

def byteLength (text : List Char) : Nat :=
  (Utf8.encode text).length

theorem byteLength_append (front rest : List Char) :
    byteLength (front ++ rest) = byteLength front + byteLength rest := by
  simp [byteLength, Utf8.encode]

theorem byteLength_cons (c : Char) (rest : List Char) :
    byteLength (c :: rest) = byteLength [c] + byteLength rest :=
  byteLength_append [c] rest

theorem byteLength_singleton_pos (c : Char) : 0 < byteLength [c] := by
  obtain ⟨b, more, heq, _⟩ := Utf8.exists_head_encodeChar c
  simp [byteLength, Utf8.encode, heq]

/-- Cut a text at an offset into its bytes. There is no result inside a character or behind
the end. -/
def splitAtByte? (offset : Nat) : List Char → Option (List Char × List Char)
  | [] => if offset = 0 then some ([], []) else none
  | c :: rest =>
      if offset = 0 then some ([], c :: rest)
      else if byteLength [c] ≤ offset then
        (splitAtByte? (offset - byteLength [c]) rest).map fun halves => (c :: halves.1, halves.2)
      else none

theorem splitAtByte?_byteLength (front rest : List Char) :
    splitAtByte? (byteLength front) (front ++ rest) = some (front, rest) := by
  induction front with
  | nil => cases rest <;> rfl
  | cons c front ih =>
    have hpos := byteLength_singleton_pos c
    rw [byteLength_cons, List.cons_append, splitAtByte?, if_neg (by omega),
      if_pos (Nat.le_add_right _ _), Nat.add_sub_cancel_left, ih, Option.map_some]

theorem splitAtByte?_of_lt {text : List Char} {offset : Nat} (h : byteLength text < offset) :
    splitAtByte? offset text = none := by
  induction text generalizing offset with
  | nil => exact if_neg (Nat.ne_zero_of_lt h)
  | cons c rest ih =>
    rw [byteLength_cons] at h
    rw [splitAtByte?, if_neg (by omega), if_pos (by omega), ih (by omega), Option.map_none]

def slice? (text : List Char) (start stop : Nat) : Option (List Char) :=
  (splitAtByte? stop text).bind fun halves => (splitAtByte? start halves.1).map (·.2)

theorem slice?_append (front part rest : List Char) :
    slice? (front ++ part ++ rest) (byteLength front) (byteLength (front ++ part)) = some part := by
  rw [slice?, splitAtByte?_byteLength, Option.bind_some, splitAtByte?_byteLength]
  rfl

theorem slice?_rest (front rest : List Char) :
    slice? (front ++ rest) (byteLength front) (byteLength (front ++ rest)) = some rest := by
  have hslice := slice?_append front rest []
  rwa [List.append_nil] at hslice

theorem slice?_backwards {start : Nat} (h : byteLength front < start) (rest : List Char) :
    slice? (front ++ rest) start (byteLength front) = none := by
  rw [slice?, splitAtByte?_byteLength, Option.bind_some, splitAtByte?_of_lt h, Option.map_none]

def byteOffset (text : List Char) (place : Nat) : Nat :=
  byteLength (text.take place)

theorem byteOffset_append (front rest : List Char) :
    byteOffset (front ++ rest) front.length = byteLength front := by
  rw [byteOffset, List.take_left]

def byteSpan (text : List Char) (span : Nat × Nat) : Nat × Nat :=
  (byteOffset text span.1, byteOffset text span.2)

theorem byteSpan_append (front part rest : List Char) :
    byteSpan (front ++ part ++ rest) (front.length, (front ++ part).length) =
      (byteLength front, byteLength (front ++ part)) := by
  rw [byteSpan, byteOffset_append, List.append_assoc, byteOffset_append]

end Patchbay.Text
