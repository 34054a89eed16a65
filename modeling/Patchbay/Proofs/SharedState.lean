import Patchbay.Proofs.Base64Digits
import Patchbay.Proofs.InflateLimit
import Patchbay.Proofs.StateDecoding
import Patchbay.Share.Payload

namespace Patchbay

namespace Text

variable {core : List Char}

theorem dropTrailing_append {drops : Char → Bool} {tail : List Char}
    (hcore : ∀ c ∈ core, drops c = false)
    (htail : ∀ c ∈ tail, drops c) : dropTrailing drops (core ++ tail) = core := by
  have htail : ∀ c ∈ tail.reverse, drops c := fun c hc => htail c (List.mem_reverse.mp hc)
  rw [dropTrailing, List.reverse_append, List.dropWhile_append_of_pos htail]
  cases hreverse : core.reverse with
  | nil => exact (List.reverse_eq_nil_iff.mp hreverse).symm
  | cons c rest =>
    have hc := hcore c (List.mem_reverse.mp (hreverse ▸ List.mem_cons_self))
    rw [List.dropWhile_cons_of_neg (by simp [hc]), ← hreverse, List.reverse_reverse]

theorem trimChars_append {before after : List Char} (hbefore : allBlank before)
    (hafter : allBlank after)
    (hcore : ∀ c ∈ core, isBlank c = false) : trimChars (before ++ (core ++ after)) = core := by
  rw [allBlank, List.all_eq_true] at hbefore hafter
  rw [trimChars, dropBlanks, List.dropWhile_append_of_pos hbefore]
  cases core with
  | nil =>
    rw [List.nil_append, List.dropWhile_eq_nil_iff.mpr hafter]
    rfl
  | cons c rest =>
    rw [List.cons_append, List.dropWhile_cons_of_neg (by simp [hcore c List.mem_cons_self]),
      ← List.cons_append]
    exact dropTrailing_append hcore hafter

end Text

namespace Payload

/-- A payload with equals signs behind it, between other characters. -/
def wrapped (before after : List Char) (padding : Nat) (payload : String) : String :=
  String.ofList (before ++ (payload.toList ++ List.replicate padding '=' ++ after))

theorem wrapped_nil (payload : String) : wrapped [] [] 0 payload = payload := by
  simp [wrapped]

section Wrapped

variable {deflate : Deflate.Packer} {before after : List Char} {compressed text : List UInt8}

theorem unpack_wrapped (hbefore : Text.allBlank before) (hafter : Text.allBlank after)
    (padding : Nat)
    (hne : compressed ≠ []) :
    unpack (wrapped before after padding (String.ofList (Base64.encode compressed))) =
      match Deflate.inflate maxStateBytes compressed with
      | .ok text => .ok text
      | .error .corrupt => .error .notDeflate
      | .error .tooLong => .error .tooLong := by
  have hequals : ∀ c ∈ List.replicate padding '=', c = '=' :=
    fun c hc => List.eq_of_mem_replicate hc
  have hblank : ∀ c ∈ Base64.encode compressed ++ List.replicate padding '=',
      Text.isBlank c = false := by
    intro c hc
    rcases List.mem_append.mp hc with hc | hc
    · exact (Base64.not_blank_of_mem_encode hc).1
    · rw [hequals c hc]
      decide
  have htrim := Text.trimChars_append hbefore hafter hblank
  have hdigits :
    Text.dropTrailing (· = '=') (Base64.encode compressed ++ List.replicate padding '=') =
      Base64.encode compressed :=
    Text.dropTrailing_append (fun c hc => decide_eq_false (Base64.not_blank_of_mem_encode hc).2)
      fun c hc => decide_eq_true (hequals c hc)
  have hsome : (Base64.encode compressed ++ List.replicate padding '=').isEmpty = false := by
    simp [Base64.encode_ne_nil hne]
  rw [unpack, wrapped, String.toList_ofList, String.toList_ofList, htrim]
  cases hinflate : Deflate.inflate maxStateBytes compressed with
  | ok text =>
    simp only [hsome, hdigits, Base64.decode?_encode, hinflate, Bool.false_eq_true, if_false]
  | error fault =>
    cases fault <;> simp only [hsome, hdigits, Base64.decode?_encode, hinflate,
      Bool.false_eq_true, if_false]

theorem unpack_wrapped_pack (hdeflate : deflate.Restores text) (hbefore : Text.allBlank before)
    (hafter : Text.allBlank after) (padding : Nat) :
    unpack (wrapped before after padding (pack deflate text)) =
      if maxStateBytes < text.length then .error .tooLong else .ok text := by
  rw [pack, unpack_wrapped hbefore hafter padding hdeflate.ne_nil, hdeflate.inflate_eq]
  by_cases hlong : maxStateBytes < text.length
  · rw [if_pos hlong, if_pos hlong]
  · rw [if_neg hlong, if_neg hlong]

theorem unpack_pack (hdeflate : deflate.Restores text) (hlength : text.length ≤ maxStateBytes) :
    unpack (pack deflate text) = .ok text := by
  have hnone : Text.allBlank [] := rfl
  rw [← wrapped_nil (pack deflate text), unpack_wrapped_pack hdeflate hnone hnone 0,
    if_neg (Nat.not_lt.mpr hlength)]

theorem decode_of_unpack {payload : String} {state : State} (hunpack : unpack payload = .ok text)
    (hstate : State.ofBytes? text = some state) : decode payload = .ok state := by
  rw [decode, hunpack]
  simp only [hstate]

/-- Opening what was shared fails on too long a text before it fails on too deep a nesting. -/
theorem decode_wrapped_encode {state : State} (hfloats : state.toJson.FloatsReadBack)
    (hdeflate : deflate.Restores (Utf8.ofString state.compactText)) (hbefore : Text.allBlank before)
    (hafter : Text.allBlank after) (padding : Nat) :
    decode (wrapped before after padding (encode deflate state)) =
      if maxStateBytes < (Utf8.ofString state.compactText).length then .error .tooLong
      else if state.toJson.nesting ≤ Json.Decoder.maxDepth then .ok state
      else .error .notState := by
  rw [decode, encode, unpack_wrapped_pack hdeflate hbefore hafter padding]
  by_cases hlong : maxStateBytes < (Utf8.ofString state.compactText).length
  · rw [if_pos hlong, if_pos hlong]
  · rw [if_neg hlong, if_neg hlong]
    simp only [State.ofBytes?_compactText hfloats]
    by_cases hfits : state.toJson.nesting ≤ Json.Decoder.maxDepth
    · rw [if_pos hfits, if_pos hfits]
    · rw [if_neg hfits, if_neg hfits]

end Wrapped

/-- Opening inverts sharing up to the limits on the length and the depth of the text, and blanks
around a payload and equals signs behind it change nothing. -/
theorem decode_encode (deflate : Deflate.Packer) (state : State)
    (hdeflate : deflate.Restores (Utf8.ofString state.compactText))
    (hfloats : ∀ x ∈ state.toJson.floats, x.ReadsBack) :
    (decode (encode deflate state)).toOption =
        (if (Utf8.ofString state.compactText).length ≤ maxStateBytes ∧
          state.toJson.nesting ≤ 127 then
          some state
        else none) ∧
      ∀ before after padding, Text.allBlank before → Text.allBlank after →
        decode (wrapped before after padding (encode deflate state)) =
          decode (encode deflate state) := by
  have hnone : Text.allBlank [] := rfl
  have hplain := decode_wrapped_encode hfloats hdeflate hnone hnone 0
  rw [wrapped_nil] at hplain
  refine ⟨?_, fun before after padding hbefore hafter => ?_⟩
  · rw [hplain, Json.Decoder.maxDepth]
    by_cases hlong : maxStateBytes < (Utf8.ofString state.compactText).length
    · rw [if_pos hlong, if_neg (not_and_of_not_left _ (Nat.not_le.mpr hlong))]
      rfl
    · by_cases hfits : state.toJson.nesting ≤ 127
      · rw [if_neg hlong, if_pos hfits, if_pos ⟨Nat.not_lt.mp hlong, hfits⟩]
        rfl
      · rw [if_neg hlong, if_neg hfits, if_neg (not_and_of_not_right _ hfits)]
        rfl
  · rw [decode_wrapped_encode hfloats hdeflate hbefore hafter padding, hplain]

def sharedDrum : State where
  nodes := [{
    id := "a", typeId := "drum_sounds"
    position := { x := ⟨true, 0x1B000000000000, -44, by decide, by decide, by decide⟩ } }]
  edges := []
  theme := "é\n"
  cpm := some "120"

/-- The text of `sharedDrum`, compressed. -/
def packedDrum : List UInt8 :=
  [61, 78, 73, 10, 194, 48, 0, 252, 203, 156, 99, 105, 171, 167, 124, 64, 60, 232, 7, 84, 36,
    152, 88, 139, 217, 200, 82, 44, 33, 15, 242, 29, 126, 204, 164, 162, 183, 153, 97, 182, 132,
    73, 56, 63, 26, 13, 218, 17, 104, 195, 133, 7, 61, 38, 140, 28, 20, 12, 4, 97, 182, 98, 87,
    9, 119, 81, 93, 188, 137, 154, 251, 34, 115, 22, 24, 104, 130, 15, 44, 8, 80, 29, 165, 36,
    152, 152, 140, 53, 159, 114, 38, 176, 198, 143, 97, 41, 78, 120, 130, 174, 54, 235, 190,
    105, 9, 102, 208, 182, 105, 115, 62, 19, 8, 62, 44, 107, 5, 94, 141, 190, 141, 67, 181, 254,
    81, 169, 80, 49, 8, 126, 248, 126, 170, 220, 178, 232, 5, 223, 58, 19, 237, 111, 37, 220,
    133, 42, 251, 120, 191, 78, 26, 181, 71, 26, 183, 47, 137, 122, 152, 185, 71, 149, 172, 42,
    164, 235, 91, 228, 15]

theorem length_sharedDrum : (Utf8.ofString sharedDrum.compactText).length = 237 := by
  -- Member by member: the evaluation of long strings is slow.
  simp only [State.compactText, sharedDrum, State.toJson, Node.toJson, NodeData.toJson,
    Position.toJson, Store.toJson, Json.ofString_compact_array, Json.ofString_compact_object,
    Json.ofString_compactMembers_cons, Json.ofString_compactItems_cons, List.map_cons, List.map_nil]
  decide +kernel

theorem restores_packedDrum :
    Deflate.Packer.Restores (fun _ => packedDrum) (Utf8.ofString sharedDrum.compactText) := by
  rw [Deflate.Packer.Restores, length_sharedDrum]
  simp only [State.compactText, sharedDrum, State.toJson, Node.toJson, NodeData.toJson,
    Position.toJson, Store.toJson, Json.ofString_compact_array, Json.ofString_compact_object,
    Json.ofString_compactMembers_cons, Json.ofString_compactItems_cons, List.map_cons, List.map_nil]
  decide +kernel

theorem shared_drum_is_opened :
    let deflate : Deflate.Packer := fun _ => packedDrum
    deflate.Restores (Utf8.ofString sharedDrum.compactText) ∧
      (∀ x ∈ sharedDrum.toJson.floats, x.ReadsBack) ∧
      (decode (encode deflate sharedDrum)).toOption = some sharedDrum ∧
      decode (wrapped [' ', '\n'] ['\t'] 2 (encode deflate sharedDrum)) =
        decode (encode deflate sharedDrum) := by
  have hfloats : ∀ x ∈ sharedDrum.toJson.floats, x.ReadsBack := by decide +kernel
  have hnesting : sharedDrum.toJson.nesting ≤ 127 := by decide +kernel
  have hlength : (Utf8.ofString sharedDrum.compactText).length ≤ maxStateBytes := by
    rw [length_sharedDrum]
    decide
  obtain ⟨hopened, hwrapped⟩ := decode_encode _ sharedDrum restores_packedDrum hfloats
  refine ⟨restores_packedDrum, hfloats, ?_, hwrapped _ _ 2 (by decide) (by decide)⟩
  rw [hopened, if_pos ⟨hlength, hnesting⟩]

end Payload

end Patchbay
