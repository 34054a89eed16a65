import Patchbay.Proofs.JsonReading

namespace Patchbay.Json

section Indented

mutual

theorem indentedOnto_eq (level : Nat) (out : String) (value : Json) :
    indentedOnto level out value = out ++ indentedOnto level "" value := by
  match value with
  | .null | .bool _ | .number _ | .string _ | .array [] | .object [] => simp [indentedOnto]
  | .array (item :: more) =>
    rw [indentedOnto, indentedOnto, indentedItems_eq, indentedItems_eq _ ("" ++ "[")]
    simp [String.append_assoc]
  | .object (member :: more) =>
    rw [indentedOnto, indentedOnto, indentedMembers_eq, indentedMembers_eq _ ("" ++ _)]
    simp [String.append_assoc]

theorem indentedItems_eq (level : Nat) (out separator : String) (items : List Json) :
    indentedItems level out separator items = out ++ indentedItems level "" separator items := by
  match items with
  | [] => simp [indentedItems]
  | item :: rest =>
    rw [indentedItems, indentedItems, indentedItems_eq,
      indentedItems_eq level (indentedOnto level ("" ++ separator ++ newline level) item),
      indentedOnto_eq, indentedOnto_eq level ("" ++ separator ++ newline level)]
    simp [String.append_assoc]

theorem indentedMembers_eq (level : Nat) (out separator : String) (members : List (String × Json)) :
    indentedMembers level out separator members =
      out ++ indentedMembers level "" separator members := by
  match members with
  | [] => simp [indentedMembers]
  | (key, value) :: rest =>
    rw [indentedMembers, indentedMembers, indentedMembers_eq,
      indentedMembers_eq level
        (indentedOnto level ("" ++ separator ++ newline level ++ quote key ++ ": ") value),
      indentedOnto_eq,
      indentedOnto_eq level ("" ++ separator ++ newline level ++ quote key ++ ": ")]
    simp [String.append_assoc]

end

theorem ofString_indented_array (level : Nat) (item : Json) (more : List Json) :
    Utf8.ofString (indentedOnto level "" (array (item :: more))) =
      '['.toUInt8 :: (Utf8.ofString (indentedItems (level + 1) "" "" (item :: more)) ++
        Utf8.ofString (newline level) ++ [']'.toUInt8]) := by
  rw [indentedOnto, indentedItems_eq, Utf8.ofString_append, Utf8.ofString_append,
    Utf8.ofString_append]
  rfl

theorem ofString_indented_object (level : Nat) (member : String × Json)
    (more : List (String × Json)) :
    Utf8.ofString (indentedOnto level "" (object (member :: more))) =
      '{'.toUInt8 :: (Utf8.ofString (indentedMembers (level + 1) "" "" (member :: more)) ++
        Utf8.ofString (newline level) ++ ['}'.toUInt8]) := by
  rw [indentedOnto, indentedMembers_eq, Utf8.ofString_append, Utf8.ofString_append,
    Utf8.ofString_append]
  rfl

theorem ofString_indentedItems (level : Nat) (separator : String) (item : Json) (more : List Json) :
    Utf8.ofString (indentedItems level "" separator (item :: more)) =
      Utf8.ofString separator ++ (Utf8.ofString (newline level) ++
        (Utf8.ofString (indentedOnto level "" item) ++
          Utf8.ofString (indentedItems level "" "," more))) := by
  rw [indentedItems, indentedItems_eq, indentedOnto_eq, String.empty_append]
  simp only [Utf8.ofString_append, List.append_assoc]

theorem ofString_indentedMembers (level : Nat) (separator key : String) (value : Json)
    (more : List (String × Json)) :
    Utf8.ofString (indentedMembers level "" separator ((key, value) :: more)) =
      Utf8.ofString separator ++ (Utf8.ofString (newline level) ++ (Utf8.ofString (quote key) ++
        ':'.toUInt8 :: ' '.toUInt8 ::
          (Utf8.ofString (indentedOnto level "" value) ++
            Utf8.ofString (indentedMembers level "" "," more)))) := by
  rw [indentedMembers, indentedMembers_eq, indentedOnto_eq, String.empty_append]
  simp only [Utf8.ofString_append, List.append_assoc]
  rfl

end Indented

section Spelling

theorem spaces_newline (level : Nat) : Spaces (Utf8.ofString (newline level)) := by
  have hascii : ∀ c ∈ '\n' :: List.replicate (2 * level) ' ', c = '\n' ∨ c = ' ' := by
    intro c hc
    exact (List.mem_cons.mp hc).imp_right List.eq_of_mem_replicate
  rw [newline, Utf8.ofString, String.toList_ofList, Utf8.encode_of_ascii]
  · intro b hb
    obtain ⟨c, hc, rfl⟩ := List.mem_map.mp hb
    rcases hascii c hc with rfl | rfl <;> decide
  · intro c hc
    rcases hascii c hc with rfl | rfl <;> decide

theorem spaces_space : Spaces [' '.toUInt8] :=
  List.forall_mem_singleton.mpr (by decide)

variable {value : Raw} {key text after : List UInt8}

theorem Spelled.onNewline (h : Spelled value text) (level : Nat) (hafter : Spaces after) :
    Spelled value (Utf8.ofString (newline level) ++ (text ++ after)) :=
  .spaced (spaces_newline level) h hafter

mutual

theorem spelled_indented (level : Nat) (value : Json) :
    Spelled value.raw (Utf8.ofString (indentedOnto level "" value)) := by
  match value with
  | .null => exact .null
  | .bool b =>
    rw [indentedOnto, String.empty_append]
    exact .bool b
  | .number n =>
    rw [indentedOnto, String.empty_append]
    exact spelled_number n
  | .string s =>
    rw [indentedOnto, String.empty_append]
    exact spelled_quote s
  | .array [] =>
    rw [indentedOnto, String.empty_append]
    exact .emptyArray spaces_nil
  | .array (item :: more) =>
    rw [ofString_indented_array]
    exact .array
      (spelledItems_indented (level + 1) (item :: more) (List.cons_ne_nil _ _)
        (spaces_newline level))
  | .object [] =>
    rw [indentedOnto, String.empty_append]
    exact .emptyObject spaces_nil
  | .object (member :: more) =>
    rw [ofString_indented_object]
    exact .object
      (spelledMembers_indented (level + 1) (member :: more) (List.cons_ne_nil _ _)
        (spaces_newline level))

theorem spelledItems_indented (level : Nat) (items : List Json) (hne : items ≠ [])
    {after : List UInt8}
    (hafter : Spaces after) :
    SpelledItems (rawItems items) (Utf8.ofString (indentedItems level "" "" items) ++ after) := by
  match items with
  | [item] =>
    rw [ofString_indentedItems, indentedItems, Utf8.ofString_empty, List.nil_append,
      List.append_nil, List.append_assoc]
    exact .last ((spelled_indented level item).onNewline level hafter)
  | item :: next :: more =>
    have hrest := spelledItems_indented level (next :: more) (List.cons_ne_nil _ _) hafter
    have hitem := SpelledItems.cons ((spelled_indented level item).onNewline level spaces_nil) hrest
    rw [ofString_indentedItems] at hitem ⊢
    rw [ofString_indentedItems, Utf8.ofString_empty, Utf8.ofString_comma]
    rw [Utf8.ofString_empty] at hitem
    simpa only [rawItems, List.nil_append, List.append_nil, List.append_assoc,
      List.cons_append] using hitem

theorem spelledMembers_indented (level : Nat) (members : List (String × Json)) (hne : members ≠ [])
    {after : List UInt8} (hafter : Spaces after) :
    SpelledMembers (rawMembers members)
      (Utf8.ofString (indentedMembers level "" "" members) ++ after) := by
  match members with
  | [(key, value)] =>
    have hmember := SpelledMembers.last ((spelled_quote key).onNewline level spaces_nil)
      (.spaced spaces_space (spelled_indented level value) hafter)
    rw [ofString_indentedMembers, indentedMembers, Utf8.ofString_empty]
    simpa only [rawMembers, List.nil_append, List.append_nil, List.append_assoc,
      List.cons_append] using hmember
  | (key, value) :: (nextKey, next) :: more =>
    have hrest :=
      spelledMembers_indented level ((nextKey, next) :: more) (List.cons_ne_nil _ _) hafter
    have hmember := SpelledMembers.cons ((spelled_quote key).onNewline level spaces_nil)
      (.spaced spaces_space (spelled_indented level value) spaces_nil) hrest
    rw [ofString_indentedMembers] at hmember ⊢
    rw [ofString_indentedMembers, Utf8.ofString_empty, Utf8.ofString_comma]
    rw [Utf8.ofString_empty] at hmember
    simpa only [rawMembers, List.nil_append, List.append_nil, List.append_assoc,
      List.cons_append] using hmember

end

end Spelling

end Patchbay.Json
