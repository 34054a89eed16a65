import Patchbay.Json.Printer
import Patchbay.Proofs.JsonGrammar

namespace Patchbay.Json

section Compact

mutual

theorem compactOnto_eq (out : String) (value : Json) :
    compactOnto out value = out ++ value.compact := by
  cases value with
  | null | bool | number | string => simp [compact, compactOnto]
  | array items =>
    rw [compact, compactOnto, compactOnto, compactItems_eq, compactItems_eq ("" ++ "[") ""]
    simp [String.append_assoc]
  | object members =>
    rw [compact, compactOnto, compactOnto, compactMembers_eq, compactMembers_eq ("" ++ _) ""]
    simp [String.append_assoc]

theorem compactItems_eq (out separator : String) (items : List Json) :
    compactItems out separator items = out ++ compactItems "" separator items := by
  cases items with
  | nil => simp [compactItems]
  | cons item rest =>
    rw [compactItems, compactItems, compactItems_eq,
      compactItems_eq (compactOnto ("" ++ separator) item), compactOnto_eq,
      compactOnto_eq ("" ++ separator)]
    simp [String.append_assoc]

theorem compactMembers_eq (out separator : String) (members : List (String × Json)) :
    compactMembers out separator members = out ++ compactMembers "" separator members := by
  match members with
  | [] => simp [compactMembers]
  | (key, value) :: rest =>
    rw [compactMembers, compactMembers, compactMembers_eq,
      compactMembers_eq (compactOnto ("" ++ separator ++ quote key ++ ":") value), compactOnto_eq,
      compactOnto_eq ("" ++ separator ++ quote key ++ ":")]
    simp [String.append_assoc]

end

theorem compact_string (s : String) : (string s).compact = quote s := by
  rw [compact, compactOnto, String.empty_append]

theorem compact_number (n : Number) : (number n).compact = n.text := by
  rw [compact, compactOnto, String.empty_append]

theorem ofString_compact_array (items : List Json) :
    Utf8.ofString (array items).compact =
      '['.toUInt8 :: (Utf8.ofString (compactItems "" "" items) ++ [']'.toUInt8]) := by
  rw [compact, compactOnto, compactItems_eq, Utf8.ofString_append, Utf8.ofString_append]
  rfl

theorem ofString_compact_object (members : List (String × Json)) :
    Utf8.ofString (object members).compact =
      '{'.toUInt8 :: (Utf8.ofString (compactMembers "" "" members) ++ ['}'.toUInt8]) := by
  rw [compact, compactOnto, compactMembers_eq, Utf8.ofString_append, Utf8.ofString_append]
  rfl

theorem ofString_compactItems_cons (separator : String) (item : Json) (more : List Json)
    (rest : List UInt8) :
    Utf8.ofString (compactItems "" separator (item :: more)) ++ rest =
      Utf8.ofString separator ++
        (Utf8.ofString item.compact ++ (Utf8.ofString (compactItems "" "," more) ++ rest)) := by
  rw [compactItems, compactItems_eq, compactOnto_eq, String.empty_append]
  simp only [Utf8.ofString_append, List.append_assoc]

theorem ofString_compactMembers_cons (separator key : String) (value : Json)
    (more : List (String × Json))
    (rest : List UInt8) :
    Utf8.ofString (compactMembers "" separator ((key, value) :: more)) ++ rest =
      Utf8.ofString separator ++ (Utf8.ofString (quote key) ++ ':'.toUInt8 ::
        (Utf8.ofString value.compact ++ (Utf8.ofString (compactMembers "" "," more) ++ rest))) := by
  rw [compactMembers, compactMembers_eq, compactOnto_eq, String.empty_append]
  simp only [Utf8.ofString_append, List.append_assoc]
  rfl

end Compact

mutual

def raw : Json → Raw
  | null => .null
  | bool b => .bool b
  | number n => .number n.numeral
  | string s => .string (escapedBytes s)
  | array items => .array (rawItems items)
  | object members => .object (rawMembers members)

def rawItems : List Json → List Raw
  | [] => []
  | item :: rest => raw item :: rawItems rest

def rawMembers : List (String × Json) → List (List UInt8 × Raw)
  | [] => []
  | (key, value) :: rest => (escapedBytes key, raw value) :: rawMembers rest

end

theorem rawItems_eq_map (items : List Json) : rawItems items = items.map raw := by
  induction items with
  | nil => rfl
  | cons item rest ih => rw [rawItems, ih, List.map_cons]

theorem rawMembers_eq_map (members : List (String × Json)) :
    rawMembers members = members.map fun member => (escapedBytes member.1, raw member.2) := by
  induction members with
  | nil => rfl
  | cons member rest ih => rw [rawMembers, ih, List.map_cons]

section Spelling

theorem spelled_number (n : Number) : Spelled (.number n.numeral) (Utf8.ofString n.text) := by
  rw [Number.text, Utf8.ofString, String.toList_ofList, Numeral.text_eq_markedText]
  exact .number n.printed_numeral (.inl rfl)

theorem spelled_quote (text : String) :
    Spelled (.string (escapedBytes text)) (Utf8.ofString (quote text)) := by
  rw [ofString_quote]
  exact .string (stringBody_escapedBytes text)

theorem ofString_compactItems (separator : String) (item : Json) (more : List Json) :
    Utf8.ofString (compactItems "" separator (item :: more)) =
      Utf8.ofString separator ++
        (Utf8.ofString item.compact ++ Utf8.ofString (compactItems "" "," more)) := by
  have htext := ofString_compactItems_cons separator item more []
  rwa [List.append_nil, List.append_nil] at htext

theorem ofString_compactMembers (separator key : String) (value : Json)
    (more : List (String × Json)) :
    Utf8.ofString (compactMembers "" separator ((key, value) :: more)) =
      Utf8.ofString separator ++ (Utf8.ofString (quote key) ++ ':'.toUInt8 ::
        (Utf8.ofString value.compact ++ Utf8.ofString (compactMembers "" "," more))) := by
  have htext := ofString_compactMembers_cons separator key value more []
  rwa [List.append_nil, List.append_nil] at htext

mutual

theorem spelled_compact (value : Json) : Spelled value.raw (Utf8.ofString value.compact) := by
  match value with
  | .null => exact .null
  | .bool b => exact .bool b
  | .number n =>
    rw [compact_number]
    exact spelled_number n
  | .string s =>
    rw [compact_string]
    exact spelled_quote s
  | .array [] => exact .emptyArray spaces_nil
  | .array (item :: more) =>
    rw [ofString_compact_array]
    exact .array (spelledItems_compact (item :: more) (List.cons_ne_nil _ _))
  | .object [] => exact .emptyObject spaces_nil
  | .object (member :: more) =>
    rw [ofString_compact_object]
    exact .object (spelledMembers_compact (member :: more) (List.cons_ne_nil _ _))

theorem spelledItems_compact (items : List Json) (hne : items ≠ []) :
    SpelledItems (rawItems items) (Utf8.ofString (compactItems "" "" items)) := by
  match items with
  | [item] =>
    rw [ofString_compactItems, compactItems, Utf8.ofString_empty, List.nil_append, List.append_nil]
    exact .last (spelled_compact item)
  | item :: next :: more =>
    have hrest := spelledItems_compact (next :: more) (List.cons_ne_nil _ _)
    rw [ofString_compactItems, ofString_compactItems, Utf8.ofString_empty, List.nil_append,
      Utf8.ofString_comma, List.singleton_append]
    rw [ofString_compactItems, Utf8.ofString_empty, List.nil_append] at hrest
    exact .cons (spelled_compact item) hrest

theorem spelledMembers_compact (members : List (String × Json)) (hne : members ≠ []) :
    SpelledMembers (rawMembers members) (Utf8.ofString (compactMembers "" "" members)) := by
  match members with
  | [(key, value)] =>
    rw [ofString_compactMembers, compactMembers, Utf8.ofString_empty, List.nil_append,
      List.append_nil]
    exact .last (spelled_quote key) (spelled_compact value)
  | (key, value) :: (nextKey, next) :: more =>
    have hrest := spelledMembers_compact ((nextKey, next) :: more) (List.cons_ne_nil _ _)
    rw [ofString_compactMembers, ofString_compactMembers, Utf8.ofString_empty, List.nil_append,
      Utf8.ofString_comma, List.singleton_append]
    rw [ofString_compactMembers, Utf8.ofString_empty, List.nil_append] at hrest
    exact .cons (spelled_quote key) (spelled_compact value) hrest

end

end Spelling

end Patchbay.Json
