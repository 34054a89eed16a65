import Patchbay.Json.Decode
import Patchbay.Proofs.JsonReading
import Patchbay.Proofs.TableLookup
import Mathlib.Data.List.Forall2

namespace Patchbay

section Numbers

/-- The printed text of the number reads back as the number. -/
def Binary64.ReadsBack (x : Binary64) : Prop :=
  Json.Decoder.float.run (Utf8.ofString (Number.float x).text) = some x

instance (x : Binary64) : Decidable x.ReadsBack :=
  inferInstanceAs (Decidable (_ = _))

namespace Number

theorem ofDigits_toDigits (n : Nat) : Numeral.ofDigits (Nat.toDigits 10 n) = n :=
  Nat.ofDigitChars_ten_toDigits

theorem ofNumeral?_ofInt {i : Int} (fits : -0x8000000000000000 ≤ i ∧ i < 0x10000000000000000) :
    ofNumeral? (.ofInt i) = some (.integer i fits) := by
  have hdigits : Numeral.ofDigits (Numeral.ofInt i).whole = i.natAbs := ofDigits_toDigits i.natAbs
  have hsign : (Numeral.ofInt i).sign.isNegative = true ↔ i < 0 := by
    rw [Numeral.ofInt]
    by_cases hneg : i < 0
    · rw [if_pos hneg]
      exact iff_of_true rfl hneg
    · rw [if_neg hneg]
      exact iff_of_false Bool.false_ne_true hneg
  unfold ofNumeral?
  extract_lets value signed
  have hvalue : value = i.natAbs := congrArg Int.ofNat hdigits
  have hsigned : signed = i := by
    by_cases hneg : i < 0
    · have hif : signed = -value := if_pos (hsign.mpr hneg)
      omega
    · have hif : signed = value := if_neg fun h => hneg (hsign.mp h)
      omega
  have hzero : ¬((Numeral.ofInt i).sign.isNegative = true ∧ value = 0) := by
    rw [hsign, hvalue]
    omega
  rw [dif_pos (by rwa [hsigned]), if_pos ⟨rfl, rfl, hzero⟩]
  congr

theorem fraction_or_exponent (layout : DecimalLayout) (sign : Sign) (d : Decimal) :
    (layout.numeral sign d).fraction ≠ none ∨ (layout.numeral sign d).exponent ≠ none := by
  unfold DecimalLayout.numeral
  extract_lets digits weight significant shown
  split
  · rw [DecimalLayout.positional]
    split <;> exact .inl (Option.some_ne_none _)
  · exact .inr (Option.some_ne_none _)

theorem ofNumeral?_eq_float {n : Numeral} (h : n.fraction ≠ none ∨ n.exponent ≠ none) :
    ofNumeral? n = (floatOf? n).map .float := by
  unfold ofNumeral?
  extract_lets value signed
  split
  · refine if_neg ?_
    rintro ⟨hfraction, hexponent, -⟩
    exact h.elim (fun hne => hne hfraction) fun hne => hne hexponent
  · rfl

theorem ofNumeral?_float {x : Binary64} (h : x.ReadsBack) :
    ofNumeral? (float x).numeral = some (.float x) := by
  have hread := (Json.spelled_compact (.number (float x))).read?_eq
  have hfloat : ofNumeral? (float x).numeral = (floatOf? (float x).numeral).map .float :=
    ofNumeral?_eq_float (fraction_or_exponent _ _ _)
  rw [Json.compact_number] at hread
  rw [Binary64.ReadsBack, Json.Decoder.run, hread, Option.bind_some, Json.raw, Json.Decoder.float,
    hfloat, Option.map_map] at h
  obtain ⟨y, hy, rfl⟩ := Option.map_eq_some_iff.mp h
  rw [hfloat, hy]
  rfl

end Number

end Numbers

theorem Value.json_object (record : Record) :
    (Value.object record).json =
      .object (record.entries.map fun member => (member.1, member.2.json)) :=
  rfl

namespace Json

mutual

def nesting : Json → Nat
  | array items => itemsNesting items + 1
  | object members => membersNesting members + 1
  | _ => 0

def itemsNesting : List Json → Nat
  | [] => 0
  | item :: rest => max (nesting item) (itemsNesting rest)

def membersNesting : List (String × Json) → Nat
  | [] => 0
  | (_, value) :: rest => max (nesting value) (membersNesting rest)

end

theorem itemsNesting_le_iff {items : List Json} {depth : Nat} :
    itemsNesting items ≤ depth ↔ ∀ item ∈ items, item.nesting ≤ depth := by
  induction items with
  | nil => simp [itemsNesting]
  | cons item rest ih => rw [itemsNesting, Nat.max_le, ih, List.forall_mem_cons]

theorem membersNesting_le_iff {members : List (String × Json)} {depth : Nat} :
    membersNesting members ≤ depth ↔ ∀ member ∈ members, member.2.nesting ≤ depth := by
  induction members with
  | nil => simp [membersNesting]
  | cons member rest ih => rw [membersNesting, Nat.max_le, ih, List.forall_mem_cons]

mutual

def floats : Json → List Binary64
  | number (.float x) => [x]
  | array items => itemsFloats items
  | object members => membersFloats members
  | _ => []

def itemsFloats : List Json → List Binary64
  | [] => []
  | item :: rest => floats item ++ itemsFloats rest

def membersFloats : List (String × Json) → List Binary64
  | [] => []
  | (_, value) :: rest => floats value ++ membersFloats rest

end

def FloatsReadBack (value : Json) : Prop :=
  ∀ x ∈ value.floats, x.ReadsBack

theorem floatsReadBack_array {items : List Json} :
    (array items).FloatsReadBack ↔ ∀ item ∈ items, item.FloatsReadBack := by
  rw [FloatsReadBack, floats]
  induction items with
  | nil => simp [itemsFloats]
  | cons item rest ih =>
    rw [itemsFloats, List.forall_mem_append, ih, List.forall_mem_cons, FloatsReadBack]

theorem floatsReadBack_object {members : List (String × Json)} :
    (object members).FloatsReadBack ↔ ∀ member ∈ members, member.2.FloatsReadBack := by
  rw [FloatsReadBack, floats]
  induction members with
  | nil => simp [membersFloats]
  | cons member rest ih =>
    rw [membersFloats, List.forall_mem_append, ih, List.forall_mem_cons, FloatsReadBack]

section Guards

variable {α β γ : Type} {p q : Prop} [Decidable p] [Decidable q]

theorem bind_guard (a : α) (f : α → Option β) :
    (if p then some a else none).bind f = if p then f a else none := by
  split <;> rfl

theorem map_guard (a : α) (f : α → β) :
    (if p then some a else none).map f = if p then some (f a) else none := by
  split <;> rfl

theorem guard_guard (a : α) :
    (if p then if q then some a else none else none) = if p ∧ q then some a else none := by
  by_cases hp : p <;> simp [hp]

theorem mapM_eq_some_iff {f : α → Option β} {items : List α} {values : List β} :
    items.mapM f = some values ↔
      List.Forall₂ (fun item value => f item = some value) items values := by
  induction items generalizing values with
  | nil => simp [List.forall₂_nil_left_iff, eq_comm]
  | cons item rest ih =>
    rw [List.mapM_cons, List.forall₂_cons_left_iff]
    simp only [Option.bind_eq_bind, Option.bind_eq_some_iff, ih]
    constructor
    · rintro ⟨value, hvalue, values, hvalues, heq⟩
      exact ⟨value, values, hvalue, hvalues, (Option.some.inj heq).symm⟩
    · rintro ⟨value, values, hvalue, hvalues, rfl⟩
      exact ⟨value, hvalue, values, hvalues, rfl⟩

theorem exists_of_mem_mapM {f : α → Option β} {items : List α} {values : List β}
    (h : items.mapM f = some values) {value : β} (hvalue : value ∈ values) :
    ∃ item, f item = some value := by
  obtain ⟨i, hi, rfl⟩ := List.getElem_of_mem hvalue
  have hall := mapM_eq_some_iff.mp h
  exact ⟨_, hall.get (hall.length_eq ▸ hi) hi⟩

theorem mapM_guard {r : α → Prop} [DecidablePred r] {f : β → Option γ} {c : α → β} {g : α → γ}
    {items : List α}
    (h : ∀ a ∈ items, f (c a) = if r a then some (g a) else none) (hp : p ↔ ∀ a ∈ items, r a) :
    (items.map c).mapM f = if p then some (items.map g) else none := by
  rw [if_congr hp rfl rfl]
  clear hp
  induction items with
  | nil => simp
  | cons a rest ih =>
    have hrest := ih fun b hb => h b (List.mem_cons_of_mem a hb)
    rw [List.map_cons, List.mapM_cons, h a List.mem_cons_self, hrest]
    simp only [List.forall_mem_cons]
    by_cases ha : r a
    · by_cases hall : ∀ b ∈ rest, r b
      · rw [if_pos ha, if_pos hall, if_pos ⟨ha, hall⟩]
        rfl
      · rw [if_pos ha, if_neg hall, if_neg (not_and_of_not_right _ hall)]
        rfl
    · rw [if_neg ha, if_neg (not_and_of_not_left _ ha)]
      rfl

end Guards

namespace Decoder

variable {α : Type} {decoder : Decoder α} {value : Json} {a : α}

/-- The decoder reads this off the value wherever the value still fits, and nothing where it nests
too deep. -/
def Reads (decoder : Decoder α) (value : Json) (a : α) : Prop :=
  ∀ depth, decoder depth value.raw = if value.nesting ≤ depth then some a else none

theorem Reads.run_spelled (h : decoder.Reads value a) {text : List UInt8}
    (htext : Spelled value.raw text) :
    decoder.run text = if value.nesting ≤ maxDepth then some a else none := by
  rw [run, htext.read?_eq, Option.bind_some, h]

theorem reads_string (text : String) : string.Reads (.string text) text :=
  fun _ => unquote_escapedBytes text

theorem reads_float {x : Binary64} (h : x.ReadsBack) : float.Reads (.number (.float x)) x := by
  intro depth
  rw [raw, float, Number.ofNumeral?_float h]
  rfl

theorem reads_uint32 {n : UInt32}
    (fits : -0x8000000000000000 ≤ (n.toNat : Int) ∧ (n.toNat : Int) < 0x10000000000000000) :
    uint32.Reads (.number (.integer n.toNat fits)) n := by
  intro depth
  have hlt : n.toNat < 0x100000000 := n.toNat_lt
  rw [raw, uint32, Number.numeral, Number.ofNumeral?_ofInt fits]
  simp [Number.natural?, hlt, nesting]

theorem reads_null : (nullable decoder).Reads .null none :=
  fun _ => rfl

theorem Reads.nullable (h : decoder.Reads value a) (hnull : value ≠ .null) :
    (nullable decoder).Reads value (some a) := by
  intro depth
  have hraw : (Decoder.nullable decoder) depth value.raw = (decoder depth value.raw).map some := by
    cases value with
    | null => exact absurd rfl hnull
    | _ => rfl
  rw [hraw, h, map_guard]

theorem reads_word {words : List (String × α)} {text : String} (h : words.lookup text = some a) :
    (word words).Reads (.string text) a := by
  intro depth
  rw [raw, word, unquote_escapedBytes, Option.bind_some, h]
  rfl

theorem reads_list {toJson : α → Json} {items : List α}
    (h : ∀ item ∈ items, decoder.Reads (toJson item) item) :
    (list decoder).Reads (.array (items.map toJson)) items := by
  intro depth
  rw [raw, rawItems_eq_map, List.map_map, nesting]
  cases depth with
  | zero => rfl
  | succ depth =>
    have hfits : itemsNesting (items.map toJson) + 1 ≤ depth + 1 ↔
        ∀ item ∈ items, (toJson item).nesting ≤ depth := by
      rw [Nat.add_le_add_iff_right, itemsNesting_le_iff, List.forall_mem_map]
    have hitems :=
      mapM_guard (c := raw ∘ toJson) (g := id) (fun item hitem => h item hitem depth) hfits
    rw [list, hitems, List.map_id]

theorem reads_table {toJson : α → Json} {entries : Table α}
    (h : ∀ entry ∈ entries.entries, decoder.Reads (toJson entry.2) entry.2) :
    (table decoder).Reads
    (.object (entries.entries.map fun entry => (entry.1, toJson entry.2))) entries := by
  intro depth
  rw [raw, rawMembers_eq_map, List.map_map, Function.comp_def, nesting]
  cases depth with
  | zero => rfl
  | succ depth =>
    have hfits :
      membersNesting (entries.entries.map fun entry => (entry.1, toJson entry.2)) + 1 ≤ depth + 1 ↔
        ∀ entry ∈ entries.entries, (toJson entry.2).nesting ≤ depth := by
      rw [Nat.add_le_add_iff_right, membersNesting_le_iff, List.forall_mem_map]
    -- A key is always read, so an entry comes back exactly if its value does.
    have hmember : ∀ entry ∈ entries.entries,
        member (decoder depth) (escapedBytes entry.1, (toJson entry.2).raw) =
          if (toJson entry.2).nesting ≤ depth then some entry else none := by
      intro entry hentry
      rw [member, unquote_escapedBytes, h entry hentry]
      by_cases hdepth : (toJson entry.2).nesting ≤ depth
      · rw [if_pos hdepth, if_pos hdepth]
      · rw [if_neg hdepth, if_neg hdepth]
    have hentries := mapM_guard (f := member (decoder depth))
      (c := fun entry : String × α => (escapedBytes entry.1, (toJson entry.2).raw))
        (g := id) hmember hfits
    rw [table, hentries, List.map_id, map_guard, Table.ofList_entries]

theorem fields_rawMembers {members : List (String × Json)} (hnodup : (members.map (·.1)).Nodup) :
    fields (members.map (·.1)) (.object (rawMembers members)) =
      some (members.map fun member => (member.1, member.2.raw)) := by
  have hmembers : (rawMembers members).mapM (member some) =
      some (members.map fun member => (member.1, member.2.raw)) := by
    rw [rawMembers_eq_map]
    refine (mapM_guard (p := True) (r := fun _ => True) (fun m hm => ?_) (by simp)).trans
      (if_pos trivial)
    rw [member, unquote_escapedBytes]
    rfl
  have hknown : (members.map fun member => (member.1, member.2.raw)).filter
        (fun field => (members.map (·.1)).contains field.1) =
      members.map fun member => (member.1, member.2.raw) := by
    rw [List.filter_eq_self, List.forall_mem_map]
    intro member hmember
    rw [List.contains_iff_mem]
    exact List.mem_map_of_mem hmember
  rw [fields, hmembers]
  simp only [Option.bind_eq_bind, Option.bind_some, hknown, List.map_map]
  exact if_pos hnodup

theorem reads_struct {names : List String} {build : Nat → List (String × Raw) → Option α}
    {members : List (String × Json)} (hnames : members.map (·.1) = names) (hnodup : names.Nodup)
    (h : ∀ depth, build depth (members.map fun member => (member.1, member.2.raw)) =
      if membersNesting members ≤ depth then some a else none) :
    (struct names build).Reads (.object members) a := by
  intro depth
  cases depth with
  | zero => rfl
  | succ depth =>
    subst hnames
    rw [raw, struct, fields_rawMembers hnodup, Option.bind_some, h, nesting]
    exact if_congr Nat.add_le_add_iff_right.symm rfl rfl

section Fields

variable {members : List (String × Json)} {name : String}

theorem lookup_map_raw (members : List (String × Json)) (name : String) :
    (members.map fun member => (member.1, member.2.raw)).lookup name =
    (members.lookup name).map raw := by
  induction members with
  | nil => rfl
  | cons member rest ih =>
    rw [List.map_cons, Table.lookup_cons_eq, Table.lookup_cons_eq, ih]
    split <;> rfl

variable {β : Type} {rest : List (String × Json)} {f : α → Option β} {b : β} {depth : Nat}

theorem bind_field {field : Option α}
    (hfield : field = if value.nesting ≤ depth then some a else none)
    (hrest : f a = if membersNesting rest ≤ depth then some b else none) :
    field >>= f = if membersNesting ((name, value) :: rest) ≤ depth then some b else none := by
  rw [hfield, Option.bind_eq_bind, bind_guard, hrest, guard_guard, membersNesting]
  exact if_congr Nat.max_le.symm rfl rfl

theorem bind_required (hlookup : members.lookup name = some value) (h : decoder.Reads value a)
    (hrest : f a = if membersNesting rest ≤ depth then some b else none) :
    required decoder depth (members.map fun member => (member.1, member.2.raw)) name >>= f =
      if membersNesting ((name, value) :: rest) ≤ depth then some b else none := by
  refine bind_field ?_ hrest
  rw [required, lookup_map_raw, hlookup]
  exact h depth

theorem bind_withDefault {default : α} (hlookup : members.lookup name = some value)
    (h : decoder.Reads value a)
    (hrest : f a = if membersNesting rest ≤ depth then some b else none) :
    withDefault default decoder depth
      (members.map fun member => (member.1, member.2.raw)) name >>= f =
      if membersNesting ((name, value) :: rest) ≤ depth then some b else none := by
  refine bind_field ?_ hrest
  rw [withDefault, lookup_map_raw, hlookup]
  exact h depth

theorem read_fields (a : α) : some a = if membersNesting [] ≤ depth then some a else none :=
  (if_pos (Nat.zero_le depth)).symm

end Fields

end Decoder

mutual

theorem valueOf_raw (value : Json) (hcanonical : value.isCanonical) (hfloats : value.FloatsReadBack)
    (depth : Nat) :
    (valueOf depth value.raw).map (·.json) =
      if value.nesting ≤ depth then some value else none := by
  cases value with
  | null | bool => rfl
  | number n =>
    rw [raw, valueOf]
    cases n with
    | integer i fits => rw [Number.numeral, Number.ofNumeral?_ofInt fits]; rfl
    | float x =>
      rw [Number.ofNumeral?_float (hfloats x (by simp [floats]))]
      rfl
  | string s =>
    rw [raw, valueOf, unquote_escapedBytes]
    rfl
  | array items =>
    cases depth with
    | zero => rfl
    | succ depth =>
      have hitems := valuesOf_raw items hcanonical (floatsReadBack_array.mp hfloats) depth []
      have hjson : (fun value : Value => value.json) ∘ Value.array = array ∘ List.map (·.json) :=
        rfl
      rw [raw, valueOf, nesting, Option.map_map, hjson, ← Option.map_map, hitems, map_guard]
      exact if_congr Nat.add_le_add_iff_right.symm rfl rfl
  | object members =>
    cases depth with
    | zero => rfl
    | succ depth =>
      rw [isCanonical, Bool.and_eq_true, decide_eq_true_eq] at hcanonical
      have hmembers :=
        membersOf_raw members hcanonical.2 (floatsReadBack_object.mp hfloats) depth []
      rw [raw, valueOf, nesting, if_congr Nat.add_le_add_iff_right rfl rfl]
      split at hmembers
      · next hfits =>
        obtain ⟨entries, hentries, hmap⟩ := Option.map_eq_some_iff.mp hmembers
        obtain rfl : entries.map (fun member => (member.1, member.2.json)) = members := hmap
        -- The keys stand in order already, so filing the members under them moves none.
        have hkeys : entries.Pairwise fun a b => a.1 < b.1 := by
          have hpairwise := List.pairwise_map.mp hcanonical.1
          exact hpairwise
        have hsorted : (Table.ofList entries).entries = entries :=
          congrArg Table.entries (Table.ofList_entries ⟨entries, hkeys⟩)
        rw [hentries, if_pos hfits, Option.map_some, Option.map_some, Value.json_object, hsorted]
      · next hdeep =>
          rw [Option.map_eq_none_iff.mp hmembers, if_neg hdeep, Option.map_none, Option.map_none]

theorem valuesOf_raw (items : List Json) (hcanonical : allCanonical items)
    (hfloats : ∀ item ∈ items, item.FloatsReadBack) (depth : Nat) (done : List Value) :
    (valuesOf depth done (rawItems items)).map (·.map (·.json)) =
      if itemsNesting items ≤ depth then some (done.reverse.map (·.json) ++ items) else none := by
  cases items with
  | nil => simp [rawItems, valuesOf, itemsNesting]
  | cons item rest =>
    obtain ⟨hitem, hrest⟩ := List.forall_mem_cons.mp hfloats
    rw [allCanonical, Bool.and_eq_true] at hcanonical
    have hvalue := valueOf_raw item hcanonical.1 hitem depth
    rw [rawItems, valuesOf, itemsNesting, if_congr Nat.max_le rfl rfl]
    split at hvalue
    · next hfits =>
      obtain ⟨first, hfirst, rfl⟩ := Option.map_eq_some_iff.mp hvalue
      have hrest := valuesOf_raw rest hcanonical.2 hrest depth (first :: done)
      rw [List.reverse_cons, List.map_append, List.append_assoc] at hrest
      simp only [hfirst, hrest, hfits, true_and]
      rfl
    · next hdeep =>
        rw [Option.map_eq_none_iff.mp hvalue, if_neg (not_and_of_not_left _ hdeep), Option.map_none]

theorem membersOf_raw (members : List (String × Json)) (hcanonical : membersCanonical members)
    (hfloats : ∀ member ∈ members,
      member.2.FloatsReadBack) (depth : Nat) (done : List (String × Value)) :
    (membersOf depth done (rawMembers members)).map
    (·.map fun member => (member.1, member.2.json)) =
      if membersNesting members ≤ depth then
        some ((done.reverse.map fun member => (member.1, member.2.json)) ++ members)
      else none := by
  match members with
  | [] => simp [rawMembers, membersOf, membersNesting]
  | (key, value) :: rest =>
    obtain ⟨hvalue, hrest⟩ := List.forall_mem_cons.mp hfloats
    rw [membersCanonical, Bool.and_eq_true] at hcanonical
    have hvalue := valueOf_raw value hcanonical.1 hvalue depth
    rw [rawMembers, membersOf, membersNesting, if_congr Nat.max_le rfl rfl, unquote_escapedBytes]
    split at hvalue
    · next hfits =>
      obtain ⟨first, hfirst, rfl⟩ := Option.map_eq_some_iff.mp hvalue
      have hrest := membersOf_raw rest hcanonical.2 hrest depth ((key, first) :: done)
      rw [List.reverse_cons, List.map_append, List.append_assoc] at hrest
      simp only [hfirst, hrest, hfits, true_and]
      rfl
    · next hdeep =>
        rw [Option.map_eq_none_iff.mp hvalue, if_neg (not_and_of_not_left _ hdeep), Option.map_none]

end

namespace Decoder

theorem reads_value {v : Value} (h : v.json.FloatsReadBack) : value.Reads v.json v := by
  intro depth
  -- Values are what their texts are: the proof that goes with one adds nothing.
  refine Option.map_injective (f := Value.json) (fun a b hab => ?_) ?_
  · cases a
    cases b
    subst hab
    rfl
  · rw [map_guard]
    exact valueOf_raw v.json v.canonical h depth

end Decoder

end Json

end Patchbay
