import Patchbay.Proofs.JsonDecoding
import Mathlib.Data.List.Nodup

namespace Patchbay.Json

namespace Raw

mutual

def nesting : Raw → Nat
  | .array items => itemsNesting items + 1
  | .object members => membersNesting members + 1
  | _ => 0

def itemsNesting : List Raw → Nat
  | [] => 0
  | item :: rest => max (nesting item) (itemsNesting rest)

def membersNesting : List (List UInt8 × Raw) → Nat
  | [] => 0
  | (_, value) :: rest => max (nesting value) (membersNesting rest)

end

theorem itemsNesting_le_iff {items : List Raw} {depth : Nat} :
    itemsNesting items ≤ depth ↔ ∀ item ∈ items, item.nesting ≤ depth := by
  induction items with
  | nil => simp [itemsNesting]
  | cons item rest ih => rw [itemsNesting, Nat.max_le, ih, List.forall_mem_cons]

theorem membersNesting_le_iff {members : List (List UInt8 × Raw)} {depth : Nat} :
    membersNesting members ≤ depth ↔ ∀ member ∈ members, member.2.nesting ≤ depth := by
  induction members with
  | nil => simp [membersNesting]
  | cons member rest ih => rw [membersNesting, Nat.max_le, ih, List.forall_mem_cons]

end Raw

mutual

theorem nesting_raw (value : Json) : value.raw.nesting = value.nesting := by
  match value with
  | .null | .bool _ | .number _ | .string _ => rfl
  | .array items => rw [raw, Raw.nesting, nesting, itemsNesting_raw items]
  | .object members => rw [raw, Raw.nesting, nesting, membersNesting_raw members]

theorem itemsNesting_raw (items : List Json) :
    Raw.itemsNesting (rawItems items) = itemsNesting items := by
  match items with
  | [] => rfl
  | item :: rest =>
    rw [rawItems, Raw.itemsNesting, itemsNesting, nesting_raw item, itemsNesting_raw rest]

theorem membersNesting_raw (members : List (String × Json)) :
    Raw.membersNesting (rawMembers members) = membersNesting members := by
  match members with
  | [] => rfl
  | (key, value) :: rest =>
    rw [rawMembers, Raw.membersNesting, membersNesting, nesting_raw value, membersNesting_raw rest]

end

/-- A field as it may be written: its name, how its value may look, and whether it may be
left out. -/
structure FieldForm where
  name : String
  Writes : Raw → Prop
  Optional : Prop

def FieldForm.printed (name : String) (value : Json) (optional : Prop) : FieldForm :=
  ⟨name, (· = value.raw), optional⟩

/-- An object with the fields in some order, save such as may be left out, and any other members
among them. -/
inductive ObjectForm (fields : List FieldForm) : Raw → Prop
  | object {kept : List (FieldForm × Raw)} {others members : List (List UInt8 × Raw)}
      (hkept : (kept.map (·.1)).Sublist fields)
      (hleft : ∀ field ∈ fields, field ∈ kept.map (·.1) ∨ field.Optional)
      (hwrites : ∀ entry ∈ kept, entry.1.Writes entry.2)
      (hothers : ∀ other ∈ others, ∃ name, unquote other.1 = some name ∧ name ∉ fields.map (·.name))
      (horder : members.Perm
        (kept.map (fun entry => (escapedBytes entry.1.name, entry.2)) ++ others)) :
      ObjectForm fields (.object members)

inductive ArrayForm {α : Type} (form : α → Raw → Prop) (items : List α) : Raw → Prop
  | array {raws : List Raw} (h : List.Forall₂ form items raws) : ArrayForm form items (.array raws)

section Printed

theorem objectForm_raw {fields : List FieldForm} {members : List (String × Json)}
    (h : List.Forall₂ (fun field member => field.name = member.1 ∧ field.Writes member.2.raw)
      fields members) :
    ObjectForm fields (object members).raw := by
  let kept := fields.zip (members.map (·.2.raw))
  have hkept : kept.map (·.1) = fields := List.map_fst_zip (by rw [List.length_map, h.length_eq])
  have hwrites : ∀ entry ∈ kept, entry.1.Writes entry.2 := by
    have hall := List.forall₂_map_right_iff.mpr (h.imp fun _ _ hmember => hmember.2)
    exact fun entry hentry => (List.forall₂_iff_zip.mp hall).2 hentry
  have hmembers : kept.map (fun entry => (escapedBytes entry.1.name, entry.2)) =
      rawMembers members := by
    rw [rawMembers_eq_map]
    clear hkept hwrites
    induction h with
    | nil => rfl
    | cons hfirst _ ih =>
      simpa only [kept, List.map_cons, List.zip_cons_cons, hfirst.1] using congrArg _ ih
  refine .object (hkept ▸ List.Sublist.refl _)
    (fun field hfield => .inl (hkept.symm ▸ hfield)) hwrites
    (List.forall_mem_nil _) ?_
  rw [hmembers, List.append_nil]

theorem arrayForm_raw {α : Type} {form : α → Raw → Prop} {toJson : α → Json} {items : List α}
    (h : ∀ item ∈ items, form item (toJson item).raw) :
    ArrayForm form items (array (items.map toJson)).raw := by
  rw [raw, rawItems_eq_map, List.map_map]
  exact .array (List.forall₂_map_right_iff.mpr (List.forall₂_same.mpr h))

end Printed

namespace Decoder

variable {α : Type} {decoder : Decoder α} {form : Raw → Prop} {a : α}

/-- However the value is written in the form, the decoder reads it, wherever the writing fits. -/
def Accepts (decoder : Decoder α) (form : Raw → Prop) (a : α) : Prop :=
  ∀ depth raw, form raw → raw.nesting ≤ depth → decoder depth raw = some a

theorem Reads.accepts {value : Json} (h : decoder.Reads value a) :
    Accepts decoder (· = value.raw) a := by
  rintro depth _ rfl hdepth
  rw [nesting_raw] at hdepth
  rw [h, if_pos hdepth]

theorem accepts_list {form : α → Raw → Prop} {items : List α}
    (h : ∀ item ∈ items, Accepts decoder (form item) item) :
    Accepts (list decoder) (ArrayForm form items) items := by
  rintro depth _ ⟨hforms⟩ hdepth
  rename_i raws
  cases depth with
  | zero => cases hdepth
  | succ depth =>
    rw [Raw.nesting, Nat.add_le_add_iff_right, Raw.itemsNesting_le_iff] at hdepth
    refine mapM_eq_some_iff.mpr ?_
    induction hforms with
    | nil => exact .nil
    | cons hfirst _ ih =>
      rw [List.forall_mem_cons] at h hdepth
      exact .cons (h.1 depth _ hfirst hdepth.1) (ih h.2 hdepth.2)

section Fields

variable {fields : List FieldForm} {field : FieldForm} {found : List (String × Raw)} {depth : Nat}

def Offered (depth : Nat) (found : List (String × Raw)) (field : FieldForm) : Prop :=
  (∃ raw, found.lookup field.name = some raw ∧ field.Writes raw ∧ raw.nesting ≤ depth) ∨
    found.lookup field.name = none ∧ field.Optional

variable {β : Type} {f : α → Option β} {b : β}

theorem Offered.bind_required (h : Offered depth found field)
    (haccepts : Accepts decoder field.Writes a)
    (hneeded : ¬field.Optional) (hrest : f a = some b) :
    required decoder depth found field.name >>= f = some b := by
  obtain ⟨raw, hlookup, hwrites, hdepth⟩ | ⟨_, hoptional⟩ := h
  · rw [required, hlookup, Option.bind_some, haccepts depth raw hwrites hdepth]
    exact hrest
  · exact absurd hoptional hneeded

/-- A field that may be left out only where its value is the default is never missed. -/
theorem Offered.bind_withDefault {default : α} (h : Offered depth found field)
    (haccepts : Accepts decoder field.Writes a) (hdefault : field.Optional → a = default)
    (hrest : f a = some b) :
    withDefault default decoder depth found field.name >>= f = some b := by
  rw [withDefault]
  obtain ⟨raw, hlookup, hwrites, hdepth⟩ | ⟨hlookup, hoptional⟩ := h
  · simp only [hlookup, haccepts depth raw hwrites hdepth]
    exact hrest
  · simp only [hlookup, ← hdefault hoptional]
    exact hrest

def named (entry : List UInt8 × Raw) : String × Raw :=
  ((unquote entry.1).getD "", entry.2)

theorem mapM_member {members : List (List UInt8 × Raw)}
    (h : ∀ entry ∈ members, ∃ name, unquote entry.1 = some name) :
    members.mapM (member some) = some (members.map named) := by
  refine mapM_eq_some_iff.mpr
    (List.forall₂_map_right_iff.mpr (List.forall₂_same.mpr fun entry hentry => ?_))
  obtain ⟨name, hname⟩ := h entry hentry
  simp only [member, named, hname, Option.getD_some]

section Found

variable {kept : List (FieldForm × Raw)} {others members : List (List UInt8 × Raw)}

theorem exists_name
    (hothers : ∀ other ∈ others, ∃ name, unquote other.1 = some name ∧ name ∉ fields.map (·.name)) :
    ∀ entry ∈ kept.map (fun entry => (escapedBytes entry.1.name, entry.2)) ++ others,
      ∃ name, unquote entry.1 = some name := by
  rw [List.forall_mem_append, List.forall_mem_map]
  exact ⟨fun entry _ => ⟨_, unquote_escapedBytes _⟩,
    fun other hother => (hothers other hother).imp fun _ h => h.1⟩

theorem filter_named (hkept : (kept.map (·.1)).Sublist fields)
    (hothers : ∀ other ∈ others, ∃ name, unquote other.1 = some name ∧ name ∉ fields.map (·.name)) :
    ((kept.map (fun entry => (escapedBytes entry.1.name, entry.2)) ++ others).map named).filter
        (fun entry => (fields.map (·.name)).contains entry.1) =
      kept.map fun entry => (entry.1.name, entry.2) := by
  have hmine : (kept.map (fun entry => (escapedBytes entry.1.name, entry.2))).map named =
      kept.map fun entry => (entry.1.name, entry.2) := by
    rw [List.map_map]
    refine List.map_congr_left fun entry _ => ?_
    simp only [Function.comp_apply, named, unquote_escapedBytes, Option.getD_some]
  rw [List.map_append, List.filter_append, hmine, List.filter_eq_self.mpr,
    List.filter_eq_nil_iff.mpr, List.append_nil]
  · rw [List.forall_mem_map]
    intro other hother
    obtain ⟨name, hname, hstrange⟩ := hothers other hother
    simpa only [named, hname, Option.getD_some, List.contains_iff_mem] using hstrange
  · rw [List.forall_mem_map]
    intro entry hentry
    exact List.contains_iff_mem.mpr
      (List.mem_map_of_mem (hkept.subset (List.mem_map_of_mem hentry)))

theorem exists_found (hnodup : (fields.map (·.name)).Nodup)
    (hkept : (kept.map (·.1)).Sublist fields)
    (hothers : ∀ other ∈ others, ∃ name, unquote other.1 = some name ∧ name ∉ fields.map (·.name))
    (horder : members.Perm
      (kept.map (fun entry => (escapedBytes entry.1.name, entry.2)) ++ others)) :
    ∃ found, Decoder.fields (fields.map (·.name)) (.object members) = some found ∧
      (found.map (·.1)).Nodup ∧ found.Perm (kept.map fun entry => (entry.1.name, entry.2)) := by
  have hnamed := mapM_member fun entry hentry =>
    exists_name hothers entry (horder.mem_iff.mp hentry)
  have hperm := (horder.map named).filter fun entry => (fields.map (·.name)).contains entry.1
  rw [filter_named hkept hothers] at hperm
  have hnames : ((kept.map fun entry => (entry.1.name, entry.2)).map (·.1)).Nodup := by
    have hsublist := hkept.map (·.name)
    rw [List.map_map] at hsublist ⊢
    exact hnodup.sublist hsublist
  have hfound := (hperm.map (·.1)).nodup_iff.mpr hnames
  refine ⟨_, ?_, hfound, hperm⟩
  rw [Decoder.fields, hnamed]
  exact if_pos hfound

end Found

theorem exists_fields {raw : Raw} (h : ObjectForm fields raw) (hnodup : (fields.map (·.name)).Nodup)
    (hdepth : raw.nesting ≤ depth + 1) :
    ∃ found, Decoder.fields (fields.map (·.name)) raw = some found ∧
      ∀ field ∈ fields, Offered depth found field := by
  obtain ⟨hkept, hleft, hwrites, hothers, horder⟩ := h
  rename_i kept others members
  rw [Raw.nesting, Nat.add_le_add_iff_right, Raw.membersNesting_le_iff] at hdepth
  obtain ⟨found, hfound, hkeys, hperm⟩ := exists_found hnodup hkept hothers horder
  refine ⟨found, hfound, fun field hfield => ?_⟩
  by_cases hgiven : field ∈ kept.map (·.1)
  · obtain ⟨entry, hentry, rfl⟩ := List.mem_map.mp hgiven
    have hmember :=
      List.mem_map_of_mem (f := fun entry : FieldForm × Raw => (entry.1.name, entry.2)) hentry
    have hwritten := List.mem_append_left others
      (List.mem_map_of_mem
        (f := fun entry : FieldForm × Raw => (escapedBytes entry.1.name, entry.2)) hentry)
    exact .inl ⟨entry.2, (Table.mem_iff_lookup hkeys _ _).mp (hperm.mem_iff.mpr hmember),
      hwrites entry hentry, hdepth _ (horder.mem_iff.mpr hwritten)⟩
  · -- No other field has the name, so what was kept of the others is not found in its place.
    have hmissing : field.name ∉ found.map (·.1) := by
      intro hmem
      have hmem := (hperm.map (·.1)).mem_iff.mp hmem
      rw [List.map_map] at hmem
      obtain ⟨entry, hentry, hname⟩ := List.mem_map.mp hmem
      have hother := List.mem_map_of_mem (f := fun entry : FieldForm × Raw => entry.1) hentry
      have hsame := List.inj_on_of_nodup_map hnodup (hkept.subset hother) hfield hname
      exact hgiven (hsame ▸ hother)
    exact .inr ⟨Table.lookup_eq_none_of_not_mem hmissing, (hleft field hfield).resolve_left hgiven⟩

theorem accepts_struct {names : List String} {build : Nat → List (String × Raw) → Option α}
    (hnames : fields.map (·.name) = names) (hnodup : names.Nodup)
    (h : ∀ depth found, (∀ field ∈ fields, Offered depth found field) →
      build depth found = some a) :
    Accepts (struct names build) (ObjectForm fields) a := by
  subst hnames
  intro depth raw hraw hdepth
  cases depth with
  | zero => cases hraw; cases hdepth
  | succ depth =>
    obtain ⟨found, hfound, hoffered⟩ := exists_fields hraw hnodup hdepth
    rw [struct, hfound]
    exact h depth found hoffered

end Fields

end Decoder

end Patchbay.Json
