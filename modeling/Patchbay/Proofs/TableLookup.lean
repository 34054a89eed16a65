import Patchbay.Table
import Mathlib.Data.List.Basic

namespace Patchbay.Table

universe u v

variable {α : Type u} {β : Type v}

theorem lookup_cons_eq (key : String) (entry : String × α) (rest : List (String × α)) :
    (entry :: rest).lookup key = if key = entry.1 then some entry.2 else rest.lookup key := by
  obtain ⟨name, value⟩ := entry
  by_cases h : key = name
  · simp [h]
  · simp [List.lookup_cons, beq_eq_false_iff_ne.mpr h, h]

theorem lookup_eq_none_of_not_mem {key : String} {entries : List (String × α)}
    (h : key ∉ entries.map (·.1)) : entries.lookup key = none := by
  rw [List.lookup_eq_none_iff]
  intro entry hmem
  rw [bne_iff_ne]
  rintro rfl
  exact h (List.mem_map.mpr ⟨entry, hmem, rfl⟩)

theorem lookup_eq_none_iff (entries : List (String × α)) :
    (∀ key, entries.lookup key = none) ↔ entries = [] := by
  constructor
  · intro h
    cases entries with
    | nil => rfl
    | cons entry rest =>
      have hentry := h entry.1
      rw [lookup_cons_eq, if_pos rfl] at hentry
      cases hentry
  · rintro rfl key
    rfl

theorem lookup_insertEntry (key other : String) (value : α) (entries : List (String × α)) :
    (insertEntry key value entries).lookup other =
      if other = key then some value else entries.lookup other := by
  induction entries with
  | nil => exact lookup_cons_eq other (key, value) []
  | cons head rest ih =>
    by_cases hlt : key < head.1
    · rw [insertEntry, if_pos hlt, lookup_cons_eq other (key, value)]
    · by_cases heq : key = head.1
      · rw [insertEntry, if_neg hlt, if_pos heq, lookup_cons_eq, lookup_cons_eq]
        by_cases h : other = key <;> simp [h, ← heq]
      · rw [insertEntry, if_neg hlt, if_neg heq, lookup_cons_eq, lookup_cons_eq, ih]
        by_cases h : other = head.1
        · simp [h, Ne.symm heq]
        · simp [h]

theorem mem_of_lookup {entries : List (String × α)} {key : String} {value : α}
    (h : entries.lookup key = some value) : (key, value) ∈ entries := by
  obtain ⟨before, after, rfl, _⟩ := List.lookup_eq_some_iff.mp h
  exact List.mem_append_right before List.mem_cons_self

theorem mem_iff_lookup {entries : List (String × α)} (hnodup : (entries.map (·.1)).Nodup)
    (key : String)
    (value : α) : (key, value) ∈ entries ↔ entries.lookup key = some value := by
  refine ⟨fun h => ?_, mem_of_lookup⟩
  obtain ⟨before, after, rfl⟩ := List.append_of_mem h
  refine List.lookup_eq_some_iff.mpr ⟨before, after, rfl, fun entry hentry => ?_⟩
  rw [List.map_append, List.map_cons, List.nodup_append] at hnodup
  have hne := hnodup.2.2 _ (List.mem_map_of_mem hentry) _ List.mem_cons_self
  exact bne_iff_ne.mpr hne.symm

theorem nodup_keys (table : Table α) : (table.entries.map (·.1)).Nodup :=
  List.pairwise_map.mpr (table.sorted.imp fun hlt he => absurd (he ▸ hlt) (String.lt_irrefl _))

theorem mem_entries (table : Table α) (key : String) (value : α) :
    (key, value) ∈ table.entries ↔ table.get? key = some value :=
  mem_iff_lookup table.nodup_keys key value

theorem eq_of_pairwise {as bs : List (String × α)} (ha : as.Pairwise fun a b => a.1 < b.1)
    (hb : bs.Pairwise fun a b => a.1 < b.1) (h : ∀ entry, entry ∈ as ↔ entry ∈ bs) : as = bs := by
  have hirr {entries : List (String × α)} (hs : entries.Pairwise fun a b => a.1 < b.1) :
      entries.Nodup :=
    hs.imp fun hlt he => absurd (he ▸ hlt) (String.lt_irrefl _)
  have hperm : as.Perm bs := (List.perm_ext_iff_of_nodup (hirr ha) (hirr hb)).mpr h
  refine hperm.eq_of_pairwise (fun a b _ _ hab hba => ?_) ha hb
  exact absurd (String.lt_trans hab hba) (String.lt_irrefl _)

theorem ext {s t : Table α} (h : ∀ key, s.get? key = t.get? key) : s = t := by
  have hentries : s.entries = t.entries := by
    refine eq_of_pairwise s.sorted t.sorted ?_
    rintro ⟨key, value⟩
    rw [mem_entries, mem_entries, h]
  cases s
  cases t
  simpa using hentries

@[simp] theorem get?_empty (key : String) : (∅ : Table α).get? key = none := rfl

@[simp] theorem get?_insert (table : Table α) (key other : String) (value : α) :
    (table.insert key value).get? other = if other = key then some value else table.get? other :=
  lookup_insertEntry key other value table.entries

theorem get?_filter (keep : String → α → Bool) (table : Table α) (key : String) :
    (table.filter keep).get? key = (table.get? key).filter (keep key) := by
  ext value
  rw [← mem_entries, Option.filter_eq_some_iff, ← mem_entries]
  simp [filter]

@[simp] theorem get?_erase (table : Table α) (key other : String) :
    (table.erase key).get? other = if other = key then none else table.get? other := by
  ext value
  rw [← mem_entries]
  by_cases h : other = key
  · simp [erase, h]
  · simp [erase, h, mem_entries]

theorem erase_insert (table : Table α) (key : String) (value : α) :
    (table.insert key value).erase key = table.erase key := by
  apply ext
  intro other
  by_cases h : other = key <;> simp [h]

theorem erase_erase (table : Table α) (key : String) :
    (table.erase key).erase key = table.erase key := by
  apply ext
  intro other
  by_cases h : other = key <;> simp [h]

theorem erase_of_none {table : Table α} {key : String} (h : table.get? key = none) :
    table.erase key = table := by
  apply ext
  intro other
  by_cases ho : other = key <;> simp [ho, h]

@[simp] theorem get?_mapValues (f : String → α → β) (table : Table α) (key : String) :
    (table.mapValues f).get? key = (table.get? key).map (f key) := by
  ext value
  rw [← mem_entries, Option.map_eq_some_iff]
  constructor
  · intro h
    obtain ⟨⟨name, kept⟩, hmem, heq⟩ := List.mem_map.mp h
    obtain ⟨rfl, rfl⟩ := Prod.mk.inj heq
    exact ⟨kept, (mem_entries table _ _).mp hmem, rfl⟩
  · rintro ⟨kept, hget, rfl⟩
    exact List.mem_map.mpr ⟨(key, kept), (mem_entries table _ _).mpr hget, rfl⟩

theorem insertAll_cons (table : Table α) (entry : String × α) (entries : List (String × α)) :
    table.insertAll (entry :: entries) = (table.insert entry.1 entry.2).insertAll entries := rfl

theorem get?_insertAll_reverse (table : Table α) (entries : List (String × α)) (key : String) :
    (table.insertAll entries).get? key = (entries.reverse.lookup key).or (table.get? key) := by
  induction entries generalizing table with
  | nil => rfl
  | cons entry rest ih =>
    rw [insertAll_cons, ih, get?_insert, List.reverse_cons, List.lookup_append, Option.or_assoc,
      lookup_cons_eq]
    by_cases hkey : key = entry.1
    · rw [if_pos hkey, if_pos hkey, Option.some_or]
    · rw [if_neg hkey, if_neg hkey, List.lookup_nil, Option.none_or]

theorem get?_insertAll {entries : List (String × α)} (h : (entries.map (·.1)).Nodup)
    (table : Table α) (key : String) :
    (table.insertAll entries).get? key = (entries.lookup key).or (table.get? key) := by
  have hreverse : (entries.reverse.map (·.1)).Nodup :=
    ((List.reverse_perm entries).map (·.1)).nodup_iff.mpr h
  have hlookup : entries.reverse.lookup key = entries.lookup key := by
    ext value
    rw [← mem_iff_lookup hreverse, ← mem_iff_lookup h, List.mem_reverse]
  rw [get?_insertAll_reverse, hlookup]

theorem get?_insertAll_entries (table other : Table α) (key : String) :
    (table.insertAll other.entries).get? key = (other.get? key).or (table.get? key) :=
  get?_insertAll other.nodup_keys table key

theorem ofList_entries (table : Table α) : ofList table.entries = table :=
  ext fun key => by
    rw [ofList, get?_insertAll_entries]
    exact Option.or_none

theorem mem_entries_ofList {entries : List (String × α)} {entry : String × α}
    (h : entry ∈ (ofList entries).entries) : entry ∈ entries := by
  have hget := (mem_entries _ entry.1 entry.2).mp h
  rw [ofList, get?_insertAll_reverse, show (empty : Table α).get? entry.1 = none from rfl,
    Option.or_none] at hget
  exact List.mem_reverse.mp (mem_of_lookup hget)

theorem mem_keys (table : Table α) (key : String) : key ∈ table.keys ↔ table.contains key := by
  unfold keys contains
  rw [List.mem_map, Option.isSome_iff_exists]
  constructor
  · rintro ⟨⟨name, value⟩, hmem, rfl⟩
    exact ⟨value, (mem_entries table _ _).mp hmem⟩
  · rintro ⟨value, hget⟩
    exact ⟨(key, value), (mem_entries table _ _).mpr hget, rfl⟩

theorem keys_mapValues (f : String → α → β) (table : Table α) :
    (table.mapValues f).keys = table.keys := by
  simp [keys, mapValues, Function.comp_def]

theorem keys_congr {s : Table α} {t : Table β} (h : ∀ key, s.contains key = t.contains key) :
    s.keys = t.keys := by
  have hmapped : (s.mapValues fun _ _ => ()) = t.mapValues fun _ _ => () := by
    apply ext
    intro key
    rw [get?_mapValues, get?_mapValues]
    have hkey := h key
    unfold contains at hkey
    cases hs : s.get? key <;> cases ht : t.get? key <;> simp_all
  rw [← keys_mapValues (fun _ _ => ()) s, hmapped, keys_mapValues]

theorem ne_of_mem_entries {table : Table α} {key : String} (h : table.get? key = none)
    {entry : String × α} (hentry : entry ∈ table.entries) : key ≠ entry.1 := by
  rintro rfl
  have hget := (mem_entries table entry.1 entry.2).mp hentry
  rw [h] at hget
  cases hget

theorem exists_split_of_get? {table : Table α} {key : String} {value : α}
    (h : table.get? key = some value) :
    ∃ before after, table.entries = before ++ (key, value) :: after ∧
      (∀ entry ∈ before, entry.1 < key) ∧ ∀ entry ∈ after, key < entry.1 := by
  obtain ⟨before, after, hsplit⟩ := List.append_of_mem ((mem_entries table key value).mpr h)
  have hsorted := table.sorted
  rw [hsplit, List.pairwise_append, List.pairwise_cons] at hsorted
  obtain ⟨_, ⟨hafter, _⟩, hbefore⟩ := hsorted
  exact ⟨before, after, hsplit,
    fun entry hentry => hbefore entry hentry _ List.mem_cons_self, hafter⟩

theorem not_mem_before {table : Table α} {key : String} {value : α}
    {before after : List (String × α)}
    (h : table.entries = before ++ (key, value) :: after) :
    key ∉ before.map (·.1) := by
  have hnodup := table.nodup_keys
  rw [h, List.map_append, List.map_cons, List.nodup_append] at hnodup
  exact fun hmem => hnodup.2.2 key hmem key List.mem_cons_self rfl

theorem le_iff_of_split {table : Table α} {key other : String} {value : α}
    {before after : List (String × α)} (h : table.entries = before ++ (key, value) :: after)
    (hother : table.contains other) : other ≤ key ↔ other ∈ before.map (·.1) ∨ other = key := by
  have hsorted := table.sorted
  rw [h, List.pairwise_append, List.pairwise_cons] at hsorted
  obtain ⟨_, ⟨hafter, _⟩, hbefore⟩ := hsorted
  constructor
  · intro hle
    obtain ⟨kept, hkept⟩ := Option.isSome_iff_exists.mp hother
    have hmem := (mem_entries table other kept).mpr hkept
    rw [h, List.mem_append, List.mem_cons] at hmem
    rcases hmem with hmem | heq | hmem
    · exact .inl (List.mem_map.mpr ⟨_, hmem, rfl⟩)
    · exact .inr (congrArg Prod.fst heq)
    · exact absurd (hafter _ hmem) (String.not_lt.mpr hle)
  · rintro (hmem | rfl)
    · obtain ⟨entry, hentry, rfl⟩ := List.mem_map.mp hmem
      exact String.not_lt.mp (String.lt_asymm (hbefore entry hentry _ List.mem_cons_self))
    · exact String.le_refl _

theorem isEmpty_iff (table : Table α) : table.isEmpty ↔ table = ∅ := by
  constructor
  · intro h
    have hnil : table.entries = [] := List.isEmpty_iff.mp h
    exact ext fun key => by rw [get?, hnil]; rfl
  · rintro rfl
    rfl

theorem ne_empty_iff (table : Table α) : table ≠ ∅ ↔ ∃ key value, table.get? key = some value := by
  constructor
  · intro h
    by_contra hnone
    push Not at hnone
    refine h (ext fun key => ?_)
    rw [get?_empty, Option.eq_none_iff_forall_ne_some]
    exact hnone key
  · rintro ⟨key, value, hget⟩ rfl
    simp at hget

end Patchbay.Table
