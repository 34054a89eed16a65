import Patchbay.Store
import Patchbay.Proofs.TableLookup

namespace Patchbay.Record

/-- What a change leaves under its key: a `null` takes the entry away. -/
def changed? (value : Value) : Option Value :=
  if value.isNull then none else some value

/-- No entry is `null`. Merging keeps records so, since a `null` only ever deletes. -/
def NullFree (record : Record) : Prop :=
  ∀ key value, record.get? key = some value → value.isNull = false

theorem nullFree_empty : NullFree ∅ := by
  intro key value h
  simp at h

theorem get?_foldl_merge {entries : List (String × Value)} (h : (entries.map (·.1)).Nodup)
    (record : Record) (key : String) :
    (entries.foldl (fun record entry =>
        if entry.2.isNull then record.erase entry.1 else record.insert entry.1 entry.2)
      record).get? key =
      match entries.lookup key with
      | some value => changed? value
      | none => record.get? key := by
  induction entries generalizing record with
  | nil => rfl
  | cons entry rest ih =>
    obtain ⟨hnot, hrest⟩ := List.nodup_cons.mp h
    rw [List.foldl_cons, ih hrest, Table.lookup_cons_eq]
    by_cases hk : key = entry.1
    · rw [hk, Table.lookup_eq_none_of_not_mem hnot, if_pos rfl]
      by_cases hn : entry.2.isNull <;> simp [hn, changed?]
    · rw [if_neg hk]
      cases rest.lookup key with
      | some value => rfl
      | none => by_cases hn : entry.2.isNull <;> simp [hn, hk]

theorem get?_merge (record changes : Record) (key : String) :
    (record.merge changes).get? key =
      match changes.get? key with
      | some value => changed? value
      | none => record.get? key :=
  get?_foldl_merge changes.nodup_keys record key

theorem NullFree.merge {record : Record} (h : NullFree record) (changes : Record) :
    NullFree (record.merge changes) := by
  intro key value hget
  rw [get?_merge] at hget
  cases hc : changes.get? key with
  | none =>
    rw [hc] at hget
    exact h key value hget
  | some change =>
    rw [hc] at hget
    by_cases hn : change.isNull
    · simp [changed?, hn] at hget
    · simp only [changed?, hn] at hget
      obtain rfl : change = value := by simpa using hget
      simpa using hn

theorem NullFree.empty_merge {record : Record} (h : NullFree record) :
    Record.merge ∅ record = record := by
  refine Table.ext fun key => ?_
  rw [get?_merge]
  cases hget : record.get? key with
  | none => rfl
  | some value => simp [changed?, h key value hget]

end Patchbay.Record
