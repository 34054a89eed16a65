import Patchbay.Proofs.JsonLayout
import Patchbay.Proofs.StateDecoding
import Patchbay.Settings.File

namespace Patchbay.Settings

section Text

theorem nesting_toJson_string (entries : Table String) : (entries.toJson Json.string).nesting ≤ 1 :=
  Table.nesting_toJson_le_iff.mpr fun _ _ => Nat.le_refl 0

theorem not_allBlank_fileText (entries : Table String) :
    Text.allBlank (fileText entries).toList = false := by
  have hbrace : ∃ rest, (fileText entries).toList = '{' :: rest := by
    rw [fileText, Json.indented, Table.toJson]
    cases entries.entries with
    | nil => exact ⟨_, rfl⟩
    | cons entry rest =>
      rw [List.map_cons, Json.indentedOnto, Json.indentedMembers_eq, String.toList_append,
        String.toList_append, String.toList_append]
      exact ⟨_, rfl⟩
  obtain ⟨rest, hrest⟩ := hbrace
  rw [hrest]
  rfl

theorem run_fileText (entries : Table String) :
    (Json.Decoder.table Json.Decoder.string).run (Utf8.ofString (fileText entries)) =
      some entries := by
  have hreads :
      (Json.Decoder.table Json.Decoder.string).Reads (entries.toJson Json.string) entries :=
    Json.Decoder.reads_table fun entry _ => Json.Decoder.reads_string entry.2
  rw [fileText, Json.indented, hreads.run_spelled (Json.spelled_indented 0 _)]
  exact if_pos (Nat.le_trans (nesting_toJson_string entries) (by decide))

end Text

section Calls

variable {entry : FileEntry} {entries : Table String} {key value : String} {error : SettingsError}

/-- The file is absent, blank, or holds these entries. -/
inductive Holds : FileEntry → Table String → Prop where
  | absent (access : Access) : Holds (.missing access) ∅
  | blank {entry : FileEntry} {text : String} (htext : entry.text? = some text)
      (hblank : Text.allBlank text.toList) : Holds entry ∅
  | valid {entry : FileEntry} {text : String} {entries : Table String}
    (htext : entry.text? = some text)
      (hblank : Text.allBlank text.toList = false)
      (hparse : (Json.Decoder.table Json.Decoder.string).run (Utf8.ofString text) = some entries) :
      Holds entry entries

inductive Unread (entry : FileEntry) : SettingsError → Prop where
  | unreadable (hentry : ∀ access, entry ≠ .missing access) (htext : entry.text? = none) :
      Unread entry .unreadable
  | malformed {text : String} (htext : entry.text? = some text)
    (hblank : Text.allBlank text.toList = false)
      (hparse : (Json.Decoder.table Json.Decoder.string).run (Utf8.ofString text) = none) :
      Unread entry .malformed

inductive Refused (entry : FileEntry) (key : String) : SettingsError → Prop where
  | unknownKey (hkey : key ∉ knownKeys) : Refused entry key (.unknownKey key)
  | unread {error : SettingsError} (hkey : key ∈ knownKeys) (h : Unread entry error) :
    Refused entry key error
  | noDirectory (hkey : key ∈ knownKeys) (haccess : entry.access = .noDirectory) :
      Refused entry key .noDirectory
  | unwritable {entries : Table String} (hkey : key ∈ knownKeys) (hread : Holds entry entries)
      (haccess : entry.access = .denied) : Refused entry key .unwritable

theorem readEntries_of_text {text : String} (htext : entry.text? = some text) :
    readEntries entry =
      if Text.allBlank text.toList then .ok ∅
      else ((Json.Decoder.table Json.Decoder.string).run (Utf8.ofString text)).elim
          (.error .malformed) .ok := by
  cases entry with
  | missing | unreadable => cases htext
  | file content writable =>
    simp only [readEntries, htext]
    cases (Json.Decoder.table Json.Decoder.string).run (Utf8.ofString text) <;> rfl

theorem Holds.readEntries_eq (h : Holds entry entries) : readEntries entry = .ok entries := by
  cases h with
  | absent access => rfl
  | blank htext hblank => rw [readEntries_of_text htext, if_pos hblank]
  | valid htext hblank hparse =>
    rw [readEntries_of_text htext, hblank, hparse]
    rfl

theorem Unread.readEntries_eq (h : Unread entry error) : readEntries entry = .error error := by
  cases h with
  | unreadable hentry htext =>
    cases entry with
    | missing access => exact absurd rfl (hentry access)
    | unreadable => rfl
    | file content writable => simp only [readEntries, htext]
  | malformed htext hblank hparse =>
    rw [readEntries_of_text htext, hblank, hparse]
    rfl

theorem holds_or_unread (entry : FileEntry) :
    (∃ entries, Holds entry entries) ∨ ∃ error, Unread entry error := by
  by_cases hmissing : ∃ access, entry = .missing access
  · obtain ⟨access, rfl⟩ := hmissing
    exact .inl ⟨∅, .absent access⟩
  cases htext : entry.text? with
  | none => exact .inr ⟨_, .unreadable (fun access heq => hmissing ⟨access, heq⟩) htext⟩
  | some text =>
    cases hblank : Text.allBlank text.toList with
    | true => exact .inl ⟨∅, .blank htext hblank⟩
    | false =>
      cases hparse : (Json.Decoder.table Json.Decoder.string).run (Utf8.ofString text) with
      | some entries => exact .inl ⟨entries, .valid htext hblank hparse⟩
      | none => exact .inr ⟨_, .malformed htext hblank hparse⟩

theorem holds_fileText (entries : Table String) (writable : Bool) :
    Holds (.file (Utf8.ofString (fileText entries)) writable) entries :=
  .valid (Utf8.toString?_ofString _) (not_allBlank_fileText entries) (run_fileText entries)

theorem set_of_not_mem (hkey : key ∉ knownKeys) :
    set entry key value = (entry, .error (.unknownKey key)) := by
  have hcontains : knownKeys.contains key = false := Bool.eq_false_iff.mpr (by simpa using hkey)
  rw [set, update, hcontains]
  rfl

theorem set_of_unread (hkey : key ∈ knownKeys) (h : Unread entry error) :
    set entry key value = (entry, .error error) := by
  have hcontains : knownKeys.contains key := by simpa using hkey
  rw [set, update, hcontains, if_pos rfl, h.readEntries_eq]

theorem holds_of_noDirectory (haccess : entry.access = .noDirectory) : Holds entry ∅ := by
  cases entry with
  | missing access => exact .absent access
  | file content writable => cases writable <;> cases haccess
  | unreadable => cases haccess

theorem set_of_noDirectory (hkey : key ∈ knownKeys) (haccess : entry.access = .noDirectory) :
    set entry key value = (entry, .error .noDirectory) := by
  have hcontains : knownKeys.contains key := by simpa using hkey
  rw [set, update, hcontains, if_pos rfl, (holds_of_noDirectory haccess).readEntries_eq]
  simp only [haccess]

theorem set_of_denied (hkey : key ∈ knownKeys) (h : Holds entry entries)
    (haccess : entry.access = .denied) : set entry key value = (entry, .error .unwritable) := by
  have hcontains : knownKeys.contains key := by simpa using hkey
  rw [set, update, hcontains, if_pos rfl, h.readEntries_eq]
  simp only [haccess]

theorem set_of_free (hkey : key ∈ knownKeys) (h : Holds entry entries)
    (haccess : entry.access = .free) : set entry key value =
      (.file (Utf8.ofString (fileText (entries.insert key value))) true, .ok ()) := by
  have hcontains : knownKeys.contains key := by simpa using hkey
  rw [set, update, hcontains, if_pos rfl, h.readEntries_eq]
  simp only [haccess]

theorem Refused.set_eq (h : Refused entry key error) (value : String) :
    set entry key value = (entry, .error error) := by
  cases h with
  | unknownKey hkey => exact set_of_not_mem hkey
  | unread hkey hunread => exact set_of_unread hkey hunread
  | noDirectory hkey haccess => exact set_of_noDirectory hkey haccess
  | unwritable hkey hread haccess => exact set_of_denied hkey hread haccess

theorem refused_or_written (entry : FileEntry) (key : String) : (∃ error, Refused entry key error) ∨
    key ∈ knownKeys ∧ entry.access = .free ∧ ∃ entries, Holds entry entries := by
  by_cases hkey : key ∈ knownKeys
  · rcases holds_or_unread entry with ⟨entries, hread⟩ | ⟨error, hunread⟩
    · cases haccess : entry.access with
      | free => exact .inr ⟨hkey, rfl, entries, hread⟩
      | noDirectory => exact .inl ⟨_, .noDirectory hkey haccess⟩
      | denied => exact .inl ⟨_, .unwritable hkey hread haccess⟩
    · exact .inl ⟨error, .unread hkey hunread⟩
  · exact .inl ⟨_, .unknownKey hkey⟩

theorem refused_iff : (set entry key value).2 = .error error ↔ Refused entry key error := by
  constructor
  · intro h
    rcases refused_or_written entry key with ⟨reason, hrefused⟩ | ⟨hkey, haccess, entries, hread⟩
    · rw [hrefused.set_eq] at h
      cases h
      exact hrefused
    · rw [set_of_free hkey hread haccess] at h
      cases h
  · intro h
    rw [h.set_eq]

theorem set_of_not_free (haccess : entry.access ≠ .free) (key value : String) :
    (set entry key value).1 = entry := by
  rcases refused_or_written entry key with ⟨error, hrefused⟩ | ⟨_, hfree, _⟩
  · rw [hrefused.set_eq]
  · exact absurd hfree haccess

end Calls

section Runs

variable {entry : FileEntry} {entries : Table String}

/-- The file after a number of calls, refused ones among them. -/
def setAll (entry : FileEntry) (calls : List (String × String)) : FileEntry :=
  calls.foldl (fun entry call => (set entry call.1 call.2).1) entry

def knownCalls (calls : List (String × String)) : List (String × String) :=
  calls.filter fun call => knownKeys.contains call.1

/-- The value that was given last to a known key, where the file can be written at all. -/
def lastSet? (entry : FileEntry) (calls : List (String × String)) (key : String) : Option String :=
  if key ∈ knownKeys ∧ entry.access = .free then calls.reverse.lookup key else none

theorem lookup_knownCalls (calls : List (String × String)) (key : String) :
    (knownCalls calls).reverse.lookup key =
      if key ∈ knownKeys then calls.reverse.lookup key else none := by
  rw [knownCalls, ← List.filter_reverse]
  induction calls.reverse with
  | nil => simp
  | cons call rest ih =>
    rw [List.filter_cons, Table.lookup_cons_eq]
    by_cases hcall : knownKeys.contains call.1
    · rw [if_pos hcall, Table.lookup_cons_eq, ih]
      by_cases hkey : key = call.1
      · rw [if_pos hkey, if_pos hkey, if_pos (by simpa [hkey] using hcall)]
      · rw [if_neg hkey, if_neg hkey]
    · rw [if_neg hcall, ih]
      by_cases hkey : key = call.1
      · rw [if_neg (by simpa [hkey] using hcall), if_neg (by simpa [hkey] using hcall)]
      · rw [if_neg hkey]

theorem setAll_cons (call : String × String) (rest : List (String × String)) :
    setAll entry (call :: rest) = setAll (set entry call.1 call.2).1 rest :=
  rfl

theorem setAll_of_not_free (haccess : entry.access ≠ .free) (calls : List (String × String)) :
    setAll entry calls = entry := by
  induction calls with
  | nil => rfl
  | cons call rest ih => rw [setAll_cons, set_of_not_free haccess, ih]

theorem setAll_eq (h : Holds entry entries) (haccess : entry.access = .free)
    (calls : List (String × String)) :
    setAll entry calls =
      if knownCalls calls = [] then entry
      else .file (Utf8.ofString (fileText (entries.insertAll (knownCalls calls)))) true := by
  induction calls generalizing entry entries with
  | nil => rfl
  | cons call rest ih =>
    rw [setAll_cons, knownCalls, List.filter_cons, ← knownCalls]
    by_cases hkey : call.1 ∈ knownKeys
    · have hcontains : knownKeys.contains call.1 := by simpa using hkey
      rw [set_of_free hkey h haccess, if_pos hcontains, if_neg (List.cons_ne_nil _ _),
        Table.insertAll_cons, ih (holds_fileText _ true) rfl]
      split
      · next hnone => rw [hnone]; rfl
      · rfl
    · have hcontains : ¬knownKeys.contains call.1 := by simpa using hkey
      rw [set_of_not_mem hkey, if_neg hcontains, ih h haccess]

theorem holds_setAll (h : Holds entry entries) (haccess : entry.access = .free)
    (calls : List (String × String)) :
    Holds (setAll entry calls) (entries.insertAll (knownCalls calls)) := by
  rw [setAll_eq h haccess]
  split
  · next hnone =>
    rw [hnone]
    exact h
  · exact holds_fileText _ true

theorem setAll_congr (h : Holds entry entries) {calls others : List (String × String)}
    (hlast : ∀ key ∈ knownKeys, calls.reverse.lookup key = others.reverse.lookup key) :
    setAll entry calls = setAll entry others := by
  by_cases haccess : entry.access = .free
  swap
  · rw [setAll_of_not_free haccess, setAll_of_not_free haccess]
  have hlookup (key : String) :
      (knownCalls calls).reverse.lookup key = (knownCalls others).reverse.lookup key := by
    rw [lookup_knownCalls, lookup_knownCalls]
    by_cases hkey : key ∈ knownKeys
    · rw [if_pos hkey, if_pos hkey, hlast key hkey]
    · rw [if_neg hkey, if_neg hkey]
  have hinsert : entries.insertAll (knownCalls calls) = entries.insertAll (knownCalls others) :=
    Table.ext fun key => by rw [Table.get?_insertAll_reverse, Table.get?_insertAll_reverse, hlookup]
  have hnil : knownCalls calls = [] ↔ knownCalls others = [] := by
    rw [← List.reverse_eq_nil_iff, ← Table.lookup_eq_none_iff, ← List.reverse_eq_nil_iff,
      ← Table.lookup_eq_none_iff]
    exact forall_congr' fun key => by rw [hlookup]
  rw [setAll_eq h haccess, setAll_eq h haccess, hinsert]
  exact if_congr hnil rfl rfl

/-- Setting entries changes those entries and no others: the file keeps the last value of each,
whatever the order of the calls, and a call that is refused leaves it as it was. -/
theorem setAll_upserts (h : Holds entry entries) (calls : List (String × String)) :
    (∃ after, Holds (setAll entry calls) after ∧ load (setAll entry calls) = .ok (ofTable after) ∧
      ∀ key, after.get? key = (lastSet? entry calls key).or (entries.get? key)) ∧
    (∀ others, (∀ key ∈ knownKeys, calls.reverse.lookup key = others.reverse.lookup key) →
      setAll entry calls = setAll entry others) ∧
    ∀ (file : FileEntry) (key value : String) (error : SettingsError),
      ((set file key value).2 = .error error ↔ Refused file key error) ∧
        ((set file key value).2 = .error error → (set file key value).1 = file) := by
  refine ⟨?_, fun others => setAll_congr h, fun file key value error =>
    ⟨refused_iff, fun hfails => ?_⟩⟩
  · by_cases haccess : entry.access = .free
    · have hafter := holds_setAll h haccess calls
      refine ⟨_, hafter, by rw [load, hafter.readEntries_eq]; rfl, fun key => ?_⟩
      rw [Table.get?_insertAll_reverse, lookup_knownCalls, lastSet?]
      exact congrArg (Option.or · _) (if_congr (and_iff_left haccess).symm rfl rfl)
    · refine ⟨entries, ?_⟩
      rw [setAll_of_not_free haccess, load, h.readEntries_eq]
      refine ⟨h, rfl, fun key => ?_⟩
      rw [lastSet?, if_neg (not_and_of_not_right _ haccess), Option.none_or]
  · rw [(refused_iff.mp hfails).set_eq]

def twoThemesText : String :=
  "\x7b\"theme\": \"light\", \"volume\": \"11\", \"theme\": \"dusk\"\x7d"

def twoThemes (writable : Bool) : FileEntry :=
  .file (Utf8.ofString twoThemesText) writable

def themeEdits : List (String × String) :=
  [("theme", "dawn"), ("volume", "3"), ("debounce_ms", "75"), ("theme", "noon")]

theorem two_themes_keep_volume :
    (∀ writable, Holds (twoThemes writable) (.ofList [("theme", "dusk"), ("volume", "11")])) ∧
      (∃ after, Holds (setAll (twoThemes true) themeEdits) after ∧
        after.get? "theme" = some "noon" ∧
        after.get? "volume" = some "11") ∧
      setAll (twoThemes true) themeEdits =
        setAll (twoThemes true) [("theme", "noon"), ("debounce_ms", "75")] ∧
      (set (twoThemes true) "volume" "3").1 = twoThemes true ∧
      (set (twoThemes false) "theme" "noon").2 = .error .unwritable ∧
      (set (twoThemes false) "theme" "noon").1 = twoThemes false := by
  have hholds (writable : Bool) :
      Holds (twoThemes writable) (.ofList [("theme", "dusk"), ("volume", "11")]) :=
    .valid (Utf8.toString?_ofString twoThemesText) (by decide +kernel) (by decide +kernel)
  obtain ⟨⟨after, hafter, _, hget⟩, horder, hrefused⟩ := setAll_upserts (hholds true) themeEdits
  have hvolume : "volume" ∉ knownKeys := by decide
  have htheme : "theme" ∈ knownKeys := by decide
  have hreadOnly := hrefused (twoThemes false) "theme" "noon" .unwritable
  have hunwritable := hreadOnly.1.mpr (.unwritable htheme (hholds false) rfl)
  refine ⟨hholds, ⟨after, hafter, (hget "theme").trans ?_, (hget "volume").trans ?_⟩, horder _ ?_,
    ?_, hunwritable, hreadOnly.2 hunwritable⟩
  · decide +kernel
  · decide +kernel
  · decide +kernel
  · have hunknown := hrefused (twoThemes true) "volume" "3" (.unknownKey "volume")
    exact hunknown.2 (hunknown.1.mpr (.unknownKey hvolume))

end Runs

end Patchbay.Settings
