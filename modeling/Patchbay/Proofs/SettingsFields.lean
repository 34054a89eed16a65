import Patchbay.Settings.Basic
import Patchbay.Proofs.WholeNumbers
import Mathlib.Data.List.DropRight

namespace Patchbay

namespace Text

structure Trimmed (text : List Char) : Prop where
  first : ∀ c ∈ text.head?, isBlank c = false
  last : ∀ c ∈ text.getLast?, isBlank c = false

theorem not_drops_of_mem_head?_dropWhile {drops : Char → Bool} {text : List Char} {c : Char}
    (h : c ∈ (text.dropWhile drops).head?) : drops c = false := by
  have hhead := List.head?_dropWhile_not drops text
  rw [h] at hhead
  exact Bool.eq_false_iff.mpr (by simpa using hhead)

theorem trimmed_trimChars (text : List Char) : Trimmed (trimChars text) := by
  have hsub : trimChars text <+: dropBlanks text := List.rdropWhile_prefix isBlank _
  constructor
  · intro c hc
    obtain ⟨rest, hrest⟩ := hsub
    have hne : trimChars text ≠ [] := by
      intro hnil
      rw [hnil] at hc
      cases hc
    have hhead : c ∈ (text.dropWhile isBlank).head? := by
      rw [← dropBlanks, ← hrest, List.head?_append_of_ne_nil _ hne]
      exact hc
    exact not_drops_of_mem_head?_dropWhile hhead
  · intro c hc
    rw [trimChars, dropTrailingBlanks, dropTrailing, List.getLast?_reverse] at hc
    exact not_drops_of_mem_head?_dropWhile hc

end Text

inductive Setting where
  | debounceMs
  | defaultCpm
  | shareParam
  | theme
  | colorMode
  | benignErrors
deriving DecidableEq

namespace Setting

def key : Setting → String
  | debounceMs => "debounce_ms"
  | defaultCpm => "default_cpm"
  | shareParam => "share_param"
  | theme => "theme"
  | colorMode => "color_mode"
  | benignErrors => "benign_errors"

def Held : Setting → Type
  | debounceMs => UInt64
  | defaultCpm | shareParam | theme => String
  | colorMode => ColorMode
  | benignErrors => List String

def held (settings : Settings) : (setting : Setting) → setting.Held
  | debounceMs => settings.debounceMs
  | defaultCpm => settings.defaultCpm
  | shareParam => settings.shareParam
  | theme => settings.theme
  | colorMode => settings.colorMode
  | benignErrors => settings.benignErrors

/-- What the text of an entry stands for, if it stands for anything. -/
def Says : (setting : Setting) → String → setting.Held → Prop
  | debounceMs, text, wait =>
      ∃ n, Numeral.Natural64 (Text.trim text).toList n ∧ wait.toNat = min n 5000
  | defaultCpm, text, kept | shareParam, text, kept => kept = Text.trim text ∧ kept ≠ ""
  | theme, text, kept => kept = text
  | colorMode, text, mode => Text.lowerAscii (Text.trim text) = mode.word
  | benignErrors, text, parts =>
      (Json.Decoder.list Json.Decoder.string).run (Utf8.ofString text) = some parts

def read? : (setting : Setting) → String → Option setting.Held
  | debounceMs, text => Settings.debounce? text
  | defaultCpm, text | shareParam, text => Settings.notBlank? text
  | theme, text => some text
  | colorMode, text => ColorMode.parse? text
  | benignErrors, text => Settings.strings? text

theorem held_ofTable (setting : Setting) (table : Table String) :
    setting.held (.ofTable table) =
      ((table.get? setting.key).bind setting.read?).getD (setting.held {}) := by
  cases setting with
  | theme =>
    exact congrArg (Option.getD · "strudel") (Option.bind_fun_some (table.get? "theme")).symm
  | _ => rfl

theorem debounce?_eq_some_iff (text : String) (wait : UInt64) :
    Settings.debounce? text = some wait ↔ debounceMs.Says text wait := by
  have hmin (n : Nat) : (min n Settings.maxDebounce).toUInt64.toNat = min n 5000 := by
    have hle : min n Settings.maxDebounce ≤ 5000 := Nat.min_le_right n 5000
    exact Nat.mod_eq_of_lt (Nat.lt_of_le_of_lt hle (by decide))
  rw [Settings.debounce?, Option.map_eq_some_iff]
  refine exists_congr fun n => and_congr (Numeral.nat64?_eq_some_iff _ n) ?_
  rw [← hmin n]
  exact ⟨fun h => congrArg UInt64.toNat h.symm, fun h => UInt64.toNat_inj.mp h.symm⟩

theorem notBlank?_eq_some_iff (text kept : String) :
    Settings.notBlank? text = some kept ↔ kept = Text.trim text ∧ kept ≠ "" := by
  rw [Settings.notBlank?]
  simp only [String.isEmpty_iff]
  by_cases hempty : Text.trim text = ""
  · rw [if_pos hempty]
    exact iff_of_false (Option.some_ne_none kept).symm fun h => h.2 (h.1.trans hempty)
  · rw [if_neg hempty, Option.some_inj]
    exact ⟨fun h => ⟨h.symm, h ▸ hempty⟩, fun h => h.1.symm⟩

theorem parse?_eq_some_iff (text : String) (mode : ColorMode) :
    ColorMode.parse? text = some mode ↔ Text.lowerAscii (Text.trim text) = mode.word := by
  rw [ColorMode.parse?]
  constructor
  · intro h
    obtain ⟨before, after, hwords, _⟩ := List.lookup_eq_some_iff.mp h
    have hmem : (Text.lowerAscii (Text.trim text), mode) ∈ ColorMode.words := by simp [hwords]
    obtain ⟨other, _, heq⟩ := List.mem_map.mp hmem
    obtain ⟨hword, rfl⟩ := Prod.mk.inj heq
    exact hword.symm
  · intro h
    rw [h]
    cases mode <;> decide

theorem read?_eq_some_iff (setting : Setting) (text : String) (held : setting.Held) :
    setting.read? text = some held ↔ setting.Says text held := by
  cases setting with
  | debounceMs => exact debounce?_eq_some_iff text held
  | defaultCpm | shareParam => exact notBlank?_eq_some_iff text held
  | theme => exact Option.some_inj.trans eq_comm
  | colorMode => exact parse?_eq_some_iff text held
  | benignErrors => exact Iff.rfl

theorem says_or_default (setting : Setting) (table : Table String) :
    (∃ text, table.get? setting.key = some text ∧
      setting.Says text (setting.held (.ofTable table))) ∨
      (∀ text held, table.get? setting.key = some text → ¬setting.Says text held) ∧
        setting.held (.ofTable table) = setting.held {} := by
  rw [held_ofTable]
  cases hread : (table.get? setting.key).bind setting.read? with
  | some held =>
    obtain ⟨text, hget, hread⟩ := Option.bind_eq_some_iff.mp hread
    exact .inl ⟨text, hget, (read?_eq_some_iff setting text held).mp hread⟩
  | none =>
    refine .inr ⟨fun text held hget hgives => ?_, rfl⟩
    rw [hget, Option.bind_some, (read?_eq_some_iff setting text held).mpr hgives] at hread
    cases hread

end Setting

namespace Settings

open Setting

/-- What the runner, the compiler and the links take for granted. -/
structure Usable (settings : Settings) : Prop where
  debounce : settings.debounceMs.toNat ≤ 5000
  defaultCpm : settings.defaultCpm ≠ "" ∧ Text.Trimmed settings.defaultCpm.toList
  shareParam : settings.shareParam ≠ "" ∧ Text.Trimmed settings.shareParam.toList

theorem trimmed_of_says {text kept : String} (h : kept = Text.trim text ∧ kept ≠ "") :
    kept ≠ "" ∧ Text.Trimmed kept.toList := by
  refine ⟨h.2, ?_⟩
  rw [h.1, Text.trim, String.toList_ofList]
  exact Text.trimmed_trimChars text.toList

theorem usable_ofTable (table : Table String) : (ofTable table).Usable := by
  constructor
  · rcases says_or_default .debounceMs table with ⟨text, _, n, _, hwait⟩ | ⟨_, hdefault⟩
    · exact hwait.trans_le (Nat.min_le_right n 5000)
    · rw [show (ofTable table).debounceMs = 30 from hdefault]
      decide
  · rcases says_or_default .defaultCpm table with ⟨text, _, hgives⟩ | ⟨_, hdefault⟩
    · exact trimmed_of_says hgives
    · rw [show (ofTable table).defaultCpm = "30" from hdefault]
      have htrimmed : "30" = Text.trim "30" ∧ "30" ≠ "" := by decide
      exact trimmed_of_says htrimmed
  · rcases says_or_default .shareParam table with ⟨text, _, hgives⟩ | ⟨_, hdefault⟩
    · exact trimmed_of_says hgives
    · rw [show (ofTable table).shareParam = "flow" from hdefault]
      have htrimmed : "flow" = Text.trim "flow" ∧ "flow" ≠ "" := by decide
      exact trimmed_of_says htrimmed

/-- Each part of the settings comes from the entry of its own alone: from what its text says, or
else the default. Whatever the entries hold, the settings can be worked with. -/
theorem ofTable_reads_each_entry (table other : Table String) :
    (ofTable table).Usable ∧
      ∀ setting : Setting,
        (table.get? setting.key = other.get? setting.key →
          setting.held (ofTable table) = setting.held (ofTable other)) ∧
        (∀ text held, table.get? setting.key = some text → setting.Says text held →
          setting.held (ofTable table) = held) ∧
        ((∀ text held, table.get? setting.key = some text → ¬setting.Says text held) →
          setting.held (ofTable table) = setting.held {}) := by
  refine ⟨usable_ofTable table,
    fun setting => ⟨fun hget => ?_, fun text held hget hgives => ?_, fun hnone => ?_⟩⟩
  · rw [held_ofTable, held_ofTable, hget]
  · rw [held_ofTable, hget, Option.bind_some, (read?_eq_some_iff setting text held).mpr hgives,
      Option.getD_some]
  · rcases says_or_default setting table with ⟨text, hget, hgives⟩ | ⟨_, hdefault⟩
    · exact absurd hgives (hnone text _ hget)
    · exact hdefault

def crowded : Table String :=
  .ofList [("debounce_ms", " +9000\t"), ("default_cpm", " "), ("color_mode", "LIGHT"),
    ("volume", "11")]

def broken : Table String :=
  .ofList [("debounce_ms", " +9000\t"), ("color_mode", "pink"), ("benign_errors", "[1]")]

theorem crowded_and_broken_wait_alike :
    (crowded.get? "debounce_ms" = broken.get? "debounce_ms" ∧
        (ofTable crowded).debounceMs = (ofTable broken).debounceMs) ∧
      (crowded.get? "color_mode" = some "LIGHT" ∧ (ofTable crowded).colorMode = .light) ∧
      (crowded.get? "default_cpm" = some " " ∧ (ofTable crowded).defaultCpm = "30") := by
  obtain ⟨_, hentries⟩ := ofTable_reads_each_entry crowded broken
  have hwait : crowded.get? "debounce_ms" = broken.get? "debounce_ms" := by decide +kernel
  have hmode : crowded.get? "color_mode" = some "LIGHT" := by decide +kernel
  have htempo : crowded.get? "default_cpm" = some " " := by decide +kernel
  refine ⟨⟨hwait, (hentries .debounceMs).1 hwait⟩,
    ⟨hmode, (hentries .colorMode).2.1 "LIGHT" .light hmode ?_⟩, htempo,
    (hentries .defaultCpm).2.2 fun text kept hget hgives => ?_⟩
  · show Text.lowerAscii (Text.trim "LIGHT") = ColorMode.light.word
    decide
  · obtain rfl : " " = text := Option.some.inj (htempo.symm.trans hget)
    have hblank : Text.trim " " = "" := by decide
    exact hgives.2 (hgives.1.trans hblank)

end Settings

end Patchbay
