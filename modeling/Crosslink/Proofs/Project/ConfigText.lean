/-
# Crosslink.Proofs.Project.ConfigText — written settings are read back

The text of a settings file is a list of lines, each with a key of its own and
the value of one setting. Line by line they are read as the entries of a document
(`readFrom_lines`), and these hold the settings. So the text of any settings is
read as those settings (`read_write`).
-/
import Crosslink.Proofs.Toml.Settings
import Crosslink.Project.Config

namespace Crosslink.Project.Config

open Crosslink.Toml

set_option autoImplicit false

/-! ## Lines -/

/-- A line of a settings file, and the item that its value stands for. -/
structure Line where
  key : String
  value : List Char
  item : Item
  bare : IsBareKey key
  isValue : IsValue value item

def Line.text (l : Line) : List Char := settingLine l.key l.value

def Line.entry (l : Line) : String × Item := (l.key, l.item)

/-- The lines of the settings file of `c`. -/
def lines (c : Config) : List Line :=
  [⟨"version", _, _, by decide +kernel, isValue_number (Nat.lt_trans c.version.toNat_lt (by decide))⟩,
    ⟨"symbols_path", _, _, by decide +kernel, isValue_text c.symbolsPath⟩,
    ⟨"mapping_types", _, _, by decide +kernel, isValue_texts c.options.mappingTypes⟩,
    ⟨"tuple_markers", _, _, by decide +kernel, isValue_texts c.options.tupleMarkers⟩,
    ⟨"default_collection", _, _, by decide +kernel, isValue_text c.options.defaultCollection⟩]

theorem toList_write (c : Config) : c.write.toList = c.lines.flatMap Line.text := by
  simp [write, lines, Line.text]

theorem nodup_keys (c : Config) : (c.lines.map Line.key).Nodup := by
  have keys : c.lines.map Line.key =
      ["version", "symbols_path", "mapping_types", "tuple_markers", "default_collection"] := rfl
  rw [keys]
  decide

/-- **Lines with keys of their own are read as their entries.** -/
theorem readFrom_lines {ls : List Line} (distinct : (ls.map Line.key).Nodup) {es : Entries}
    (fresh : ∀ l ∈ ls, es.lookup l.key = none) {fuel : Nat} (enough : ls.length < fuel) :
    readFrom fuel ⟨es, []⟩ (ls.flatMap Line.text) = some (es ++ ls.map Line.entry) := by
  obtain ⟨fuel, rfl⟩ : ∃ less, fuel = less + 1 := ⟨fuel - 1, by omega⟩
  induction ls generalizing es fuel with
  | nil => simp [readFrom_nil]
  | cons l ls ih =>
      obtain ⟨other, distinct⟩ := List.nodup_cons.1 distinct
      obtain ⟨fuel, rfl⟩ : ∃ less, fuel = less + 1 := ⟨fuel - 1, by simp at enough; omega⟩
      have layout : (l :: ls).flatMap Line.text =
          l.key.toList ++ ' ' :: '=' :: ' ' :: (l.value ++ '\n' :: ls.flatMap Line.text) := by
        simp [Line.text, settingLine]
      have stillFresh : ∀ k ∈ ls, (es ++ [l.entry]).lookup k.key = none := by
        intro k member
        have differs : (k.key == l.key) = false :=
          beq_eq_false_iff_ne.2 fun same => other (same ▸ List.mem_map_of_mem member)
        simp [List.lookup_append, fresh k (by simp [member]), Line.entry, List.lookup_cons, differs]
      have behind := ih distinct stillFresh fuel (by simpa using enough)
      rw [layout, readFrom_setting l.bare l.isValue (fresh l (by simp))]
      simpa [Line.entry] using behind

/-! ## Settings -/

theorem text?_text (text : String) : text? (.text text) = some text := rfl

theorem texts?_list (texts : List String) : texts? (.list (texts.map Item.text)) = some texts := by
  change (texts.map Item.text).mapM text? = some texts
  induction texts with
  | nil => rfl
  | cons text texts ih =>
      rw [List.map_cons, List.mapM_cons, ih]
      rfl

theorem version?_toNat (version : UInt32) :
    version? (.scalar (.integer version.toNat)) = some version := by
  have small : version.toNat < 4294967296 := version.toNat_lt
  simp only [version?, Int.natCast_nonneg, decide_true, Bool.true_and, decide_eq_true_eq,
    Int.toNat_natCast, UInt32.ofNat_toNat]
  exact if_pos (Int.ofNat_lt.2 small)

theorem setting_of_lookup {α : Type} {es : Entries} {key : String} {item : Item} {read : Item → Option α}
    {value : α} (default : α) (found : es.lookup key = some item) (isValue : read item = some value) :
    setting es key read default = .ok value := by
  simp only [setting, found, isValue]

theorem ofEntries_lines (c : Config) : ofEntries (c.lines.map Line.entry) = .ok c := by
  simp only [ofEntries]
  rw [setting_of_lookup _ (by simp [lines, Line.entry]) (version?_toNat c.version),
    setting_of_lookup _ (by simp [lines, Line.entry, List.lookup_cons]) (text?_text c.symbolsPath),
    setting_of_lookup _ (by simp [lines, Line.entry, List.lookup_cons]) (texts?_list c.options.mappingTypes),
    setting_of_lookup _ (by simp [lines, Line.entry, List.lookup_cons]) (texts?_list c.options.tupleMarkers),
    setting_of_lookup _ (by simp [lines, Line.entry, List.lookup_cons])
      (text?_text c.options.defaultCollection)]
  rfl

theorem length_lines (ls : List Line) : ls.length ≤ (ls.flatMap Line.text).length := by
  induction ls with
  | nil => exact Nat.le_refl 0
  | cons l ls ih =>
      simp only [List.flatMap_cons, List.length_append, List.length_cons, Line.text, settingLine] at ih ⊢
      omega

theorem dropMark_write (c : Config) : dropMark c.write.toList = c.lines.flatMap Line.text := by
  rw [toList_write]
  simp [lines, Line.text, settingLine, dropMark]

/-- **The text of settings is read as those settings.** -/
theorem read_write (c : Config) : read c.write = .ok c := by
  have enough : c.lines.length < (dropMark c.write.toList).length + 1 := by
    rw [dropMark_write]
    exact Nat.lt_succ_of_le (length_lines c.lines)
  have document : readDocument c.write = some (c.lines.map Line.entry) := by
    have entries := readFrom_lines (nodup_keys c) (fun _ _ => List.lookup_nil) enough
    rw [← dropMark_write, List.nil_append] at entries
    exact entries
  rw [read, document]
  exact ofEntries_lines c

end Crosslink.Project.Config
