/-
# Crosslink.Proofs.Reference.TableGrowth — what a resolution takes from the table

Looking a reference up asks the table only whether records of a kind, a scope
and a title are there (`Recorded`). So two tables with the same keys locate every
reference alike, in whatever order and however often the records stand in them
(`locateName_of_sameKeys`); only the category may differ, since it is read off
the first record that was found.

A table that grows at its end keeps the first record of every title
(`findAs_append`). What was found stays found, and the tag changes in one case
only: the reference was found at top level, and a new record stands below the
enclosing namespace (`Overtaken`).

Main theorem: `resolve_by_keys_and_growth`.
-/
import Crosslink.Proofs.Reference.Resolution

namespace Crosslink.Reference

open Crosslink.Text
open Crosslink.Symbols

set_option autoImplicit false

variable {form : Form} {parent body title name : List Char} {first second old new : List Symbol}

/-! ## Tables with the same keys -/

/-- What the lookup sees of a record. -/
def keyOf (s : Symbol) : String × SymbolKind × Option Scope := (s.title, s.kind, s.scope)

/-- The tables have the same titles, each with the same kinds and scopes. -/
def SameKeys (first second : List Symbol) : Prop :=
  ∀ key, key ∈ first.map keyOf ↔ key ∈ second.map keyOf

theorem Form.Matches.of_key {s t : Symbol} (key : keyOf t = keyOf s) (matching : form.Matches s) :
    form.Matches t := by
  obtain ⟨-, kind, scope⟩ : t.title = s.title ∧ t.kind = s.kind ∧ t.scope = s.scope := by
    simpa [keyOf] using key
  cases form with
  | constant => exact kind.trans matching
  | definition => exact matching.imp kind.trans kind.trans
  | instanceMethod => exact ⟨kind.trans matching.1, scope.trans matching.2⟩
  | classMethod => exact ⟨kind.trans matching.1, scope.trans matching.2⟩

theorem Recorded.of_keys (covered : ∀ key, key ∈ first.map keyOf → key ∈ second.map keyOf)
    (recorded : Recorded first form title) : Recorded second form title := by
  obtain ⟨s, member, matching, titled⟩ := recorded
  obtain ⟨t, member', key⟩ := List.mem_map.1 (covered (keyOf s) (List.mem_map_of_mem member))
  have sameTitle : t.title = s.title := congrArg Prod.fst key
  exact ⟨t, member', matching.of_key key, by rw [sameTitle, titled]⟩

theorem SameKeys.recorded_iff (same : SameKeys first second) :
    Recorded first form title ↔ Recorded second form title := by
  constructor
  · apply Recorded.of_keys
    intro key
    exact (same key).1
  · apply Recorded.of_keys
    intro key
    exact (same key).2

/-- Tables with the same keys locate a reference alike. -/
theorem locateName_of_sameKeys (same : SameKeys first second) (form : Form)
    (parent body : List Char) :
    locateName first form parent body = locateName second form parent body := by
  have below : RecordedBelow first form parent body ↔ RecordedBelow second form parent body := by
    unfold RecordedBelow
    rw [same.recorded_iff]
  by_cases hit : RecordedBelow first form parent body
  · rw [locateName_of_recordedBelow hit, locateName_of_recordedBelow (below.1 hit)]
  · have found : (findAs first form (lookupName (labelOf form body))).isSome =
        (findAs second form (lookupName (labelOf form body))).isSome := by
      rw [Bool.eq_iff_iff, isSome_findAs_iff, isSome_findAs_iff, same.recorded_iff]
    rw [locateName_of_not_recordedBelow hit, locateName_of_not_recordedBelow (mt below.2 hit), found]

/-- All of a resolution but its category. -/
def Resolution.target (r : Resolution) :
    Form × String × String × String × Bool × Bool × Option String :=
  (r.form, r.label, r.space, r.name, r.relative, r.found, r.page)

theorem target_of_sameKeys (same : SameKeys first second) (form : Form) (parent body : List Char) :
    (resolveBody first form parent body).target = (resolveBody second form parent body).target := by
  simp only [resolveBody, Resolution.target, locateName_of_sameKeys same]

/-! ## Tables that grow -/

/-- A search goes through the new records only when the old ones have none. -/
theorem findAs_append (old new : List Symbol) (form : Form) (name : List Char) :
    findAs (old ++ new) form name = (findAs old form name).or (findAs new form name) := by
  cases form with
  | constant => exact List.find?_append
  | definition => exact List.find?_append
  | instanceMethod => exact List.find?_append
  | classMethod => exact List.find?_append

theorem findAs_append_of_isSome (found : (findAs old form name).isSome = true) (new : List Symbol) :
    findAs (old ++ new) form name = findAs old form name := by
  rw [findAs_append, Option.or_of_isSome found]

theorem recorded_append_iff : Recorded (old ++ new) form title ↔
    Recorded old form title ∨ Recorded new form title := by
  simp only [Recorded, List.mem_append, or_and_right, exists_or]

theorem recordedBelow_append_iff : RecordedBelow (old ++ new) form parent body ↔
    RecordedBelow old form parent body ∨ RecordedBelow new form parent body := by
  simp only [RecordedBelow, recorded_append_iff, and_or_left]

/-- The category is read off the record that is found under the full name. -/
theorem categoryOf_congr (same : findAs first form name = findAs second form name) (found : Bool) :
    categoryOf first form name found = categoryOf second form name found := by
  cases form with
  | constant => rfl
  | definition =>
      have records : findDefinition first name = findDefinition second name := same
      rw [categoryOf, categoryOf, records]
  | instanceMethod =>
      have records : findInstanceMethod first name = findInstanceMethod second name := same
      rw [categoryOf, categoryOf, isInstanceAttribute, isInstanceAttribute, records]
  | classMethod => rfl

/-- Where both tables locate a reference alike and find the same record, they resolve it alike. -/
theorem resolveBody_congr {full : List Char} {relative found : Bool}
    (here : locateName first form parent body = (full, relative, found))
    (there : locateName second form parent body = (full, relative, found))
    (same : findAs first form full = findAs second form full) :
    resolveBody first form parent body = resolveBody second form parent body := by
  simp only [resolveBody, here, there, categoryOf_congr same]

/-- What is recorded below its parent is found. -/
theorem found_of_recordedBelow {symbols : List Symbol}
    (below : RecordedBelow symbols form parent body) :
    (resolveBody symbols form parent body).found = true := by
  simp only [resolveBody, locateName_of_recordedBelow below]

/-- New records do not matter for a reference that was found below its parent. -/
theorem resolveBody_append_of_below (below : RecordedBelow old form parent body)
    (new : List Symbol) :
    resolveBody (old ++ new) form parent body = resolveBody old form parent body := by
  have stillBelow : RecordedBelow (old ++ new) form parent body :=
    recordedBelow_append_iff.2 (.inl below)
  apply resolveBody_congr (locateName_of_recordedBelow stillBelow) (locateName_of_recordedBelow below)
  exact findAs_append_of_isSome (isSome_findAs_iff.2 below.2.2) new

/-- For one that was found at top level, they matter only below its parent. -/
theorem resolveBody_append_of_top (found : (resolveBody old form parent body).found = true)
    (notOld : ¬ RecordedBelow old form parent body)
    (notNew : ¬ RecordedBelow new form parent body) :
    resolveBody (old ++ new) form parent body = resolveBody old form parent body := by
  have located := locateName_of_not_recordedBelow notOld
  have atTop : (findAs old form (lookupName (labelOf form body))).isSome = true := by
    simpa only [resolveBody, located] using found
  have same := findAs_append_of_isSome atTop new
  have notBelow : ¬ RecordedBelow (old ++ new) form parent body := by
    rw [recordedBelow_append_iff, not_or]
    exact ⟨notOld, notNew⟩
  have located' := locateName_of_not_recordedBelow notBelow
  rw [same] at located'
  exact resolveBody_congr located' located same

/-- New records matter only below the parent, for a reference that was not found there. -/
theorem resolveBody_append (found : (resolveBody old form parent body).found = true)
    (unaffected : RecordedBelow new form parent body → RecordedBelow old form parent body) :
    resolveBody (old ++ new) form parent body = resolveBody old form parent body := by
  by_cases below : RecordedBelow old form parent body
  · exact resolveBody_append_of_below below new
  · exact resolveBody_append_of_top found below (mt unaffected below)

/-! ## Tags -/

/-- A new record stands below the enclosing namespace of a reference that was not found there. -/
def Overtaken (old new : List Symbol) (text parent : String) (shown : Option String) : Prop :=
  (resolve old text parent shown).relative = false ∧
    ∃ form, classify text = some form ∧ RecordedBelow new form parent.toList (bodyOf text)

section Structured

variable {text : String} (structured : classify text = some form) (parent : String)
  (shown : Option String)
include structured

theorem relative_resolve_iff (symbols : List Symbol) :
    (resolve symbols text parent shown).relative = true ↔
      RecordedBelow symbols form parent.toList (bodyOf text) := by
  rw [← relative_resolveBody_iff]
  simp [Tag.relative, resolve_structured structured]

theorem found_resolve (symbols : List Symbol) : (resolve symbols text parent shown).found =
    (resolveBody symbols form parent.toList (bodyOf text)).found := by
  simp [Tag.found, resolve_structured structured]

theorem overtaken_iff (old new : List Symbol) : Overtaken old new text parent shown ↔
    ¬ RecordedBelow old form parent.toList (bodyOf text) ∧
      RecordedBelow new form parent.toList (bodyOf text) := by
  rw [Overtaken, ← Bool.not_eq_true, relative_resolve_iff structured]
  simp [structured]

end Structured

/-- **A resolution depends on the keys of the table, and is stable when the table grows.** Over two
tables with the same keys a text has the same tag up to its category. Over a table with new records
at its end, a tag that was found is found again, and it is the same tag, unless a new record stands
below the enclosing namespace of a reference that was found at top level; then the new tag is found
below that namespace. -/
theorem resolve_by_keys_and_growth (text parent : String) (shown : Option String) :
    (∀ first second : List Symbol, SameKeys first second →
      (resolve first text parent shown).resolution.map Resolution.target =
        (resolve second text parent shown).resolution.map Resolution.target) ∧
      ∀ old new : List Symbol, (resolve old text parent shown).found = true →
        (resolve (old ++ new) text parent shown).found = true ∧
          (Overtaken old new text parent shown →
            (resolve (old ++ new) text parent shown).relative = true) ∧
          (¬ Overtaken old new text parent shown →
            resolve (old ++ new) text parent shown = resolve old text parent shown) := by
  cases structured : classify text with
  | none => simp [resolve, structured, Tag.found]
  | some form =>
      constructor
      · intro first second same
        rw [resolve_structured structured, resolve_structured structured, Option.map_some,
          Option.map_some, target_of_sameKeys same]
      · intro old new found
        have foundBody : (resolveBody old form parent.toList (bodyOf text)).found = true := by
          rw [← found_resolve structured parent shown]
          exact found
        by_cases overtaken : Overtaken old new text parent shown
        · have after := ((overtaken_iff structured parent shown old new).1 overtaken).2
          have below : RecordedBelow (old ++ new) form parent.toList (bodyOf text) :=
            recordedBelow_append_iff.2 (.inr after)
          refine ⟨?_, ?_, ?_⟩
          · rw [found_resolve structured]
            exact found_of_recordedBelow below
          · intro _
            exact (relative_resolve_iff structured parent shown _).2 below
          · intro unaffected
            exact absurd overtaken unaffected
        · have unaffected : RecordedBelow new form parent.toList (bodyOf text) →
              RecordedBelow old form parent.toList (bodyOf text) := by
            intro after
            by_contra before
            exact overtaken ((overtaken_iff structured parent shown old new).2 ⟨before, after⟩)
          have sameTag : resolve (old ++ new) text parent shown = resolve old text parent shown := by
            simp [resolve, structured, resolveBody_append foundBody unaffected]
          refine ⟨?_, ?_, ?_⟩
          · rw [sameTag]
            exact found
          · intro isOvertaken
            exact absurd isOvertaken overtaken
          · intro _
            exact sameTag

/-- A class at top level, and a module of that name that is recorded later below the parent. -/
theorem resolve_by_keys_and_growth_overtaken :
    (resolve [.plain .classDef "Bar"] "Bar" "Foo" none).found = true ∧
      Overtaken [.plain .classDef "Bar"] [.plain .moduleDef "Foo::Bar"] "Bar" "Foo" none ∧
      (resolve ([.plain .classDef "Bar"] ++ [.plain .moduleDef "Foo::Bar"]) "Bar" "Foo"
        none).relative = true := by
  have found : (resolve [.plain .classDef "Bar"] "Bar" "Foo" none).found = true := by decide
  have overtaken : Overtaken [.plain .classDef "Bar"] [.plain .moduleDef "Foo::Bar"] "Bar" "Foo"
      none := by
    refine ⟨by decide, .definition, by decide, by decide, by decide, ?_⟩
    exact ⟨.plain .moduleDef "Foo::Bar", by simp, .inl rfl, by decide⟩
  have growth := (resolve_by_keys_and_growth "Bar" "Foo" none).2 [.plain .classDef "Bar"]
    [.plain .moduleDef "Foo::Bar"] found
  exact ⟨found, overtaken, growth.2.1 overtaken⟩

end Crosslink.Reference
