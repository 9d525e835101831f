/-
# Crosslink.Proofs.Reference.OwnTitle — records are linked by their own titles

A documented record has the title of a name in a space (`Documents`). Its title
is a reference in the form of its kind (`language_titleOf`), read as that name
in that space (`reads_titleOf`), so at top level looking the title up asks for
the record itself (`found_at_top_iff`).

The one exception comes from the order of the rules: a path whose last segment
is written like a constant is a constant, also when the record is a module or a
class. Such a record is found under its own title only if a constant of the same
title is recorded too.

Main theorem: `resolve_own_title`.
-/
import Crosslink.Proofs.Reference.Classification
import Crosslink.Proofs.Reference.Resolution

namespace Crosslink.Reference

open Crosslink.Text
open Crosslink.Symbols

set_option autoImplicit false

variable {form : Form} {space name : List Char}

/-- A record with the title that is documented for its kind: `name` in `space`. -/
structure Documents (s : Symbol) (form : Form) (space name : List Char) : Prop where
  isSpace : IsSpace space
  isName : form.isFinalName name = true
  matching : form.Matches s
  titled : s.title.toList = form.titleOf space name

/-! ## Titles as references -/

theorem language_titleOf (isSpace : IsSpace space) (isName : form.isFinalName name = true) :
    form.language (form.titleOf space name) = true := by
  have owned := isOwner_of_isSpace isSpace
  cases form with
  | constant =>
      exact (isConstant_within isSpace (isSegment_of_isConstantName isName)).trans isName
  | definition =>
      show isPath (dropScopeMark (within space name)) = true
      rw [dropScopeMark_within isSpace isName]
      exact isPath_within isSpace isName
  | instanceMethod => exact isInstanceMethod_append owned isName
  | classMethod =>
      show (isDottedMethod _ || isScopedMethod _) = true
      rw [Bool.or_eq_true]
      cases space with
      | nil => exact .inr (isScopedMethod_append owned isName)
      | cons c rest => exact .inl (isDottedMethod_append owned isName)

/-- A title says what it is the title of. -/
theorem reads_titleOf (isSpace : IsSpace space) (isName : form.isFinalName name = true) :
    Reads form (dropScopeMark (form.titleOf space name)) space name := by
  refine ⟨isSpace, isName, ?_⟩
  cases form with
  | constant =>
      rw [Form.titleOf, dropScopeMark_within isSpace (isSegment_of_isConstantName isName)]
      simp [Form.writings]
  | definition =>
      rw [Form.titleOf, dropScopeMark_within isSpace isName]
      simp [Form.writings]
  | instanceMethod =>
      rw [Form.titleOf, (dropScopeMark_member isSpace (.inl rfl) (by decide) name).1]
      simp [Form.writings]
  | classMethod =>
      cases space with
      | nil =>
          rw [Form.titleOf, dropScopeMark_append]
          simp [Form.writings]
      | cons c rest =>
          rw [Form.titleOf, (dropScopeMark_member isSpace (.inl rfl) (by decide) name).1]
          · simp [Form.writings]
          · simp

/-- A title has the form of its kind, unless it is a path that is written like a constant. -/
theorem classify_titleOf {title : String} (isSpace : IsSpace space)
    (isName : form.isFinalName name = true) (titled : title.toList = form.titleOf space name)
    (plain : form = .definition → isConstantName name = false) :
    bodyOf title = form.titleOf space name ∧ classify title = some form := by
  have language := language_titleOf isSpace isName
  have body : bodyOf title = form.titleOf space name := by
    rw [← titled] at language ⊢
    exact bodyOf_eq_toList language
  refine ⟨body, ?_⟩
  rw [classify, body]
  apply formOf_eq_some language
  rintro rfl
  rw [Form.titleOf, isConstant_within isSpace isName]
  exact plain rfl

/-! ## Looking titles up -/

/-- At top level a reference is found exactly when its title is recorded. -/
theorem found_at_top_iff {text : String} (symbols : List Symbol) (shown : Option String)
    (structured : classify text = some form)
    (reads : Reads form (dropScopeMark (bodyOf text)) space name) :
    (resolve symbols text "" shown).found = true ↔
      Recorded symbols form (form.titleOf space name) := by
  obtain ⟨space', name', reads', calls⟩ := exists_reads structured
  obtain ⟨rfl, rfl⟩ := Prod.mk.inj (reads.cutFull.symm.trans reads'.cutFull)
  obtain ⟨full, relative, found, located, -, relative_iff, found_iff⟩ :=
    locateName_spec symbols (.inl rfl : IsSpace []) reads' calls
  have isFound : (resolve symbols text "" shown).found = found := by
    simp [resolve, structured, Tag.found, resolveBody, located]
  have atTop : ¬ relative = true := fun inside => (relative_iff.1 inside).2.1 rfl
  rw [isFound, found_iff]
  exact or_iff_right atTop

/-- **Every documented record is found under its own title**, except that a module or class whose
last segment is written like a constant is found exactly when a constant of that title is
recorded. -/
theorem resolve_own_title (symbols : List Symbol) (s : Symbol) (form : Form) (space name : List Char)
    (member : s ∈ symbols) (documents : Documents s form space name) (shown : Option String) :
    (resolve symbols s.title "" shown).found = true ↔
      ¬ (form = .definition ∧ isConstantName name = true) ∨
        ∃ c ∈ symbols, c.kind = .constant ∧ c.title = s.title := by
  obtain ⟨isSpace, isName, matching, titled⟩ := documents
  by_cases taken : form = .definition ∧ isConstantName name = true
  · obtain ⟨rfl, constant⟩ := taken
    -- The title is also that of a constant, and this form comes first.
    have titled' : s.title.toList = Form.titleOf .constant space name := titled
    have isName' : Form.isFinalName .constant name = true := constant
    obtain ⟨body, structured⟩ := classify_titleOf isSpace isName' titled' (by simp)
    have reads := reads_titleOf isSpace isName'
    rw [← body] at reads
    rw [found_at_top_iff symbols shown structured reads, ← titled']
    simp [Recorded, Form.Matches, constant, String.toList_inj]
  · have plain : form = .definition → isConstantName name = false := fun isDefinition =>
      Bool.eq_false_iff.2 fun constant => taken ⟨isDefinition, constant⟩
    obtain ⟨body, structured⟩ := classify_titleOf isSpace isName titled plain
    have reads := reads_titleOf isSpace isName
    rw [← body] at reads
    rw [found_at_top_iff symbols shown structured reads]
    exact iff_of_true ⟨s, member, matching, titled⟩ (.inl taken)

/-- A setter on a class is found under its own title. -/
theorem resolve_own_title_setter :
    Documents (.method "Foo::Bar.baz=" .onClass) .classMethod "Foo::Bar".toList "baz=".toList ∧
      (resolve [.plain .classDef "IO", .method "Foo::Bar.baz=" .onClass] "Foo::Bar.baz=" ""
        none).found = true := by
  have documents : Documents (.method "Foo::Bar.baz=" .onClass) .classMethod "Foo::Bar".toList
      "baz=".toList := ⟨.inr (by decide), by decide, ⟨rfl, rfl⟩, by decide⟩
  refine ⟨documents, ?_⟩
  exact (resolve_own_title [.plain .classDef "IO", .method "Foo::Bar.baz=" .onClass] _ _ _ _
    (by simp) documents none).2 (.inl (by simp))

/-- Not every documented record is found under its own title: a class named `IO` is looked up among
the constants. -/
theorem class_written_like_constant_not_found :
    ¬ ∀ (symbols : List Symbol) (s : Symbol) (form : Form) (space name : List Char), s ∈ symbols →
      Documents s form space name → (resolve symbols s.title "" none).found = true := by
  intro always
  have documents : Documents (.plain .classDef "IO") .definition [] "IO".toList :=
    ⟨.inl rfl, by decide, .inr rfl, by decide⟩
  have found := always [.plain .classDef "IO"] (.plain .classDef "IO") .definition [] "IO".toList
    (by simp) documents
  exact absurd found (by decide)

end Crosslink.Reference
