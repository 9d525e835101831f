/-
# Crosslink.Proofs.Reference.Resolution — references are found where they are recorded

A record has one title, a reference several spellings. Any name finds the records
with the title that is looked up for it (`isSome_findAs_iff`), and for a name of
a reference that is its title (`Calls.lookupTitle`). Putting a namespace in front
of a reference gives a name for the same thing below it (`Reads.qualify`). So the
lookup first asks for the title below the enclosing namespace and then for the
title at top level (`locateName_spec`).

Main theorem: `resolve_iff_recorded`.
-/
import Crosslink.Proofs.Reference.Reading
import Crosslink.Proofs.Symbols.MethodTitles
import Crosslink.Reference.Tag

namespace Crosslink.Reference

open Crosslink.Text
open Crosslink.Symbols

set_option autoImplicit false

/-! ## Titles -/

/-- The title under which `name` in `space` is recorded. -/
def Form.titleOf : Form → List Char → List Char → List Char
  | .constant, space, name => within space name
  | .definition, space, name => within space name
  | .instanceMethod, space, name => space ++ '#' :: name
  | .classMethod, [], name => scopeMark ++ name
  | .classMethod, space, name => space ++ '.' :: name

/-- The record is of the kind and scope that the form refers to. -/
def Form.Matches : Form → Symbol → Prop
  | .constant, s => s.kind = .constant
  | .definition, s => s.kind = .moduleDef ∨ s.kind = .classDef
  | .instanceMethod, s => s.kind = .method ∧ s.scope = some .onInstance
  | .classMethod, s => s.kind = .method ∧ s.scope = some .onClass

/-- The title that is looked up for a name. -/
def Form.lookupTitle : Form → List Char → List Char
  | .constant, name => name
  | .definition, name => name
  | .instanceMethod, name => instanceTitle name
  | .classMethod, name => classTitle name

/-- A record that the form refers to has this title. -/
def Recorded (symbols : List Symbol) (form : Form) (title : List Char) : Prop :=
  ∃ s ∈ symbols, form.Matches s ∧ s.title.toList = title

variable {form : Form} {cs space name : List Char} {symbols : List Symbol}

/-! ## Records -/

theorem isSome_findTitled_iff {title : List Char} {accept : Symbol → Bool} :
    (findTitled symbols title accept).isSome = true ↔
      ∃ s ∈ symbols, accept s = true ∧ s.title.toList = title := by
  unfold findTitled
  rw [List.find?_isSome]
  constructor
  · rintro ⟨s, member, found⟩
    simp only [Bool.and_eq_true, beq_iff_eq] at found
    exact ⟨s, member, found.2, by rw [found.1, String.toList_ofList]⟩
  · rintro ⟨s, member, accepted, rfl⟩
    exact ⟨s, member, by simp [accepted]⟩

/-- The title of the record that a class method written with a dot refers to. -/
theorem classTitle_dot (isSpace : IsSpace space) (bare : IsBare name) :
    classTitle (space ++ '.' :: name) = Form.titleOf .classMethod space name := by
  have unmarked : ¬ scopeMark <:+: name := by
    apply not_infix_of_no_colon
    intro colon
    exact bare ':' colon (by decide)
  have notDot : space.head? ≠ some '.' := fun head =>
    isSpace.not_mem (by decide) (by decide) (List.mem_of_head? head)
  rcases isSpace with rfl | path
  · rfl
  · obtain ⟨c, rest, start, -⟩ := head_of_isPath path
    obtain ⟨outer, last, -, segment, whole⟩ := within_of_isPath path
    have title : Form.titleOf .classMethod space name = space ++ '.' :: name := by
      rw [start]
      rfl
    rw [title, whole]
    exact classTitle_dotted segment unmarked (whole ▸ notDot)

theorem classTitle_scopeMark (isSpace : IsSpace space) (isName : isMethodName name = true) :
    classTitle (space ++ scopeMark ++ name) = Form.titleOf .classMethod space name := by
  have method := isMethodLike_of_isMethodName isName
  have notDot : space.head? ≠ some '.' := fun head =>
    isSpace.not_mem (by decide) (by decide) (List.mem_of_head? head)
  cases space with
  | nil => exact classTitle_scoped_top method
  | cons c rest => exact classTitle_scoped method (by simp) notDot

/-- Any name finds exactly the records with the title that is looked up for it. -/
theorem isSome_findAs_iff :
    (findAs symbols form cs).isSome = true ↔ Recorded symbols form (form.lookupTitle cs) := by
  cases form with
  | constant =>
      simp [findAs, findConstant, isSome_findTitled_iff, Recorded, Form.Matches, Form.lookupTitle]
  | definition =>
      have kinds : ∀ s : Symbol, s.kind.isNamespace = true ↔
          s.kind = .moduleDef ∨ s.kind = .classDef := by
        intro s
        cases s.kind <;> simp [SymbolKind.isNamespace]
      simp [findAs, findDefinition, isSome_findTitled_iff, Recorded, Form.Matches, Form.lookupTitle,
        kinds]
  | instanceMethod =>
      simp [findAs, findInstanceMethod, isSome_findTitled_iff, Recorded, Form.Matches,
        Form.lookupTitle, Symbol.isMethodIn]
  | classMethod =>
      simp [findAs, findClassMethod, isSome_findTitled_iff, Recorded, Form.Matches, Form.lookupTitle,
        Symbol.isMethodIn]

/-- A name for a reference is looked up under the title of what it says. -/
theorem Calls.lookupTitle (calls : Calls form cs space name) :
    form.lookupTitle cs = form.titleOf space name := by
  obtain ⟨isSpace, isName, called⟩ := calls
  cases form with
  | constant => simpa [Form.callings, Form.writings, Form.lookupTitle, Form.titleOf] using called
  | definition => simpa [Form.callings, Form.writings, Form.lookupTitle, Form.titleOf] using called
  | instanceMethod =>
      obtain rfl : cs = space ++ '#' :: name := by
        simpa [Form.callings, Form.writings] using called
      exact instanceTitle_hash space name
  | classMethod =>
      simp only [Form.callings, List.mem_cons, List.not_mem_nil, or_false] at called
      rcases called with rfl | rfl
      · exact classTitle_dot isSpace (isBare_of_isMethodName isName)
      · exact classTitle_scopeMark isSpace isName

/-- Looking a name up finds exactly the records with its title. -/
theorem Calls.isSome_findAs_iff (calls : Calls form cs space name) :
    (findAs symbols form cs).isSome = true ↔ Recorded symbols form (form.titleOf space name) := by
  rw [Reference.isSome_findAs_iff, calls.lookupTitle]

/-! ## Names below the enclosing namespace -/

theorem qualify_eq {parent : List Char} (head : cs.head? ≠ some '#' ∧ cs.head? ≠ some '.') :
    qualify parent cs = parent ++ scopeMark ++ cs := by
  simp [qualify, head.1, head.2]

/-- A path stays in front of what is written behind it. -/
theorem qualify_path {parent : List Char} (path : isPath space = true) (nonempty : parent ≠ [])
    (rest : List Char) : qualify parent (space ++ rest) = within parent space ++ rest := by
  obtain ⟨c, cs, rfl, upper⟩ := head_of_isPath path
  have notSeparator := not_mem_separators_of_isUpper upper
  have head : (c :: cs ++ rest).head? ≠ some '#' ∧ (c :: cs ++ rest).head? ≠ some '.' := by
    constructor
    · rintro ⟨rfl⟩
      exact notSeparator (by decide)
    · rintro ⟨rfl⟩
      exact notSeparator (by decide)
  rw [qualify_eq head, within_eq nonempty (by simp), List.append_assoc, List.append_assoc,
    List.append_assoc]

/-- A member written with a separator of its own. -/
theorem qualify_member {parent : List Char} (isSpace : IsSpace space) (nonempty : parent ≠ [])
    {c : Char} (separator : c = '#' ∨ c = '.') :
    qualify parent (space ++ c :: name) = within parent space ++ c :: name := by
  rcases isSpace with rfl | path
  · rcases separator with rfl | rfl <;> simp [qualify]
  · exact qualify_path path nonempty (c :: name)

/-- A name that is written with `::` only. -/
theorem qualify_within {parent : List Char} (isSpace : IsSpace space) (bare : IsBare name)
    (named : name ≠ []) (nonempty : parent ≠ []) :
    qualify parent (within space name) = within (within parent space) name := by
  have absent : ∀ c ∈ separators, c ≠ ':' → (within space name).head? ≠ some c := by
    intro c separator notColon head
    rcases mem_within (List.mem_of_head? head) with inSpace | colon | inName
    · exact isSpace.not_mem separator notColon inSpace
    · exact notColon colon
    · exact bare c inName separator
  have below : within space name ≠ [] := fun empty => named (within_eq_nil_iff.1 empty).2
  rw [qualify_eq ⟨absent '#' (by decide) (by decide), absent '.' (by decide) (by decide)⟩,
    within_assoc, within_eq nonempty below]

/-- A reference below a namespace is called by the qualified name. -/
theorem Reads.qualify (reads : Reads form cs space name) {parent : List Char}
    (enclosing : IsSpace parent) (nonempty : parent ≠ []) :
    Calls form (qualify parent cs) (within parent space) name := by
  obtain ⟨isSpace, isName, written⟩ := reads
  have bare := Form.isBare_of_isFinalName isName
  have named := Form.ne_nil_of_isFinalName isName
  refine ⟨enclosing.within isSpace, isName, ?_⟩
  cases form with
  | constant =>
      obtain rfl : cs = within space name := by simpa [Form.writings] using written
      simp [Form.callings, Form.writings, qualify_within isSpace bare named nonempty]
  | definition =>
      obtain rfl : cs = within space name := by simpa [Form.writings] using written
      simp [Form.callings, Form.writings, qualify_within isSpace bare named nonempty]
  | instanceMethod =>
      obtain rfl : cs = space ++ '#' :: name := by simpa [Form.writings] using written
      simp [Form.callings, Form.writings, qualify_member isSpace nonempty (.inl rfl)]
  | classMethod =>
      simp only [Form.writings, List.mem_cons, List.not_mem_nil, or_false] at written
      rcases written with rfl | rfl
      · simp [Form.callings, qualify_member isSpace nonempty (.inr rfl)]
      · have below : within parent space ≠ [] := fun empty => nonempty (within_eq_nil_iff.1 empty).1
        rw [qualify_within isSpace bare named nonempty, within_eq below named]
        simp [Form.callings]

/-! ## The lookup -/

/-- A record has the title that is looked up for a body below `parent`, and it is looked up there. -/
def RecordedBelow (symbols : List Symbol) (form : Form) (parent body : List Char) : Prop :=
  ¬ scopeMark <+: body ∧ parent ≠ [] ∧
    Recorded symbols form (form.lookupTitle (qualify parent (lookupName (labelOf form body))))

theorem looksBelow_iff {parent body : List Char} :
    (scopeMark.isPrefixOf body || parent.isEmpty) = false ↔ ¬ scopeMark <+: body ∧ parent ≠ [] := by
  rw [Bool.or_eq_false_iff, ← Bool.not_eq_true, List.isPrefixOf_iff_prefix]
  simp

/-- What is recorded below the parent is found there, whatever the parent is. -/
theorem locateName_of_recordedBelow {parent body : List Char}
    (below : RecordedBelow symbols form parent body) : locateName symbols form parent body =
      (qualify parent (lookupName (labelOf form body)), true, true) := by
  obtain ⟨unmarked, inside, recorded⟩ := below
  have looksBelow := looksBelow_iff.2 ⟨unmarked, inside⟩
  have hit := isSome_findAs_iff.2 recorded
  simp [locateName, looksBelow, hit]

/-- What is not recorded there is looked up at top level. -/
theorem locateName_of_not_recordedBelow {parent body : List Char}
    (notBelow : ¬ RecordedBelow symbols form parent body) : locateName symbols form parent body =
      (lookupName (labelOf form body), false,
        (findAs symbols form (lookupName (labelOf form body))).isSome) := by
  cases looksBelow : scopeMark.isPrefixOf body || parent.isEmpty with
  | true => simp only [locateName, looksBelow, if_true]
  | false =>
      obtain ⟨unmarked, inside⟩ := looksBelow_iff.1 looksBelow
      have miss : ¬ (findAs symbols form
          (qualify parent (lookupName (labelOf form body)))).isSome = true := by
        intro hit
        exact notBelow ⟨unmarked, inside, isSome_findAs_iff.1 hit⟩
      simp only [locateName, looksBelow, miss]
      rfl

/-- Where a structured reference is found. -/
theorem locateName_spec {parent body : List Char} (symbols : List Symbol)
    (enclosing : IsSpace parent) (reads : Reads form (dropScopeMark body) space name)
    (calls : Calls form (lookupName (labelOf form body)) space name) :
    ∃ full relative found, locateName symbols form parent body = (full, relative, found) ∧
      Calls form full (if relative then within parent space else space) name ∧
      (relative = true ↔ ¬ scopeMark <+: body ∧ parent ≠ [] ∧
        Recorded symbols form (form.titleOf (within parent space) name)) ∧
      (found = true ↔ relative = true ∨ Recorded symbols form (form.titleOf space name)) := by
  have below : ¬ scopeMark <+: body → parent ≠ [] →
      Calls form (qualify parent (lookupName (labelOf form body))) (within parent space) name := by
    intro unmarked inside
    rw [lookupName_labelOf form unmarked]
    exact reads.qualify enclosing inside
  by_cases hit : RecordedBelow symbols form parent body
  · have located := locateName_of_recordedBelow hit
    obtain ⟨unmarked, inside, recorded⟩ := hit
    have called := below unmarked inside
    rw [called.lookupTitle] at recorded
    exact ⟨_, _, _, located, by simpa using called, by simp [unmarked, inside, recorded], by simp⟩
  · refine ⟨_, _, _, locateName_of_not_recordedBelow hit, by simpa using calls, ?_, by
      simp [calls.isSome_findAs_iff]⟩
    constructor
    · intro impossible
      cases impossible
    · rintro ⟨unmarked, inside, recorded⟩
      rw [← (below unmarked inside).lookupTitle] at recorded
      exact absurd ⟨unmarked, inside, recorded⟩ hit

theorem not_recordedBelow_nil {body : List Char} : ¬ RecordedBelow symbols form [] body := by
  intro below
  exact below.2.1 rfl

/-- A reference is relative when it is recorded below its parent. -/
theorem relative_resolveBody_iff {parent body : List Char} :
    (resolveBody symbols form parent body).relative = true ↔
      RecordedBelow symbols form parent body := by
  by_cases hit : RecordedBelow symbols form parent body
  · exact iff_of_true (by simp only [resolveBody, locateName_of_recordedBelow hit]) hit
  · exact iff_of_false (by simp [resolveBody, locateName_of_not_recordedBelow hit]) hit

theorem resolve_structured {text : String} (structured : classify text = some form)
    (symbols : List Symbol) (parent : String) (shown : Option String) :
    (resolve symbols text parent shown).resolution =
      some (resolveBody symbols form parent.toList (bodyOf text)) := by
  simp [resolve, structured]

/-- **Resolution is sound and complete, and prefers the enclosing namespace.** A structured text is
read in one way, as a name in a space. It is found below `parent` exactly when it has no `::` in
front, there is a parent, and the title below the parent is recorded; it is found at all exactly
when it is found there or its title at top level is recorded. The space and the name of what was
found make up the title of a record. -/
theorem resolve_iff_recorded (symbols : List Symbol) (text parent : String) (shown : Option String)
    (form : Form) (enclosing : IsSpace parent.toList) (structured : classify text = some form) :
    ∃ space name, Reads form (dropScopeMark (bodyOf text)) space name ∧
      (∀ space' name', Reads form (dropScopeMark (bodyOf text)) space' name' →
        space' = space ∧ name' = name) ∧
      let tag := resolve symbols text parent shown
      (tag.relative = true ↔ ¬ scopeMark <+: bodyOf text ∧ parent ≠ "" ∧
        Recorded symbols form (form.titleOf (within parent.toList space) name)) ∧
      (tag.found = true ↔
        tag.relative = true ∨ Recorded symbols form (form.titleOf space name)) ∧
      (tag.found = true → ∃ r, tag.resolution = some r ∧
        form.titleOf r.space.toList r.name.toList =
          form.titleOf (if tag.relative then within parent.toList space else space) name ∧
        Recorded symbols form (form.titleOf r.space.toList r.name.toList)) := by
  obtain ⟨space, name, reads, calls⟩ := exists_reads structured
  obtain ⟨full, relative, found, located, fullCalls, relative_iff, found_iff⟩ :=
    locateName_spec symbols enclosing reads calls
  have resolution := resolve_structured structured symbols parent shown
  have outcome : resolveBody symbols form parent.toList (bodyOf text) =
      { form
        label := String.ofList (labelOf form (bodyOf text))
        space := String.ofList (if relative then within parent.toList space else space)
        name := String.ofList name
        relative
        found
        page := if found then pageFor form full (if relative then within parent.toList space else space)
          else none
        category := categoryOf symbols form full found } := by
    simp only [resolveBody, located, fullCalls.cutFull]
  have isRelative : (resolve symbols text parent shown).relative = relative := by
    simp [Tag.relative, resolution, outcome]
  have isFound : (resolve symbols text parent shown).found = found := by
    simp [Tag.found, resolution, outcome]
  have parentEmpty : parent.toList = [] ↔ parent = "" := String.toList_eq_nil_iff
  refine ⟨space, name, reads, ?_, ?_, ?_, ?_⟩
  · intro space' name' reads'
    have same := reads'.cutFull.symm.trans reads.cutFull
    exact Prod.mk.inj same
  · rw [isRelative, relative_iff, ne_eq, parentEmpty]
  · rw [isFound, isRelative, found_iff]
  · intro hit
    refine ⟨_, resolution, ?_, ?_⟩
    · simp [outcome, isRelative]
    · rw [isFound] at hit
      simp only [outcome, String.toList_ofList]
      cases relative with
      | true => exact (relative_iff.1 rfl).2.2
      | false =>
          rcases found_iff.1 hit with impossible | recorded
          · cases impossible
          · exact recorded

/-- An older spelling inside a namespace that has a class method of its own. -/
theorem resolve_older_spelling_relative :
    classify " Bar::baz. " = some .classMethod ∧
      ((resolve [.method "Bar.baz" .onClass, .method "Foo::Bar.baz" .onClass] " Bar::baz. " "Foo"
        none).relative = true) := by
  have structured : classify " Bar::baz. " = some .classMethod := by decide
  obtain ⟨space, name, reads, -, relative_iff, -⟩ :=
    resolve_iff_recorded [.method "Bar.baz" .onClass, .method "Foo::Bar.baz" .onClass] " Bar::baz. "
      "Foo" none .classMethod (.inr (by decide)) structured
  refine ⟨structured, relative_iff.2 ⟨by decide, by decide, ?_⟩⟩
  have parts : (space, name) = ("Bar".toList, "baz".toList) := by
    rw [← reads.cutFull]
    decide
  obtain ⟨rfl, rfl⟩ := Prod.mk.inj parts
  exact ⟨.method "Foo::Bar.baz" .onClass, by simp, ⟨rfl, rfl⟩, by decide⟩

end Crosslink.Reference
