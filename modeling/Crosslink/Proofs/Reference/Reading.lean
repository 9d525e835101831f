/-
# Crosslink.Proofs.Reference.Reading — what a reference text says

`Reads form cs space name`: the text `cs`, without its leading `::`, says `name`
in the namespace `space`. `Calls` is the same for the names that are looked up,
which differ for one kind of text only: a class method at top level in the older
spelling is looked up with its `::`.

A structured text can be read and is looked up under a name for what it says
(`exists_reads`). The parts around the last separator are the space and the
name, so there is only one reading (`Reads.cutFull`, `Calls.cutFull`).
-/
import Crosslink.Proofs.Reference.Names
import Crosslink.Reference.Resolution

namespace Crosslink.Reference

open Crosslink.Text

set_option autoImplicit false

/-! ## What a reference says -/

/-- The names that a reference of this form may end in. -/
def Form.isFinalName : Form → List Char → Bool
  | .constant => isConstantName
  | .definition => isSegment
  | .instanceMethod => isMethodName
  | .classMethod => isMethodName

/-- The ways to write `name` in `space`, without a leading `::`. -/
def Form.writings : Form → List Char → List Char → List (List Char)
  | .constant, space, name => [within space name]
  | .definition, space, name => [within space name]
  | .instanceMethod, space, name => [space ++ '#' :: name]
  | .classMethod, space, name => [space ++ '.' :: name, within space name]

/-- `cs` is read as `name` in `space`. -/
structure Reads (form : Form) (cs space name : List Char) : Prop where
  isSpace : IsSpace space
  isName : form.isFinalName name = true
  written : cs ∈ form.writings space name

theorem Form.isBare_of_isFinalName {form : Form} {name : List Char}
    (isName : form.isFinalName name = true) : IsBare name := by
  cases form with
  | constant => exact isBare_of_isSegment (isSegment_of_isConstantName isName)
  | definition => exact isBare_of_isSegment isName
  | instanceMethod => exact isBare_of_isMethodName isName
  | classMethod => exact isBare_of_isMethodName isName

theorem Form.ne_nil_of_isFinalName {form : Form} {name : List Char}
    (isName : form.isFinalName name = true) : name ≠ [] := by
  rintro rfl
  cases form <;> cases isName

/-- The three ways to put a space and a name together. -/
theorem Reads.shape {form : Form} {cs space name : List Char} (reads : Reads form cs space name) :
    cs = within space name ∧ form ≠ .instanceMethod ∨
      cs = space ++ '#' :: name ∧ form = .instanceMethod ∨
      cs = space ++ '.' :: name ∧ form = .classMethod := by
  have written := reads.written
  cases form with
  | constant => exact .inl ⟨by simpa [Form.writings] using written, by simp⟩
  | definition => exact .inl ⟨by simpa [Form.writings] using written, by simp⟩
  | instanceMethod => exact .inr (.inl ⟨by simpa [Form.writings] using written, rfl⟩)
  | classMethod =>
      simp only [Form.writings, List.mem_cons, List.not_mem_nil, or_false] at written
      rcases written with dotted | older
      · exact .inr (.inr ⟨dotted, rfl⟩)
      · exact .inl ⟨older, by simp⟩

/-! ## Names that are looked up -/

/-- The names under which `name` in `space` is looked up. A class method at top level keeps the
mark in front that a written reference may have lost. -/
def Form.callings : Form → List Char → List Char → List (List Char)
  | .classMethod, space, name => [space ++ '.' :: name, space ++ scopeMark ++ name]
  | form, space, name => form.writings space name

structure Calls (form : Form) (cs space name : List Char) : Prop where
  isSpace : IsSpace space
  isName : form.isFinalName name = true
  called : cs ∈ form.callings space name

variable {form : Form} {cs space name : List Char}

/-- A name cut at its last `::` when it is in a space, and not cut otherwise. -/
theorem cutLast_within (bare : IsBare name) (nonempty : name ≠ []) (space : List Char) :
    (cutLast scopeMark (within space name)).getD ([], within space name) = (space, name) := by
  have noColon : ':' ∉ name := fun colon => bare ':' colon (by decide)
  by_cases top : space = []
  · subst top
    have none_ : cutLast scopeMark name = none := cutLast_eq_none noColon
    simp [none_]
  · rw [within_eq top nonempty, cutLast_scopeMark noColon]
    rfl

theorem cutFull_dotted (bare : IsBare name) (space : List Char) :
    cutFull .classMethod (space ++ '.' :: name) = (space, name) := by
  have noDot : '.' ∉ name := fun member => bare '.' member (by decide)
  simp [cutFull, cutLast_char noDot]

/-- A class method in the older spelling is cut at its last `::` where no dot stands before it. -/
theorem cutFull_scoped (bare : IsBare name) (outside : '.' ∉ space) :
    cutFull .classMethod (space ++ scopeMark ++ name) = (space, name) := by
  have noColon : ':' ∉ name := fun member => bare ':' member (by decide)
  have noDot : '.' ∉ name := fun member => bare '.' member (by decide)
  have noDots : '.' ∉ space ++ scopeMark ++ name := by
    simp [noDot, outside, scopeMark]
  have none_ : cutLast ['.'] (space ++ scopeMark ++ name) = none := cutLast_eq_none noDots
  simp only [cutFull, none_, cutLast_scopeMark noColon, Option.none_or, Option.getD_some]

/-- The parts around the last separator are the space and the name. -/
theorem Calls.cutFull (calls : Calls form cs space name) : cutFull form cs = (space, name) := by
  obtain ⟨isSpace, isName, called⟩ := calls
  have bare := Form.isBare_of_isFinalName isName
  have nonempty := Form.ne_nil_of_isFinalName isName
  have noHash : '#' ∉ name := fun member => bare '#' member (by decide)
  cases form with
  | constant =>
      obtain rfl : cs = within space name := by simpa [Form.callings, Form.writings] using called
      exact cutLast_within bare nonempty space
  | definition =>
      obtain rfl : cs = within space name := by simpa [Form.callings, Form.writings] using called
      exact cutLast_within bare nonempty space
  | instanceMethod =>
      obtain rfl : cs = space ++ '#' :: name := by
        simpa [Form.callings, Form.writings] using called
      simp [Reference.cutFull, cutLast_char noHash]
  | classMethod =>
      simp only [Form.callings, List.mem_cons, List.not_mem_nil, or_false] at called
      rcases called with rfl | rfl
      · exact cutFull_dotted bare space
      · exact cutFull_scoped bare (isSpace.not_mem (by decide) (by decide))

/-- A reference is read in one way. -/
theorem Reads.cutFull (reads : Reads form cs space name) : cutFull form cs = (space, name) := by
  obtain ⟨isSpace, isName, written⟩ := reads
  cases form with
  | constant => exact Calls.cutFull ⟨isSpace, isName, written⟩
  | definition => exact Calls.cutFull ⟨isSpace, isName, written⟩
  | instanceMethod => exact Calls.cutFull ⟨isSpace, isName, written⟩
  | classMethod =>
      have bare := Form.isBare_of_isFinalName isName
      have nonempty := Form.ne_nil_of_isFinalName isName
      have noDot : '.' ∉ name := fun member => bare '.' member (by decide)
      simp only [Form.writings, List.mem_cons, List.not_mem_nil, or_false] at written
      rcases written with rfl | rfl
      · exact Calls.cutFull ⟨isSpace, isName, by simp [Form.callings]⟩
      · by_cases top : space = []
        · subst top
          have noMark : cutLast scopeMark name = none :=
            cutLast_eq_none fun member => bare ':' member (by decide)
          simp [Reference.cutFull, cutLast_eq_none (c := '.') noDot, noMark]
        · rw [within_eq top nonempty]
          exact Calls.cutFull ⟨isSpace, isName, by simp [Form.callings]⟩

/-! ## Readings of a structured text -/

theorem lookupName_eq_self (absent : ¬ scopeMark <+: cs) : lookupName cs = cs := by
  simp [lookupName, isPrefixOf?_scopeMark absent]

theorem lookupName_mark (cs : List Char) : lookupName (scopeMark ++ cs) =
    if (cutFirst scopeMark cs).isSome then cs else scopeMark ++ cs := by
  simp [lookupName, scopeMark, List.isPrefixOf?]

/-- A class method in the older spelling is its own label. -/
theorem labelOf_of_isScopedMethod {body : List Char} (older : isScopedMethod body = true) :
    labelOf .classMethod body = body := by
  simp [labelOf, older]

theorem labelOf_of_not_isScopedMethod (form : Form) {body : List Char}
    (notOlder : isScopedMethod body = false) : labelOf form body = dropScopeMark body := by
  simp [labelOf, notOlder]

theorem labelOf_eq_self (form : Form) {body : List Char} (absent : ¬ scopeMark <+: body) :
    labelOf form body = body := by
  unfold labelOf
  split
  · rfl
  · exact dropScopeMark_eq_self absent

/-- The texts of a form, without a final full stop. -/
def Form.language : Form → List Char → Bool
  | .instanceMethod => isInstanceMethod
  | .constant => isConstant
  | .definition => isDefinition
  | .classMethod => isClassMethod

theorem language_of_formOf {body : List Char} (structured : formOf body = some form) :
    form.language body = true := by
  unfold formOf at structured
  split at structured
  · cases structured; assumption
  · split at structured
    · cases structured; assumption
    · split at structured
      · cases structured; assumption
      · split at structured
        · cases structured; assumption
        · cases structured

/-- A member whose separator is not a colon, behind its owner. -/
theorem dropScopeMark_member {owner : List Char} (isSpace : IsSpace space)
    (owned : owner = space ∨ owner = scopeMark ++ space) {c : Char} (notColon : c ≠ ':')
    (name : List Char) :
    dropScopeMark (owner ++ c :: name) = space ++ c :: name ∧
      ¬ scopeMark <+: space ++ c :: name := by
  have head : (space ++ c :: name).head? ≠ some ':' := by
    cases space with
    | nil => simpa using notColon
    | cons d rest => simpa using isSpace.head
  have unmarked := not_scopeMark_isPrefix head
  refine ⟨?_, unmarked⟩
  rcases owned with rfl | rfl
  · exact dropScopeMark_eq_self unmarked
  · rw [List.append_assoc, dropScopeMark_append]

/-- A path, or a path with a constant at its end, is looked up as it is. -/
theorem calls_of_path {body : List Char} (notClass : form ≠ .classMethod)
    (reads : Reads form (dropScopeMark body) space name)
    (unmarked : ¬ scopeMark <+: dropScopeMark body) :
    Calls form (lookupName (labelOf form body)) space name := by
  have label : labelOf form body = dropScopeMark body := by simp [labelOf, notClass]
  rw [label, lookupName_eq_self unmarked]
  refine ⟨reads.isSpace, reads.isName, ?_⟩
  cases form with
  | classMethod => exact absurd rfl notClass
  | _ => exact reads.written

theorem reads_instanceMethod {body : List Char} (method : isInstanceMethod body = true) :
    ∃ space name, Reads .instanceMethod (dropScopeMark body) space name ∧
      ¬ scopeMark <+: dropScopeMark body := by
  unfold isInstanceMethod at method
  split at method
  · rename_i owner name cut
    simp only [Bool.and_eq_true] at method
    obtain ⟨space, isSpace, owned⟩ := eq_of_isOwner method.1
    have whole : body = owner ++ '#' :: name := by simpa using eq_of_cutFirst cut
    obtain ⟨core, unmarked⟩ := dropScopeMark_member isSpace (owned.imp_right And.right)
      (c := '#') (by decide) name
    rw [← whole] at core
    refine ⟨space, name, ⟨isSpace, method.2, by simp [Form.writings, core]⟩, ?_⟩
    rw [core]
    exact unmarked
  · cases method

theorem reads_constant {body : List Char} (constant : isConstant body = true) :
    ∃ space name, Reads .constant (dropScopeMark body) space name ∧
      ¬ scopeMark <+: dropScopeMark body := by
  simp only [isConstant, Bool.and_eq_true] at constant
  obtain ⟨space, name, isSpace, isName, whole⟩ := within_of_segments rfl constant.1 constant.2
  refine ⟨space, name, ⟨isSpace, isName, by simp [Form.writings, whole]⟩, ?_⟩
  have path := isPath_of_isSegment (isSegment_of_isConstantName isName)
  rw [whole]
  exact not_scopeMark_isPrefix (isSpace.within (.inr path)).head

theorem reads_definition {body : List Char} (definition : isDefinition body = true) :
    ∃ space name, Reads .definition (dropScopeMark body) space name ∧
      ¬ scopeMark <+: dropScopeMark body := by
  obtain ⟨space, name, isSpace, isName, whole⟩ := within_of_isPath definition
  exact ⟨space, name, ⟨isSpace, isName, by simp [Form.writings, whole]⟩,
    not_scopeMark_isPrefix (IsSpace.head (.inr definition))⟩

/-- A class method in the older spelling keeps its mark when nothing else is in front of it. -/
theorem reads_scopedMethod {body : List Char} (method : isScopedMethod body = true) :
    ∃ space name, Reads .classMethod (dropScopeMark body) space name ∧
      Calls .classMethod (lookupName (labelOf .classMethod body)) space name := by
  rw [labelOf_of_isScopedMethod method]
  unfold isScopedMethod at method
  split at method
  · rename_i owner name cut
    simp only [Bool.and_eq_true] at method
    obtain ⟨space, isSpace, owned⟩ := eq_of_isOwner method.1
    have whole := eq_of_cutLast cut
    have noColon : ':' ∉ name := fun member =>
      isBare_of_isMethodName method.2 ':' member (by decide)
    have named : name ≠ [] := @Form.ne_nil_of_isFinalName .classMethod name method.2
    rcases owned with rfl | ⟨inside, rfl⟩
    · by_cases top : owner = []
      · subst top
        have core : dropScopeMark body = name := by simp [whole, dropScopeMark_append]
        have noMark : cutFirst scopeMark name = none := cutFirst_eq_none noColon
        have looked : lookupName body = scopeMark ++ name := by
          rw [whole, List.nil_append, lookupName_mark, noMark]
          rfl
        exact ⟨[], name, ⟨isSpace, method.2, by simp [Form.writings, core]⟩, isSpace, method.2, by
          simp [Form.callings, looked]⟩
      · have unmarked : ¬ scopeMark <+: body := by
          refine not_scopeMark_isPrefix ?_
          obtain ⟨c, rest, rfl⟩ := List.exists_cons_of_ne_nil top
          simpa [whole] using isSpace.head
        refine ⟨owner, name, ⟨isSpace, method.2, ?_⟩, isSpace, method.2, ?_⟩
        · rw [dropScopeMark_eq_self unmarked, whole, ← within_eq top named]
          simp [Form.writings]
        · rw [lookupName_eq_self unmarked, whole]
          simp [Form.callings]
    · have marked : body = scopeMark ++ (space ++ scopeMark ++ name) := by simp [whole]
      have again : (cutFirst scopeMark (space ++ scopeMark ++ name)).isSome = true :=
        isSome_cutFirst_append (by decide) space name
      refine ⟨space, name, ⟨isSpace, method.2, ?_⟩, isSpace, method.2, ?_⟩
      · rw [marked, dropScopeMark_append, ← within_eq inside named]
        simp [Form.writings]
      · rw [marked, lookupName_mark, again]
        simp [Form.callings]
  · cases method

theorem reads_dottedMethod {body : List Char} (method : isDottedMethod body = true)
    (notScoped : isScopedMethod body = false) :
    ∃ space name, Reads .classMethod (dropScopeMark body) space name ∧
      Calls .classMethod (lookupName (labelOf .classMethod body)) space name := by
  have label := labelOf_of_not_isScopedMethod .classMethod notScoped
  unfold isDottedMethod at method
  split at method
  · rename_i owner name cut
    simp only [Bool.and_eq_true, Bool.or_eq_true, beq_iff_eq] at method
    have owned : ∃ space, IsSpace space ∧ (owner = space ∨ owner = scopeMark ++ space) := by
      rcases method.1 with isOwner | rfl
      · obtain ⟨space, isSpace, owned⟩ := eq_of_isOwner isOwner
        exact ⟨space, isSpace, owned.imp_right And.right⟩
      · exact ⟨[], .inl rfl, .inr rfl⟩
    obtain ⟨space, isSpace, owned⟩ := owned
    have whole : body = owner ++ '.' :: name := by simpa using eq_of_cutFirst cut
    obtain ⟨core, unmarked⟩ := dropScopeMark_member isSpace owned (c := '.') (by decide) name
    rw [← whole] at core
    refine ⟨space, name, ⟨isSpace, method.2, by simp [Form.writings, core]⟩, isSpace, method.2, ?_⟩
    rw [label, core, lookupName_eq_self unmarked]
    simp [Form.callings]
  · cases method

/-- A text of a form can be read, and is looked up under a name for what it says. -/
theorem exists_reads_of_language {body : List Char} (language : form.language body = true) :
    ∃ space name, Reads form (dropScopeMark body) space name ∧
      Calls form (lookupName (labelOf form body)) space name := by
  cases form with
  | instanceMethod =>
      obtain ⟨space, name, reads, unmarked⟩ := reads_instanceMethod language
      exact ⟨space, name, reads, calls_of_path (by simp) reads unmarked⟩
  | constant =>
      obtain ⟨space, name, reads, unmarked⟩ := reads_constant language
      exact ⟨space, name, reads, calls_of_path (by simp) reads unmarked⟩
  | definition =>
      obtain ⟨space, name, reads, unmarked⟩ := reads_definition language
      exact ⟨space, name, reads, calls_of_path (by simp) reads unmarked⟩
  | classMethod =>
      cases older : isScopedMethod body with
      | true => exact reads_scopedMethod older
      | false =>
          have dotted : isDottedMethod body = true := by
            simpa [Form.language, isClassMethod, older] using language
          exact reads_dottedMethod dotted older

/-- A reference can be read, and is looked up under a name for what it says. -/
theorem exists_reads {body : List Char} (structured : formOf body = some form) :
    ∃ space name, Reads form (dropScopeMark body) space name ∧
      Calls form (lookupName (labelOf form body)) space name :=
  exists_reads_of_language (language_of_formOf structured)

/-- A reference without a mark in front is looked up as it is written. -/
theorem lookupName_labelOf (form : Form) {body : List Char} (absent : ¬ scopeMark <+: body) :
    lookupName (labelOf form body) = dropScopeMark body := by
  rw [labelOf_eq_self form absent, lookupName_eq_self absent, dropScopeMark_eq_self absent]

end Crosslink.Reference
