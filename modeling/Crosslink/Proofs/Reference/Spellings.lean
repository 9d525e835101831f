/-
# Crosslink.Proofs.Reference.Spellings — two spellings of a class method

`Foo::bar` is the older spelling of the class method `Foo.bar`. The two are
cleaned, looked up and cut in different ways: the older one keeps its leading
`::` in the label and loses it in the lookup, and its full name is cut at a `::`
because no dot stands in it. They meet again as long as the enclosing namespace
has no dot either; nothing else is asked of it.

Below any such namespace both full names find the same record
(`findClassMethod_below`), so both are located in the same space
(`locateName_spellings`) and resolve alike up to the label
(`resolveBody_spellings`).

Main theorem: `resolve_spellings_alike`.
-/
import Crosslink.Proofs.Reference.Classification
import Crosslink.Proofs.Reference.Resolution

namespace Crosslink.Reference

open Crosslink.Text
open Crosslink.Symbols

set_option autoImplicit false

variable {lead space name parent : List Char}

/-! ## Both spellings are class methods -/

theorem isOwner_lead (leads : lead = [] ∨ lead = scopeMark) (path : isPath space = true) :
    isOwner (lead ++ space) = true := by
  rcases leads with rfl | rfl
  · exact isOwner_of_isSpace (.inr path)
  · rw [isOwner, dropScopeMark_append, path, Bool.or_true]

theorem language_older (leads : lead = [] ∨ lead = scopeMark) (path : isPath space = true)
    (method : isMethodName name = true) :
    Form.language .classMethod (lead ++ space ++ scopeMark ++ name) = true := by
  show (isDottedMethod _ || isScopedMethod _) = true
  rw [isScopedMethod_append (isOwner_lead leads path) method, Bool.or_true]

theorem language_dotted (leads : lead = [] ∨ lead = scopeMark) (path : isPath space = true)
    (method : isMethodName name = true) :
    Form.language .classMethod (lead ++ space ++ '.' :: name) = true := by
  show (isDottedMethod _ || isScopedMethod _) = true
  rw [isDottedMethod_append (isOwner_lead leads path) method, Bool.true_or]

/-- A class method in the older spelling has no dot. -/
theorem not_isScopedMethod_of_mem {body : List Char} (dot : '.' ∈ body) :
    isScopedMethod body = false := by
  cases older : isScopedMethod body with
  | false => rfl
  | true =>
      obtain ⟨owner, method, rfl, isOwner, isMethod⟩ :=
        mem_mul_exactly_mul.1 (mem_scopedMethods.2 older)
      have outside : '.' ∉ owner :=
        not_mem_of_isOwner (mem_owners.1 isOwner) (by decide) (by decide)
      have inside : '.' ∉ method := fun member =>
        isBare_of_isMethodName (mem_methodNames.1 isMethod) '.' member (by decide)
      simp [outside, inside, scopeMark] at dot

/-! ## Labels and names that are looked up -/

theorem labelOf_older (leads : lead = [] ∨ lead = scopeMark) (path : isPath space = true)
    (method : isMethodName name = true) :
    labelOf .classMethod (lead ++ space ++ scopeMark ++ name) = lead ++ space ++ scopeMark ++ name :=
  labelOf_of_isScopedMethod (isScopedMethod_append (isOwner_lead leads path) method)

theorem labelOf_dotted (leads : lead = [] ∨ lead = scopeMark) (path : isPath space = true) :
    labelOf .classMethod (lead ++ space ++ '.' :: name) = space ++ '.' :: name := by
  have notOlder : isScopedMethod (lead ++ space ++ '.' :: name) = false :=
    not_isScopedMethod_of_mem (by simp)
  have owned : lead ++ space = space ∨ lead ++ space = scopeMark ++ space := by
    rcases leads with rfl | rfl
    · exact .inl rfl
    · exact .inr rfl
  rw [labelOf_of_not_isScopedMethod .classMethod notOlder]
  exact (dropScopeMark_member (.inr path) owned (by decide) name).1

/-- A path is not marked, whatever follows it. -/
theorem not_scopeMark_isPrefix_path (path : isPath space = true) (rest : List Char) :
    ¬ scopeMark <+: space ++ rest := by
  obtain ⟨c, cs, rfl, upper⟩ := head_of_isPath path
  apply not_scopeMark_isPrefix
  intro colon
  obtain rfl : c = ':' := by simpa using colon
  exact absurd upper (by decide)

theorem lookupName_older (leads : lead = [] ∨ lead = scopeMark) (path : isPath space = true) :
    lookupName (lead ++ space ++ scopeMark ++ name) = space ++ scopeMark ++ name := by
  rcases leads with rfl | rfl
  · rw [List.nil_append, List.append_assoc]
    exact lookupName_eq_self (not_scopeMark_isPrefix_path path _)
  · have again : (cutFirst scopeMark (space ++ scopeMark ++ name)).isSome = true :=
      isSome_cutFirst_append (by decide) space name
    have marked : scopeMark ++ space ++ scopeMark ++ name =
        scopeMark ++ (space ++ scopeMark ++ name) := by simp
    rw [marked, lookupName_mark, again, if_pos rfl]

theorem isPrefixOf_lead (leads : lead = [] ∨ lead = scopeMark) (path : isPath space = true)
    (rest : List Char) : scopeMark.isPrefixOf (lead ++ space ++ rest) = !lead.isEmpty := by
  rcases leads with rfl | rfl
  · have unmarked := not_scopeMark_isPrefix_path path rest
    simpa [← Bool.not_eq_true, List.isPrefixOf_iff_prefix] using unmarked
  · simp [scopeMark, List.isPrefixOf]

/-! ## Full names -/

theorem not_mem_dot_within (outside : '.' ∉ parent) (path : isPath space = true) :
    '.' ∉ within parent space := by
  intro member
  rcases mem_within member with inParent | colon | inSpace
  · exact outside inParent
  · cases colon
  · exact IsSpace.not_mem (.inr path) (by decide) (by decide) inSpace

/-- Below a namespace without a dot, both spellings find the same record. -/
theorem findClassMethod_below (symbols : List Symbol) (outside : '.' ∉ parent)
    (path : isPath space = true) (method : isMethodName name = true) :
    findClassMethod symbols (within parent space ++ scopeMark ++ name) =
      findClassMethod symbols (within parent space ++ '.' :: name) := by
  have notDot : (within parent space).head? ≠ some '.' := fun head =>
    not_mem_dot_within outside path (List.mem_of_head? head)
  obtain ⟨outer, last, -, segment, whole⟩ := within_of_isPath path
  rw [whole, ← within_assoc] at notDot ⊢
  exact (findClassMethod_spellings symbols (isMethodLike_of_isMethodName method) segment notDot).2

/-- Both spellings are located in the same space. -/
theorem locateName_spellings (symbols : List Symbol) (outside : '.' ∉ parent)
    (leads : lead = [] ∨ lead = scopeMark) (path : isPath space = true)
    (method : isMethodName name = true) :
    ∃ full relative found, '.' ∉ full ∧
      locateName symbols .classMethod parent (lead ++ space ++ scopeMark ++ name) =
        (full ++ scopeMark ++ name, relative, found) ∧
      locateName symbols .classMethod parent (lead ++ space ++ '.' :: name) =
        (full ++ '.' :: name, relative, found) := by
  have atTop : findAs symbols .classMethod (space ++ scopeMark ++ name) =
      findAs symbols .classMethod (space ++ '.' :: name) := by
    have top := @findClassMethod_below space name [] symbols (by simp) path method
    rwa [within_nil_left] at top
  have noDot : '.' ∉ space := IsSpace.not_mem (.inr path) (by decide) (by decide)
  have older : lookupName (labelOf .classMethod (lead ++ space ++ scopeMark ++ name)) =
      space ++ scopeMark ++ name := by
    rw [labelOf_older leads path method, lookupName_older leads path]
  have dotted : lookupName (labelOf .classMethod (lead ++ space ++ '.' :: name)) =
      space ++ '.' :: name := by
    rw [labelOf_dotted leads path, lookupName_eq_self (not_scopeMark_isPrefix_path path _)]
  have marked : scopeMark.isPrefixOf (lead ++ space ++ scopeMark ++ name) = !lead.isEmpty := by
    rw [List.append_assoc]
    exact isPrefixOf_lead leads path _
  unfold locateName
  simp only [older, dotted, marked, isPrefixOf_lead leads path, atTop]
  by_cases top : (!lead.isEmpty || parent.isEmpty) = true
  · simp only [top, if_true]
    exact ⟨space, _, _, noDot, rfl, rfl⟩
  · have nonempty : parent ≠ [] := by
      rintro rfl
      simp at top
    have below : findAs symbols .classMethod (within parent space ++ scopeMark ++ name) =
        findAs symbols .classMethod (within parent space ++ '.' :: name) :=
      findClassMethod_below symbols outside path method
    simp only [top]
    rw [List.append_assoc space, qualify_path path nonempty, qualify_path path nonempty,
      ← List.append_assoc, ← List.append_assoc, below]
    cases (findAs symbols .classMethod (within parent space ++ '.' :: name)).isSome with
    | true => exact ⟨within parent space, true, true, not_mem_dot_within outside path, rfl, rfl⟩
    | false => exact ⟨space, false, _, noDot, rfl, rfl⟩

/-- Both spellings resolve alike, up to the label. -/
theorem resolveBody_spellings (symbols : List Symbol) (outside : '.' ∉ parent)
    (leads : lead = [] ∨ lead = scopeMark) (path : isPath space = true)
    (method : isMethodName name = true) :
    resolveBody symbols .classMethod parent (lead ++ space ++ '.' :: name) =
      { resolveBody symbols .classMethod parent (lead ++ space ++ scopeMark ++ name) with
        label := String.ofList (space ++ '.' :: name) } := by
  have bare := isBare_of_isMethodName method
  obtain ⟨full, relative, found, noDot, older, dotted⟩ :=
    locateName_spellings symbols outside leads path method
  simp only [resolveBody, older, dotted, cutFull_scoped bare noDot, cutFull_dotted bare,
    labelOf_dotted leads path]
  rfl

/-- **Both spellings of a class method resolve alike.** With or without a `::` in front, a full stop
at the end and blanks around it, `Foo::bar` resolves like `Foo.bar` from inside any namespace
without a dot. Only the text itself and the label differ. -/
theorem resolve_spellings_alike (symbols : List Symbol) (parent : String) (shown : Option String)
    (before lead space name stop after : List Char) (outside : '.' ∉ parent.toList)
    (path : isPath space = true) (method : isMethodName name = true)
    (leads : lead = [] ∨ lead = scopeMark) (stopped : stop = [] ∨ stop = ['.'])
    (blankBefore : ∀ c ∈ before, isBlank c = true) (blankAfter : ∀ c ∈ after, isBlank c = true) :
    let written := fun body => String.ofList (before ++ (body ++ stop) ++ after)
    let older := resolve symbols (written (lead ++ space ++ scopeMark ++ name)) parent shown
    let dotted := resolve symbols (written (lead ++ space ++ '.' :: name)) parent shown
    ∃ r, older.resolution = some r ∧ r.form = .classMethod ∧
      r.label = String.ofList (lead ++ space ++ scopeMark ++ name) ∧
      dotted =
        { older with
          nativeText := written (lead ++ space ++ '.' :: name)
          resolution := some { r with label := String.ofList (space ++ '.' :: name) } } := by
  intro written older dotted
  have olderLanguage := language_older leads path method
  have dottedLanguage := language_dotted leads path method
  have olderBody := bodyOf_written olderLanguage blankBefore blankAfter stopped
  have dottedBody := bodyOf_written dottedLanguage blankBefore blankAfter stopped
  have olderForm := formOf_eq_some olderLanguage (by simp)
  have dottedForm := formOf_eq_some dottedLanguage (by simp)
  refine ⟨resolveBody symbols .classMethod parent.toList (lead ++ space ++ scopeMark ++ name), ?_, rfl,
    ?_, ?_⟩
  · simp only [older, written, resolve, classify, olderBody, olderForm, Option.map_some]
  · exact congrArg String.ofList (labelOf_older leads path method)
  · simp only [dotted, older, written, resolve, classify, dottedBody, dottedForm, Option.map_some,
      resolveBody_spellings symbols outside leads path method]

/-- A namespace need not be a path: the record is found below one with a blank and a colon at its
end, in both spellings. -/
theorem resolve_spellings_alike_odd_namespace :
    ('.' ∉ "x y:".toList ∧ isPath "Foo".toList = true ∧ isMethodName "bar".toList = true) ∧
      ∃ r, (resolve [.method "x y:::Foo.bar" .onClass] " Foo::bar. " "x y:" none).resolution = some r ∧
        (resolve [.method "x y:::Foo.bar" .onClass] " Foo.bar. " "x y:" none).resolution =
          some { r with label := "Foo.bar" } ∧
        r.relative = true := by
  refine ⟨⟨by decide, by decide, by decide⟩, ?_⟩
  obtain ⟨r, older, -, -, dotted⟩ :=
    resolve_spellings_alike [.method "x y:::Foo.bar" .onClass] "x y:" none [' '] [] "Foo".toList
      "bar".toList ['.'] [' '] (by decide) (by decide) (by decide) (.inl rfl) (.inr rfl)
      (List.forall_mem_singleton.2 rfl) (List.forall_mem_singleton.2 rfl)
  have found : ((resolve [.method "x y:::Foo.bar" .onClass] " Foo::bar. " "x y:" none).resolution.map
      fun r => r.relative) = some true := by decide
  refine ⟨r, older, congrArg Tag.resolution dotted, ?_⟩
  have inside := found.symm.trans (congrArg (Option.map fun r => r.relative) older)
  exact (Option.some.inj inside).symm

end Crosslink.Reference
