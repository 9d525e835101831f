/-
# Crosslink.Proofs.Reference.Labels — the label of a reference, and the mark in front

A `::` in front of a text says where it is looked up, not what it is: each
language of references holds of the text with the mark exactly when it holds
without it (`isInstanceMethod_mark` and so on), but for two texts that need one
or cannot have one. A lone method name is a class method only behind a mark, and
a text that starts with `#` cannot have one. So the form stays when a mark is
put in front (`formOf_mark`) or taken away.

The label of a reference is its text without the final full stop and, except for
class methods in the older spelling, without the mark. It has the form of the
text (`formOf_labelOf`) and is its own label (`labelOf_labelOf`).

Main theorems: `resolve_label_normal`, `resolve_marked_at_top`.
-/
import Crosslink.Proofs.Reference.Classification
import Crosslink.Proofs.Reference.Resolution

namespace Crosslink.Reference

open Crosslink.Text
open Crosslink.Symbols

set_option autoImplicit false

variable {form : Form} {cs body space name owner : List Char}

/-! ## The languages behind a mark -/

theorem not_isPrefix_of_append {front rest : List Char} (unmarked : ¬ scopeMark <+: front ++ rest) :
    ¬ scopeMark <+: front := by
  intro marked
  exact unmarked (marked.trans (List.prefix_append front rest))

theorem isOwner_mark (nonempty : owner ≠ []) (unmarked : ¬ scopeMark <+: owner) :
    isOwner (scopeMark ++ owner) = isOwner owner := by
  have inside : owner.isEmpty = false := by simpa using nonempty
  have insideMarked : (scopeMark ++ owner).isEmpty = false := rfl
  rw [isOwner, isOwner, dropScopeMark_append, dropScopeMark_eq_self unmarked, inside, insideMarked]

theorem isInstanceMethod_mark (unmarked : ¬ scopeMark <+: cs) (head : cs.head? ≠ some '#') :
    isInstanceMethod (scopeMark ++ cs) = isInstanceMethod cs := by
  unfold isInstanceMethod
  rw [cutFirst_scopeMark_append (by decide)]
  cases cut : cutFirst ['#'] cs with
  | none => rfl
  | some parts =>
      obtain ⟨owner, name⟩ := parts
      have whole := eq_of_cutFirst cut
      have nonempty : owner ≠ [] := by
        rintro rfl
        exact head (by rw [whole]; rfl)
      rw [whole, List.append_assoc] at unmarked
      simp only [Option.map_some, isOwner_mark nonempty (not_isPrefix_of_append unmarked)]

theorem isConstant_mark (unmarked : ¬ scopeMark <+: cs) :
    isConstant (scopeMark ++ cs) = isConstant cs := by
  simp only [isConstant, dropScopeMark_append, dropScopeMark_eq_self unmarked]

theorem isDefinition_mark (unmarked : ¬ scopeMark <+: cs) :
    isDefinition (scopeMark ++ cs) = isDefinition cs := by
  simp only [isDefinition, dropScopeMark_append, dropScopeMark_eq_self unmarked]

theorem isDottedMethod_mark (unmarked : ¬ scopeMark <+: cs) :
    isDottedMethod (scopeMark ++ cs) = isDottedMethod cs := by
  unfold isDottedMethod
  rw [cutFirst_scopeMark_append (by decide)]
  cases cut : cutFirst ['.'] cs with
  | none => rfl
  | some parts =>
      obtain ⟨owner, name⟩ := parts
      have whole := eq_of_cutFirst cut
      rw [whole, List.append_assoc] at unmarked
      by_cases top : owner = []
      · subst top
        rfl
      · have unmarkedOwner := not_isPrefix_of_append unmarked
        have notMark : (owner == scopeMark) = false := by
          rw [beq_eq_false_iff_ne]
          rintro rfl
          exact unmarkedOwner (List.prefix_refl _)
        have notMark' : (scopeMark ++ owner == scopeMark) = false := by
          rw [beq_eq_false_iff_ne]
          intro same
          exact top (List.append_right_eq_self.1 same)
        simp only [Option.map_some, isOwner_mark top unmarkedOwner, notMark, notMark']

theorem isScopedMethod_iff : isScopedMethod body = true ↔
    ∃ owner name, isOwner owner = true ∧ isMethodName name = true ∧
      body = owner ++ scopeMark ++ name := by
  constructor
  · intro older
    obtain ⟨owner, name, whole, owned, method⟩ := mem_mul_exactly_mul.1 (mem_scopedMethods.2 older)
    exact ⟨owner, name, mem_owners.1 owned, mem_methodNames.1 method, whole⟩
  · rintro ⟨owner, name, owned, method, rfl⟩
    exact isScopedMethod_append owned method

/-- A class method in the older spelling, below a path and without a mark in front. -/
def IsOlderMethod (body : List Char) : Prop :=
  ∃ space name, isPath space = true ∧ isMethodName name = true ∧ body = space ++ scopeMark ++ name

theorem isScopedMethod_iff_of_unmarked (unmarked : ¬ scopeMark <+: cs) :
    isScopedMethod cs = true ↔ IsOlderMethod cs := by
  rw [isScopedMethod_iff]
  constructor
  · rintro ⟨owner, name, owned, method, rfl⟩
    obtain ⟨space, isSpace, rfl | ⟨-, rfl⟩⟩ := eq_of_isOwner owned
    · rcases isSpace with rfl | path
      · exact absurd (List.prefix_append scopeMark name) unmarked
      · exact ⟨owner, name, path, method, rfl⟩
    · rw [List.append_assoc, List.append_assoc] at unmarked
      exact absurd (List.prefix_append scopeMark _) unmarked
  · rintro ⟨space, name, path, method, rfl⟩
    exact ⟨space, name, isOwner_of_isSpace (.inr path), method, rfl⟩

theorem isScopedMethod_mark (unmarked : ¬ scopeMark <+: cs) (notMethod : isMethodName cs = false) :
    isScopedMethod (scopeMark ++ cs) = isScopedMethod cs := by
  rw [Bool.eq_iff_iff, isScopedMethod_iff_of_unmarked unmarked, isScopedMethod_iff]
  constructor
  · rintro ⟨owner, name, owned, method, whole⟩
    obtain ⟨space, isSpace, rfl | ⟨inside, rfl⟩⟩ := eq_of_isOwner owned
    · rcases isSpace with rfl | path
      · obtain rfl : cs = name := by simpa using whole
        rw [notMethod] at method
        cases method
      · obtain ⟨c, rest, rfl, upper⟩ := head_of_isPath path
        obtain rfl : ':' = c := (List.cons.inj whole).1
        exact absurd upper (by decide)
    · obtain rfl : cs = space ++ scopeMark ++ name := by simpa using whole
      exact ⟨space, name, isSpace.resolve_left inside, method, rfl⟩
  · rintro ⟨space, name, path, method, rfl⟩
    refine ⟨scopeMark ++ space, name, ?_, method, by simp⟩
    rw [isOwner, dropScopeMark_append, path, Bool.or_true]

/-- A mark in front of a text does not change its form. -/
theorem formOf_mark (unmarked : ¬ scopeMark <+: cs) (head : cs.head? ≠ some '#')
    (notMethod : isMethodName cs = false) : formOf (scopeMark ++ cs) = formOf cs := by
  unfold formOf isClassMethod
  rw [isInstanceMethod_mark unmarked head, isConstant_mark unmarked, isDefinition_mark unmarked,
    isDottedMethod_mark unmarked, isScopedMethod_mark unmarked notMethod]

/-! ## Texts with and without a mark -/

/-- A text without separators can only be the name of a definition or a constant. -/
theorem isSegment_of_isBare (bare : IsBare body) (language : form.language body = true) :
    isSegment body = true := by
  have absent : ∀ c ∈ separators, c ∉ body := fun c separator member => bare c member separator
  have noHash : cutFirst ['#'] body = none := cutFirst_eq_none (absent '#' (by decide))
  have noDot : cutFirst ['.'] body = none := cutFirst_eq_none (absent '.' (by decide))
  have noMark : cutLast scopeMark body = none := cutLast_eq_none (absent ':' (by decide))
  have core : dropScopeMark body = body := by
    apply dropScopeMark_eq_self
    intro marked
    exact absent ':' (by decide) (marked.subset (by simp [scopeMark]))
  have one : segments body = [body] := segments_of_not_mem (absent ':' (by decide))
  cases form with
  | instanceMethod => simp [Form.language, isInstanceMethod, noHash] at language
  | constant =>
      apply isSegment_of_isConstantName
      simpa [Form.language, isConstant, core, one] using language
  | definition => simpa [Form.language, isDefinition, isPath, core, one] using language
  | classMethod =>
      simp [Form.language, isClassMethod, isDottedMethod, isScopedMethod, noDot, noMark] at language

/-- A lone method name refers to nothing. -/
theorem not_isMethodName_of_language (language : form.language body = true) :
    isMethodName body = false := by
  cases method : isMethodName body with
  | false => rfl
  | true =>
      have segment := isSegment_of_isBare (isBare_of_isMethodName method) language
      rw [not_isMethodName_of_isSegment segment] at method
      cases method

/-- What is read has no mark in front. -/
theorem Reads.unmarked (reads : Reads form cs space name) : ¬ scopeMark <+: cs := by
  apply not_scopeMark_isPrefix
  intro colon
  have bare := Form.isBare_of_isFinalName reads.isName
  have head := reads.isSpace.head
  rcases reads.shape with ⟨rfl, -⟩ | ⟨rfl, -⟩ | ⟨rfl, -⟩
  · by_cases top : space = []
    · rw [top, within_nil_left] at colon
      exact bare ':' (List.mem_of_head? colon) (by decide)
    · rw [within_eq top (Form.ne_nil_of_isFinalName reads.isName), List.append_assoc,
        List.head?_append_of_ne_nil _ top] at colon
      exact head colon
  · cases space with
    | nil => cases colon
    | cons c rest => exact head colon
  · cases space with
    | nil => cases colon
    | cons c rest => exact head colon

theorem form_eq_of_isScopedMethod (language : form.language body = true)
    (older : isScopedMethod body = true) : form = .classMethod := by
  have classMethod : Form.language .classMethod body = true := by
    simp [Form.language, isClassMethod, older]
  rcases form_eq_of_language language classMethod with same | ⟨-, impossible⟩
  · exact same
  · simp at impossible

/-- Without its mark a text has the same form, unless it is a class method in the older spelling. -/
theorem formOf_dropScopeMark (structured : formOf body = some form)
    (notOlder : isScopedMethod body = false) : formOf (dropScopeMark body) = some form := by
  have language := language_of_formOf structured
  obtain ⟨space, name, reads, -⟩ := exists_reads_of_language language
  rcases eq_dropScopeMark body with same | marked
  · rw [← same]
    exact structured
  · have head : (dropScopeMark body).head? ≠ some '#' := by
      intro hash
      obtain rfl : form = .instanceMethod := reads.hash_iff.1 (List.mem_of_head? hash)
      obtain ⟨rest, core⟩ := List.head?_eq_some_iff.1 hash
      -- The owner would be a lone mark.
      have cut : cutFirst ['#'] (scopeMark ++ '#' :: rest) = some (scopeMark, rest) :=
        cutFirst_char (by decide) rest
      have lone : isOwner scopeMark = false := by decide
      rw [Form.language, marked, core, isInstanceMethod, cut] at language
      simp [lone] at language
    have notMethod : isMethodName (dropScopeMark body) = false := by
      cases method : isMethodName (dropScopeMark body) with
      | false => rfl
      | true =>
          have older : isScopedMethod ([] ++ scopeMark ++ dropScopeMark body) = true :=
            isScopedMethod_append rfl method
          rw [List.nil_append, ← marked, notOlder] at older
          cases older
    rw [← formOf_mark reads.unmarked head notMethod, ← marked]
    exact structured

/-! ## Labels -/

/-- The label has the form of the text. -/
theorem formOf_labelOf (structured : formOf body = some form) :
    formOf (labelOf form body) = some form := by
  cases older : isScopedMethod body with
  | true =>
      obtain rfl := form_eq_of_isScopedMethod (language_of_formOf structured) older
      rw [labelOf_of_isScopedMethod older]
      exact structured
  | false =>
      rw [labelOf_of_not_isScopedMethod form older]
      exact formOf_dropScopeMark structured older

/-- A label has a mark in front only in the older spelling of class methods. -/
theorem scopeMark_isPrefix_labelOf_iff (structured : formOf body = some form) :
    scopeMark <+: labelOf form body ↔
      form = .classMethod ∧ isScopedMethod body = true ∧ scopeMark <+: body := by
  cases older : isScopedMethod body with
  | true =>
      obtain rfl := form_eq_of_isScopedMethod (language_of_formOf structured) older
      rw [labelOf_of_isScopedMethod older]
      simp
  | false =>
      obtain ⟨space, name, reads, -⟩ := exists_reads structured
      rw [labelOf_of_not_isScopedMethod form older]
      simp [reads.unmarked]

theorem labelOf_labelOf (structured : formOf body = some form) :
    labelOf form (labelOf form body) = labelOf form body := by
  cases older : isScopedMethod body with
  | true =>
      obtain rfl := form_eq_of_isScopedMethod (language_of_formOf structured) older
      rw [labelOf_of_isScopedMethod older, labelOf_of_isScopedMethod older]
  | false =>
      apply labelOf_eq_self
      rw [scopeMark_isPrefix_labelOf_iff structured, older]
      simp

/-- A label that is clean: it has its form as a text, and cleaning it gives it back. -/
structure IsNormalLabel (form : Form) (label : String) : Prop where
  solid : ∀ c ∈ label.toList, isBlank c = false
  unstopped : label.toList.getLast? ≠ some '.'
  classified : classify label = some form
  cleaned : String.ofList (labelOf form (bodyOf label)) = label

theorem isNormalLabel_labelOf (structured : formOf body = some form) :
    IsNormalLabel form (String.ofList (labelOf form body)) := by
  have again := formOf_labelOf structured
  have language := language_of_formOf again
  have same : bodyOf (String.ofList (labelOf form body)) = labelOf form body := by
    have whole := @bodyOf_eq_toList form (String.ofList (labelOf form body))
      (by rw [String.toList_ofList]; exact language)
    rw [whole, String.toList_ofList]
  refine ⟨?_, ?_, ?_, ?_⟩
  · rw [String.toList_ofList]
    exact isBlank_eq_false_of_language language
  · rw [String.toList_ofList]
    exact getLast?_ne_stop_of_mem_bodies (mem_bodies_iff.2 language)
  · rw [classify, same]
    exact again
  · rw [same, labelOf_labelOf structured]

/-- A full stop behind a trimmed text that has none does not belong to its body. -/
theorem bodyOf_stop {text : String} (trimmed : IsTrimmed text.toList)
    (unstopped : text.toList.getLast? ≠ some '.') : bodyOf (text ++ ".") = bodyOf text := by
  have stopped : IsTrimmed (text.toList ++ ['.']) := by
    constructor
    · intro c head
      cases written : text.toList with
      | nil =>
          obtain rfl : '.' = c := by simpa [written] using head
          decide
      | cons d rest =>
          apply trimmed.front
          simpa [written] using head
    · intro c last
      obtain rfl : '.' = c := by simpa using last
      decide
  have dotted : (text ++ ".").toList = text.toList ++ ['.'] := String.toList_append
  rw [bodyOf, bodyOf, dotted, trim_eq_self_iff.2 stopped, trim_eq_self_iff.2 trimmed,
    dropFullStop_append, dropFullStop_eq_self unstopped]

/-- **The label is a normal form.** A full stop behind a trimmed text that does not end in one changes
nothing. The label of a structured text has no blanks and no final full stop, has the form of the
text, and is its own label; it starts with `::` only for a class method in the older spelling that
was written so. -/
theorem resolve_label_normal (symbols : List Symbol) (text parent : String) (shown : Option String) :
    (∀ trimmed, trimmed = String.ofList (trim text.toList) → trimmed.toList.getLast? ≠ some '.' →
      classify (trimmed ++ ".") = classify trimmed ∧
        (resolve symbols (trimmed ++ ".") parent shown).resolution =
          (resolve symbols trimmed parent shown).resolution) ∧
      ∀ r, (resolve symbols text parent shown).resolution = some r →
        classify text = some r.form ∧ IsNormalLabel r.form r.label ∧
          (scopeMark <+: r.label.toList ↔
            r.form = .classMethod ∧ isScopedMethod (bodyOf text) = true ∧
              scopeMark <+: bodyOf text) := by
  constructor
  · intro trimmed isTrim unstopped
    have same : bodyOf (trimmed ++ ".") = bodyOf trimmed := by
      apply bodyOf_stop _ unstopped
      rw [isTrim, String.toList_ofList]
      exact trim_isTrimmed text.toList
    simp only [resolve, classify, same, and_self]
  · intro r resolution
    cases structured : classify text with
    | none => simp [resolve, structured] at resolution
    | some form =>
        rw [resolve_structured structured, Option.some.injEq] at resolution
        obtain rfl := resolution
        refine ⟨rfl, isNormalLabel_labelOf structured, ?_⟩
        have marked_iff := scopeMark_isPrefix_labelOf_iff structured
        simpa only [resolveBody, String.toList_ofList] using marked_iff

/-- An older spelling that keeps its mark. -/
theorem resolve_label_normal_older :
    classify "::Foo::bar." = classify "::Foo::bar" ∧
      ∃ r, (resolve [.method "Foo.bar" .onClass] " ::Foo::bar " "Foo" none).resolution = some r ∧
        IsNormalLabel r.form r.label ∧ scopeMark <+: r.label.toList := by
  have normal := resolve_label_normal [.method "Foo.bar" .onClass] " ::Foo::bar " "Foo" none
  have structured : classify " ::Foo::bar " = some .classMethod := by decide
  have stopped := normal.1 "::Foo::bar" (by decide) (by decide)
  refine ⟨stopped.1, _, resolve_structured structured _ _ _, ?_⟩
  obtain ⟨-, clean, marked_iff⟩ := normal.2 _ (resolve_structured structured _ _ _)
  exact ⟨clean, marked_iff.2 ⟨rfl, by decide, by decide⟩⟩

/-! ## Marked texts -/

/-- Marked or not, a text is looked up under the same name. -/
theorem lookupName_labelOf_mark (structured : formOf body = some form)
    (unmarked : ¬ scopeMark <+: body) :
    lookupName (labelOf form (scopeMark ++ body)) = lookupName (labelOf form body) := by
  have notMethod := not_isMethodName_of_language (language_of_formOf structured)
  rw [labelOf_eq_self form unmarked, lookupName_eq_self unmarked]
  cases older : isScopedMethod body with
  | true =>
      have marked : isScopedMethod (scopeMark ++ body) = true := by
        rw [isScopedMethod_mark unmarked notMethod, older]
      obtain rfl := form_eq_of_isScopedMethod (language_of_formOf structured) older
      obtain ⟨space, name, -, -, whole⟩ := (isScopedMethod_iff_of_unmarked unmarked).1 older
      have again : (cutFirst scopeMark body).isSome = true := by
        rw [whole]
        exact isSome_cutFirst_append (by decide) space name
      rw [labelOf_of_isScopedMethod marked, lookupName_mark, again, if_pos rfl]
  | false =>
      have notOlder : isScopedMethod (scopeMark ++ body) = false := by
        rw [isScopedMethod_mark unmarked notMethod, older]
      rw [labelOf_of_not_isScopedMethod form notOlder, dropScopeMark_append,
        lookupName_eq_self unmarked]

/-- A marked text resolves as the text does outside any namespace, up to the label. -/
theorem resolveBody_mark (symbols : List Symbol) (parent : List Char)
    (structured : formOf body = some form) (unmarked : ¬ scopeMark <+: body) :
    resolveBody symbols form parent (scopeMark ++ body) =
      { resolveBody symbols form [] body with
        label := String.ofList (labelOf form (scopeMark ++ body)) } := by
  have marked : ¬ RecordedBelow symbols form parent (scopeMark ++ body) := by
    intro below
    exact below.1 (List.prefix_append scopeMark body)
  have here := locateName_of_not_recordedBelow marked
  rw [lookupName_labelOf_mark structured unmarked] at here
  simp only [resolveBody, here, locateName_of_not_recordedBelow not_recordedBelow_nil]

/-- The mark stays in the label of an older spelling. -/
theorem labelOf_mark (structured : formOf body = some form) (unmarked : ¬ scopeMark <+: body) :
    (IsOlderMethod body → labelOf form (scopeMark ++ body) = scopeMark ++ body) ∧
      (¬ IsOlderMethod body → labelOf form (scopeMark ++ body) = body) := by
  have same := isScopedMethod_mark unmarked
    (not_isMethodName_of_language (language_of_formOf structured))
  rw [← isScopedMethod_iff_of_unmarked unmarked]
  constructor
  · intro older
    obtain rfl := form_eq_of_isScopedMethod (language_of_formOf structured) older
    exact labelOf_of_isScopedMethod (same.trans older)
  · intro notOlder
    rw [Bool.not_eq_true] at notOlder
    rw [labelOf_of_not_isScopedMethod form (same.trans notOlder), dropScopeMark_append]

/-- A trimmed text is its body, and a full stop or nothing behind it. -/
theorem exists_stop {text : String} (trimmed : trim text.toList = text.toList) :
    ∃ stop, (stop = [] ∨ stop = ['.']) ∧ text.toList = bodyOf text ++ stop := by
  rw [bodyOf, trimmed]
  rcases eq_dropFullStop text.toList with same | dotted
  · exact ⟨[], .inl rfl, by simpa using same⟩
  · exact ⟨['.'], .inr rfl, dotted⟩

theorem bodyOf_mark {text : String} (trimmed : trim text.toList = text.toList)
    (language : form.language (scopeMark ++ bodyOf text) = true) :
    bodyOf ("::" ++ text) = scopeMark ++ bodyOf text := by
  obtain ⟨stop, stopped, whole⟩ := exists_stop trimmed
  have written := @bodyOf_written form _ language [] stop [] (by simp) (by simp) stopped
  have same : "::" ++ text = String.ofList ([] ++ (scopeMark ++ bodyOf text ++ stop) ++ []) := by
    rw [List.nil_append, List.append_nil, List.append_assoc, ← whole, String.ofList_append,
      String.ofList_toList]
    rfl
  rw [same]
  exact written

/-- **A mark in front means top level.** A text without blanks around it that starts with neither `::`
nor `#` has the same form with a mark in front, and then it resolves inside every namespace, whatever
its text, as it does outside of all: all but the label is the same. The label is the text without its
final full stop, and it has the mark in front exactly for a class method in the older spelling. -/
theorem resolve_marked_at_top (symbols : List Symbol) (text parent : String) (shown : Option String)
    (form : Form) (trimmed : trim text.toList = text.toList) (structured : classify text = some form)
    (unmarked : ¬ scopeMark <+: text.toList) (noHash : text.toList.head? ≠ some '#') :
    classify ("::" ++ text) = some form ∧
      ∃ r label, (resolve symbols text "" shown).resolution = some r ∧ r.relative = false ∧
        (resolve symbols ("::" ++ text) parent shown).resolution =
          some { r with label := String.ofList label } ∧
        (IsOlderMethod (dropFullStop text.toList) →
          label = scopeMark ++ dropFullStop text.toList) ∧
        (¬ IsOlderMethod (dropFullStop text.toList) → label = dropFullStop text.toList) := by
  have isBody : bodyOf text = dropFullStop text.toList := by rw [bodyOf, trimmed]
  obtain ⟨stop, -, whole⟩ := exists_stop trimmed
  have bodyUnmarked : ¬ scopeMark <+: bodyOf text := by
    rw [whole] at unmarked
    exact not_isPrefix_of_append unmarked
  have bodyNoHash : (bodyOf text).head? ≠ some '#' := by
    intro hash
    rw [whole] at noHash
    exact noHash (by simp [hash])
  have markedForm : formOf (scopeMark ++ bodyOf text) = some form := by
    rw [formOf_mark bodyUnmarked bodyNoHash
      (not_isMethodName_of_language (language_of_formOf structured))]
    exact structured
  have markedBody := bodyOf_mark trimmed (language_of_formOf markedForm)
  have markedStructured : classify ("::" ++ text) = some form := by
    rw [classify, markedBody]
    exact markedForm
  rw [← isBody]
  refine ⟨markedStructured, _, labelOf form (scopeMark ++ bodyOf text),
    resolve_structured structured symbols "" shown, ?_, ?_, labelOf_mark structured bodyUnmarked⟩
  · rw [← Bool.not_eq_true, relative_resolveBody_iff]
    exact not_recordedBelow_nil
  · rw [resolve_structured markedStructured, markedBody,
      resolveBody_mark symbols _ structured bodyUnmarked]
    rfl

/-- An older spelling inside what is no namespace. -/
theorem resolve_marked_at_top_older :
    classify "::Foo::bar." = some .classMethod ∧
      ∃ r, (resolve [.method "Foo.bar" .onClass] "::Foo::bar." "a#b" none).resolution = some r ∧
        r.relative = false ∧ r.label.toList = "::Foo::bar".toList := by
  have older : IsOlderMethod (dropFullStop "Foo::bar.".toList) :=
    ⟨"Foo".toList, "bar".toList, by decide, by decide, by decide⟩
  obtain ⟨structured, r, label, -, top, resolution, kept, -⟩ :=
    resolve_marked_at_top [.method "Foo.bar" .onClass] "Foo::bar." "a#b" none .classMethod
      (by decide) (by decide) (by decide) (by decide)
  refine ⟨structured, _, resolution, top, ?_⟩
  rw [kept older, String.toList_ofList]
  decide

end Crosslink.Reference
