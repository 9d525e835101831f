/-
# Crosslink.Proofs.Reference.Classification — a text has one form

A text that can be read in a form ends in a name, and the name is what stands
behind its last separator, whatever the form (`Reads.lastName`). The names of
definitions and constants start with a capital letter and those of methods do
not, and only instance methods have a `#`. So two forms of one text are the same
form, or one is a constant and the other a definition
(`form_eq_of_language`), and the order of the rules matters for that pair alone
(`formOf_eq_some`).

No name holds a blank, so a text that is written with blanks around it and a
full stop at its end has the body that is written (`bodyOf_written`).
-/
import Crosslink.Proofs.Reference.Languages

namespace Crosslink.Reference

open Crosslink.Text

set_option autoImplicit false

variable {form other : Form} {cs body space name : List Char}

/-! ## The last name -/

/-- What stands behind the last separator. -/
def lastName (cs : List Char) : List Char :=
  (cs.reverse.takeWhile fun c => !separators.contains c).reverse

theorem not_contains_of_isBare (bare : IsBare name) :
    ∀ c ∈ name.reverse, (!separators.contains c) = true := by
  intro c member
  have outside := bare c (List.mem_reverse.1 member)
  simpa using outside

theorem lastName_of_isBare (bare : IsBare name) : lastName name = name := by
  rw [lastName, List.takeWhile_eq_self_iff.2 (not_contains_of_isBare bare), List.reverse_reverse]

theorem lastName_append {c : Char} (separator : c ∈ separators) (bare : IsBare name)
    (front : List Char) : lastName (front ++ c :: name) = name := by
  have stops : (!separators.contains c) = false := by simpa using separator
  have reversed : (front ++ c :: name).reverse = name.reverse ++ c :: front.reverse := by simp
  rw [lastName, reversed, List.takeWhile_append_of_pos (not_contains_of_isBare bare),
    List.takeWhile_cons, stops]
  simp

theorem lastName_within (bare : IsBare name) (named : name ≠ []) (space : List Char) :
    lastName (within space name) = name := by
  by_cases top : space = []
  · rw [top, within_nil_left, lastName_of_isBare bare]
  · have split : within space name = (space ++ [':']) ++ ':' :: name := by
      rw [within_eq top named]
      simp [scopeMark]
    rw [split]
    exact lastName_append (by decide) bare _

/-- However a reference is written, its name stands behind the last separator. -/
theorem Reads.lastName (reads : Reads form cs space name) : lastName cs = name := by
  have bare := Form.isBare_of_isFinalName reads.isName
  have named := Form.ne_nil_of_isFinalName reads.isName
  rcases reads.shape with ⟨rfl, -⟩ | ⟨rfl, -⟩ | ⟨rfl, -⟩
  · exact lastName_within bare named space
  · exact lastName_append (by decide) bare space
  · exact lastName_append (by decide) bare space

/-- Only instance methods are written with a `#`. -/
theorem Reads.hash_iff (reads : Reads form cs space name) : '#' ∈ cs ↔ form = .instanceMethod := by
  have noHash : '#' ∉ space := reads.isSpace.not_mem (by decide) (by decide)
  have unnamed : '#' ∉ name := fun member =>
    Form.isBare_of_isFinalName reads.isName '#' member (by decide)
  rcases reads.shape with ⟨rfl, other⟩ | ⟨rfl, rfl⟩ | ⟨rfl, rfl⟩
  · refine iff_of_false (fun member => ?_) other
    rcases mem_within member with inSpace | colon | inName
    · exact noHash inSpace
    · cases colon
    · exact unnamed inName
  · simp
  · simp [noHash, unnamed]

/-! ## One form -/

theorem not_isMethodName_of_isSegment (segment : isSegment name = true) :
    isMethodName name = false := by
  cases name with
  | nil => cases segment
  | cons c rest =>
      simp only [isSegment, Bool.and_eq_true] at segment
      have notLow : (c == '_') = false := by
        rw [beq_eq_false_iff_ne]
        rintro rfl
        exact absurd segment.1 (by decide)
      simp [isMethodName, not_isLower_of_isUpper segment.1, notLow]

theorem Form.isSegment_or_isMethodName (isName : form.isFinalName name = true) :
    ((form = .constant ∨ form = .definition) ∧ isSegment name = true) ∨
      ((form = .instanceMethod ∨ form = .classMethod) ∧ isMethodName name = true) := by
  cases form with
  | constant => exact .inl ⟨.inl rfl, isSegment_of_isConstantName isName⟩
  | definition => exact .inl ⟨.inr rfl, isName⟩
  | instanceMethod => exact .inr ⟨.inl rfl, isName⟩
  | classMethod => exact .inr ⟨.inr rfl, isName⟩

/-- Two forms of one text differ only as a constant differs from a definition. -/
theorem form_eq_of_language (left : form.language body = true) (right : other.language body = true) :
    form = other ∨ (form = .constant ∨ form = .definition) ∧
      (other = .constant ∨ other = .definition) := by
  obtain ⟨space, name, reads, -⟩ := exists_reads_of_language left
  obtain ⟨space', name', reads', -⟩ := exists_reads_of_language right
  obtain rfl : name = name' := reads.lastName.symm.trans reads'.lastName
  have hash : form = .instanceMethod ↔ other = .instanceMethod :=
    reads.hash_iff.symm.trans reads'.hash_iff
  rcases Form.isSegment_or_isMethodName reads.isName with ⟨path, segment⟩ | ⟨member, method⟩
  · rcases Form.isSegment_or_isMethodName reads'.isName with ⟨path', -⟩ | ⟨-, method⟩
    · exact .inr ⟨path, path'⟩
    · rw [not_isMethodName_of_isSegment segment] at method
      cases method
  · rcases Form.isSegment_or_isMethodName reads'.isName with ⟨-, segment⟩ | ⟨member', -⟩
    · rw [not_isMethodName_of_isSegment segment] at method
      cases method
    · rcases member with rfl | rfl
      · exact .inl (hash.1 rfl).symm
      · rcases member' with rfl | rfl
        · exact .inl (hash.2 rfl)
        · exact .inl rfl

/-- A text has the form whose predicate holds of it, and a constant is not a definition. -/
theorem formOf_eq_some (language : form.language body = true)
    (plain : form = .definition → isConstant body = false) : formOf body = some form := by
  obtain ⟨-, -, isDefinition_iff, -, isNone_iff⟩ := formOf_iff body
  cases structured : formOf body with
  | none => exact absurd language (isNone_iff.1 structured form)
  | some first =>
      have holds := language_of_formOf structured
      rcases form_eq_of_language language holds with rfl | ⟨path, path'⟩
      · rfl
      · rcases path with rfl | rfl
        · rcases path' with rfl | rfl
          · rfl
          · exact absurd language (isDefinition_iff.1 structured).2.1
        · rcases path' with rfl | rfl
          · rw [Form.language, plain rfl] at holds
            cases holds
          · rfl

/-! ## Texts of a form -/

/-- A path with one more name at its end, in segments. -/
theorem segments_within (isSpace : IsSpace space) (segment : isSegment name = true) :
    ∃ ss, (∀ s ∈ ss, isSegment s = true) ∧ segments (within space name) = ss ++ [name] := by
  have noColon : ∀ s, isSegment s = true → ':' ∉ s := fun s isSegment colon =>
    isBare_of_isSegment isSegment ':' colon (by decide)
  have named : name ≠ [] := by
    rintro rfl
    cases segment
  rcases isSpace with rfl | path
  · exact ⟨[], by simp, by rw [within_nil_left, segments_of_not_mem (noColon name segment)]; rfl⟩
  · obtain ⟨ss, nonempty, all, rfl⟩ := isPath_iff.1 path
    obtain ⟨c, rest, start, -⟩ := head_of_isPath path
    have joined : within (joinSegments ss) name = joinSegments (ss ++ [name]) := by
      rw [within_eq (by simp [start]) named, joinSegments_append nonempty (by simp)]
      rfl
    refine ⟨ss, all, ?_⟩
    rw [joined]
    apply segments_joinSegments (by simp)
    intro s member
    rcases List.mem_append.1 member with inSpace | isLast
    · exact noColon s (all s inSpace)
    · rw [List.mem_singleton.1 isLast]
      exact noColon name segment

theorem isPath_within (isSpace : IsSpace space) (segment : isSegment name = true) :
    isPath (within space name) = true := by
  obtain ⟨ss, all, parts⟩ := segments_within isSpace segment
  rw [isPath, parts, List.all_eq_true]
  intro s member
  rcases List.mem_append.1 member with inSpace | isLast
  · exact all s inSpace
  · rw [List.mem_singleton.1 isLast]
    exact segment

theorem dropScopeMark_within (isSpace : IsSpace space) (segment : isSegment name = true) :
    dropScopeMark (within space name) = within space name :=
  dropScopeMark_eq_self (not_scopeMark_isPrefix (IsSpace.head (.inr (isPath_within isSpace segment))))

/-- The last segment decides whether a path is a constant. -/
theorem isConstant_within (isSpace : IsSpace space) (segment : isSegment name = true) :
    isConstant (within space name) = isConstantName name := by
  obtain ⟨ss, all, parts⟩ := segments_within isSpace segment
  have front : (ss ++ [name]).dropLast.all isSegment = true := by simpa using all
  simp only [isConstant, dropScopeMark_within isSpace segment, parts, front, Bool.true_and]
  simp

theorem isOwner_of_isSpace (isSpace : IsSpace space) : isOwner space = true := by
  rcases isSpace with rfl | path
  · rfl
  · rw [isOwner, dropScopeMark_eq_self (not_scopeMark_isPrefix (IsSpace.head (.inr path))), path,
      Bool.or_true]

theorem isInstanceMethod_append {owner : List Char} (owned : isOwner owner = true)
    (method : isMethodName name = true) : isInstanceMethod (owner ++ '#' :: name) = true := by
  apply mem_instanceMethods.1
  exact mem_mul_exactly_mul.2 ⟨owner, name, by simp, mem_owners.2 owned, mem_methodNames.2 method⟩

theorem isScopedMethod_append {owner : List Char} (owned : isOwner owner = true)
    (method : isMethodName name = true) : isScopedMethod (owner ++ scopeMark ++ name) = true := by
  apply mem_scopedMethods.1
  exact mem_mul_exactly_mul.2 ⟨owner, name, rfl, mem_owners.2 owned, mem_methodNames.2 method⟩

theorem isDottedMethod_append {owner : List Char} (owned : isOwner owner = true)
    (method : isMethodName name = true) : isDottedMethod (owner ++ '.' :: name) = true := by
  apply mem_dottedMethods.1
  refine mem_mul_exactly_mul.2 ⟨owner, name, by simp, mem_dottedOwners.2 ?_, mem_methodNames.2 method⟩
  rw [owned, Bool.true_or]

/-! ## Characters of references -/

/-- The characters that references are made of. -/
def isReferenceChar (c : Char) : Bool :=
  isWordChar c || c.isUpper || c.isLower || [':', '#', '.', '_', '=', '?', '!'].contains c

/-- The blanks, by code point. -/
def blankPoints : List Nat :=
  [9, 10, 11, 12, 13, 0x20, 0x85, 0xa0, 0x1680, 0x2000, 0x2001, 0x2002, 0x2003, 0x2004, 0x2005,
    0x2006, 0x2007, 0x2008, 0x2009, 0x200a, 0x2028, 0x2029, 0x202f, 0x205f, 0x3000]

theorem toNat_mem_blankPoints {c : Char} (blank : isBlank c = true) : c.toNat ∈ blankPoints := by
  simp only [isBlank, Bool.or_eq_true, Bool.and_eq_true, decide_eq_true_eq, beq_iff_eq] at blank
  simp only [blankPoints, List.mem_cons, List.not_mem_nil, or_false]
  omega

theorem isBlank_eq_false_of_isReferenceChar {c : Char} (inside : isReferenceChar c = true) :
    isBlank c = false := by
  have outside : ∀ n ∈ blankPoints, isReferenceChar (Char.ofNat n) = false := by decide +kernel
  cases blank : isBlank c with
  | false => rfl
  | true =>
      have absent := outside c.toNat (toNat_mem_blankPoints blank)
      rw [Char.ofNat_toNat, inside] at absent
      cases absent

theorem isReferenceChar_of_isSegment (segment : isSegment name = true) :
    ∀ c ∈ name, isReferenceChar c = true := by
  cases name with
  | nil => cases segment
  | cons d rest =>
      simp only [isSegment, Bool.and_eq_true, List.all_eq_true] at segment
      intro c member
      rcases List.mem_cons.1 member with rfl | inRest
      · simp [isReferenceChar, segment.1]
      · simp [isReferenceChar, segment.2 c inRest]

theorem isReferenceChar_of_isMethodName (method : isMethodName name = true) :
    ∀ c ∈ name, isReferenceChar c = true := by
  cases name with
  | nil => cases method
  | cons d rest =>
      simp only [isMethodName, Bool.and_eq_true, Bool.or_eq_true, beq_iff_eq] at method
      obtain ⟨first, ending⟩ := method
      intro c member
      rcases List.mem_cons.1 member with rfl | inRest
      · rcases first with lower | rfl
        · simp [isReferenceChar, lower]
        · decide
      · rw [← List.takeWhile_append_dropWhile (p := isWordChar) (l := rest), List.mem_append] at inRest
        rcases inRest with inWord | inEnding
        · simp [isReferenceChar, List.mem_takeWhile_imp inWord]
        · split at ending
          · rename_i none_
            simp [none_] at inEnding
          · rename_i e one
            obtain rfl : c = e := by simpa [one] using inEnding
            simp only [Bool.or_eq_true, beq_iff_eq] at ending
            rcases ending with (rfl | rfl) | rfl <;> decide
          · cases ending

theorem isReferenceChar_of_isSpace (isSpace : IsSpace space) :
    ∀ c ∈ space, isReferenceChar c = true := by
  rcases isSpace with rfl | path
  · simp
  · obtain ⟨ss, -, all, rfl⟩ := isPath_iff.1 path
    intro c member
    rcases mem_joinSegments member with rfl | ⟨s, inSegments, inText⟩
    · decide
    · exact isReferenceChar_of_isSegment (all s inSegments) c inText

theorem Reads.isReferenceChar (reads : Reads form cs space name) :
    ∀ c ∈ cs, isReferenceChar c = true := by
  have inSpace := isReferenceChar_of_isSpace reads.isSpace
  have inName : ∀ c ∈ name, Reference.isReferenceChar c = true := by
    rcases Form.isSegment_or_isMethodName reads.isName with ⟨-, segment⟩ | ⟨-, method⟩
    · exact isReferenceChar_of_isSegment segment
    · exact isReferenceChar_of_isMethodName method
  -- A separator of its own stands between the space and the name.
  have around : ∀ d, Reference.isReferenceChar d = true →
      ∀ c ∈ space ++ d :: name, Reference.isReferenceChar c = true := by
    intro d separator c member
    simp only [List.mem_append, List.mem_cons] at member
    rcases member with outer | rfl | inner
    · exact inSpace c outer
    · exact separator
    · exact inName c inner
  rcases reads.shape with ⟨rfl, -⟩ | ⟨rfl, -⟩ | ⟨rfl, -⟩
  · intro c member
    rcases mem_within member with outer | rfl | inner
    · exact inSpace c outer
    · decide
    · exact inName c inner
  · exact around '#' (by decide)
  · exact around '.' (by decide)

/-- No blank stands in a text of a form. -/
theorem isBlank_eq_false_of_language (language : form.language body = true) :
    ∀ c ∈ body, isBlank c = false := by
  obtain ⟨space, name, reads, -⟩ := exists_reads_of_language language
  intro c member
  apply isBlank_eq_false_of_isReferenceChar
  rcases eq_dropScopeMark body with same | marked
  · exact reads.isReferenceChar c (same ▸ member)
  · rw [marked, List.mem_append] at member
    rcases member with inMark | inCore
    · obtain rfl : c = ':' := by simpa [scopeMark] using inMark
      decide
    · exact reads.isReferenceChar c inCore

/-- Blanks around a text and a full stop at its end do not belong to its body. -/
theorem bodyOf_written (language : form.language body = true) {before stop after : List Char}
    (blankBefore : ∀ c ∈ before, isBlank c = true) (blankAfter : ∀ c ∈ after, isBlank c = true)
    (stopped : stop = [] ∨ stop = ['.']) :
    bodyOf (String.ofList (before ++ (body ++ stop) ++ after)) = body := by
  have solid := isBlank_eq_false_of_language language
  have open_ := getLast?_ne_stop_of_mem_bodies (mem_bodies_iff.2 language)
  have nonempty : body ≠ [] := by
    rintro rfl
    cases form <;> cases language
  have inside : ∀ c ∈ body ++ stop, isBlank c = false := by
    intro c member
    rcases List.mem_append.1 member with inBody | inStop
    · exact solid c inBody
    · rcases stopped with rfl | rfl
      · cases inStop
      · rw [List.mem_singleton.1 inStop]
        decide
  have trimmed : IsTrimmed (body ++ stop) :=
    ⟨fun c head => inside c (List.mem_of_head? head), fun c last => inside c (List.mem_of_getLast? last)⟩
  rw [bodyOf, String.toList_ofList, trim_append blankBefore blankAfter trimmed (by simp [nonempty])]
  rcases stopped with rfl | rfl
  · rw [List.append_nil, dropFullStop_eq_self open_]
  · rw [dropFullStop_append]

theorem bodyOf_eq_toList {text : String} (language : form.language text.toList = true) :
    bodyOf text = text.toList := by
  have written := @bodyOf_written form text.toList language [] [] [] (by simp) (by simp) (.inl rfl)
  simpa using written

end Crosslink.Reference
