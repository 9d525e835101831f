/-
# Crosslink.Proofs.Reference.RuleOrder — when the order of the rules matters

A text is classified by the first rule that takes it: one rule for each form,
and behind them a rule that takes every text and gives no form. `classifyIn`
tries the rules in any given order and gives the first one that takes the text
(`classifyIn_spec`).

No text matches two of the patterns of instance methods, definitions and class
methods, and no text writes a class method in both spellings, since only the
newer one has a dot (`not_mem_olderPattern`). Every constant is also a
definition (`mem_definition_pattern`). So two rules take the same text only when
one of them is that of constants and the other that of definitions, or when one
of them takes every text: the order of these rules is all that matters.

Main theorem: `classifyIn_eq_classify_iff`.
-/
import Crosslink.Proofs.Reference.Spellings

namespace Crosslink.Reference

open Crosslink.Text

set_option autoImplicit false

/-! ## The two spellings of class methods -/

/-- Class methods written with a dot. -/
def dottedPattern : Language Char :=
  optional (exactly scopeMark) * optional paths * exactly ['.'] * methodNames *
    optional (exactly ['.'])

/-- Class methods in the older spelling. -/
def olderPattern : Language Char :=
  owners * exactly scopeMark * methodNames * optional (exactly ['.'])

theorem classMethod_pattern : Form.classMethod.pattern = dottedPattern + olderPattern :=
  add_mul _ _ _

variable {w : List Char}

theorem mem_dottedPattern : w ∈ dottedPattern ↔ isDottedMethod (dropFullStop w) = true := by
  have open_ : ∀ v ∈ optional (exactly scopeMark) * optional paths * exactly ['.'] * methodNames,
      v.getLast? ≠ some '.' := fun v member =>
    @getLast?_ne_stop_of_mem_bodies .classMethod v (.inl member)
  rw [dottedPattern, mem_mul_optional_stop open_, mem_dottedMethods]

theorem mem_olderPattern : w ∈ olderPattern ↔ isScopedMethod (dropFullStop w) = true := by
  have open_ : ∀ v ∈ owners * exactly scopeMark * methodNames, v.getLast? ≠ some '.' :=
    fun v member => @getLast?_ne_stop_of_mem_bodies .classMethod v (.inr member)
  rw [olderPattern, mem_mul_optional_stop open_, mem_scopedMethods]

theorem dot_mem_of_isDottedMethod {body : List Char} (dotted : isDottedMethod body = true) :
    '.' ∈ body := by
  unfold isDottedMethod at dotted
  split at dotted
  · rename_i cut
    rw [eq_of_cutFirst cut]
    simp
  · cases dotted

/-- The older spelling has no dot but the final full stop. -/
theorem not_mem_olderPattern (dotted : w ∈ dottedPattern) : w ∉ olderPattern := by
  have dot := dot_mem_of_isDottedMethod (mem_dottedPattern.1 dotted)
  rw [mem_olderPattern, not_isScopedMethod_of_mem dot]
  simp

/-! ## Overlaps -/

theorem isDefinition_of_isConstant {body : List Char} (constant : isConstant body = true) :
    isDefinition body = true := by
  obtain ⟨space, name, ⟨isSpace, isName, written⟩, -⟩ := reads_constant constant
  have core : dropScopeMark body = within space name := by simpa [Form.writings] using written
  rw [isDefinition, core]
  exact isPath_within isSpace (isSegment_of_isConstantName isName)

/-- Every constant is also a definition. -/
theorem mem_definition_pattern (constant : w ∈ Form.constant.pattern) :
    w ∈ Form.definition.pattern :=
  mem_pattern_iff.2 (isDefinition_of_isConstant (mem_pattern_iff.1 constant))

/-- Apart from constants, a text matches the pattern of one form at most. -/
theorem form_eq_of_mem_pattern {form other : Form} (notConstant : form ≠ .constant)
    (notConstant' : other ≠ .constant) (left : w ∈ form.pattern) (right : w ∈ other.pattern) :
    form = other := by
  rcases form_eq_of_language (mem_pattern_iff.1 left) (mem_pattern_iff.1 right) with
    same | ⟨path, path'⟩
  · exact same
  · exact (path.resolve_left notConstant).trans (path'.resolve_left notConstant').symm

/-! ## Rules -/

/-- The rules as they are tried: that of each form, and the one that takes every text. -/
def ruleTable : List (Option Form) :=
  [some .instanceMethod, some .constant, some .definition, some .classMethod, none]

/-- The rule takes the text. -/
def ruleTakes : Option Form → String → Bool
  | some form, text => form.language (bodyOf text)
  | none, _ => true

/-- What the first rule that takes the text says. -/
def classifyIn (order : List (Option Form)) (text : String) : Option Form :=
  (order.find? fun rule => ruleTakes rule text).join

theorem ruleTakes_iff {form : Form} {text : String} :
    ruleTakes (some form) text = true ↔ trim text.toList ∈ form.pattern :=
  mem_pattern_iff.symm

/-- A text is classified by a rule that takes it, behind rules that do not. -/
theorem classifyIn_spec {order : List (Option Form)} (total : none ∈ order) (text : String) :
    ∃ front back, order = front ++ classifyIn order text :: back ∧
      ruleTakes (classifyIn order text) text = true ∧
      ∀ rule ∈ front, ruleTakes rule text = false := by
  obtain ⟨rule, first⟩ := Option.isSome_iff_exists.1
    (List.find?_isSome (p := fun rule => ruleTakes rule text) |>.2 ⟨none, total, rfl⟩)
  have result : classifyIn order text = rule := by simp [classifyIn, first]
  obtain ⟨takes, front, back, split, earlier⟩ := List.find?_eq_some_iff_append.1 first
  rw [result]
  exact ⟨front, back, split, takes, by simpa using earlier⟩

/-- What is kept before `b` stands in front of it, where `b` stands only once. -/
theorem mem_front_of_sublist {α : Type} {a b : α} {front back : List α} (apart : a ≠ b)
    (nodup : (front ++ b :: back).Nodup) (before : [a, b].Sublist (front ++ b :: back)) :
    a ∈ front := by
  obtain ⟨left, right, same, inFront, inBack⟩ := List.sublist_append_iff.1 before
  cases left with
  | nil =>
      obtain rfl : [a, b] = right := same
      have behind : [a, b].Sublist back := by
        cases inBack with
        | cons _ later => exact later
        | cons_cons _ _ => exact absurd rfl apart
      have once := (List.nodup_cons.1 (List.nodup_append.1 nodup).2.1).1
      exact absurd (behind.subset (by simp)) once
  | cons c left =>
      obtain ⟨rfl, -⟩ := List.cons.inj same
      exact inFront.subset (by simp)

variable {order : List (Option Form)}

/-- An order that has constants before definitions and the rule that takes every text last. -/
theorem classifyIn_eq_classify (perm : order.Perm ruleTable) (last : order.getLast? = some none)
    (before : [some Form.constant, some Form.definition].Sublist order) (text : String) :
    classifyIn order text = classify text := by
  have nodup : order.Nodup := perm.nodup_iff.2 (by decide)
  have total : none ∈ order := List.mem_of_getLast? last
  obtain ⟨front, back, split, takes, earlier⟩ := classifyIn_spec total text
  obtain ⟨-, -, isDefinition_iff, -, isNone_iff⟩ := formOf_iff (bodyOf text)
  cases result : classifyIn order text with
  | none =>
      rw [result] at split
      -- The rule that takes every text is the last one, so every other rule was tried before it.
      have noneBehind : back = [] := by
        by_contra more
        have inBack : none ∈ back := by
          rw [split, List.getLast?_append_cons, List.getLast?_cons_of_ne_nil more] at last
          exact List.mem_of_getLast? last
        rw [split] at nodup
        exact (List.nodup_cons.1 (List.nodup_append.1 nodup).2.1).1 inBack
      refine (isNone_iff.2 fun form holds => ?_).symm
      have inTable : some form ∈ ruleTable := by cases form <;> decide
      have tried : some form ∈ front := by
        have inOrder := perm.mem_iff.2 inTable
        simpa [split, noneBehind] using inOrder
      have refused := earlier _ tried
      rw [ruleTakes, holds] at refused
      cases refused
  | some form =>
      rw [result] at split takes
      refine (formOf_eq_some takes ?_).symm
      rintro rfl
      rw [split] at nodup before
      exact earlier _ (mem_front_of_sublist (by simp) nodup before)

/-- Constants come before definitions where a constant is classified as one. -/
theorem before_of_classifyIn (perm : order.Perm ruleTable)
    (agrees : classifyIn order "A" = classify "A") :
    [some Form.constant, some Form.definition].Sublist order := by
  have total : none ∈ order := perm.mem_iff.2 (by decide)
  have inOrder : some Form.definition ∈ order := perm.mem_iff.2 (by decide)
  obtain ⟨front, back, split, -, earlier⟩ := classifyIn_spec total "A"
  have constant : classify "A" = some .constant := by decide
  rw [agrees, constant] at split
  have behind : some Form.definition ∈ back := by
    rw [split, List.mem_append, List.mem_cons] at inOrder
    rcases inOrder with tried | same | later
    · exact absurd (earlier _ tried) (by decide)
    · cases same
    · exact later
  rw [split]
  exact (List.Sublist.cons_cons _ (List.singleton_sublist.2 behind)).trans
    (List.sublist_append_right front _)

/-- **The order of the rules matters for constants and definitions only.** A rule takes a text
exactly when the trimmed text matches its pattern. No text matches two of the patterns of instance
methods, definitions and class methods, none matches both spellings of class methods, and every
constant is a definition. So, with the rule that takes every text last, the rules classify every
text alike in exactly the orders that have constants before definitions. -/
theorem classifyIn_eq_classify_iff :
    (∀ form text, ruleTakes (some form) text = true ↔ trim text.toList ∈ form.pattern) ∧
      (∀ w, ∀ form other : Form, form ≠ .constant → other ≠ .constant → w ∈ form.pattern →
        w ∈ other.pattern → form = other) ∧
      Form.classMethod.pattern = dottedPattern + olderPattern ∧
      (∀ w ∈ dottedPattern, w ∉ olderPattern) ∧
      (∀ w ∈ Form.constant.pattern, w ∈ Form.definition.pattern) ∧
      ∀ order : List (Option Form), order.Perm ruleTable → order.getLast? = some none →
        ((∀ text, classifyIn order text = classify text) ↔
          [some Form.constant, some Form.definition].Sublist order) := by
  refine ⟨fun form text => ruleTakes_iff, ?_, classMethod_pattern, fun w => not_mem_olderPattern,
    fun w => mem_definition_pattern, ?_⟩
  · intro w form other notConstant notConstant' left right
    exact form_eq_of_mem_pattern notConstant notConstant' left right
  · intro order perm last
    constructor
    · intro agrees
      exact before_of_classifyIn perm (agrees "A")
    · intro before text
      exact classifyIn_eq_classify perm last before text

/-- Class methods may be tried first and instance methods between constants and definitions. -/
theorem classifyIn_eq_classify_iff_reordered :
    [some Form.classMethod, some .constant, some .instanceMethod, some .definition, none].Perm
        ruleTable ∧
      ∀ text, classifyIn [some .classMethod, some .constant, some .instanceMethod,
        some .definition, none] text = classify text := by
  have perm : [some Form.classMethod, some .constant, some .instanceMethod, some .definition,
      none].Perm ruleTable := by decide
  exact ⟨perm, (classifyIn_eq_classify_iff.2.2.2.2.2 _ perm rfl).2 (by decide)⟩

end Crosslink.Reference
