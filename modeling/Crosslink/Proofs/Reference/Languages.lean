/-
# Crosslink.Proofs.Reference.Languages — the languages of references

The patterns of reference texts as regular languages, piece by piece as they are
usually written: `[A-Z]\w*` is a capital letter and then any number of word
characters, and so on. `Form.pattern` is the language of a form, with its final
full stop.

The reader of references never searches: it cuts a text at the only place where
a separator can stand. Each of its predicates decides the language of its piece
(`mem_segmentTexts`, `mem_paths`, `mem_methodNames`, `mem_owners`), hence each
form its pattern (`mem_pattern_iff`), since no text of a form ends in a full
stop of its own.

Main theorem: `classify_decides_patterns`.
-/
import Mathlib.Computability.Language
import Crosslink.Proofs.Reference.Reading
import Crosslink.Proofs.Text.Trim

namespace Crosslink.Reference

open Crosslink.Text
open scoped Computability

set_option autoImplicit false

/-! ## Patterns -/

/-- One character of a class. -/
def oneOf (p : Char → Prop) : Language Char := {w | ∃ c, p c ∧ w = [c]}

/-- This text and no other. -/
def exactly (cs : List Char) : Language Char := {w | w = cs}

def optional (l : Language Char) : Language Char := 1 + l

/-- `[A-Z]` -/
def capitals : Language Char := oneOf fun c => 'A' ≤ c ∧ c ≤ 'Z'

/-- `\w*` -/
def words : Language Char := (oneOf fun c => isWordChar c = true)∗

/-- `[A-Z]\w*` -/
def segmentTexts : Language Char := capitals * words

/-- `[A-Z]\w*(::[A-Z]\w*)*` -/
def paths : Language Char := segmentTexts * (exactly scopeMark * segmentTexts)∗

/-- `[A-Z][A-Z0-9_]*` -/
def constantNames : Language Char :=
  capitals * (oneOf fun c => ('A' ≤ c ∧ c ≤ 'Z') ∨ ('0' ≤ c ∧ c ≤ '9') ∨ c = '_')∗

/-- `[a-z_]\w*[=?!]?` -/
def methodNames : Language Char :=
  (oneOf fun c => ('a' ≤ c ∧ c ≤ 'z') ∨ c = '_') * words *
    optional (oneOf fun c => c = '=' ∨ c = '?' ∨ c = '!')

/-- `((::)?path)?` -/
def owners : Language Char := optional (optional (exactly scopeMark) * paths)

/-- The texts of a form without a final full stop. -/
def Form.bodies : Form → Language Char
  | .instanceMethod => owners * exactly ['#'] * methodNames
  | .constant =>
      optional (exactly scopeMark) * ((segmentTexts * exactly scopeMark)∗ * constantNames)
  | .definition => optional (exactly scopeMark) * paths
  | .classMethod =>
      optional (exactly scopeMark) * optional paths * exactly ['.'] * methodNames +
        owners * exactly scopeMark * methodNames

/-- The texts of a form. -/
def Form.pattern (form : Form) : Language Char := form.bodies * optional (exactly ['.'])

/-! ## Members of combined languages -/

theorem mem_optional {l : Language Char} {w : List Char} : w ∈ optional l ↔ w = [] ∨ w ∈ l := by
  rw [optional, Language.mem_add, Language.mem_one]

theorem mem_oneOf_mul {p : Char → Prop} {l : Language Char} {w : List Char} :
    w ∈ oneOf p * l ↔ ∃ c cs, w = c :: cs ∧ p c ∧ cs ∈ l := by
  rw [Language.mem_mul]
  constructor
  · rintro ⟨_, ⟨c, holds, rfl⟩, cs, member, rfl⟩
    exact ⟨c, cs, rfl, holds, member⟩
  · rintro ⟨c, cs, rfl, holds, member⟩
    exact ⟨[c], ⟨c, holds, rfl⟩, cs, member, rfl⟩

theorem mem_kstar_oneOf {p : Char → Prop} {w : List Char} : w ∈ (oneOf p)∗ ↔ ∀ c ∈ w, p c := by
  rw [Language.mem_kstar]
  constructor
  · rintro ⟨parts, rfl, each⟩ c member
    obtain ⟨part, inParts, inPart⟩ := List.mem_flatten.1 member
    obtain ⟨d, holds, rfl⟩ := each part inParts
    rwa [List.mem_singleton.1 inPart]
  · intro holds
    refine ⟨w.map fun c => [c], (List.flatMap_singleton' w).symm, fun part member => ?_⟩
    obtain ⟨c, inText, rfl⟩ := List.mem_map.1 member
    exact ⟨c, holds c inText, rfl⟩

/-- Repetitions of a text that is made out of a member of `l`. -/
theorem mem_kstar_image {l m : Language Char} {f : List Char → List Char}
    (image : ∀ w, w ∈ m ↔ ∃ t ∈ l, w = f t) {w : List Char} :
    w ∈ m∗ ↔ ∃ ts : List (List Char), (∀ t ∈ ts, t ∈ l) ∧ w = ts.flatMap f := by
  rw [Language.mem_kstar]
  constructor
  · rintro ⟨parts, rfl, each⟩
    induction parts with
    | nil => exact ⟨[], by simp, rfl⟩
    | cons part parts ih =>
        obtain ⟨ts, members, rest⟩ := ih fun y member => each y (by simp [member])
        obtain ⟨t, member, rfl⟩ := (image part).1 (each part (by simp))
        exact ⟨t :: ts, by simpa [member] using members, by simp [rest]⟩
  · rintro ⟨ts, members, rfl⟩
    refine ⟨ts.map f, by simp [List.flatMap], fun part inParts => ?_⟩
    obtain ⟨t, inTexts, rfl⟩ := List.mem_map.1 inParts
    exact (image _).2 ⟨t, members t inTexts, rfl⟩

theorem mem_exactly_mul {l : Language Char} {mark w : List Char} :
    w ∈ exactly mark * l ↔ ∃ t ∈ l, w = mark ++ t := by
  rw [Language.mem_mul]
  constructor
  · rintro ⟨_, rfl, t, member, rfl⟩
    exact ⟨t, member, rfl⟩
  · rintro ⟨t, member, rfl⟩
    exact ⟨mark, rfl, t, member, rfl⟩

theorem mem_mul_exactly {l : Language Char} {mark w : List Char} :
    w ∈ l * exactly mark ↔ ∃ t ∈ l, w = t ++ mark := by
  rw [Language.mem_mul]
  constructor
  · rintro ⟨t, member, _, rfl, rfl⟩
    exact ⟨t, member, rfl⟩
  · rintro ⟨t, member, rfl⟩
    exact ⟨t, member, mark, rfl, rfl⟩

/-- Two languages around a separator. -/
theorem mem_mul_exactly_mul {l m : Language Char} {mark w : List Char} :
    w ∈ l * exactly mark * m ↔ ∃ a b, w = a ++ mark ++ b ∧ a ∈ l ∧ b ∈ m := by
  rw [Language.mem_mul]
  constructor
  · rintro ⟨_, front, b, inBack, rfl⟩
    obtain ⟨a, inFront, rfl⟩ := mem_mul_exactly.1 front
    exact ⟨a, b, rfl, inFront, inBack⟩
  · rintro ⟨a, b, rfl, inFront, inBack⟩
    exact ⟨a ++ mark, mem_mul_exactly.2 ⟨a, inFront, rfl⟩, b, inBack, rfl⟩

/-- A mark that may stand in front, where no text starts with a mark of its own. -/
theorem mem_optional_mark_mul {l : Language Char} (unmarked : ∀ w ∈ l, ¬ scopeMark <+: w)
    {w : List Char} : w ∈ optional (exactly scopeMark) * l ↔ dropScopeMark w ∈ l := by
  rw [Language.mem_mul]
  constructor
  · rintro ⟨a, front, b, member, rfl⟩
    rcases mem_optional.1 front with rfl | rfl
    · rwa [List.nil_append, dropScopeMark_eq_self (unmarked b member)]
    · rwa [dropScopeMark_append]
  · intro member
    rcases eq_dropScopeMark w with same | marked
    · exact ⟨[], mem_optional.2 (.inl rfl), _, member, same.symm⟩
    · exact ⟨scopeMark, mem_optional.2 (.inr rfl), _, member, marked.symm⟩

/-- A full stop that may stand at the end, where no text ends in a full stop of its own. -/
theorem mem_mul_optional_stop {l : Language Char} (open_ : ∀ w ∈ l, w.getLast? ≠ some '.')
    {w : List Char} : w ∈ l * optional (exactly ['.']) ↔ dropFullStop w ∈ l := by
  rw [Language.mem_mul]
  constructor
  · rintro ⟨a, member, b, back, rfl⟩
    rcases mem_optional.1 back with rfl | rfl
    · rwa [List.append_nil, dropFullStop_eq_self (open_ a member)]
    · rwa [dropFullStop_append]
  · intro member
    rcases eq_dropFullStop w with same | stopped
    · exact ⟨_, member, [], mem_optional.2 (.inl rfl), by simpa using same.symm⟩
    · exact ⟨_, member, ['.'], mem_optional.2 (.inr rfl), stopped.symm⟩

/-! ## Names -/

theorem isUpper_iff {c : Char} : c.isUpper = true ↔ 'A' ≤ c ∧ c ≤ 'Z' := by
  show decide ('A'.val ≤ c.val ∧ c.val ≤ 'Z'.val) = true ↔ _
  exact decide_eq_true_iff

theorem isLower_iff {c : Char} : c.isLower = true ↔ 'a' ≤ c ∧ c ≤ 'z' := by
  show (decide ('a'.val ≤ c.val) && decide (c.val ≤ 'z'.val)) = true ↔ _
  rw [Bool.and_eq_true, decide_eq_true_iff, decide_eq_true_iff]
  exact Iff.rfl

theorem isDigit_iff {c : Char} : c.isDigit = true ↔ '0' ≤ c ∧ c ≤ '9' := by
  show (decide ('0'.val ≤ c.val) && decide (c.val ≤ '9'.val)) = true ↔ _
  rw [Bool.and_eq_true, decide_eq_true_iff, decide_eq_true_iff]
  exact Iff.rfl

theorem mem_segmentTexts {w : List Char} : w ∈ segmentTexts ↔ isSegment w = true := by
  rw [segmentTexts, capitals, mem_oneOf_mul]
  constructor
  · rintro ⟨c, cs, rfl, upper, rest⟩
    rw [isSegment, isUpper_iff.2 upper, Bool.true_and, List.all_eq_true]
    exact mem_kstar_oneOf.1 rest
  · intro segment
    cases w with
    | nil => cases segment
    | cons c cs =>
        simp only [isSegment, Bool.and_eq_true, List.all_eq_true] at segment
        exact ⟨c, cs, rfl, isUpper_iff.1 segment.1, mem_kstar_oneOf.2 segment.2⟩

theorem mem_constantNames {w : List Char} : w ∈ constantNames ↔ isConstantName w = true := by
  have letter : ∀ c : Char, (c.isUpper || c.isDigit || c == '_') = true ↔
      ('A' ≤ c ∧ c ≤ 'Z') ∨ ('0' ≤ c ∧ c ≤ '9') ∨ c = '_' := by
    intro c
    simp only [Bool.or_eq_true, beq_iff_eq, isUpper_iff, isDigit_iff, or_assoc]
  rw [constantNames, capitals, mem_oneOf_mul]
  constructor
  · rintro ⟨c, cs, rfl, upper, rest⟩
    rw [isConstantName, isUpper_iff.2 upper, Bool.true_and, List.all_eq_true]
    exact fun d member => (letter d).2 (mem_kstar_oneOf.1 rest d member)
  · intro constant
    cases w with
    | nil => cases constant
    | cons c cs =>
        simp only [isConstantName, Bool.and_eq_true, List.all_eq_true] at constant
        refine ⟨c, cs, rfl, isUpper_iff.1 constant.1, mem_kstar_oneOf.2 fun d member => ?_⟩
        exact (letter d).1 (constant.2 d member)

/-- Word characters, and then at most one of the endings. -/
theorem mem_words_mul_ending {cs : List Char} :
    cs ∈ words * optional (oneOf fun c => c = '=' ∨ c = '?' ∨ c = '!') ↔
      cs.dropWhile isWordChar = [] ∨
        ∃ d, cs.dropWhile isWordChar = [d] ∧ (d = '=' ∨ d = '?' ∨ d = '!') := by
  rw [Language.mem_mul]
  constructor
  · rintro ⟨a, inWords, b, ending, rfl⟩
    rw [List.dropWhile_append_of_pos (mem_kstar_oneOf.1 inWords)]
    rcases mem_optional.1 ending with rfl | ⟨d, isEnding, rfl⟩
    · exact .inl rfl
    · have notWord : isWordChar d = false := by
        rcases isEnding with rfl | rfl | rfl <;> decide
      exact .inr ⟨d, by simp [notWord], isEnding⟩
  · intro rest
    refine ⟨cs.takeWhile isWordChar, mem_kstar_oneOf.2 fun c member => List.mem_takeWhile_imp member,
      cs.dropWhile isWordChar, ?_, List.takeWhile_append_dropWhile⟩
    rcases rest with none_ | ⟨d, one, isEnding⟩
    · exact mem_optional.2 (.inl none_)
    · exact mem_optional.2 (.inr ⟨d, isEnding, one⟩)

theorem mem_methodNames {w : List Char} : w ∈ methodNames ↔ isMethodName w = true := by
  rw [methodNames, mul_assoc, mem_oneOf_mul]
  cases w with
  | nil => simp [isMethodName]
  | cons c cs =>
      simp only [List.cons.injEq, isMethodName, Bool.and_eq_true, Bool.or_eq_true, beq_iff_eq,
        isLower_iff]
      constructor
      · rintro ⟨d, ds, ⟨rfl, rfl⟩, first, rest⟩
        refine ⟨first, ?_⟩
        rcases mem_words_mul_ending.1 rest with none_ | ⟨e, one, ending⟩
        · rw [none_]
        · rw [one]
          simpa [or_assoc] using ending
      · rintro ⟨first, rest⟩
        refine ⟨c, cs, ⟨rfl, rfl⟩, first, mem_words_mul_ending.2 ?_⟩
        split at rest
        · exact .inl ‹_›
        · rename_i d one
          exact .inr ⟨d, one, by simpa [or_assoc] using rest⟩
        · cases rest

/-! ## Paths and owners -/

theorem mem_paths {w : List Char} : w ∈ paths ↔ isPath w = true := by
  rw [paths, Language.mem_mul, isPath_iff]
  constructor
  · rintro ⟨s, first, _, rest, rfl⟩
    obtain ⟨ts, members, rfl⟩ := (mem_kstar_image fun _ => mem_exactly_mul).1 rest
    refine ⟨s :: ts, by simp, ?_, joinSegments_cons s ts⟩
    intro t member
    rcases List.mem_cons.1 member with rfl | inRest
    · exact mem_segmentTexts.1 first
    · exact mem_segmentTexts.1 (members t inRest)
  · rintro ⟨ss, nonempty, all, rfl⟩
    obtain ⟨s, ts, rfl⟩ := List.exists_cons_of_ne_nil nonempty
    refine ⟨s, mem_segmentTexts.2 (all s (by simp)), ts.flatMap (scopeMark ++ ·), ?_,
      (joinSegments_cons s ts).symm⟩
    exact (mem_kstar_image fun _ => mem_exactly_mul).2 ⟨ts, fun t member => mem_segmentTexts.2 (all t (by simp [member])), rfl⟩

theorem unmarked_of_mem_paths {w : List Char} (path : w ∈ paths) : ¬ scopeMark <+: w :=
  not_scopeMark_isPrefix (IsSpace.head (.inr (mem_paths.1 path)))

theorem mem_owners {w : List Char} : w ∈ owners ↔ isOwner w = true := by
  rw [owners, mem_optional, mem_optional_mark_mul fun v => unmarked_of_mem_paths, mem_paths, isOwner,
    Bool.or_eq_true, List.isEmpty_iff]

/-- Before a dot, a mark may stand without a path. -/
theorem mem_dottedOwners {w : List Char} : w ∈ optional (exactly scopeMark) * optional paths ↔
    (isOwner w || w == scopeMark) = true := by
  have unmarked : ∀ v ∈ optional paths, ¬ scopeMark <+: v := by
    intro v member
    rcases mem_optional.1 member with rfl | path
    · decide
    · exact unmarked_of_mem_paths path
  rw [mem_optional_mark_mul unmarked, mem_optional, mem_paths, isOwner]
  simp only [Bool.or_eq_true, List.isEmpty_iff, beq_iff_eq]
  constructor
  · rintro (none_ | path)
    · rcases eq_dropScopeMark w with same | marked
      · exact .inl (.inl (same.trans none_))
      · exact .inr (by rw [marked, none_, List.append_nil])
    · exact .inl (.inr path)
  · rintro ((rfl | path) | rfl)
    · exact .inl rfl
    · exact .inr path
    · exact .inl rfl

/-- A path with a constant at its end. -/
theorem mem_constantPaths {w : List Char} :
    w ∈ (segmentTexts * exactly scopeMark)∗ * constantNames ↔
      ((segments w).dropLast.all isSegment && (segments w).getLast?.any isConstantName) = true := by
  rw [Language.mem_mul, Bool.and_eq_true, List.all_eq_true]
  constructor
  · rintro ⟨_, front, name, last, rfl⟩
    obtain ⟨ts, members, rfl⟩ := (mem_kstar_image fun _ => mem_mul_exactly).1 front
    have constant := mem_constantNames.1 last
    have bare : ∀ t ∈ ts ++ [name], ':' ∉ t := by
      intro t member colon
      rcases List.mem_append.1 member with inFront | isLast
      · exact isBare_of_isSegment (mem_segmentTexts.1 (members t inFront)) ':' colon (by decide)
      · obtain rfl := List.mem_singleton.1 isLast
        exact isBare_of_isSegment (isSegment_of_isConstantName constant) ':' colon (by decide)
    rw [← joinSegments_concat, segments_joinSegments (by simp) bare]
    refine ⟨fun t member => ?_, by simpa using constant⟩
    exact mem_segmentTexts.1 (members t (by simpa using member))
  · rintro ⟨front, last⟩
    rcases List.eq_nil_or_concat (segments w) with none_ | ⟨ts, name, eq⟩
    · exact absurd none_ (segments_ne_nil w)
    · rw [List.concat_eq_append] at eq
      rw [eq] at front last
      refine ⟨ts.flatMap (· ++ scopeMark), ?_, name, mem_constantNames.2 (by simpa using last), ?_⟩
      · exact (mem_kstar_image fun _ => mem_mul_exactly).2
          ⟨ts, fun t member => mem_segmentTexts.2 (front t (by simpa using member)), rfl⟩
      · rw [← joinSegments_concat, ← eq, joinSegments_segments]

/-! ## Bodies -/

theorem not_mem_of_isOwner {owner : List Char} (isOwner : isOwner owner = true) {c : Char}
    (separator : c ∈ separators) (notColon : c ≠ ':') : c ∉ owner := by
  obtain ⟨space, isSpace, rfl | ⟨-, rfl⟩⟩ := eq_of_isOwner isOwner
  · exact isSpace.not_mem separator notColon
  · simp [scopeMark, notColon, isSpace.not_mem separator notColon]

/-- A method behind the first `c`, where `c` does not stand in what is before it. -/
theorem mem_mul_char_mul_methodNames {l : Language Char} {isFront : List Char → Bool}
    (decides : ∀ v, v ∈ l ↔ isFront v = true) {c : Char} (absent : ∀ v ∈ l, c ∉ v) {w : List Char} :
    w ∈ l * exactly [c] * methodNames ↔
      (match cutFirst [c] w with
        | some (owner, method) => isFront owner && isMethodName method
        | none => false) = true := by
  rw [mem_mul_exactly_mul]
  constructor
  · rintro ⟨owner, method, rfl, isOwner, isMethod⟩
    rw [List.append_assoc, List.singleton_append, cutFirst_char (absent owner isOwner)]
    simp only [(decides owner).1 isOwner, mem_methodNames.1 isMethod, Bool.and_self]
  · intro method
    split at method
    · rename_i owner name cut
      rw [Bool.and_eq_true] at method
      exact ⟨owner, name, eq_of_cutFirst cut, (decides owner).2 method.1, mem_methodNames.2 method.2⟩
    · cases method

theorem mem_instanceMethods {w : List Char} :
    w ∈ owners * exactly ['#'] * methodNames ↔ isInstanceMethod w = true :=
  mem_mul_char_mul_methodNames (fun _ => mem_owners) fun _ isOwner =>
    not_mem_of_isOwner (mem_owners.1 isOwner) (by decide) (by decide)

theorem mem_dottedMethods {w : List Char} :
    w ∈ optional (exactly scopeMark) * optional paths * exactly ['.'] * methodNames ↔
      isDottedMethod w = true := by
  refine mem_mul_char_mul_methodNames (fun _ => mem_dottedOwners) fun v isOwner => ?_
  rcases Bool.or_eq_true_iff.1 (mem_dottedOwners.1 isOwner) with proper | mark
  · exact not_mem_of_isOwner proper (by decide) (by decide)
  · rw [beq_iff_eq.1 mark]
    decide

theorem mem_scopedMethods {w : List Char} :
    w ∈ owners * exactly scopeMark * methodNames ↔ isScopedMethod w = true := by
  rw [mem_mul_exactly_mul, isScopedMethod]
  constructor
  · rintro ⟨owner, method, rfl, isOwner, isMethod⟩
    have named := mem_methodNames.1 isMethod
    have noColon : ':' ∉ method := fun colon => isBare_of_isMethodName named ':' colon (by decide)
    rw [cutLast_scopeMark noColon]
    simp only [mem_owners.1 isOwner, named, Bool.and_self]
  · intro method
    split at method
    · rename_i owner name cut
      rw [Bool.and_eq_true] at method
      exact ⟨owner, name, eq_of_cutLast cut, mem_owners.2 method.1, mem_methodNames.2 method.2⟩
    · cases method

/-- Each form's predicate decides its bodies. -/
theorem mem_bodies_iff {form : Form} {w : List Char} : w ∈ form.bodies ↔ form.language w = true := by
  cases form with
  | instanceMethod => exact mem_instanceMethods
  | constant =>
      have unmarked : ∀ v ∈ (segmentTexts * exactly scopeMark)∗ * constantNames, ¬ scopeMark <+: v := by
        intro v member
        have parts := Bool.and_eq_true_iff.1 (mem_constantPaths.1 member)
        obtain ⟨space, name, isSpace, isName, rfl⟩ := within_of_segments rfl parts.1 parts.2
        have path := isPath_of_isSegment (isSegment_of_isConstantName isName)
        exact not_scopeMark_isPrefix (isSpace.within (.inr path)).head
      rw [Form.bodies, mem_optional_mark_mul unmarked, mem_constantPaths]
      rfl
  | definition =>
      rw [Form.bodies, mem_optional_mark_mul fun v => unmarked_of_mem_paths, mem_paths]
      rfl
  | classMethod =>
      rw [Form.bodies, Language.mem_add, mem_dottedMethods, mem_scopedMethods, ← Bool.or_eq_true]
      rfl

/-! ## The final full stop -/

/-- A text with a name at its end does not end in a full stop. -/
theorem getLast?_ne_stop_of_mul {l m : Language Char} (names : ∀ w ∈ m, w ≠ [] ∧ '.' ∉ w) {w : List Char}
    (member : w ∈ l * m) : w.getLast? ≠ some '.' := by
  obtain ⟨a, -, b, inBack, rfl⟩ := Language.mem_mul.1 member
  obtain ⟨nonempty, noDot⟩ := names b inBack
  rw [List.getLast?_append_of_ne_nil a nonempty]
  exact fun last => noDot (List.mem_of_getLast? last)

theorem getLast?_ne_stop_of_mem_bodies {form : Form} {w : List Char} (member : w ∈ form.bodies) :
    w.getLast? ≠ some '.' := by
  have methods : ∀ v ∈ methodNames, v ≠ [] ∧ '.' ∉ v := by
    intro v isMethod
    have named := mem_methodNames.1 isMethod
    exact ⟨@Form.ne_nil_of_isFinalName .classMethod v named, fun dot =>
      isBare_of_isMethodName named '.' dot (by decide)⟩
  cases form with
  | instanceMethod => exact getLast?_ne_stop_of_mul methods member
  | constant =>
      rw [Form.bodies, ← mul_assoc] at member
      refine getLast?_ne_stop_of_mul (fun v isConstant => ?_) member
      have named := mem_constantNames.1 isConstant
      exact ⟨@Form.ne_nil_of_isFinalName .constant v named, fun dot =>
        isBare_of_isSegment (isSegment_of_isConstantName named) '.' dot (by decide)⟩
  | definition =>
      refine getLast?_ne_stop_of_mul (fun v isPath => ?_) member
      have path := mem_paths.1 isPath
      obtain ⟨c, cs, rfl, -⟩ := head_of_isPath path
      exact ⟨by simp, IsSpace.not_mem (.inr path) (by decide) (by decide)⟩
  | classMethod =>
      rcases (Language.mem_add _ _ _).1 member with dotted | older
      · exact getLast?_ne_stop_of_mul methods dotted
      · exact getLast?_ne_stop_of_mul methods older

/-- **Each form's predicate, behind the final full stop, decides its pattern.** -/
theorem mem_pattern_iff {form : Form} {w : List Char} :
    w ∈ form.pattern ↔ form.language (dropFullStop w) = true := by
  rw [Form.pattern, mem_mul_optional_stop fun v => getLast?_ne_stop_of_mem_bodies, mem_bodies_iff]

/-! ## Classification -/

/-- A body has the first form whose predicate holds of it. -/
theorem formOf_iff (body : List Char) :
    (formOf body = some .instanceMethod ↔ isInstanceMethod body = true) ∧
      (formOf body = some .constant ↔ ¬ isInstanceMethod body = true ∧ isConstant body = true) ∧
      (formOf body = some .definition ↔ ¬ isInstanceMethod body = true ∧ ¬ isConstant body = true ∧
        isDefinition body = true) ∧
      (formOf body = some .classMethod ↔ ¬ isInstanceMethod body = true ∧
        ¬ isConstant body = true ∧ ¬ isDefinition body = true ∧ isClassMethod body = true) ∧
      (formOf body = none ↔ ∀ form : Form, ¬ form.language body = true) := by
  have each : (∀ form : Form, ¬ form.language body = true) ↔ ¬ isInstanceMethod body = true ∧
      ¬ isConstant body = true ∧ ¬ isDefinition body = true ∧ ¬ isClassMethod body = true := by
    refine ⟨fun none_ => ⟨none_ .instanceMethod, none_ .constant, none_ .definition,
      none_ .classMethod⟩, ?_⟩
    rintro ⟨notInstance, notConstant, notDefinition, notClass⟩ (_ | _ | _ | _) <;> assumption
  rw [each]
  unfold formOf
  cases isInstanceMethod body <;> cases isConstant body <;> cases isDefinition body <;>
    cases isClassMethod body <;> simp

theorem trim_trim (cs : List Char) : trim (trim cs) = trim cs :=
  trim_eq_self_iff.2 (trim_isTrimmed cs)

/-- **References are classified by their patterns.** A text is what the first of the four patterns
that its trimmed text matches says, and unstructured when it matches none; nothing but the trimmed
text matters. -/
theorem classify_decides_patterns (text : String) :
    classify text = classify (String.ofList (trim text.toList)) ∧
      (classify text = some .instanceMethod ↔ trim text.toList ∈ Form.instanceMethod.pattern) ∧
      (classify text = some .constant ↔ trim text.toList ∉ Form.instanceMethod.pattern ∧
        trim text.toList ∈ Form.constant.pattern) ∧
      (classify text = some .definition ↔ trim text.toList ∉ Form.instanceMethod.pattern ∧
        trim text.toList ∉ Form.constant.pattern ∧ trim text.toList ∈ Form.definition.pattern) ∧
      (classify text = some .classMethod ↔ trim text.toList ∉ Form.instanceMethod.pattern ∧
        trim text.toList ∉ Form.constant.pattern ∧ trim text.toList ∉ Form.definition.pattern ∧
        trim text.toList ∈ Form.classMethod.pattern) ∧
      (classify text = none ↔ ∀ form : Form, trim text.toList ∉ form.pattern) := by
  refine ⟨?_, ?_⟩
  · rw [classify, classify, bodyOf, bodyOf, String.toList_ofList, trim_trim]
  · simp only [mem_pattern_iff]
    exact formOf_iff (bodyOf text)

end Crosslink.Reference
