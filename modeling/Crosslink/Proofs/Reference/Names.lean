/-
# Crosslink.Proofs.Reference.Names — segments, paths and method names

No name holds a separator: segments and method names have no `:`, `#` or `.`,
and paths no `#` or `.` (`IsBare`, `isBare_of_isSegment`,
`isBare_of_isMethodName`, `IsSpace.not_mem`). A space is what may stand before
a name: nothing or a path. Spaces are closed under `within`
(`IsSpace.within`).
-/
import Mathlib.Data.List.TakeWhile
import Crosslink.Proofs.Text.Split
import Crosslink.Reference.Form

namespace Crosslink.Reference

open Crosslink.Text

set_option autoImplicit false

/-! ## Characters -/

/-- The characters that end a name. -/
def separators : List Char := [':', '#', '.']

/-- A text without separators. -/
def IsBare (cs : List Char) : Prop := ∀ c ∈ cs, c ∉ separators

theorem not_mem_separators_of_isWordChar {c : Char} (word : isWordChar c = true) :
    c ∉ separators := by
  intro member
  simp only [separators, List.mem_cons, List.not_mem_nil, or_false] at member
  rcases member with rfl | rfl | rfl <;> exact absurd word (by decide)

theorem not_mem_separators_of_isUpper {c : Char} (upper : c.isUpper = true) : c ∉ separators := by
  intro member
  simp only [separators, List.mem_cons, List.not_mem_nil, or_false] at member
  rcases member with rfl | rfl | rfl <;> exact absurd upper (by decide)

theorem val_le_of_isUpper {c : Char} (upper : c.isUpper = true) : c.toNat ≤ 'Z'.toNat :=
  UInt32.le_iff_toNat_le.1 (of_decide_eq_true upper).2

theorem val_le_of_isDigit {c : Char} (digit : c.isDigit = true) : c.toNat ≤ '9'.toNat :=
  UInt32.le_iff_toNat_le.1 (of_decide_eq_true (Bool.and_eq_true_iff.1 digit).2)

theorem not_isLower_of_isUpper {c : Char} (upper : c.isUpper = true) : c.isLower = false := by
  cases lower : c.isLower with
  | false => rfl
  | true =>
      have high := val_le_of_isUpper upper
      have low : 'a'.toNat ≤ c.toNat :=
        UInt32.le_iff_toNat_le.1 (of_decide_eq_true (Bool.and_eq_true_iff.1 lower).1)
      have apart : 'Z'.toNat < 'a'.toNat := by decide
      omega

/-- The characters of constants are word characters. -/
theorem isWordChar_of_constant {c : Char}
    (constant : (c.isUpper || c.isDigit || c == '_') = true) : isWordChar c = true := by
  have low : '_'.toNat = 95 ∧ 'Z'.toNat = 90 ∧ '9'.toNat = 57 := by decide
  rw [isWordChar, CodePoints.decides]
  simp only [Bool.or_eq_true, beq_iff_eq] at constant
  rcases constant with (upper | digit) | rfl
  · have ascii : c.toNat < 128 := by
      have := val_le_of_isUpper upper
      omega
    have letter : c.isAlphanum = true := by
      change ((c.isUpper || c.isLower) || c.isDigit) = true
      rw [upper]
      rfl
    rw [if_pos ascii, letter]
    rfl
  · have ascii : c.toNat < 128 := by
      have := val_le_of_isDigit digit
      omega
    have letter : c.isAlphanum = true := by
      change (c.isAlpha || c.isDigit) = true
      rw [digit, Bool.or_true]
    rw [if_pos ascii, letter]
    rfl
  · rfl

theorem isBare_of_isSegment {s : List Char} (segment : isSegment s = true) : IsBare s := by
  cases s with
  | nil => cases segment
  | cons c cs =>
      simp only [isSegment, Bool.and_eq_true, List.all_eq_true] at segment
      intro d member
      rcases List.mem_cons.1 member with rfl | inRest
      · exact not_mem_separators_of_isUpper segment.1
      · exact not_mem_separators_of_isWordChar (segment.2 d inRest)

theorem isSegment_of_isConstantName {s : List Char} (constant : isConstantName s = true) :
    isSegment s = true := by
  cases s with
  | nil => cases constant
  | cons c cs =>
      simp only [isConstantName, Bool.and_eq_true, List.all_eq_true] at constant
      simp only [isSegment, Bool.and_eq_true, List.all_eq_true]
      exact ⟨constant.1, fun d member => isWordChar_of_constant (constant.2 d member)⟩

theorem isBare_of_isMethodName {m : List Char} (method : isMethodName m = true) : IsBare m := by
  cases m with
  | nil => cases method
  | cons c cs =>
      simp only [isMethodName, Bool.and_eq_true] at method
      obtain ⟨first, ending⟩ := method
      have split : cs = cs.takeWhile isWordChar ++ cs.dropWhile isWordChar :=
        (List.takeWhile_append_dropWhile).symm
      intro d member
      rcases List.mem_cons.1 member with rfl | inRest
      · intro separator
        simp only [separators, List.mem_cons, List.not_mem_nil, or_false] at separator
        rcases separator with rfl | rfl | rfl <;> exact absurd first (by decide)
      · rw [split, List.mem_append] at inRest
        rcases inRest with inWord | inEnding
        · exact not_mem_separators_of_isWordChar (List.mem_takeWhile_imp inWord)
        · split at ending
          · rename_i none_
            simp [none_] at inEnding
          · rename_i e one
            obtain rfl : d = e := by simpa [one] using inEnding
            intro separator
            simp only [separators, List.mem_cons, List.not_mem_nil, or_false] at separator
            rcases separator with rfl | rfl | rfl <;> exact absurd ending (by decide)
          · cases ending

/-! ## Paths -/

theorem isPath_iff {cs : List Char} : isPath cs = true ↔
    ∃ ss, ss ≠ [] ∧ (∀ s ∈ ss, isSegment s = true) ∧ joinSegments ss = cs := by
  constructor
  · intro path
    exact ⟨segments cs, segments_ne_nil cs, List.all_eq_true.1 path, joinSegments_segments cs⟩
  · rintro ⟨ss, nonempty, all, rfl⟩
    have absent : ∀ s ∈ ss, ':' ∉ s := fun s member colon =>
      isBare_of_isSegment (all s member) ':' colon (by decide)
    rw [isPath, segments_joinSegments nonempty absent, List.all_eq_true]
    exact all

theorem isPath_of_isSegment {s : List Char} (segment : isSegment s = true) : isPath s = true :=
  isPath_iff.2 ⟨[s], by simp, by simpa using segment, rfl⟩

theorem isPath_append {cs ds : List Char} (left : isPath cs = true) (right : isPath ds = true) :
    isPath (cs ++ scopeMark ++ ds) = true := by
  obtain ⟨ss, ssNonempty, ssAll, rfl⟩ := isPath_iff.1 left
  obtain ⟨ts, tsNonempty, tsAll, rfl⟩ := isPath_iff.1 right
  refine isPath_iff.2 ⟨ss ++ ts, by simp [ssNonempty], ?_, joinSegments_append ssNonempty tsNonempty⟩
  intro s member
  rcases List.mem_append.1 member with inLeft | inRight
  · exact ssAll s inLeft
  · exact tsAll s inRight

/-- A path starts with a capital letter. -/
theorem head_of_isPath {cs : List Char} (path : isPath cs = true) :
    ∃ c rest, cs = c :: rest ∧ c.isUpper = true := by
  obtain ⟨ss, nonempty, all, rfl⟩ := isPath_iff.1 path
  obtain ⟨s, ss, rfl⟩ := List.exists_cons_of_ne_nil nonempty
  have segment := all s (by simp)
  cases s with
  | nil => cases segment
  | cons c s =>
      simp only [isSegment, Bool.and_eq_true] at segment
      cases ss with
      | nil => exact ⟨c, s, rfl, segment.1⟩
      | cons t ss => exact ⟨c, _, rfl, segment.1⟩

theorem mem_joinSegments {ss : List (List Char)} {c : Char} (member : c ∈ joinSegments ss) :
    c = ':' ∨ ∃ s ∈ ss, c ∈ s := by
  induction ss with
  | nil => cases member
  | cons s ss ih =>
      cases ss with
      | nil => exact .inr ⟨s, by simp, member⟩
      | cons t ss =>
          rw [joinSegments, List.mem_append, List.mem_append] at member
          rcases member with (inHead | inMark) | inRest
          · exact .inr ⟨s, by simp, inHead⟩
          · exact .inl (by simpa [scopeMark] using inMark)
          · rcases ih inRest with colon | ⟨u, inSegments, inText⟩
            · exact .inl colon
            · exact .inr ⟨u, by simp [inSegments], inText⟩

/-! ## Spaces -/

/-- What may stand before a name: nothing, or a path. -/
def IsSpace (cs : List Char) : Prop := cs = [] ∨ isPath cs = true

/-- `inner` below `outer`; either may be missing. -/
def within (outer inner : List Char) : List Char :=
  if outer = [] then inner
  else if inner = [] then outer
  else outer ++ scopeMark ++ inner

@[simp] theorem within_nil_left (inner : List Char) : within [] inner = inner := by
  simp [within]

@[simp] theorem within_nil_right (outer : List Char) : within outer [] = outer := by
  by_cases empty : outer = []
  · simp [within, empty]
  · simp [within, empty]

theorem within_eq {outer inner : List Char} (left : outer ≠ []) (right : inner ≠ []) :
    within outer inner = outer ++ scopeMark ++ inner := by
  simp [within, left, right]

theorem within_eq_nil_iff {outer inner : List Char} :
    within outer inner = [] ↔ outer = [] ∧ inner = [] := by
  by_cases left : outer = []
  · simp [left]
  · by_cases right : inner = []
    · simp [left, right]
    · simp [within_eq left right, left]

theorem within_assoc (as bs cs : List Char) :
    within (within as bs) cs = within as (within bs cs) := by
  by_cases first : as = []
  · simp [first]
  by_cases second : bs = []
  · simp [second]
  by_cases third : cs = []
  · simp [third]
  have front : within as bs ≠ [] := fun empty => first (within_eq_nil_iff.1 empty).1
  have back : within bs cs ≠ [] := fun empty => second (within_eq_nil_iff.1 empty).1
  rw [within_eq front third, within_eq first back, within_eq first second, within_eq second third]
  simp

theorem mem_within {outer inner : List Char} {c : Char} (member : c ∈ within outer inner) :
    c ∈ outer ∨ c = ':' ∨ c ∈ inner := by
  by_cases left : outer = []
  · exact .inr (.inr (by simpa [left] using member))
  by_cases right : inner = []
  · exact .inl (by simpa [right] using member)
  simpa [within_eq left right, scopeMark] using member

theorem IsSpace.within {outer inner : List Char} (left : IsSpace outer) (right : IsSpace inner) :
    IsSpace (within outer inner) := by
  rcases left with rfl | left
  · simpa using right
  · rcases right with rfl | right
    · rw [within_nil_right]
      exact .inr left
    · obtain ⟨c, cs, rfl, -⟩ := head_of_isPath left
      obtain ⟨d, ds, rfl, -⟩ := head_of_isPath right
      rw [within_eq (by simp) (by simp)]
      exact .inr (isPath_append left right)

/-- A space holds no separator but the colons of its marks. -/
theorem IsSpace.not_mem {cs : List Char} (space : IsSpace cs) {c : Char} (separator : c ∈ separators)
    (notColon : c ≠ ':') : c ∉ cs := by
  rcases space with rfl | path
  · simp
  · obtain ⟨ss, -, all, rfl⟩ := isPath_iff.1 path
    intro member
    rcases mem_joinSegments member with colon | ⟨s, inSegments, inText⟩
    · exact notColon colon
    · exact isBare_of_isSegment (all s inSegments) c inText separator

theorem IsSpace.head {cs : List Char} (space : IsSpace cs) : cs.head? ≠ some ':' := by
  rcases space with rfl | path
  · simp
  · obtain ⟨c, rest, rfl, upper⟩ := head_of_isPath path
    intro colon
    have : c = ':' := by simpa using colon
    exact not_mem_separators_of_isUpper upper (by simp [this, separators])

/-- Segments with another kind of name behind them. -/
theorem within_of_segments {isLast : List Char → Bool} (solid : isLast [] = false) {cs : List Char}
    (front : (segments cs).dropLast.all isSegment = true)
    (back : (segments cs).getLast?.any isLast = true) :
    ∃ space name, IsSpace space ∧ isLast name = true ∧ cs = within space name := by
  rcases List.eq_nil_or_concat (segments cs) with none_ | ⟨init, name, eq⟩
  · exact absurd none_ (segments_ne_nil cs)
  · have last : isLast name = true := by simpa [eq] using back
    have segments_ : ∀ s ∈ init, isSegment s = true := by simpa [eq] using front
    have nonempty : name ≠ [] := by
      rintro rfl
      rw [solid] at last
      cases last
    have whole : cs = joinSegments (init ++ [name]) := by
      rw [← joinSegments_segments cs, eq, List.concat_eq_append]
    by_cases top : init = []
    · subst top
      exact ⟨[], name, .inl rfl, last, by simpa [joinSegments] using whole⟩
    · have path : isPath (joinSegments init) = true := isPath_iff.2 ⟨init, top, segments_, rfl⟩
      obtain ⟨c, rest, start, -⟩ := head_of_isPath path
      refine ⟨joinSegments init, name, .inr path, last, ?_⟩
      rw [within_eq (by simp [start]) nonempty, whole, joinSegments_append top (by simp)]
      rfl

/-- The last segment of a path. -/
theorem within_of_isPath {cs : List Char} (path : isPath cs = true) :
    ∃ space name, IsSpace space ∧ isSegment name = true ∧ cs = within space name := by
  have all : ∀ s ∈ segments cs, isSegment s = true := List.all_eq_true.1 path
  refine within_of_segments rfl ?_ ?_
  · exact List.all_eq_true.2 fun s member => all s (List.dropLast_subset _ member)
  · obtain ⟨s, last⟩ := Option.ne_none_iff_exists'.1 (mt List.getLast?_eq_none_iff.1 (segments_ne_nil cs))
    simp [last, all s (List.mem_of_getLast? last)]

/-- An owner is a space, or a path with a `::` in front. -/
theorem eq_of_isOwner {owner : List Char} (isOwner : isOwner owner = true) :
    ∃ space, IsSpace space ∧ (owner = space ∨ space ≠ [] ∧ owner = scopeMark ++ space) := by
  simp only [Reference.isOwner, Bool.or_eq_true, List.isEmpty_iff] at isOwner
  rcases isOwner with rfl | path
  · exact ⟨[], .inl rfl, .inl rfl⟩
  · refine ⟨dropScopeMark owner, .inr path, ?_⟩
    by_cases marked : scopeMark <+: owner
    · obtain ⟨space, rfl⟩ := marked
      rw [dropScopeMark_append] at path ⊢
      obtain ⟨c, rest, rfl, -⟩ := head_of_isPath path
      exact .inr ⟨by simp, rfl⟩
    · exact .inl (dropScopeMark_eq_self marked).symm

end Crosslink.Reference
