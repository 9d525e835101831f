/-
# Crosslink.Proofs.Text.Trim — trimmed texts

A text is trimmed when no blank stands at either end. Trimming gives a trimmed
text (`trim_isTrimmed`), takes away exactly the blanks around one
(`trim_append`, `exists_blanks_around`), and leaves a text alone exactly when it
is trimmed (`trim_eq_self_iff`).
-/
import Crosslink.Text.Blank

namespace Crosslink.Text

set_option autoImplicit false

/-- No blank stands at either end. -/
structure IsTrimmed (cs : List Char) : Prop where
  front : ∀ c, cs.head? = some c → isBlank c = false
  back : ∀ c, cs.getLast? = some c → isBlank c = false

theorem head_trimLeft {cs : List Char} {c : Char} (head : (trimLeft cs).head? = some c) :
    isBlank c = false := by
  have stopped := List.head?_dropWhile_not isBlank cs
  rw [trimLeft] at head
  simpa [head] using stopped

/-- Trimming the end leaves a front part of the text. -/
theorem exists_trimRight_append (cs : List Char) : ∃ tail, cs = trimRight cs ++ tail := by
  obtain ⟨front, same⟩ := List.dropWhile_suffix (l := cs.reverse) isBlank
  refine ⟨front.reverse, ?_⟩
  have reversed := congrArg List.reverse same
  simpa [trimRight] using reversed.symm

theorem trim_isTrimmed (cs : List Char) : IsTrimmed (trim cs) := by
  refine ⟨fun c head => ?_, fun c last => ?_⟩
  · obtain ⟨rest, eq⟩ := List.head?_eq_some_iff.1 head
    obtain ⟨tail, split⟩ := exists_trimRight_append (trimLeft cs)
    rw [trim] at eq
    exact head_trimLeft (by rw [split, eq]; rfl)
  · rw [trim, trimRight, List.getLast?_reverse] at last
    exact head_trimLeft last

theorem trimLeft_append {gap cs : List Char} (blank : ∀ c ∈ gap, isBlank c = true)
    (front : ∀ c, cs.head? = some c → isBlank c = false) : trimLeft (gap ++ cs) = cs := by
  induction gap with
  | nil =>
      cases cs with
      | nil => rfl
      | cons c cs => simp [trimLeft, front c rfl]
  | cons c gap ih =>
      have rest := ih fun d member => blank d (by simp [member])
      simpa [trimLeft, blank c (by simp)] using rest

theorem trimRight_append {gap cs : List Char} (blank : ∀ c ∈ gap, isBlank c = true)
    (back : ∀ c, cs.getLast? = some c → isBlank c = false) : trimRight (cs ++ gap) = cs := by
  have reversed := @trimLeft_append gap.reverse cs.reverse (by simpa using blank) (by simpa using back)
  rw [← List.reverse_append] at reversed
  have same := congrArg List.reverse reversed
  simpa [trimLeft, trimRight] using same

/-- Trimming takes away the blanks around a text that has none at its ends. -/
theorem trim_append {before cs after : List Char} (blankBefore : ∀ c ∈ before, isBlank c = true)
    (blankAfter : ∀ c ∈ after, isBlank c = true) (trimmed : IsTrimmed cs) (nonempty : cs ≠ []) :
    trim (before ++ cs ++ after) = cs := by
  have front : ∀ c, (cs ++ after).head? = some c → isBlank c = false := by
    intro c head
    obtain ⟨d, ds, rfl⟩ := List.exists_cons_of_ne_nil nonempty
    exact trimmed.front c (by simpa using head)
  rw [trim, List.append_assoc, trimLeft_append blankBefore front,
    trimRight_append blankAfter trimmed.back]

theorem trim_of_blank {cs : List Char} (blank : ∀ c ∈ cs, isBlank c = true) : trim cs = [] := by
  have left := @trimLeft_append cs [] blank (by simp)
  rw [List.append_nil] at left
  rw [trim, left]
  rfl

/-- Nothing but blanks around the text is trimmed away. -/
theorem exists_blanks_around (cs : List Char) :
    ∃ before after, (∀ c ∈ before, isBlank c = true) ∧ (∀ c ∈ after, isBlank c = true) ∧
      cs = before ++ trim cs ++ after := by
  refine ⟨cs.takeWhile isBlank, ((trimLeft cs).reverse.takeWhile isBlank).reverse, ?_, ?_, ?_⟩
  · exact List.all_eq_true.1 List.all_takeWhile
  · intro c member
    exact List.all_eq_true.1 List.all_takeWhile c (List.mem_reverse.1 member)
  · have back : trim cs ++ ((trimLeft cs).reverse.takeWhile isBlank).reverse = trimLeft cs := by
      rw [trim, trimRight, ← List.reverse_append, List.takeWhile_append_dropWhile,
        List.reverse_reverse]
    rw [List.append_assoc, back, trimLeft, List.takeWhile_append_dropWhile]

theorem trim_eq_self_iff {cs : List Char} : trim cs = cs ↔ IsTrimmed cs := by
  constructor
  · intro same
    rw [← same]
    exact trim_isTrimmed cs
  · intro trimmed
    cases cs with
    | nil => rfl
    | cons c cs =>
        have same := @trim_append [] (c :: cs) [] (by simp) (by simp) trimmed (by simp)
        simpa using same

end Crosslink.Text
