/-
# Crosslink.Proofs.Reference.SeeBodies — the body of a see-also comment

A body is a reference and, behind blanks, a text to show, with blanks around
both (`IsSeeBody`). Every body has the parts that `splitSeeBody` cuts out of it
(`exists_isSeeBody`), and whatever blanks two parts are put together with, they
are the ones that are cut out again (`splitSeeBody_of_isSeeBody`). So a body
loses nothing but blanks, and the blanks do not show.

Main theorem: `resolveSee_splits_body`.
-/
import Crosslink.Project.Linker
import Crosslink.Proofs.Text.Split
import Crosslink.Proofs.Text.Trim

namespace Crosslink.Reference

open Crosslink.Text
open Crosslink.Project (Linker)

set_option autoImplicit false

/-! ## Bodies and their parts -/

/-- `body` is `reference`, a gap and `shown`, with blanks around them. There is no blank in the
reference and none at the ends of the shown text, which stands behind a reference and a gap. -/
structure IsSeeBody (body reference shown : List Char) : Prop where
  solid : ∀ c ∈ reference, isBlank c = false
  trimmed : IsTrimmed shown
  whole : ∃ before gap after, body = before ++ (reference ++ gap ++ shown) ++ after ∧
    (∀ c ∈ before, isBlank c = true) ∧ (∀ c ∈ gap, isBlank c = true) ∧
    (∀ c ∈ after, isBlank c = true) ∧ (shown ≠ [] → reference ≠ [] ∧ gap ≠ [])

variable {body reference shown : List Char}

/-- A reference and a text to show, with a gap between them, have no blank at their ends. -/
theorem isTrimmed_parts {gap : List Char} (solid : ∀ c ∈ reference, isBlank c = false)
    (trimmed : IsTrimmed shown) (named : reference ≠ []) (some_ : shown ≠ []) :
    IsTrimmed (reference ++ gap ++ shown) := by
  refine ⟨?_, ?_⟩
  · intro c head
    obtain ⟨d, ds, rfl⟩ := List.exists_cons_of_ne_nil named
    obtain rfl : d = c := by simpa using head
    exact solid d (by simp)
  · intro c last
    refine trimmed.back c ?_
    rwa [List.getLast?_append, Option.or_of_isSome (by simpa using some_)] at last

/-- A body without the blanks around it; a gap is left only in front of a shown text. -/
theorem IsSeeBody.trim_eq (parts : IsSeeBody body reference shown) :
    ∃ gap, (∀ c ∈ gap, isBlank c = true) ∧ (shown = [] ↔ gap = []) ∧
      trim body = reference ++ gap ++ shown := by
  obtain ⟨before, gap, after, rfl, blankBefore, blankGap, blankAfter, behind⟩ := parts.whole
  by_cases nothing : shown = []
  · -- The gap is one with the blanks behind the body, and all of it is trimmed away.
    subst nothing
    refine ⟨[], by simp, by simp, ?_⟩
    have blankTail : ∀ c ∈ gap ++ after, isBlank c = true := by
      intro c member
      rcases List.mem_append.1 member with inGap | inAfter
      · exact blankGap c inGap
      · exact blankAfter c inAfter
    have tail : before ++ (reference ++ gap ++ []) ++ after =
        before ++ reference ++ (gap ++ after) := by simp
    rw [tail, List.append_nil, List.append_nil]
    by_cases empty : reference = []
    · subst empty
      refine trim_of_blank ?_
      intro c member
      rw [List.append_nil] at member
      rcases List.mem_append.1 member with inBefore | inTail
      · exact blankBefore c inBefore
      · exact blankTail c inTail
    · refine trim_append blankBefore blankTail ⟨?_, ?_⟩ empty
      · exact fun c head => parts.solid c (List.mem_of_mem_head? head)
      · exact fun c last => parts.solid c (List.mem_of_getLast? last)
  · obtain ⟨named, spaced⟩ := behind nothing
    refine ⟨gap, blankGap, by simp [nothing, spaced], ?_⟩
    exact trim_append blankBefore blankAfter (isTrimmed_parts parts.solid parts.trimmed named nothing)
      (by simp [named])

/-- **A body is cut into the parts that it was put together from.** -/
theorem splitSeeBody_of_isSeeBody {body : String} (parts : IsSeeBody body.toList reference shown) :
    splitSeeBody body =
      (String.ofList reference, if shown = [] then none else some (String.ofList shown)) := by
  obtain ⟨gap, blank, alone, whole⟩ := parts.trim_eq
  have stops : ∀ c ∈ (gap ++ shown).head?, (!isBlank c) = false := by
    intro c head
    cases gap with
    | nil => simp [alone.2 rfl] at head
    | cons d gap =>
        obtain rfl : d = c := by simpa using head
        simp [blank d]
  have front : (trim body.toList).takeWhile (fun c => !isBlank c) = reference := by
    rw [whole, List.append_assoc]
    exact takeWhile_run (fun c member => by simp [parts.solid c member]) stops
  have behind : trim ((trim body.toList).drop reference.length) = shown := by
    rw [whole, List.append_assoc, List.drop_left]
    by_cases nothing : shown = []
    · rw [nothing, alone.1 nothing]
      rfl
    · have trimmed := @trim_append gap shown [] blank (by simp) parts.trimmed nothing
      rwa [List.append_nil] at trimmed
  simp only [splitSeeBody, front, behind]
  cases shown with
  | nil => rfl
  | cons c shown => rfl

/-- Every body has parts. -/
theorem exists_isSeeBody (body : List Char) :
    ∃ reference shown, IsSeeBody body reference shown := by
  obtain ⟨before, after, blankBefore, blankAfter, around⟩ := exists_blanks_around body
  have trimmed := trim_isTrimmed body
  generalize trim body = cs at around trimmed
  -- The trimmed body is cut at its first blank, and what is behind the cut at its first solid.
  let reference := cs.takeWhile fun c => !isBlank c
  let rest := cs.dropWhile fun c => !isBlank c
  have cut : cs = reference ++ rest := (List.takeWhile_append_dropWhile).symm
  have cutRest : rest = rest.takeWhile isBlank ++ rest.dropWhile isBlank :=
    (List.takeWhile_append_dropWhile).symm
  refine ⟨reference, rest.dropWhile isBlank, ?_, ⟨?_, ?_⟩, before, rest.takeWhile isBlank, after,
    ?_, blankBefore, List.all_eq_true.1 List.all_takeWhile, blankAfter, ?_⟩
  · intro c member
    have solid := List.all_eq_true.1 List.all_takeWhile c member
    simpa using solid
  · intro c head
    exact head_trimLeft head
  · intro c last
    refine trimmed.back c ?_
    rw [cut, cutRest, List.getLast?_append, List.getLast?_append, last]
    rfl
  · rw [List.append_assoc reference, ← cutRest, ← cut, around]
  · intro some_
    have restSome : rest ≠ [] := by
      intro none_
      exact some_ (by rw [none_]; rfl)
    obtain ⟨b, bs, isRest⟩ := List.exists_cons_of_ne_nil restSome
    have blank : isBlank b = true := by
      have stopped := List.head?_dropWhile_not (fun c => !isBlank c) cs
      simpa [show cs.dropWhile (fun c => !isBlank c) = b :: bs from isRest] using stopped
    constructor
    · intro empty
      have solid := trimmed.front b (by rw [cut, empty, isRest]; rfl)
      rw [blank] at solid
      cases solid
    · rw [isRest, List.takeWhile_cons_of_pos blank]
      simp

/-! ## Tags -/

/-- The tag of a body is that of its reference, with the shown text of the body. -/
theorem resolveSee_of_isSeeBody (l : Linker) {body : String} (parent : String)
    (parts : IsSeeBody body.toList reference shown) :
    l.resolveSee body parent =
      { l.resolve (String.ofList reference) parent with
        shownText := if shown = [] then none else some (String.ofList shown) } := by
  have kept : shownTextOf (if shown = [] then none else some (String.ofList shown)) =
      if shown = [] then none else some (String.ofList shown) := by
    have same := trim_eq_self_iff.2 parts.trimmed
    cases shown with
    | nil => rfl
    | cons c shown => simp [shownTextOf, same]
  simp only [Linker.resolveSee, resolveSee, splitSeeBody_of_isSeeBody parts, resolve, kept]
  rfl

/-- A blank stands in a trimmed body exactly when a text is shown. -/
theorem IsSeeBody.shown_iff (parts : IsSeeBody body reference shown) :
    shown ≠ [] ↔ ∃ c ∈ trim body, isBlank c = true := by
  obtain ⟨gap, blank, alone, whole⟩ := parts.trim_eq
  rw [whole]
  constructor
  · intro some_
    obtain ⟨b, bs, rfl⟩ := List.exists_cons_of_ne_nil fun empty => some_ (alone.2 empty)
    exact ⟨b, by simp, blank b (by simp)⟩
  · rintro ⟨c, member, blankHere⟩ nothing
    rw [alone.1 nothing, nothing, List.append_nil, List.append_nil] at member
    rw [parts.solid c member] at blankHere
    cases blankHere

/-- **A see-also body is split without loss and resolved like its reference.** The reference is the
longest run without blanks at the front of the trimmed body. A text is shown exactly when a blank
stands in the trimmed body, which then is the reference, blanks, and the shown text without blanks at
its ends. All else of the tag is what the reference alone resolves to, and its label is the shown
text or else that of the reference. Bodies with the same parts have the same tag, whatever the blanks
around and between them, and every body has parts. -/
theorem resolveSee_splits_body (l : Linker) (body parent : String) (tag : Tag)
    (isTag : l.resolveSee body parent = tag) :
    (∃ rest, trim body.toList = tag.nativeText.toList ++ rest ∧
        (∀ c ∈ tag.nativeText.toList, isBlank c = false) ∧ ∀ c ∈ rest.head?, isBlank c = true) ∧
      (tag.shownText.isSome = true ↔ ∃ c ∈ trim body.toList, isBlank c = true) ∧
      (∀ shown, tag.shownText = some shown →
        ∃ gap, gap ≠ [] ∧ (∀ c ∈ gap, isBlank c = true) ∧
          trim body.toList = tag.nativeText.toList ++ gap ++ shown.toList ∧
          shown ≠ "" ∧ IsTrimmed shown.toList) ∧
      tag = { l.resolve tag.nativeText parent with shownText := tag.shownText } ∧
      (∀ shown, tag.shownText = some shown → tag.label = shown) ∧
      (tag.shownText = none → tag.label = (l.resolve tag.nativeText parent).reference) ∧
      (∃ reference shown, IsSeeBody body.toList reference shown) ∧
      ∀ (other : String) (reference shown : List Char), IsSeeBody body.toList reference shown →
        IsSeeBody other.toList reference shown → l.resolveSee other parent = tag := by
  obtain ⟨reference, shown, parts⟩ := exists_isSeeBody body.toList
  obtain ⟨gap, blank, alone, whole⟩ := parts.trim_eq
  have tagOf := resolveSee_of_isSeeBody l parent parts
  rw [isTag] at tagOf
  have isReference : tag.nativeText.toList = reference := by
    rw [tagOf]
    exact String.toList_ofList
  have isShown : tag.shownText = if shown = [] then none else some (String.ofList shown) := by
    rw [tagOf]
  have isResolved : tag = { l.resolve tag.nativeText parent with shownText := tag.shownText } := by
    rw [tagOf]
    rfl
  refine ⟨⟨gap ++ shown, ?_, ?_, ?_⟩, ?_, ?_, isResolved, ?_, ?_, ⟨_, _, parts⟩, ?_⟩
  · rw [whole, isReference, List.append_assoc]
  · rw [isReference]
    exact parts.solid
  · intro c head
    cases gap with
    | nil => simp [alone.2 rfl] at head
    | cons d gap =>
        obtain rfl : d = c := by simpa using head
        exact blank d (by simp)
  · rw [← parts.shown_iff, isShown]
    by_cases nothing : shown = []
    · simp [nothing]
    · simp [nothing]
  · intro text isText
    rw [isShown] at isText
    split at isText
    · cases isText
    · rename_i some_
      cases isText
      refine ⟨gap, fun empty => some_ (alone.2 empty), blank, ?_, by simpa using some_, ?_⟩
      · rw [whole, isReference, String.toList_ofList]
      · rw [String.toList_ofList]
        exact parts.trimmed
  · intro text isText
    rw [Tag.label, isText]
    rfl
  · intro nothing
    rw [Tag.label, nothing, isResolved]
    rfl
  · intro other reference' shown' here there
    rw [resolveSee_of_isSeeBody l parent there, ← resolveSee_of_isSeeBody l parent here, isTag]

/-- Wide and narrow blanks around and between the parts of a body. -/
theorem resolveSee_splits_body_wide :
    IsSeeBody "Foo#bar the  bar".toList "Foo#bar".toList "the  bar".toList ∧
      IsSeeBody "\u3000Foo#bar\u00a0\tthe  bar\n".toList "Foo#bar".toList "the  bar".toList ∧
      Linker.resolveSee ⟨{}, ⟨[.method "Foo#bar" .onInstance], ""⟩⟩
          "\u3000Foo#bar\u00a0\tthe  bar\n" "Foo" =
        Linker.resolveSee ⟨{}, ⟨[.method "Foo#bar" .onInstance], ""⟩⟩ "Foo#bar the  bar" "Foo" ∧
      (Linker.resolveSee ⟨{}, ⟨[.method "Foo#bar" .onInstance], ""⟩⟩ "Foo#bar the  bar" "Foo").label =
        "the  bar" := by
  have trimmed : IsTrimmed "the  bar".toList := trim_eq_self_iff.1 (by decide)
  have solid : ∀ c ∈ "Foo#bar".toList, isBlank c = false := by
    have all : ("Foo#bar".toList.all fun c => !isBlank c) = true := by decide +kernel
    simpa only [List.all_eq_true, Bool.not_eq_true'] using all
  have blank : ∀ {cs : List Char}, cs.all isBlank = true → ∀ c ∈ cs, isBlank c = true :=
    fun all => List.all_eq_true.1 all
  have narrow : IsSeeBody "Foo#bar the  bar".toList "Foo#bar".toList "the  bar".toList :=
    ⟨solid, trimmed, [], [' '], [], by decide +kernel, blank rfl, blank (by decide +kernel), blank rfl,
      by decide +kernel⟩
  have wide : IsSeeBody "\u3000Foo#bar\u00a0\tthe  bar\n".toList "Foo#bar".toList
      "the  bar".toList :=
    ⟨solid, trimmed, ['\u3000'], ['\u00a0', '\t'], ['\n'], by decide +kernel,
      blank (by decide +kernel), blank (by decide +kernel), blank (by decide +kernel), by decide +kernel⟩
  obtain ⟨-, -, -, -, labelled, -, -, alike⟩ := resolveSee_splits_body
    ⟨{}, ⟨[.method "Foo#bar" .onInstance], ""⟩⟩ "Foo#bar the  bar" "Foo" _ rfl
  exact ⟨narrow, wide, alike _ _ _ narrow wide, labelled _ (by decide +kernel)⟩

end Crosslink.Reference
