/-
# Crosslink.Proofs.Text.Split — cutting and joining at a mark

What a cut gives is the text again with the mark put back (`eq_of_cutFirst`,
`eq_of_cutLast`), and a part without the mark's first character is what a cut
finds (`cutLast_scopeMark`, `cutLast_char`). `segments` and `joinSegments` are
inverse to each other on segments without a colon
(`joinSegments_segments`, `segments_joinSegments`).
-/
import Mathlib.Data.List.Basic
import Crosslink.Text.Split

namespace Crosslink.Text

set_option autoImplicit false

/-! ## Runs -/

/-- A run of what `p` takes, up to something that it does not take or the end. -/
theorem takeWhile_run {α : Type} {p : α → Bool} {run rest : List α}
    (inside : ∀ a ∈ run, p a = true) (stops : ∀ a ∈ rest.head?, p a = false) :
    (run ++ rest).takeWhile p = run := by
  have none_ : rest.takeWhile p = [] := by
    cases rest with
    | nil => rfl
    | cons a rest => simp [stops a rfl]
  rw [List.takeWhile_append_of_pos inside, none_, List.append_nil]

/-! ## Cuts -/

theorem eq_of_cutFirst {mark cs before after : List Char}
    (cut : cutFirst mark cs = some (before, after)) : cs = before ++ mark ++ after := by
  induction cs generalizing before after with
  | nil => simp [cutFirst] at cut
  | cons c cs ih =>
      unfold cutFirst at cut
      split at cut
      · rename_i rest found
        obtain ⟨rfl, rfl⟩ : [] = before ∧ rest = after := by simpa using cut
        have whole := List.isPrefixOf?_eq_some_iff_append_eq.1 found
        simpa using whole.symm
      · rename_i notHere
        simp only [Option.map_eq_some_iff, Prod.mk.injEq] at cut
        obtain ⟨⟨before', after'⟩, inRest, rfl, rfl⟩ := cut
        simp [ih inRest]

theorem isSome_cutFirst_append {mark : List Char} (nonempty : mark ≠ []) (before after : List Char) :
    (cutFirst mark (before ++ mark ++ after)).isSome = true := by
  induction before with
  | nil =>
      obtain ⟨c, rest, rfl⟩ := List.exists_cons_of_ne_nil nonempty
      have here : (c :: rest).isPrefixOf? (c :: (rest ++ after)) = some after :=
        List.isPrefixOf?_eq_some_iff_append_eq.2 rfl
      simp [cutFirst, here]
  | cons d before ih =>
      simp only [List.cons_append]
      unfold cutFirst
      split
      · rfl
      · simpa using ih

theorem cutFirst_eq_none {c : Char} {mark cs : List Char} (absent : c ∉ cs) :
    cutFirst (c :: mark) cs = none := by
  induction cs with
  | nil => rfl
  | cons d cs ih =>
      simp only [List.mem_cons, not_or] at absent
      have notHere : (c :: mark).isPrefixOf? (d :: cs) = none := by
        simp [List.isPrefixOf?, absent.1]
      simp [cutFirst, notHere, ih absent.2]

/-- The first `c` of a text. -/
theorem cutFirst_char {c : Char} {before : List Char} (absent : c ∉ before) (after : List Char) :
    cutFirst [c] (before ++ c :: after) = some (before, after) := by
  induction before with
  | nil => simp [cutFirst, List.isPrefixOf?]
  | cons d before ih =>
      simp only [List.mem_cons, not_or] at absent
      have notHere : [c].isPrefixOf? (d :: (before ++ c :: after)) = none := by
        simp [List.isPrefixOf?, absent.1]
      simp [cutFirst, notHere, ih absent.2]

/-- A `::` in front stays in the first part. -/
theorem cutFirst_scopeMark_append {c : Char} (notColon : c ≠ ':') (cs : List Char) :
    cutFirst [c] (scopeMark ++ cs) =
      (cutFirst [c] cs).map fun (before, after) => (scopeMark ++ before, after) := by
  have notHere : ∀ rest, [c].isPrefixOf? (':' :: rest) = none := by
    intro rest
    simp [List.isPrefixOf?, notColon]
  cases cut : cutFirst [c] cs with
  | none => simp [scopeMark, cutFirst, notHere, cut]
  | some parts => simp [scopeMark, cutFirst, notHere, cut]

theorem eq_of_cutLast {mark cs before after : List Char}
    (cut : cutLast mark cs = some (before, after)) : cs = before ++ mark ++ after := by
  induction cs generalizing before after with
  | nil => simp [cutLast] at cut
  | cons c cs ih =>
      unfold cutLast at cut
      split at cut
      · rename_i before' after' inRest
        obtain ⟨rfl, rfl⟩ : c :: before' = before ∧ after' = after := by simpa using cut
        simp [ih inRest]
      · simp only [Option.map_eq_some_iff, Prod.mk.injEq] at cut
        obtain ⟨rest, found, rfl, rfl⟩ := cut
        have whole := List.isPrefixOf?_eq_some_iff_append_eq.1 found
        simpa using whole.symm

/-- A text that does not hold the mark is not cut. -/
theorem cutLast_eq_none_of_not_infix {mark cs : List Char} (absent : ¬ mark <:+: cs) :
    cutLast mark cs = none := by
  cases cut : cutLast mark cs with
  | none => rfl
  | some parts => exact absurd ⟨parts.1, parts.2, (eq_of_cutLast cut).symm⟩ absent

theorem cutLast_eq_none {c : Char} {mark cs : List Char} (absent : c ∉ cs) :
    cutLast (c :: mark) cs = none :=
  cutLast_eq_none_of_not_infix fun inside => absent (inside.subset (by simp))

theorem not_infix_of_cutLast_eq_none {mark cs : List Char} (nonempty : mark ≠ [])
    (uncut : cutLast mark cs = none) : ¬ mark <:+: cs := by
  induction cs with
  | nil =>
      intro inside
      exact nonempty (List.infix_nil.1 inside)
  | cons c cs ih =>
      unfold cutLast at uncut
      split at uncut
      · cases uncut
      · rename_i uncutRest
        intro inside
        rcases List.infix_cons_iff.1 inside with ⟨rest, here⟩ | later
        · have found := List.isPrefixOf?_eq_some_iff_append_eq.2 here
          simp [found] at uncut
        · exact ih uncutRest later

/-- No mark stands behind the last one. -/
theorem not_infix_of_cutLast {mark cs before after : List Char} (nonempty : mark ≠ [])
    (cut : cutLast mark cs = some (before, after)) : ¬ mark <:+: after := by
  induction cs generalizing before with
  | nil => cases cut
  | cons c cs ih =>
      unfold cutLast at cut
      split at cut
      · rename_i before' after' inRest
        obtain ⟨-, rfl⟩ : c :: before' = before ∧ after' = after := by simpa using cut
        exact ih inRest
      · rename_i uncutRest
        simp only [Option.map_eq_some_iff, Prod.mk.injEq] at cut
        obtain ⟨rest, found, -, rfl⟩ := cut
        obtain ⟨d, mark, rfl⟩ := List.exists_cons_of_ne_nil nonempty
        have whole := List.isPrefixOf?_eq_some_iff_append_eq.1 found
        obtain ⟨-, tail⟩ := List.cons.inj whole
        intro inside
        apply not_infix_of_cutLast_eq_none nonempty uncutRest
        rw [← tail]
        exact inside.trans (List.suffix_append mark rest).isInfix

theorem cutLast_append {mark cs before after : List Char} (front : List Char)
    (cut : cutLast mark cs = some (before, after)) :
    cutLast mark (front ++ cs) = some (front ++ before, after) := by
  induction front with
  | nil => exact cut
  | cons c front ih => simp [cutLast, ih]

/-- The last `c` of a text. -/
theorem cutLast_char {c : Char} {after : List Char} (absent : c ∉ after) (before : List Char) :
    cutLast [c] (before ++ c :: after) = some (before, after) := by
  have here : cutLast [c] (c :: after) = some ([], after) := by
    simp [cutLast, cutLast_eq_none absent, List.isPrefixOf?]
  simpa using cutLast_append before here

/-- The last `::` of a text stands before a part without `::` that does not start with a colon. -/
theorem cutLast_scopeMark_of_head {after : List Char} (unmarked : ¬ scopeMark <:+: after)
    (head : after.head? ≠ some ':') (before : List Char) :
    cutLast scopeMark (before ++ scopeMark ++ after) = some (before, after) := by
  have noneBehind : cutLast scopeMark (':' :: after) = none := by
    apply cutLast_eq_none_of_not_infix
    intro inside
    rcases List.infix_cons_iff.1 inside with ⟨rest, here⟩ | later
    · obtain ⟨-, tail⟩ := List.cons.inj here
      exact head (by rw [← tail]; rfl)
    · exact unmarked later
  have here : cutLast scopeMark (scopeMark ++ after) = some ([], after) := by
    change cutLast scopeMark (':' :: ':' :: after) = _
    rw [cutLast, noneBehind]
    simp [scopeMark, List.isPrefixOf?]
  simpa using cutLast_append before here

theorem not_infix_of_no_colon {cs : List Char} (absent : ':' ∉ cs) : ¬ scopeMark <:+: cs := by
  intro inside
  exact absent (inside.subset (by simp [scopeMark]))

/-- The last `::` of a text. -/
theorem cutLast_scopeMark {after : List Char} (absent : ':' ∉ after) (before : List Char) :
    cutLast scopeMark (before ++ scopeMark ++ after) = some (before, after) := by
  apply cutLast_scopeMark_of_head (not_infix_of_no_colon absent)
  intro head
  exact absent (List.mem_of_head? head)

/-- A mark stands behind a part that does not hold its first character. -/
theorem not_infix_append {d : Char} {mark front after : List Char} (absent : d ∉ front)
    (unmarked : ¬ d :: mark <:+: after) : ¬ d :: mark <:+: front ++ after := by
  induction front with
  | nil => exact unmarked
  | cons c front ih =>
      simp only [List.mem_cons, not_or] at absent
      intro inside
      rcases List.infix_cons_iff.1 inside with ⟨rest, here⟩ | later
      · exact absent.1 (List.cons.inj here).1
      · exact ih absent.2 later

/-! ## A mark in front -/

theorem dropScopeMark_append (cs : List Char) : dropScopeMark (scopeMark ++ cs) = cs := by
  simp [dropScopeMark, scopeMark, List.isPrefixOf?]

theorem not_scopeMark_isPrefix {cs : List Char} (head : cs.head? ≠ some ':') :
    ¬ scopeMark <+: cs := by
  rintro ⟨rest, rfl⟩
  exact head rfl

theorem isPrefixOf?_scopeMark {cs : List Char} (absent : ¬ scopeMark <+: cs) :
    scopeMark.isPrefixOf? cs = none := by
  cases found : scopeMark.isPrefixOf? cs with
  | none => rfl
  | some rest => exact absurd ⟨rest, List.isPrefixOf?_eq_some_iff_append_eq.1 found⟩ absent

theorem dropScopeMark_eq_self {cs : List Char} (absent : ¬ scopeMark <+: cs) :
    dropScopeMark cs = cs := by
  simp [dropScopeMark, isPrefixOf?_scopeMark absent]

/-- At most a mark is dropped. -/
theorem eq_dropScopeMark (cs : List Char) :
    cs = dropScopeMark cs ∨ cs = scopeMark ++ dropScopeMark cs := by
  by_cases marked : scopeMark <+: cs
  · obtain ⟨rest, rfl⟩ := marked
    rw [dropScopeMark_append]
    exact .inr rfl
  · exact .inl (dropScopeMark_eq_self marked).symm

/-! ## A full stop at the end -/

/-- At most a full stop is dropped. -/
theorem eq_dropFullStop (cs : List Char) : cs = dropFullStop cs ∨ cs = dropFullStop cs ++ ['.'] := by
  unfold dropFullStop
  split
  · rename_i last
    obtain ⟨init, rfl⟩ := List.getLast?_eq_some_iff.1 last
    exact .inr (by simp)
  · exact .inl rfl

theorem dropFullStop_eq_self {cs : List Char} (last : cs.getLast? ≠ some '.') :
    dropFullStop cs = cs := if_neg last

theorem dropFullStop_append (cs : List Char) : dropFullStop (cs ++ ['.']) = cs := by
  simp [dropFullStop]

/-! ## Segments -/

/-- Segments with `::` between them. -/
def joinSegments : List (List Char) → List Char
  | [] => []
  | [s] => s
  | s :: t :: ss => s ++ scopeMark ++ joinSegments (t :: ss)

theorem joinSegments_append {ss ts : List (List Char)} (left : ss ≠ []) (right : ts ≠ []) :
    joinSegments (ss ++ ts) = joinSegments ss ++ scopeMark ++ joinSegments ts := by
  induction ss with
  | nil => exact absurd rfl left
  | cons s ss ih =>
      cases ss with
      | nil =>
          obtain ⟨t, ts, rfl⟩ := List.exists_cons_of_ne_nil right
          rfl
      | cons r ss =>
          have rest := ih (by simp)
          simp only [List.cons_append] at rest ⊢
          rw [joinSegments, rest, joinSegments]
          simp

theorem joinSegments_cons (s : List Char) (ss : List (List Char)) :
    joinSegments (s :: ss) = s ++ ss.flatMap (scopeMark ++ ·) := by
  induction ss generalizing s with
  | nil => simp [joinSegments]
  | cons t ss ih => simp [joinSegments, ih]

theorem joinSegments_concat (ss : List (List Char)) (s : List Char) :
    joinSegments (ss ++ [s]) = ss.flatMap (· ++ scopeMark) ++ s := by
  induction ss with
  | nil => rfl
  | cons t ss ih =>
      rw [List.cons_append, List.flatMap_cons, List.append_assoc, ← ih]
      cases ss with
      | nil => rfl
      | cons r ss => rfl

theorem segments_ne_nil (cs : List Char) : segments cs ≠ [] := by
  unfold segments
  split
  · simp
  · simp
  · split <;> simp

theorem joinSegments_segments (cs : List Char) : joinSegments (segments cs) = cs := by
  fun_induction segments cs with
  | case1 => rfl
  | case2 cs ih =>
      obtain ⟨s, ss, eq⟩ := List.exists_cons_of_ne_nil (segments_ne_nil cs)
      rw [eq] at ih ⊢
      rw [joinSegments, ih]
      rfl
  | case3 c cs _ empty ih => exact absurd empty (segments_ne_nil cs)
  | case4 c cs _ s ss eq ih =>
      rw [eq] at ih
      cases ss with
      | nil => simpa [joinSegments] using ih
      | cons t ss => simpa [joinSegments] using ih

theorem segments_of_not_mem {s : List Char} (absent : ':' ∉ s) : segments s = [s] := by
  induction s with
  | nil => rfl
  | cons c s ih =>
      simp only [List.mem_cons, not_or] at absent
      have rest := ih absent.2
      unfold segments
      split
      · rename_i impossible
        cases impossible
      · rename_i same
        exact absurd (List.cons.inj same).1.symm absent.1
      · rename_i same
        obtain ⟨rfl, rfl⟩ := List.cons.inj same
        rw [rest]

theorem segments_append {s : List Char} (absent : ':' ∉ s) (cs : List Char) :
    segments (s ++ scopeMark ++ cs) = s :: segments cs := by
  induction s with
  | nil => rfl
  | cons c s ih =>
      simp only [List.mem_cons, not_or] at absent
      have rest := ih absent.2
      simp only [List.cons_append]
      rw [segments, rest]
      rintro cs' rfl
      exact absurd rfl absent.1

theorem segments_joinSegments {ss : List (List Char)} (nonempty : ss ≠ [])
    (absent : ∀ s ∈ ss, ':' ∉ s) : segments (joinSegments ss) = ss := by
  induction ss with
  | nil => exact absurd rfl nonempty
  | cons s ss ih =>
      have here := absent s (by simp)
      cases ss with
      | nil => exact segments_of_not_mem here
      | cons t ss =>
          rw [joinSegments, segments_append here, ih (by simp) fun u member => absent u (by simp [member])]

end Crosslink.Text
