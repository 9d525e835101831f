/-
# Crosslink.Proofs.TypeSpec.Building — building never fails on what was read

The builder has two faults of its own: a label that stands for nothing, and a
child that is missing. Every label stands for something, and no list of an
outline that was read is empty, so neither fault comes up and the built
expressions are those of the phrases (`build_outlineList`). Reading a text is then
the same as forgetting the places of its phrases (`parse_eq_map`).
-/
import Crosslink.Proofs.TypeSpec.Readable
import Crosslink.TypeSpec.Builder

namespace Crosslink.TypeSpec

open Crosslink.Text
open Crosslink.TypeSpec.Expr

set_option autoImplicit false

variable {opts : Options} {text : String} {es : List Expr}

/-! ## Outlines of phrases -/

theorem trim_of_isNameText {name : String} (isName : IsNameText name) :
    String.ofList (trim name.toList) = name := by
  rw [trim_eq_self_iff.2 isName.1.toIsTrimmed, String.ofList_toList]

mutual

/-- A readable phrase is built again from its outline. -/
theorem build_outline : ∀ (p : Phrase) (n : Nat), Readable opts n p.expr →
    p.outline.build = .ok [p.expr]
  | .basic offset name, n, readable => by
      show Except.ok [Expr.basic (String.ofList (trim name.toList))] = _
      rw [trim_of_isNameText readable]
      rfl
  | .collection offset name items ordered, n, readable => by
      have ⟨_, _, nonempty, _, inside⟩ := readable
      obtain ⟨tree, outlined, built⟩ := build_outlineList items (n + 1) nonempty inside
      have here : (Phrase.collection offset name items ordered).outline.build =
          tree.build.map fun es => [.collection name es ordered] := by
        cases ordered <;> rw [Phrase.outline, outlined] <;> rfl
      rw [here, built]
      rfl
  | .mapping offset name keys values, n, readable => by
      have ⟨_, _, keysSome, valuesSome, keysRead, valuesRead⟩ := readable
      obtain ⟨left, keysOutlined, keysBuilt⟩ := build_outlineList keys (n + 1) keysSome keysRead
      obtain ⟨right, valuesOutlined, valuesBuilt⟩ :=
        build_outlineList values (n + 1) valuesSome valuesRead
      rw [Phrase.outline, keysOutlined, valuesOutlined]
      show left.build.bind (fun ks => right.build.map _) = _
      rw [keysBuilt, valuesBuilt]
      rfl

/-- A readable list that is not empty has one outline, and is built again from it. -/
theorem build_outlineList : ∀ (ps : List Phrase) (n : Nat), Phrase.exprs ps ≠ [] →
    ReadableAll opts n (Phrase.exprs ps) →
    ∃ tree, Phrase.outlineList ps = [tree] ∧ tree.build = .ok (Phrase.exprs ps)
  | [], _, nonempty, _ => absurd rfl nonempty
  | [p], n, _, readable => by
      refine ⟨_, rfl, ?_⟩
      show p.outline.build = _
      exact build_outline p n readable.1
  | p :: q :: ps, n, _, readable => by
      obtain ⟨tree, outlined, built⟩ :=
        build_outlineList (q :: ps) n (by simp [Phrase.exprs]) readable.2
      refine ⟨_, rfl, ?_⟩
      rw [outlined]
      show p.outline.build.bind (fun es => tree.build.map _) = _
      rw [build_outline p n readable.1, built]
      rfl

end

/-! ## Texts -/

/-- **A text has the expressions of its phrases.** Building its outline adds no fault. -/
theorem parse_eq_map (opts : Options) (text : String) :
    parse opts text = (phrases opts text).map Phrase.exprs := by
  unfold parse outline
  cases read : phrases opts text with
  | error e => rfl
  | ok ps =>
      rcases phrases_eq_ok_iff.1 read with ⟨-, rfl⟩ | spelled
      · rfl
      · obtain ⟨readable, nonempty⟩ := spelled.readable (tokens_sound text)
        obtain ⟨tree, outlined, built⟩ := build_outlineList ps 0 nonempty readable
        show Except.bind (.ok (Phrase.outlineList ps).head?) _ = _
        rw [outlined]
        show tree.build.mapError _ = _
        rw [built]
        rfl

/-- A text is read as the expressions of the phrases that its tokens spell. -/
theorem parse_eq_ok_iff : parse opts text = .ok es ↔
    (tokens text = [] ∧ es = []) ∨ ∃ ps, Spells opts .list 0 (tokens text) ps ∧ Phrase.exprs ps = es := by
  have mapped : parse opts text = .ok es ↔ ∃ ps, phrases opts text = .ok ps ∧ Phrase.exprs ps = es := by
    rw [parse_eq_map]
    cases phrases opts text <;> simp [Except.map]
  rw [mapped]
  constructor
  · rintro ⟨ps, read, rfl⟩
    rcases phrases_eq_ok_iff.1 read with ⟨none_, rfl⟩ | spelled
    · exact .inl ⟨none_, rfl⟩
    · exact .inr ⟨ps, spelled, rfl⟩
  · rintro (⟨none_, rfl⟩ | ⟨ps, spelled, rfl⟩)
    · exact ⟨[], phrases_eq_ok_iff.2 (.inl ⟨none_, rfl⟩), rfl⟩
    · exact ⟨ps, phrases_eq_ok_iff.2 (.inr spelled), rfl⟩

/-- A text has a fault exactly when it has no outline, and the same fault. -/
theorem parse_eq_error_iff {e : ParseError} :
    parse opts text = .error e ↔ outline opts text = .error e := by
  rw [parse_eq_map]
  unfold outline
  cases phrases opts text with
  | error fault => simp [Except.map]
  | ok ps => simp [Except.map]

/-- Everything that is read can be read at top level. -/
theorem readableAll_of_parse (read : parse opts text = .ok es) : ReadableAll opts 0 es := by
  rcases parse_eq_ok_iff.1 read with ⟨-, rfl⟩ | ⟨ps, spelled, rfl⟩
  · trivial
  · exact (spelled.readable (tokens_sound text)).1

end Crosslink.TypeSpec
