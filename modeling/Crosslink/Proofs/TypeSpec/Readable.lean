/-
# Crosslink.Proofs.TypeSpec.Readable — the expressions that a text can have

`Expr.Readable opts n e` says what a reader can have seen: names are name texts,
a bare bracket has the default name, no list is empty, a named unordered
collection is not one that its name makes ordered or a mapping, and with `n`
brackets around it the expression nests no deeper than `maxDepth`.

`Phrase.expr` is the expression that a phrase spells, without its places. Tokens
of a text spell phrases of readable expressions only (`Spells.readable`).
-/
import Crosslink.Proofs.TypeSpec.Grammar
import Crosslink.TypeSpec.Expr

namespace Crosslink.TypeSpec

set_option autoImplicit false

variable {opts : Options}

/-- A text that a name may have: not empty, no mark in it, no blank at its ends. -/
def IsNameText (name : String) : Prop := IsPlain name.toList ∧ name ≠ ""

namespace Expr

mutual

/-- The expression can be read with `n` brackets open around it. -/
def Readable (opts : Options) : Nat → Expr → Prop
  | _, .basic name => IsNameText name
  | n, .collection name items ordered =>
      n < maxDepth ∧ (IsNameText name ∨ name = opts.defaultCollection) ∧ items ≠ [] ∧
        (ordered = false → name ≠ opts.defaultCollection →
          name ∉ opts.tupleMarkers ∧ ¬ (name ∈ opts.mappingTypes ∧ items.length = 2)) ∧
        ReadableAll opts (n + 1) items
  | n, .mapping name keys values =>
      n < maxDepth ∧ IsNameText name ∧ keys ≠ [] ∧ values ≠ [] ∧
        ReadableAll opts (n + 1) keys ∧ ReadableAll opts (n + 1) values

def ReadableAll (opts : Options) : Nat → List Expr → Prop
  | _, [] => True
  | n, e :: es => Readable opts n e ∧ ReadableAll opts n es

end

theorem readableAll_append {n : Nat} (es fs : List Expr) :
    ReadableAll opts n (es ++ fs) ↔ ReadableAll opts n es ∧ ReadableAll opts n fs := by
  induction es with
  | nil => simp [ReadableAll]
  | cons e es ih => simp [ReadableAll, ih, and_assoc]

end Expr

open Crosslink.TypeSpec.Expr

/-! ## The expressions of phrases -/

mutual

/-- The expression a phrase spells. -/
def Phrase.expr : Phrase → Expr
  | .basic _ name => .basic name
  | .collection _ name items ordered => .collection name (Phrase.exprs items) ordered
  | .mapping _ name keys values => .mapping name (Phrase.exprs keys) (Phrase.exprs values)

def Phrase.exprs : List Phrase → List Expr
  | [] => []
  | p :: ps => p.expr :: Phrase.exprs ps

end

theorem Phrase.exprs_eq_map (ps : List Phrase) : Phrase.exprs ps = ps.map Phrase.expr := by
  induction ps with
  | nil => rfl
  | cons p ps ih => simp [Phrase.exprs, ih]

theorem Phrase.exprs_append (ps qs : List Phrase) :
    Phrase.exprs (ps ++ qs) = Phrase.exprs ps ++ Phrase.exprs qs := by
  simp [Phrase.exprs_eq_map]

theorem Phrase.length_exprs (ps : List Phrase) : (Phrase.exprs ps).length = ps.length := by
  simp [Phrase.exprs_eq_map]

/-- The expression of a named angle bracket without an arrow. -/
theorem expr_angled (opts : Options) (start : Nat) (name : String) (ps : List Phrase) :
    (opts.angled start name ps).expr =
      if name ∈ opts.tupleMarkers then .collection name (Phrase.exprs ps) true
      else if name ∈ opts.mappingTypes ∧ ps.length = 2 then
        .mapping name ((Phrase.exprs ps).take 1) ((Phrase.exprs ps).drop 1)
      else .collection name (Phrase.exprs ps) false := by
  unfold Options.angled
  split
  · rfl
  · split
    · split <;> simp_all [Phrase.expr, Phrase.exprs]
    · rename_i notPair
      have length : ps.length ≠ 2 := by
        intro two
        match ps, two with
        | [key, value], _ => exact notPair key value rfl
      simp [length, Phrase.expr]

theorem SpellsName.isNameText {us : List Token} {start : Nat} {name : String}
    (named : SpellsName us start name) (sound : ∀ u ∈ us, u.toLexeme.Sound) : IsNameText name := by
  obtain ⟨t, ts, names⟩ := named
  constructor
  · simpa using @isPlain_spelling ((t :: ts).map Token.toLexeme)
      (by simpa using sound) (by simpa using names)
  · have nonempty := (sound t (by simp)).text.ne_nil
    simp [spelling, nonempty]

/-- **What sound tokens spell can be read.** -/
theorem Spells.readable {part : Part} {n : Nat} {ts : List Token} {ps : List Phrase}
    (spelled : Spells opts part n ts ps) (sound : ∀ t ∈ ts, t.toLexeme.Sound) :
    ReadableAll opts n (Phrase.exprs ps) ∧ Phrase.exprs ps ≠ [] := by
  induction spelled with
  | one head ih => exact ih sound
  | more head comma rest ihHead ihRest =>
      have first := ihHead fun t member => sound t (by simp [member])
      have others := ihRest fun t member => sound t (by simp [member])
      rw [Phrase.exprs_append, readableAll_append]
      exact ⟨⟨first.1, others.1⟩, by simp [first.2]⟩
  | name named =>
      have name := named.isNameText sound
      simpa [Phrase.exprs, Phrase.expr, ReadableAll, Readable] using name
  | bareAngle room opens inner closes ih =>
      obtain ⟨items, nonempty⟩ := ih fun t member => sound t (by simp [member])
      simp [Phrase.exprs, Phrase.expr, ReadableAll, Readable, room, items, nonempty]
  | bareParen room opens inner closes ih =>
      obtain ⟨items, nonempty⟩ := ih fun t member => sound t (by simp [member])
      simp [Phrase.exprs, Phrase.expr, ReadableAll, Readable, room, items, nonempty]
  | @angle n start name o c us ts ps named room opens inner closes ih =>
      obtain ⟨items, nonempty⟩ := ih fun t member => sound t (by simp [member])
      have name := named.isNameText fun t member => sound t (by simp [member])
      simp only [Phrase.exprs, ReadableAll, and_true, ne_eq, reduceCtorEq, not_false_eq_true]
      rw [expr_angled]
      split
      · simp [Readable, room, name, nonempty, items]
      · rename_i notTuple
        split
        · rename_i pair
          match ps, pair.2 with
          | [key, value], _ =>
              simpa [Phrase.exprs, Readable, ReadableAll, room, name] using items
        · rename_i notPair
          rw [← Phrase.length_exprs] at notPair
          simp [Readable, room, name, nonempty, items, notTuple, notPair]
  | paren named room opens inner closes ih =>
      obtain ⟨items, nonempty⟩ := ih fun t member => sound t (by simp [member])
      have name := named.isNameText fun t member => sound t (by simp [member])
      simp [Phrase.exprs, Phrase.expr, ReadableAll, Readable, room, name, items, nonempty]
  | arrow named room brackets keys turns values ihKeys ihValues =>
      obtain ⟨keysRead, keysSome⟩ := ihKeys fun t member => sound t (by simp [member])
      obtain ⟨valuesRead, valuesSome⟩ := ihValues fun t member => sound t (by simp [member])
      have name := named.isNameText fun t member => sound t (by simp [member])
      simp [Phrase.exprs, Phrase.expr, ReadableAll, Readable, room, name, keysRead, keysSome,
        valuesRead, valuesSome]

end Crosslink.TypeSpec
