/-
# Crosslink.Proofs.TypeSpec.LongestMatch — tokens by longest match

A scanner goes through a text from its front. At each place it takes the longest
beginning of what is left that some pattern allows: blanks, which it drops, or a
token, of which it keeps the span. Where no pattern allows anything it is stuck
and the text has no tokens (`Scan`). Which pattern wins when two take the same
text is left open.

* The longest match is a run of blanks up to what is no blank, or a token that
  the next character does not extend (`isLongest_blanks`, `isLongest_token`).
* No two patterns take the same text, so a scan has one result
  (`takes_unique`, `Scan.unique`).
* Lexemes that tile are what scanning their source gives (`scan_source`). Every
  text has such lexemes, so no scan is ever stuck.

Main theorem: `tokens_only_tiling`.
-/
import Crosslink.Proofs.TypeSpec.Spans

namespace Crosslink.TypeSpec

open Crosslink.Text

set_option autoImplicit false

/-! ## The longest match -/

/-- What a scanner looks for: blanks, or tokens of some kind. -/
def patternOf : Option TokenKind → Pattern
  | none => .run isBlank
  | some kind => kind.pattern

/-- This rule takes `part` from the front of `part ++ rest`, and no rule takes more. -/
structure IsLongest (rule : Option TokenKind) (part rest : List Char) : Prop where
  takes : (patternOf rule).Takes part
  longest : ∀ other more, more <+: part ++ rest → (patternOf other).Takes more →
    more.length ≤ part.length

theorem ne_nil_of_takes {rule : Option TokenKind} {part : List Char}
    (takes : (patternOf rule).Takes part) : part ≠ [] := by
  cases rule with
  | none => exact takes.1
  | some kind => exact (takes_pattern_iff.1 takes).ne_nil

/-- Tokens and blanks do not start alike. -/
theorem blank_iff_of_takes {rule : Option TokenKind} {part : List Char} {c : Char}
    (takes : (patternOf rule).Takes part) (member : c ∈ part) : isBlank c = true ↔ rule = none := by
  cases rule with
  | none => simp [takes.2 c member]
  | some kind => simp [(takes_pattern_iff.1 takes).solid c member]

/-- No two patterns take the same text. -/
theorem takes_unique {rule other : Option TokenKind} {part : List Char}
    (first : (patternOf rule).Takes part) (second : (patternOf other).Takes part) : rule = other := by
  obtain ⟨c, cs, isPart⟩ := List.exists_cons_of_ne_nil (ne_nil_of_takes first)
  have blank := @blank_iff_of_takes rule part c first (by simp [isPart])
  have blank' := @blank_iff_of_takes other part c second (by simp [isPart])
  cases rule with
  | none => exact (blank'.1 (blank.2 rfl)).symm
  | some kind =>
      cases other with
      | none => exact blank.1 (blank'.2 rfl)
      | some kind' =>
          -- The text of a token is one lexeme, and that has one kind.
          have alone := (takes_pattern_iff.1 first).lexemes_eq
          rw [(takes_pattern_iff.1 second).lexemes_eq] at alone
          obtain rfl : kind' = kind := by simpa using alone
          rfl

/-- A beginning that goes on behind `part` holds the next character. -/
theorem exists_next_of_longer {part rest more : List Char} (among : more <+: part ++ rest)
    (longer : part.length < more.length) :
    ∃ c tail, rest.head? = some c ∧ more = part ++ c :: tail := by
  obtain ⟨tail, rfl⟩ : part <+: more :=
    List.prefix_of_prefix_length_le (List.prefix_append ..) among (Nat.le_of_lt longer)
  cases tail with
  | nil => simp at longer
  | cons c tail =>
      obtain ⟨back, rfl⟩ := (List.prefix_append_right_inj part).1 among
      exact ⟨c, tail, rfl, rfl⟩

theorem isLongest_blanks {gap rest : List Char} (nonempty : gap ≠ [])
    (blank : ∀ c ∈ gap, isBlank c = true) (ends : ∀ c ∈ rest.head?, isBlank c = false) :
    IsLongest none gap rest := by
  refine ⟨⟨nonempty, blank⟩, fun other more among takes => Nat.le_of_not_lt fun longer => ?_⟩
  obtain ⟨c, tail, next, rfl⟩ := exists_next_of_longer among longer
  obtain ⟨b, gap, rfl⟩ := List.exists_cons_of_ne_nil nonempty
  have isBlanks : other = none := (blank_iff_of_takes takes (by simp)).1 (blank b (by simp))
  have nextBlank := (blank_iff_of_takes (c := c) takes (by simp)).2 isBlanks
  simp [ends c next] at nextBlank

/-- A longer token that starts like this one would hold a character that extends it. -/
theorem IsTextOf.extends_of_longer {kind other : TokenKind} {part tail : List Char} {c : Char}
    (text : IsTextOf kind part) (longer : IsTextOf other (part ++ c :: tail)) : kind.Extends c := by
  obtain ⟨d, part, rfl⟩ := List.exists_cons_of_ne_nil text.ne_nil
  cases other with
  | word =>
      have letters : ∀ e ∈ d :: part ++ c :: tail, isLetter e = true := fun e member =>
        isLetter_iff.2 (longer.2 e member)
      exact .inl ⟨(text.letter_iff rfl).1 (letters d (by simp)), letters c (by simp)⟩
  | arrow =>
      have layout : d :: (part ++ c :: tail) = ['=', '>'] := longer
      cases part with
      | nil =>
          obtain ⟨rfl, rfl, -⟩ : d = '=' ∧ c = '>' ∧ tail = [] := by simpa using layout
          rcases text.kind_of_head rfl with isEquals | ⟨rfl, -⟩
          · exact .inr ⟨isEquals.symm, rfl⟩
          · cases text
      | cons e part => simp at layout
  | _ =>
      obtain ⟨e, single, -⟩ := longer
      simp at single

theorem isLongest_token {kind : TokenKind} {part rest : List Char} (text : IsTextOf kind part)
    (ends : ∀ c ∈ rest.head?, ¬ kind.Extends c) : IsLongest (some kind) part rest := by
  refine ⟨takes_pattern_iff.2 text, fun other more among takes => Nat.le_of_not_lt fun longer => ?_⟩
  obtain ⟨c, tail, next, rfl⟩ := exists_next_of_longer among longer
  cases other with
  | none =>
      obtain ⟨d, part, rfl⟩ := List.exists_cons_of_ne_nil text.ne_nil
      have blank := takes.2 d (by simp)
      simp [text.solid d (by simp)] at blank
  | some other => exact ends c next (text.extends_of_longer (takes_pattern_iff.1 takes))

theorem IsLongest.unique {rule other : Option TokenKind} {part rest part' rest' : List Char}
    (first : IsLongest rule part rest) (second : IsLongest other part' rest')
    (same : part ++ rest = part' ++ rest') : rule = other ∧ part = part' ∧ rest = rest' := by
  have le := second.longest rule part (same ▸ List.prefix_append ..) first.takes
  have ge := first.longest other part' (same ▸ List.prefix_append ..) second.takes
  obtain ⟨rfl, rfl⟩ := List.append_inj same (Nat.le_antisymm le ge)
  exact ⟨takes_unique first.takes second.takes, rfl, rfl⟩

theorem IsLongest.ne_nil {rule : Option TokenKind} {part rest : List Char}
    (longest : IsLongest rule part rest) : part ++ rest ≠ [] := by
  simp [ne_nil_of_takes longest.takes]

/-! ## Scanning -/

/-- The span of what a rule takes; blanks have none. -/
def spanOf (position : Nat) (part : List Char) : Option TokenKind → List Span
  | none => []
  | some kind => [⟨kind, position, position + byteLength part⟩]

/-- What scanning gives from the byte `position` on, where `cs` is left of the text: the spans of its
tokens, or the byte at which no pattern takes anything. -/
inductive Scan : Nat → List Char → Except Nat (List Span) → Prop
  | done {position : Nat} : Scan position [] (.ok [])
  | step {position : Nat} {rule : Option TokenKind} {cs part rest : List Char}
      {result : Except Nat (List Span)} (split : cs = part ++ rest)
      (longest : IsLongest rule part rest)
      (behind : Scan (position + byteLength part) rest result) :
      Scan position cs (result.map (spanOf position part rule ++ ·))
  | stuck {position : Nat} {cs : List Char} (more : cs ≠ [])
      (nothing : ∀ rule part, part <+: cs → ¬ (patternOf rule).Takes part) :
      Scan position cs (.error position)

theorem Scan.unique {position : Nat} {cs : List Char} {result other : Except Nat (List Span)}
    (first : Scan position cs result) (second : Scan position cs other) : result = other := by
  induction first generalizing other with
  | done =>
      cases second with
      | done => rfl
      | step split longest => exact absurd split.symm longest.ne_nil
      | stuck more => exact absurd rfl more
  | step split longest behind ih =>
      cases second with
      | done => exact absurd split.symm longest.ne_nil
      | step split' longest' behind' =>
          obtain ⟨rfl, rfl, rfl⟩ := longest.unique longest' (split.symm.trans split')
          rw [ih behind']
      | stuck more nothing =>
          exact absurd longest.takes (nothing _ _ (split ▸ List.prefix_append ..))
  | stuck more nothing =>
      cases second with
      | done => exact absurd rfl more
      | step split longest =>
          exact absurd longest.takes (nothing _ _ (split ▸ List.prefix_append ..))
      | stuck => rfl

/-- Blanks in front of what is no blank are dropped. -/
theorem Scan.behind_blanks {position : Nat} {gap rest : List Char} {spans : List Span}
    (blank : ∀ c ∈ gap, isBlank c = true) (ends : ∀ c ∈ rest.head?, isBlank c = false)
    (behind : Scan (position + byteLength gap) rest (.ok spans)) :
    Scan position (gap ++ rest) (.ok spans) := by
  by_cases nonempty : gap = []
  · subst nonempty
    exact behind
  · exact .step rfl (isLongest_blanks nonempty blank ends) behind

/-- **Scanning gives the spans of lexemes that tile.** -/
theorem scan_source {ls : List Lexeme} (tiles : Tiles ls) {tail : List Char}
    (blank : ∀ c ∈ tail, isBlank c = true) (position : Nat) :
    Scan position (source ls ++ tail) (.ok ((locate position ls).map Token.span)) := by
  induction ls generalizing position with
  | nil =>
      have dropped : Scan position (tail ++ []) (.ok []) := .behind_blanks blank (by simp) .done
      simpa [locate] using dropped
  | cons l ls ih =>
      obtain ⟨sound, ends, rest⟩ := (tiles_cons_iff blank).1 tiles
      have layout : source (l :: ls) ++ tail = l.gap ++ (l.text ++ (source ls ++ tail)) := by
        simp [source]
      rw [layout, map_span_locate_cons]
      refine Scan.behind_blanks sound.gap ?_ ?_
      · intro c head
        rw [List.head?_append_of_ne_nil _ sound.text.ne_nil] at head
        exact sound.text.solid c (List.mem_of_mem_head? head)
      · have behind := ih rest (position + byteLength (l.gap ++ l.text))
        rw [byteLength_append, ← Nat.add_assoc] at behind ⊢
        exact (Scan.step rfl (isLongest_token sound.text ends) behind :)

/-! ## Tokens -/

/-- **The tokens of a text are its only tiling, and scanning finds them.** Whatever the text, a scan is
never stuck: its one result is the spans of the tokens. These spans are not empty, rise without
overlap, start and stop between characters, each cover a text of their kind and leave out nothing but
blanks; no two words touch and no equals sign has `>` right behind it. No other spans are like that. -/
theorem tokens_only_tiling (text : String) :
    (∀ result, Scan 0 text.toList result ↔ result = .ok ((tokens text).map Token.span)) ∧
      ∀ spans, Tiling text 0 spans ↔ spans = (tokens text).map Token.span := by
  obtain ⟨tail, blank, whole⟩ := exists_source_append text.toList
  have scanned : Scan 0 text.toList (.ok ((tokens text).map Token.span)) := by
    have found := scan_source (tiles_lexemes text.toList) blank 0
    rwa [← whole] at found
  refine ⟨fun result => ⟨fun other => other.unique scanned, ?_⟩, fun spans => tiling_iff_tokens⟩
  rintro rfl
  exact scanned

/-- A wide blank, a letter of two bytes, and an equals sign in front of an arrow. -/
example : (tokens "\u3000é==>x ").map Token.span =
    [⟨.word, 3, 5⟩, ⟨.equals, 5, 6⟩, ⟨.arrow, 6, 8⟩, ⟨.word, 8, 9⟩] := by
  decide

end Crosslink.TypeSpec
