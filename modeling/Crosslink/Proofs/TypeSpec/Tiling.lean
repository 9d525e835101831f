/-
# Crosslink.Proofs.TypeSpec.Tiling — lexemes and the texts they come from

Two lexemes touch when nothing stands between them and they would be read as
one: two words, or an equals sign and a closing angle bracket. Lexemes tile a
text when each of them is sound and no neighbours touch.

* The lexemes of a text tile it (`tiles_lexemes`).
* Lexemes that tile are read back from their source (`lexemes_source`). With a
  space in front of each of them, lexemes of any kinds tile, so every list of
  kinds is that of a text (`exists_text_of_kinds`).
-/
import Mathlib.Data.List.Chain
import Crosslink.Proofs.TypeSpec.Lexing

namespace Crosslink.TypeSpec

open Crosslink.Text

set_option autoImplicit false

/-! ## Neighbours -/

/-- `m` stands right behind `l`, and the two would be read as one lexeme. -/
def Lexeme.Touches (l m : Lexeme) : Prop :=
  m.gap = [] ∧ ((l.kind = .word ∧ m.kind = .word) ∨ (l.kind = .equals ∧ m.kind = .closeAngle))

/-- Lexemes that a text can have. -/
structure Tiles (ls : List Lexeme) : Prop where
  sound : ∀ l ∈ ls, l.Sound
  apart : ls.IsChain fun l m => ¬ l.Touches m

theorem tiles_nil : Tiles [] := ⟨by simp, .nil⟩

theorem not_touches_of_gap {l m : Lexeme} (spaced : m.gap ≠ []) : ¬ l.Touches m :=
  fun touches => spaced touches.1

theorem not_touches_of_mark {l m : Lexeme} (mark : l.kind.isName = false) : ¬ l.Touches m := by
  rintro ⟨-, ⟨kind, -⟩ | ⟨kind, -⟩⟩
  · simp [kind, TokenKind.isName] at mark
  · simp [kind, TokenKind.isName] at mark

/-- A lexeme that is no part of a name, with blanks in front of it, between two tilings. -/
theorem Tiles.join {ls ms : List Lexeme} {p : Lexeme} (left : Tiles ls) (sound : p.Sound)
    (mark : p.kind.isName = false) (spaced : p.gap ≠ []) (right : Tiles ms) :
    Tiles (ls ++ p :: ms) := by
  refine ⟨?_, ?_⟩
  · intro l member
    rcases List.mem_append.1 member with before | behind
    · exact left.sound l before
    · rcases List.mem_cons.1 behind with rfl | after
      · exact sound
      · exact right.sound l after
  · refine List.isChain_append.2 ⟨left.apart, ?_, ?_⟩
    · exact List.isChain_cons.2 ⟨fun m _ => not_touches_of_mark mark, right.apart⟩
    · intro l _ m head
      obtain rfl : p = m := by simpa using head
      exact not_touches_of_gap spaced

/-! ## The lexemes of a text tile it -/

/-- Only the kind of the first lexeme matters. -/
theorem touches_iff_of_kind {k l m : Lexeme} (same : k.kind = l.kind) :
    k.Touches m ↔ l.Touches m := by
  simp only [Lexeme.Touches, same]

theorem Pushed.apart_chain {c : Char} {behind ls : List Lexeme} (h : Pushed c behind ls)
    (chain : behind.IsChain fun l m => ¬ l.Touches m) : ls.IsChain fun l m => ¬ l.Touches m := by
  cases h with
  | dropped blank => exact chain
  | gap blank => exact chain.imp_head (mt (touches_iff_of_kind rfl).1)
  | word solid kind => exact chain.imp_head (mt (touches_iff_of_kind rfl).1)
  | arrow solid kind => exact chain.imp_head fun _ => not_touches_of_mark rfl
  | apart solid apart =>
      refine List.isChain_cons.2 ⟨fun m head touches => apart ?_, chain⟩
      obtain ⟨rest, rfl⟩ := List.head?_eq_some_iff.1 head
      exact joins_cons.2 touches

theorem tiles_lexemes (cs : List Char) : Tiles (lexemes cs) := by
  refine ⟨lexemes_sound cs, ?_⟩
  induction cs with
  | nil => exact .nil
  | cons c cs ih => exact (pushed c (lexemes cs)).apart_chain ih

/-! ## Lexemes are read back from their source -/

/-- The last character of a lexeme has the lexeme's own kind, except in an arrow. -/
theorem IsTextOf.kind_of_last {kind : TokenKind} {cs : List Char} {c : Char}
    (text : IsTextOf kind cs) (last : cs.getLast? = some c) :
    TokenKind.ofChar c = kind ∨ TokenKind.ofChar c = .closeAngle := by
  cases kind with
  | word => exact .inl (text.2 c (List.mem_of_getLast? last)).2
  | arrow =>
      subst text
      obtain rfl : '>' = c := by simpa using last
      exact .inr rfl
  | _ =>
      obtain ⟨d, rfl, kind⟩ := text
      obtain rfl : d = c := by simpa using last
      exact .inl kind

theorem lexemes_word {cs : List Char} (text : IsTextOf .word cs) :
    lexemes cs = [⟨.word, [], cs⟩] := by
  obtain ⟨nonempty, letters⟩ := text
  induction cs with
  | nil => exact absurd rfl nonempty
  | cons c cs ih =>
      obtain ⟨solid, kind⟩ := letters c (by simp)
      change Lexeme.push c (lexemes cs) = _
      cases cs with
      | nil =>
          rw [← kind]
          exact push_eq_of_pushed (.apart solid (not_joins_nil c))
      | cons d ds =>
          rw [ih (by simp) fun e member => letters e (by simp [member])]
          exact push_eq_of_pushed (.word solid kind)

/-- The text of a lexeme is one lexeme. -/
theorem IsTextOf.lexemes_eq {kind : TokenKind} {cs : List Char} (text : IsTextOf kind cs) :
    lexemes cs = [⟨kind, [], cs⟩] := by
  have solid := text.solid
  cases kind with
  | word => exact lexemes_word text
  | arrow =>
      subst text
      rfl
  | _ =>
      obtain ⟨c, rfl, kind⟩ := text
      rw [← kind]
      exact push_eq_of_pushed (.apart (solid c (by simp)) (not_joins_nil c))

theorem lexOnto_blanks {gap : List Char} (blank : ∀ c ∈ gap, isBlank c = true) (l : Lexeme)
    (behind : List Lexeme) :
    lexOnto gap (l :: behind) = { l with gap := gap ++ l.gap } :: behind := by
  induction gap with
  | nil => rfl
  | cons c gap ih =>
      rw [lexOnto_cons, ih fun d member => blank d (by simp [member])]
      exact push_eq_of_pushed (.gap (blank c (by simp)))

/-- A sound lexeme is read apart from lexemes that it does not touch. -/
theorem Lexeme.Sound.lexOnto {l : Lexeme} (sound : l.Sound) {behind : List Lexeme}
    (apart : ∀ m ∈ behind.head?, ¬ l.Touches m) : lexOnto (l.gap ++ l.text) behind = l :: behind := by
  have alone : TypeSpec.lexOnto l.text behind = lexemes l.text ++ behind := by
    refine lexOnto_apart (fun c last => sound.text.solid c (List.mem_of_getLast? last)) ?_
    intro c last joins
    cases behind with
    | nil => exact not_joins_nil c joins
    | cons m ms =>
        obtain ⟨gap, kinds⟩ := joins_cons.1 joins
        refine apart m rfl ⟨gap, ?_⟩
        rcases sound.text.kind_of_last last with same | closes
        · simpa [same] using kinds
        · simp [closes] at kinds
  rw [lexOnto_append, alone, sound.text.lexemes_eq, List.singleton_append,
    lexOnto_blanks sound.gap, List.append_nil]

/-- **Lexemes that tile are read back from their source.** -/
theorem lexemes_source {ls : List Lexeme} (tiles : Tiles ls) : lexemes (source ls) = ls := by
  obtain ⟨sound, apart⟩ := tiles
  induction ls with
  | nil => rfl
  | cons l ls ih =>
      obtain ⟨here, rest⟩ := List.isChain_cons.1 apart
      have behind := ih (fun m member => sound m (by simp [member])) rest
      have split : source (l :: ls) = (l.gap ++ l.text) ++ source ls := rfl
      rw [lexemes_eq_lexOnto, split, lexOnto_append, ← lexemes_eq_lexOnto, behind]
      exact (sound l (by simp)).lexOnto here

/-- Lexemes that tile are the lexemes of a text. -/
theorem exists_text_of_tiles {ls : List Lexeme} (tiles : Tiles ls) :
    ∃ text, (tokens text).map Token.toLexeme = ls := by
  refine ⟨String.ofList (source ls), ?_⟩
  rw [tokens, locate_map, String.toList_ofList, lexemes_source tiles]

/-! ## Kinds -/

/-- A text of this kind. -/
def TokenKind.sample : TokenKind → List Char
  | .openAngle => ['<']
  | .closeAngle => ['>']
  | .openParen => ['(']
  | .closeParen => [')']
  | .openBrace => ['{']
  | .closeBrace => ['}']
  | .comma => [',']
  | .arrow => ['=', '>']
  | .equals => ['=']
  | .word => ['x']

/-- A lexeme of this kind, with a space in front of it. -/
def spaced (kind : TokenKind) : Lexeme := ⟨kind, [' '], kind.sample⟩

theorem spaced_sound (kind : TokenKind) : (spaced kind).Sound := by
  refine ⟨?_, ?_⟩
  · intro c member
    obtain rfl := List.mem_singleton.1 member
    decide
  cases kind with
  | word =>
      refine ⟨List.cons_ne_nil _ _, ?_⟩
      intro c member
      obtain rfl := List.mem_singleton.1 member
      exact ⟨by decide, rfl⟩
  | arrow => rfl
  | _ => exact ⟨_, rfl, rfl⟩

theorem tiles_spaced (kinds : List TokenKind) : Tiles (kinds.map spaced) := by
  refine ⟨?_, ?_⟩
  · intro l member
    obtain ⟨kind, -, rfl⟩ := List.mem_map.1 member
    exact spaced_sound kind
  · induction kinds with
    | nil => exact .nil
    | cons kind kinds ih =>
        refine List.isChain_cons.2 ⟨fun m head => not_touches_of_gap ?_, ih⟩
        obtain ⟨next, -, rfl⟩ := List.mem_map.1 (List.mem_of_mem_head? head)
        simp [spaced]

/-- Every list of kinds is that of a text. -/
theorem exists_text_of_kinds (kinds : List TokenKind) :
    ∃ text, (tokens text).map (fun t => t.kind) = kinds := by
  obtain ⟨text, located⟩ := exists_text_of_tiles (tiles_spaced kinds)
  refine ⟨text, ?_⟩
  have kindsOf := congrArg (List.map Lexeme.kind) located
  simpa [spaced, Function.comp_def] using kindsOf

end Crosslink.TypeSpec
