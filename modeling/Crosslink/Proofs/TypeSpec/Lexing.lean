/-
# Crosslink.Proofs.TypeSpec.Lexing — what the lexemes of a text are

One character does one of five things to the lexemes behind it (`Pushed`), and
everything here follows from that list:

* no character is lost, except blanks at the end of the text
  (`exists_source_append`);
* a text whose last character stays apart from what is behind it is read as if
  it stood alone (`lexOnto_apart`);
* every lexeme holds a text of its kind, behind a gap of blanks
  (`lexemes_sound`);
* runs of name lexemes and plain texts, which have no mark in them and no blank
  at their ends, are the same thing (`isPlain_spelling`, `IsPlain.lexemes`).
-/
import Crosslink.Proofs.Text.Trim
import Crosslink.TypeSpec.Token

namespace Crosslink.TypeSpec

open Crosslink.Text

set_option autoImplicit false

/-! ## Kinds of characters -/

/-- The brackets and the comma: the characters that no name holds. -/
def marks : List Char := ['<', '>', '(', ')', '{', '}', ',']

theorem isName_ofChar_iff {c : Char} : (TokenKind.ofChar c).isName = true ↔ c ∉ marks := by
  unfold TokenKind.ofChar
  split <;> simp_all [TokenKind.isName, marks]

theorem ofChar_eq_equals_iff {c : Char} : TokenKind.ofChar c = .equals ↔ c = '=' := by
  unfold TokenKind.ofChar
  split <;> simp_all

theorem ofChar_eq_closeAngle_iff {c : Char} : TokenKind.ofChar c = .closeAngle ↔ c = '>' := by
  unfold TokenKind.ofChar
  split <;> simp_all

theorem ofChar_ne_arrow (c : Char) : TokenKind.ofChar c ≠ .arrow := by
  unfold TokenKind.ofChar
  split <;> simp

theorem ofChar_of_isBlank {c : Char} (blank : isBlank c = true) : TokenKind.ofChar c = .word := by
  unfold TokenKind.ofChar
  split <;> first | rfl | exact absurd blank (by decide)

/-! ## What one character does -/

/-- `c` becomes part of the first lexeme behind it. -/
def Joins (c : Char) (behind : List Lexeme) : Prop :=
  ∃ text, (TokenKind.ofChar c = .word ∧ behind.head? = some ⟨.word, [], text⟩) ∨
    (TokenKind.ofChar c = .equals ∧ behind.head? = some ⟨.closeAngle, [], text⟩)

@[simp] theorem not_joins_nil (c : Char) : ¬ Joins c [] := by
  simp [Joins]

/-- What `push` does: a blank widens a gap or is dropped, a character joins the lexeme right
behind it, or it starts a lexeme of its own. -/
inductive Pushed (c : Char) : List Lexeme → List Lexeme → Prop
  | dropped (blank : isBlank c = true) : Pushed c [] []
  | gap {l : Lexeme} {ls : List Lexeme} (blank : isBlank c = true) :
      Pushed c (l :: ls) ({ l with gap := c :: l.gap } :: ls)
  | word {text : List Char} {ls : List Lexeme} (solid : isBlank c = false)
      (kind : TokenKind.ofChar c = .word) :
      Pushed c (⟨.word, [], text⟩ :: ls) (⟨.word, [], c :: text⟩ :: ls)
  | arrow {text : List Char} {ls : List Lexeme} (solid : isBlank c = false)
      (kind : TokenKind.ofChar c = .equals) :
      Pushed c (⟨.closeAngle, [], text⟩ :: ls) (⟨.arrow, [], c :: text⟩ :: ls)
  | apart {ls : List Lexeme} (solid : isBlank c = false) (apart : ¬ Joins c ls) :
      Pushed c ls (⟨TokenKind.ofChar c, [], [c]⟩ :: ls)

theorem pushed (c : Char) (behind : List Lexeme) : Pushed c behind (Lexeme.push c behind) := by
  unfold Lexeme.push
  by_cases blank : isBlank c = true
  · simp only [blank, if_true]
    cases behind with
    | nil => exact .dropped blank
    | cons l ls => exact .gap blank
  · have solid : isBlank c = false := by simpa using blank
    simp only [solid, Bool.false_eq_true, if_false]
    split
    · exact .word solid ‹_›
    · exact .arrow solid ‹_›
    · rename_i notWord notArrow
      refine .apart solid ?_
      rintro ⟨text, ⟨kind, head⟩ | ⟨kind, head⟩⟩
      · obtain ⟨ls, rfl⟩ := List.head?_eq_some_iff.1 head
        exact notWord _ _ kind rfl
      · obtain ⟨ls, rfl⟩ := List.head?_eq_some_iff.1 head
        exact notArrow _ _ kind rfl

theorem push_eq_of_pushed {c : Char} {behind ls : List Lexeme} (h : Pushed c behind ls) :
    Lexeme.push c behind = ls := by
  cases h with
  | dropped blank => simp [Lexeme.push, blank]
  | gap blank => simp [Lexeme.push, blank]
  | word solid kind => simp [Lexeme.push, solid, kind]
  | arrow solid kind => simp [Lexeme.push, solid, kind]
  | apart solid apart =>
      generalize result : Lexeme.push c behind = ls
      have := pushed c behind
      rw [result] at this
      cases this with
      | dropped blank => simp_all
      | gap blank => simp_all
      | word solid kind => exact absurd ⟨_, .inl ⟨kind, rfl⟩⟩ apart
      | arrow solid kind => exact absurd ⟨_, .inr ⟨kind, rfl⟩⟩ apart
      | apart => rfl

theorem Pushed.append {c : Char} {ls ms : List Lexeme} (h : Pushed c ls ms) (more : ls ≠ [])
    (behind : List Lexeme) : Pushed c (ls ++ behind) (ms ++ behind) := by
  cases h with
  | dropped blank => exact absurd rfl more
  | gap blank => exact .gap blank
  | word solid kind => exact .word solid kind
  | arrow solid kind => exact .arrow solid kind
  | apart solid apart =>
      refine .apart solid fun joins => apart ?_
      cases ls with
      | nil => exact absurd rfl more
      | cons l ls => simpa [Joins] using joins

theorem push_append (c : Char) {ls : List Lexeme} (behind : List Lexeme) (more : ls ≠ []) :
    Lexeme.push c (ls ++ behind) = Lexeme.push c ls ++ behind :=
  push_eq_of_pushed ((pushed c ls).append more behind)

/-! ## Texts -/

/-- The lexemes of `cs`, in front of lexemes already read. -/
def lexOnto (cs : List Char) (behind : List Lexeme) : List Lexeme := cs.foldr Lexeme.push behind

@[simp] theorem lexOnto_nil (behind : List Lexeme) : lexOnto [] behind = behind := rfl

@[simp] theorem lexOnto_cons (c : Char) (cs : List Char) (behind : List Lexeme) :
    lexOnto (c :: cs) behind = Lexeme.push c (lexOnto cs behind) := by
  simp only [lexOnto, List.foldr_cons]

theorem lexOnto_append (xs ys : List Char) (behind : List Lexeme) :
    lexOnto (xs ++ ys) behind = lexOnto xs (lexOnto ys behind) := List.foldr_append ..

theorem lexemes_eq_lexOnto (cs : List Char) : lexemes cs = lexOnto cs [] := rfl

/-- What lexemes were read from. -/
def source (ls : List Lexeme) : List Char := ls.flatMap fun l => l.gap ++ l.text

@[simp] theorem source_nil : source [] = [] := rfl

@[simp] theorem source_append (ls ms : List Lexeme) : source (ls ++ ms) = source ls ++ source ms :=
  List.flatMap_append

theorem source_singleton (l : Lexeme) : source [l] = l.gap ++ l.text := by
  simp [source]

/-- Nothing but blanks at the end of a text is lost. -/
theorem exists_source_append (cs : List Char) :
    ∃ tail, (∀ c ∈ tail, isBlank c = true) ∧ cs = source (lexemes cs) ++ tail := by
  induction cs with
  | nil => exact ⟨[], by simp, rfl⟩
  | cons c cs ih =>
      obtain ⟨tail, blank, eq⟩ := ih
      have step : Pushed c (lexemes cs) (lexemes (c :: cs)) := pushed c (lexemes cs)
      generalize lexemes cs = behind at step eq
      generalize lexemes (c :: cs) = ls at step
      cases step with
      | dropped h => exact ⟨c :: tail, by simpa [h] using blank, by simp_all [source]⟩
      | gap h => exact ⟨tail, blank, by simp_all [source]⟩
      | word solid kind => exact ⟨tail, blank, by simp_all [source]⟩
      | arrow solid kind => exact ⟨tail, blank, by simp_all [source]⟩
      | apart solid apart => exact ⟨tail, blank, by simp_all [source]⟩

theorem source_lexemes {cs : List Char} (solid : ∀ c, cs.getLast? = some c → isBlank c = false) :
    source (lexemes cs) = cs := by
  obtain ⟨tail, blank, eq⟩ := exists_source_append cs
  rcases List.eq_nil_or_concat tail with rfl | ⟨init, c, rfl⟩
  · simpa using eq.symm
  · have last : cs.getLast? = some c := by rw [eq]; simp
    have := blank c (by simp)
    simp [solid c last] at this

/-- A text whose last character stays apart from what is behind it. -/
theorem lexOnto_apart {cs : List Char} {behind : List Lexeme}
    (solid : ∀ c, cs.getLast? = some c → isBlank c = false)
    (apart : ∀ c, cs.getLast? = some c → ¬ Joins c behind) :
    lexOnto cs behind = lexemes cs ++ behind := by
  induction cs with
  | nil => rfl
  | cons c cs ih =>
      cases cs with
      | nil =>
          have alone : Lexeme.push c [] = [⟨TokenKind.ofChar c, [], [c]⟩] :=
            push_eq_of_pushed (.apart (solid c rfl) (by simp [Joins]))
          simp only [lexOnto_cons, lexOnto_nil, lexemes_eq_lexOnto, alone]
          exact push_eq_of_pushed (.apart (solid c rfl) (apart c rfl))
      | cons d cs =>
          have rest := ih (by simpa using solid) (by simpa using apart)
          have more : lexemes (d :: cs) ≠ [] := by
            intro none_
            have lost := @source_lexemes (d :: cs) (by simpa using solid)
            simp [none_, source] at lost
          rw [lexOnto_cons, rest, push_append c behind more]
          rfl

/-! ## What a lexeme holds -/

/-- The texts that a token of this kind may have. -/
def IsTextOf : TokenKind → List Char → Prop
  | .word, cs => cs ≠ [] ∧ ∀ c ∈ cs, isBlank c = false ∧ TokenKind.ofChar c = .word
  | .arrow, cs => cs = ['=', '>']
  | kind, cs => ∃ c, cs = [c] ∧ TokenKind.ofChar c = kind

structure Lexeme.Sound (l : Lexeme) : Prop where
  gap : ∀ c ∈ l.gap, isBlank c = true
  text : IsTextOf l.kind l.text

theorem isTextOf_char {c : Char} (solid : isBlank c = false) :
    IsTextOf (TokenKind.ofChar c) [c] := by
  generalize kind : TokenKind.ofChar c = k
  cases k with
  | word => exact ⟨by simp, by simpa using ⟨solid, kind⟩⟩
  | arrow => exact absurd kind (ofChar_ne_arrow c)
  | _ => exact ⟨c, rfl, kind⟩

theorem Pushed.sound {c : Char} {behind ls : List Lexeme} (h : Pushed c behind ls)
    (sound : ∀ l ∈ behind, l.Sound) : ∀ l ∈ ls, l.Sound := by
  cases h with
  | dropped blank => exact sound
  | gap blank =>
      simp only [List.forall_mem_cons] at sound ⊢
      exact ⟨⟨by simpa [blank] using sound.1.gap, sound.1.text⟩, sound.2⟩
  | word solid kind =>
      simp only [List.forall_mem_cons] at sound ⊢
      have old := sound.1.text
      exact ⟨⟨by simp, by simp, by simpa [solid, kind] using old.2⟩, sound.2⟩
  | arrow solid kind =>
      simp only [List.forall_mem_cons] at sound ⊢
      obtain ⟨d, rfl, closes⟩ := sound.1.text
      refine ⟨⟨by simp, ?_⟩, sound.2⟩
      rw [ofChar_eq_equals_iff.1 kind, ofChar_eq_closeAngle_iff.1 closes]
      rfl
  | apart solid apart =>
      simp only [List.forall_mem_cons]
      exact ⟨⟨by simp, isTextOf_char solid⟩, sound⟩

theorem lexemes_sound (cs : List Char) : ∀ l ∈ lexemes cs, l.Sound := by
  induction cs with
  | nil => simp [lexemes]
  | cons c cs ih => exact (pushed c (lexemes cs)).sound ih

theorem IsTextOf.ne_nil {kind : TokenKind} {cs : List Char} (text : IsTextOf kind cs) : cs ≠ [] := by
  cases kind with
  | word => exact text.1
  | arrow => exact text ▸ by simp
  | _ => obtain ⟨c, rfl, -⟩ := text; simp

/-- A token holds no blank. -/
theorem IsTextOf.solid {kind : TokenKind} {cs : List Char} (text : IsTextOf kind cs) :
    ∀ c ∈ cs, isBlank c = false := by
  have single : ∀ c, TokenKind.ofChar c ≠ .word → isBlank c = false := by
    intro c notWord
    cases blank : isBlank c with
    | false => rfl
    | true => exact absurd (ofChar_of_isBlank blank) notWord
  cases kind with
  | word => exact fun c member => (text.2 c member).1
  | arrow =>
      subst text
      intro c member
      simp only [List.mem_cons, List.not_mem_nil, or_false] at member
      rcases member with rfl | rfl
      · rfl
      · rfl
  | _ =>
      obtain ⟨c, rfl, kind⟩ := text
      simpa using single c (by simp [kind])

/-- A token spells a name exactly when it holds no mark. -/
theorem IsTextOf.isName_iff {kind : TokenKind} {cs : List Char} (text : IsTextOf kind cs) :
    kind.isName = true ↔ ∀ c ∈ cs, c ∉ marks := by
  cases kind with
  | word =>
      refine ⟨fun _ c member => ?_, fun _ => rfl⟩
      rw [← isName_ofChar_iff, (text.2 c member).2]
      rfl
  | arrow =>
      subst text
      constructor
      · intro impossible
        cases impossible
      · intro unmarked
        exact absurd (by decide) (unmarked '>' (by simp))
  | _ =>
      obtain ⟨c, rfl, kind⟩ := text
      simp [← isName_ofChar_iff, kind]

/-! ## Names -/

/-- A text that a name may have, and the empty text. -/
structure IsPlain (cs : List Char) : Prop extends IsTrimmed cs where
  unmarked : ∀ c ∈ cs, c ∉ marks

/-- The text of a run of lexemes, without the gap in front of it. -/
def spelling : List Lexeme → List Char
  | [] => []
  | l :: ls => l.text ++ source ls

theorem source_eq_gap_append (l : Lexeme) (ls : List Lexeme) :
    source (l :: ls) = l.gap ++ spelling (l :: ls) := by
  simp [source, spelling]

theorem not_mem_marks_of_isBlank {c : Char} (blank : isBlank c = true) : c ∉ marks := by
  rw [← isName_ofChar_iff, ofChar_of_isBlank blank]
  rfl

theorem last_of_spelling {ls : List Lexeme} {c : Char} (texts : ∀ l ∈ ls, IsTextOf l.kind l.text)
    (last : (spelling ls).getLast? = some c) : ∃ l ∈ ls, c ∈ l.text := by
  cases ls with
  | nil => simp [spelling] at last
  | cons l ls =>
      rcases List.eq_nil_or_concat ls with rfl | ⟨init, m, rfl⟩
      · exact ⟨l, by simp, List.mem_of_getLast? (by simpa [spelling, source] using last)⟩
      · have nonempty := (texts m (by simp)).ne_nil
        refine ⟨m, by simp, List.mem_of_getLast? ?_⟩
        simpa [spelling, source, List.getLast?_append, nonempty] using last

/-- A run of name lexemes spells a name. -/
theorem isPlain_spelling {ls : List Lexeme} (sound : ∀ l ∈ ls, l.Sound)
    (names : ∀ l ∈ ls, l.kind.isName = true) : IsPlain (spelling ls) := by
  cases ls with
  | nil => exact ⟨⟨by simp [spelling], by simp [spelling]⟩, by simp [spelling]⟩
  | cons l ls =>
      have unmarked : ∀ m ∈ l :: ls, ∀ c ∈ m.text, c ∉ marks := fun m member =>
        (sound m member).text.isName_iff.1 (names m member)
      refine ⟨⟨fun c head => ?_, fun c last => ?_⟩, fun c member => ?_⟩
      · have text := (sound l (by simp)).text
        obtain ⟨d, ds, eq⟩ := List.exists_cons_of_ne_nil text.ne_nil
        simp only [spelling, eq, List.cons_append, List.head?_cons, Option.some.injEq] at head
        exact text.solid c (by simp [eq, head])
      · obtain ⟨m, member, inText⟩ := last_of_spelling (fun m member => (sound m member).text) last
        exact (sound m member).text.solid c inText
      · simp only [spelling, source, List.mem_append, List.mem_flatMap] at member
        rcases member with here | ⟨m, inRest, inGap | inText⟩
        · exact unmarked l (by simp) c here
        · exact not_mem_marks_of_isBlank ((sound m (by simp [inRest])).gap c inGap)
        · exact unmarked m (by simp [inRest]) c inText

/-- A plain text is read as a run of name lexemes that spell it. -/
theorem IsPlain.lexemes {cs : List Char} (plain : IsPlain cs) :
    spelling (lexemes cs) = cs ∧ ∀ l ∈ lexemes cs, l.kind.isName = true := by
  have whole := source_lexemes plain.back
  constructor
  · cases ls : TypeSpec.lexemes cs with
    | nil => rw [ls] at whole; simpa [source, spelling] using whole
    | cons l rest =>
        have sound := lexemes_sound cs l (by simp [ls])
        rw [ls, source_eq_gap_append] at whole
        cases gap : l.gap with
        | nil => simpa [gap] using whole
        | cons b gap' =>
            have blank := sound.gap b (by simp [gap])
            have solid := plain.front b (by rw [← whole, gap]; rfl)
            simp [blank] at solid
  · intro l member
    have sound := lexemes_sound cs l member
    rw [sound.text.isName_iff]
    intro c inText
    refine plain.unmarked c ?_
    rw [← whole]
    simp only [source, List.mem_flatMap, List.mem_append]
    exact ⟨l, member, .inr inText⟩

/-! ## Marks -/

theorem joins_cons {c : Char} {l : Lexeme} {ls : List Lexeme} : Joins c (l :: ls) ↔
    l.gap = [] ∧ ((TokenKind.ofChar c = .word ∧ l.kind = .word) ∨
      (TokenKind.ofChar c = .equals ∧ l.kind = .closeAngle)) := by
  obtain ⟨kind, gap, text⟩ := l
  simp only [Joins, List.head?_cons, Option.some.injEq, Lexeme.mk.injEq]
  constructor
  · rintro ⟨text, ⟨h, k, g, -⟩ | ⟨h, k, g, -⟩⟩
    · exact ⟨g, .inl ⟨h, k⟩⟩
    · exact ⟨g, .inr ⟨h, k⟩⟩
  · rintro ⟨g, ⟨h, k⟩ | ⟨h, k⟩⟩
    · exact ⟨_, .inl ⟨h, k, g, rfl⟩⟩
    · exact ⟨_, .inr ⟨h, k, g, rfl⟩⟩

theorem push_mark {c : Char} (mark : c ∈ marks) (behind : List Lexeme) :
    Lexeme.push c behind = ⟨TokenKind.ofChar c, [], [c]⟩ :: behind := by
  have notName : ¬ (TokenKind.ofChar c).isName = true := fun isName =>
    isName_ofChar_iff.1 isName mark
  refine push_eq_of_pushed (.apart ?_ ?_)
  · cases blank : isBlank c with
    | false => rfl
    | true => exact absurd mark (not_mem_marks_of_isBlank blank)
  · rintro ⟨text, ⟨kind, -⟩ | ⟨kind, -⟩⟩ <;> simp [kind, TokenKind.isName] at notName

/-- Nothing joins a mark, except an equals sign a closing angle bracket. -/
theorem not_joins_push {c : Char} (mark : c ∈ marks) (notClose : c ≠ '>') (d : Char)
    (behind : List Lexeme) : ¬ Joins d (Lexeme.push c behind) := by
  have notName : ¬ (TokenKind.ofChar c).isName = true := fun isName =>
    isName_ofChar_iff.1 isName mark
  rw [push_mark mark, joins_cons]
  rintro ⟨-, ⟨-, kind⟩ | ⟨-, kind⟩⟩
  · exact notName (by rw [show TokenKind.ofChar c = .word from kind]; rfl)
  · exact notClose (ofChar_eq_closeAngle_iff.1 kind)

theorem lexOnto_arrow (behind : List Lexeme) :
    lexOnto [' ', '=', '>', ' '] behind =
      ⟨.arrow, [' '], ['=', '>']⟩ :: Lexeme.push ' ' behind := by
  simp only [lexOnto_cons, lexOnto_nil]
  rw [push_mark (c := '>') (by decide)]
  rfl

/-- A name, an opening mark, a text that is read apart from the closing mark, and that mark. -/
theorem lexOnto_bracket {name : String} (plain : IsPlain name.toList) {o c : Char}
    (opens : o ∈ marks) (notClose : o ≠ '>') (closes : c ∈ marks) {cs : List Char}
    {ls behind : List Lexeme}
    (inner : lexOnto cs (Lexeme.push c behind) = ls ++ Lexeme.push c behind) :
    lexOnto (name.toList ++ o :: (cs ++ [c])) behind =
      (lexemes name.toList ++ ⟨TokenKind.ofChar o, [], [o]⟩ ::
        (ls ++ [⟨TokenKind.ofChar c, [], [c]⟩])) ++ behind := by
  rw [lexOnto_append, lexOnto_cons, lexOnto_append, lexOnto_cons, lexOnto_nil, inner,
    lexOnto_apart plain.back fun d _ => not_joins_push opens notClose d _, push_mark opens,
    push_mark closes]
  simp

/-! ## Places -/

@[simp] theorem locate_map (n : Nat) (ls : List Lexeme) :
    (locate n ls).map Token.toLexeme = ls := by
  induction ls generalizing n with
  | nil => rfl
  | cons l ls ih => simp [locate, ih]

theorem tokens_sound (text : String) : ∀ t ∈ tokens text, t.toLexeme.Sound := by
  intro t member
  refine lexemes_sound text.toList _ ?_
  rw [← locate_map 0 (lexemes text.toList)]
  exact List.mem_map_of_mem member

end Crosslink.TypeSpec
