/-
# Crosslink.Proofs.TypeSpec.CanonicalText — canonical text is read back or refused

A text without fusing names is read back by `lexOnto_displayList`. For the
others we count angle brackets: tokens that spell a list close every bracket
they open (`Spells.tilt`), canonical text never closes more than it opens, and
an equals sign that joins a closing bracket leaves one open
(`tips_displayList`). So such a text spells nothing
(`parse_displayList_of_fuses`).

Main theorem: `parse_displayList_iff`.
-/
import Crosslink.Proofs.TypeSpec.Written

namespace Crosslink.TypeSpec

open Crosslink.Text

set_option autoImplicit false

variable {opts : Options}

open Crosslink.TypeSpec.Expr

/-! ## A fused arrow leaves a bracket open -/

/-- How far a token tips the balance of angle brackets. -/
def TokenKind.tilt : TokenKind → Int
  | .openAngle => 1
  | .closeAngle => -1
  | _ => 0

/-- How many more angle brackets are opened than closed. -/
def tilt : List Lexeme → Int
  | [] => 0
  | l :: ls => l.kind.tilt + tilt ls

@[simp] theorem tilt_nil : tilt [] = 0 := rfl

@[simp] theorem tilt_cons (l : Lexeme) (ls : List Lexeme) :
    tilt (l :: ls) = l.kind.tilt + tilt ls := rfl

@[simp] theorem tilt_append (ls ms : List Lexeme) : tilt (ls ++ ms) = tilt ls + tilt ms := by
  induction ls with
  | nil => simp
  | cons l ls ih =>
      simp only [List.cons_append, tilt_cons, ih]
      omega

theorem TokenKind.tilt_of_isName {kind : TokenKind} (isName : kind.isName = true) :
    kind.tilt = 0 := by
  cases kind <;> first | rfl | cases isName

theorem TokenKind.tilt_nonneg {kind : TokenKind} (notClose : kind ≠ .closeAngle) :
    0 ≤ kind.tilt := by
  cases kind <;> first | decide | exact absurd rfl notClose

theorem tilt_map_toLexeme (ts : List Token) :
    tilt (ts.map Token.toLexeme) = weigh TokenKind.tilt ts := by
  induction ts with
  | nil => rfl
  | cons t ts ih => simp [ih]

/-- Spelled tokens close every angle bracket that they open. -/
theorem Spells.tilt {part : Part} {n : Nat} {ts : List Token} {ps : List Phrase}
    (spelled : Spells opts part n ts ps) : tilt (ts.map Token.toLexeme) = 0 := by
  rw [tilt_map_toLexeme]
  exact spelled.weigh ⟨fun kind => TokenKind.tilt_of_isName, rfl, rfl, rfl, rfl, rfl⟩

/-- Only a closing angle bracket lowers the balance. -/
theorem Pushed.tilt_le {c : Char} {behind ls : List Lexeme} (h : Pushed c behind ls)
    (notClose : c ≠ '>') : tilt behind ≤ tilt ls := by
  cases h with
  | dropped blank => exact Int.le_refl _
  | gap blank => simp
  | word solid kind => simp
  | arrow solid kind =>
      simp only [tilt_cons, TokenKind.tilt]
      omega
  | apart solid apart =>
      have kind : TokenKind.ofChar c ≠ .closeAngle := fun h =>
        notClose (ofChar_eq_closeAngle_iff.1 h)
      have := TokenKind.tilt_nonneg kind
      simp only [tilt_cons]
      omega

theorem tilt_le_lexOnto {cs : List Char} (noClose : ∀ c ∈ cs, c ≠ '>') (behind : List Lexeme) :
    tilt behind ≤ tilt (lexOnto cs behind) := by
  induction cs with
  | nil => exact Int.le_refl _
  | cons c cs ih =>
      have rest := ih fun d member => noClose d (by simp [member])
      have step := (pushed c (lexOnto cs behind)).tilt_le (noClose c (by simp))
      rw [lexOnto_cons]
      omega

/-- An equals sign at the end takes a closing angle bracket with it. -/
theorem tilt_le_lexOnto_close {cs : List Char} (noClose : ∀ c ∈ cs, c ≠ '>')
    (last : cs.getLast? = some '=') (behind : List Lexeme) :
    tilt behind ≤ tilt (lexOnto cs (Lexeme.push '>' behind)) := by
  obtain ⟨init, rfl⟩ := List.getLast?_eq_some_iff.1 last
  have fused : Lexeme.push '=' (Lexeme.push '>' behind) = ⟨.arrow, [], ['=', '>']⟩ :: behind := by
    rw [push_mark (c := '>') (by decide)]
    exact push_eq_of_pushed (c := '=') (.arrow (by decide) rfl)
  rw [lexOnto_append, lexOnto_cons, lexOnto_nil, fused]
  have front := @tilt_le_lexOnto init (fun c member => noClose c (by simp [member]))
    (⟨.arrow, [], ['=', '>']⟩ :: behind)
  simpa [TokenKind.tilt] using front

theorem IsPlain.ne_close {cs : List Char} (plain : IsPlain cs) : ∀ c ∈ cs, c ≠ '>' := by
  rintro c member rfl
  exact plain.unmarked _ member (by decide)

theorem tilt_push_mark {c : Char} (mark : c ∈ marks) (behind : List Lexeme) :
    tilt (Lexeme.push c behind) = (TokenKind.ofChar c).tilt + tilt behind := by
  rw [push_mark mark, tilt_cons]

theorem tilt_push_blank (behind : List Lexeme) : tilt (Lexeme.push ' ' behind) = tilt behind := by
  cases behind <;> rfl

theorem tilt_arrow (behind : List Lexeme) :
    tilt (lexOnto [' ', '=', '>', ' '] behind) = tilt behind := by
  rw [lexOnto_arrow, tilt_cons, tilt_push_blank]
  simp [TokenKind.tilt]

theorem tilt_comma (behind : List Lexeme) : tilt (lexOnto [',', ' '] behind) = tilt behind := by
  rw [lexOnto_cons, lexOnto_cons, lexOnto_nil, tilt_push_mark (by decide), tilt_push_blank]
  simp [TokenKind.ofChar, TokenKind.tilt]

theorem lexOnto_displayList_cons (e f : Expr) (es : List Expr) (behind : List Lexeme) :
    lexOnto (displayList (e :: f :: es)).toList behind = lexOnto (display e).toList
      (lexOnto [',', ' '] (lexOnto (displayList (f :: es)).toList behind)) := by
  rw [← lexOnto_append, ← lexOnto_append, displayList_cons_cons]
  simp

/-- A fusing node of a collection is the collection itself or stands in its items. -/
theorem fuses_collection {name : String} {items : List Expr} {ordered : Bool}
    (fuses : ∃ f ∈ (Expr.collection name items ordered).nodes, f.Fuses) :
    (ordered = false ∧ ∃ last, items.getLast? = some (.basic last) ∧
      last.toList.getLast? = some '=') ∨ ∃ f ∈ nodesAll items, f.Fuses := by
  obtain ⟨f, member, here⟩ := fuses
  simp only [nodes, List.mem_cons] at member
  rcases member with rfl | inside
  · obtain ⟨_, _, last, same, isLast, ends⟩ := here
    cases same
    exact .inl ⟨rfl, last, isLast, ends⟩
  · exact .inr ⟨f, inside, here⟩

/-- `later` holds no fewer open angle brackets than `earlier`, and more of them when `fuses`. -/
def Tips (earlier later : List Lexeme) (fuses : Prop) : Prop :=
  tilt earlier ≤ tilt later ∧ (fuses → tilt earlier < tilt later)

theorem Tips.trans {as bs cs : List Lexeme} {p q r : Prop} (first : Tips as bs p)
    (second : Tips bs cs q) (either : r → p ∨ q) : Tips as cs r := by
  refine ⟨Int.le_trans first.1 second.1, fun fuses => ?_⟩
  rcases either fuses with here | there
  · exact Int.lt_of_lt_of_le (first.2 here) second.1
  · exact Int.lt_of_le_of_lt first.1 (second.2 there)

theorem Tips.of_eq {as bs : List Lexeme} (same : tilt bs = tilt as) : Tips as bs False :=
  ⟨Int.le_of_eq same.symm, False.elim⟩

/-- A name, an even mark, a text, and an even mark. -/
theorem Tips.bracket {name : String} (isPlain : IsPlain name.toList) {o c : Char} (opens : o ∈ marks)
    (closes : c ∈ marks) (even : (TokenKind.ofChar o).tilt = 0 ∧ (TokenKind.ofChar c).tilt = 0)
    {cs : List Char} {behind : List Lexeme} {p : Prop}
    (inner : Tips (Lexeme.push c behind) (lexOnto cs (Lexeme.push c behind)) p) :
    Tips behind (lexOnto (name.toList ++ o :: (cs ++ [c])) behind) p := by
  rw [lexOnto_append, lexOnto_cons, lexOnto_append, lexOnto_cons, lexOnto_nil]
  have close : Tips behind (Lexeme.push c behind) False :=
    .of_eq (by rw [tilt_push_mark closes, even.2]; omega)
  have open_ : Tips (lexOnto cs (Lexeme.push c behind))
      (Lexeme.push o (lexOnto cs (Lexeme.push c behind))) False :=
    .of_eq (by rw [tilt_push_mark opens, even.1]; omega)
  have named : Tips _ (lexOnto name.toList (Lexeme.push o (lexOnto cs (Lexeme.push c behind)))) False :=
    ⟨tilt_le_lexOnto isPlain.ne_close _, False.elim⟩
  exact ((close.trans inner .inr).trans open_ .inl).trans named .inl

mutual

/-- The canonical text of an expression never closes more angle brackets than it opens, and leaves
one open when an arrow fuses in it. -/
theorem tips_display (plain : opts.PlainDefault) : ∀ (e : Expr) (n : Nat) (behind : List Lexeme),
    Readable opts n e → Tips behind (lexOnto (display e).toList behind) (∃ f ∈ e.nodes, f.Fuses)
  | .basic name, n, behind, readable => by
      refine ⟨tilt_le_lexOnto readable.1.ne_close behind, ?_⟩
      rintro ⟨f, member, _, _, _, rfl, -⟩
      simp [nodes] at member
  | .collection name items false, n, behind, readable => by
      have written : (display (.collection name items false)).toList =
          name.toList ++ '<' :: ((displayList items).toList ++ ['>']) := by simp [display]
      obtain ⟨inner, innerFuses⟩ := tips_displayList plain items (n + 1) (Lexeme.push '>' behind)
        readable.2.2.2.2
      have outer := tilt_le_lexOnto (plain.isPlain readable).ne_close
        (Lexeme.push '<' (lexOnto (displayList items).toList (Lexeme.push '>' behind)))
      have opens := tilt_push_mark (c := '<') (by decide)
        (lexOnto (displayList items).toList (Lexeme.push '>' behind))
      have closes := tilt_push_mark (c := '>') (by decide) behind
      have lexed : lexOnto (display (.collection name items false)).toList behind = lexOnto name.toList
          (Lexeme.push '<' (lexOnto (displayList items).toList (Lexeme.push '>' behind))) := by
        rw [written, lexOnto_append, lexOnto_cons, lexOnto_append, lexOnto_cons, lexOnto_nil]
      simp only [TokenKind.ofChar, TokenKind.tilt] at opens closes
      rw [lexed]
      refine ⟨by omega, fun fuses => ?_⟩
      rcases fuses_collection fuses with ⟨-, last, isLast, ends⟩ | inside
      · have taken := tilt_displayList_close plain items (n + 1) behind readable.2.2.2.2 isLast ends
        omega
      · have := innerFuses inside
        omega
  | .collection name items true, n, behind, readable => by
      have written : (display (.collection name items true)).toList =
          name.toList ++ '(' :: ((displayList items).toList ++ [')']) := by simp [display]
      have inner := tips_displayList plain items (n + 1) (Lexeme.push ')' behind) readable.2.2.2.2
      have whole := Tips.bracket (plain.isPlain readable) (o := '(') (by decide) (by decide)
        (by decide) inner
      rw [written]
      refine ⟨whole.1, fun fuses => whole.2 ?_⟩
      rcases fuses_collection fuses with ⟨ordered, -⟩ | inside
      · cases ordered
      · exact inside
  | .mapping name keys values, n, behind, readable => by
      have written : (display (.mapping name keys values)).toList =
          name.toList ++ '{' :: ((displayList keys).toList ++ [' ', '=', '>', ' '] ++
            (displayList values).toList ++ ['}']) := by simp [display]
      have valuesTip := tips_displayList plain values (n + 1) (Lexeme.push '}' behind)
        readable.2.2.2.2.2
      have turn : Tips (lexOnto (displayList values).toList (Lexeme.push '}' behind))
          (lexOnto [' ', '=', '>', ' '] (lexOnto (displayList values).toList (Lexeme.push '}' behind)))
          False := .of_eq (tilt_arrow _)
      have keysTip := tips_displayList plain keys (n + 1) (lexOnto [' ', '=', '>', ' ']
        (lexOnto (displayList values).toList (Lexeme.push '}' behind))) readable.2.2.2.2.1
      have inner := (valuesTip.trans turn .inl).trans keysTip
        (fun either : (∃ f ∈ nodesAll values, f.Fuses) ∨ ∃ f ∈ nodesAll keys, f.Fuses => either)
      rw [← lexOnto_append, ← lexOnto_append] at inner
      have whole := Tips.bracket readable.2.1.1 (o := '{') (by decide) (by decide) (by decide) inner
      rw [written]
      refine ⟨whole.1, ?_⟩
      rintro ⟨f, member, fuses⟩
      refine whole.2 ?_
      simp only [nodes, List.mem_cons, List.mem_append] at member
      rcases member with rfl | inKeys | inValues
      · obtain ⟨_, _, _, impossible, -⟩ := fuses
        cases impossible
      · exact .inr ⟨f, inKeys, fuses⟩
      · exact .inl ⟨f, inValues, fuses⟩

theorem tips_displayList (plain : opts.PlainDefault) : ∀ (es : List Expr) (n : Nat)
    (behind : List Lexeme), ReadableAll opts n es →
    Tips behind (lexOnto (displayList es).toList behind) (∃ f ∈ nodesAll es, f.Fuses)
  | [], n, behind, _ => by
      simp [displayList, nodesAll, Tips]
  | [e], n, behind, readable => by
      simpa [displayList, nodesAll] using tips_display plain e n behind readable.1
  | e :: f :: es, n, behind, readable => by
      rw [lexOnto_displayList_cons]
      have rest := tips_displayList plain (f :: es) n behind readable.2
      have comma := Tips.of_eq (tilt_comma (lexOnto (displayList (f :: es)).toList behind))
      have head := tips_display plain e n
        (lexOnto [',', ' '] (lexOnto (displayList (f :: es)).toList behind)) readable.1
      refine (rest.trans comma .inl).trans head ?_
      rintro ⟨g, member, fuses⟩
      rw [nodesAll, List.mem_append] at member
      rcases member with inHead | inRest
      · exact .inr ⟨g, inHead, fuses⟩
      · exact .inl ⟨g, inRest, fuses⟩

/-- A list whose last name ends in an equals sign takes the closing bracket behind it away. -/
theorem tilt_displayList_close (plain : opts.PlainDefault) : ∀ (es : List Expr) (n : Nat)
    (behind : List Lexeme), ReadableAll opts n es → ∀ {name : String},
    es.getLast? = some (.basic name) → name.toList.getLast? = some '=' →
    tilt behind ≤ tilt (lexOnto (displayList es).toList (Lexeme.push '>' behind))
  | [], n, behind, _, _, isLast, _ => by simp at isLast
  | [e], n, behind, readable, name, isLast, ends => by
      obtain rfl : e = .basic name := by simpa using isLast
      exact tilt_le_lexOnto_close readable.1.1.ne_close ends behind
  | e :: f :: es, n, behind, readable, name, isLast, ends => by
      have rest := tilt_displayList_close plain (f :: es) n behind readable.2
        (by simpa using isLast) ends
      have comma := tilt_comma (lexOnto (displayList (f :: es)).toList (Lexeme.push '>' behind))
      have head := (tips_display plain e n (lexOnto [',', ' ']
        (lexOnto (displayList (f :: es)).toList (Lexeme.push '>' behind))) readable.1).1
      rw [lexOnto_displayList_cons]
      omega

end

/-! ## The round trip -/

/-- The canonical text of readable expressions without a fusing node is read back. -/
theorem parse_displayList_of_clean (plain : opts.PlainDefault) {es : List Expr}
    (readable : ReadableAll opts 0 es) (clean : ∀ e ∈ nodesAll es, ¬ e.Fuses) :
    parse opts (displayList es) = .ok es := by
  by_cases empty : es = []
  · subst empty
    exact parse_eq_ok_iff.2 (.inl ⟨rfl, rfl⟩)
  · obtain ⟨ls, lexed, writes⟩ := lexOnto_displayList plain es 0 [] empty readable clean (by simp)
    rw [List.append_nil, ← lexemes_eq_lexOnto] at lexed
    obtain ⟨ps, spelled, same⟩ := writes (tokens (displayList es)) (by rw [tokens, locate_map, lexed])
    exact parse_eq_ok_iff.2 (.inr ⟨ps, spelled, same⟩)

/-- The canonical text of readable expressions with a fusing node is not read at all. -/
theorem parse_displayList_of_fuses (plain : opts.PlainDefault) {es : List Expr}
    (readable : ReadableAll opts 0 es) (fuses : ∃ e ∈ nodesAll es, e.Fuses) (fs : List Expr) :
    parse opts (displayList es) ≠ .ok fs := by
  intro read
  have tips := (tips_displayList plain es 0 [] readable).2 fuses
  rw [← lexemes_eq_lexOnto, ← locate_map 0 (lexemes (displayList es).toList)] at tips
  change tilt [] < tilt ((tokens (displayList es)).map Token.toLexeme) at tips
  rcases parse_eq_ok_iff.1 read with ⟨none_, -⟩ | ⟨ps, spelled, -⟩
  · simp [none_] at tips
  · simp [spelled.tilt] at tips

/-- **Canonical text is read back or refused.** Let the default name be writable and no special
name. Whatever a text is read as, its canonical text is read as the same expressions unless an
unordered collection ends in a name that ends in an equals sign; then it is a fault. -/
theorem parse_displayList_iff (opts : Options)
    (unmarked : ∀ c ∈ opts.defaultCollection.toList, c ∉ marks)
    (trimmed : trim opts.defaultCollection.toList = opts.defaultCollection.toList)
    (notMapping : opts.defaultCollection ∉ opts.mappingTypes)
    (notTuple : opts.defaultCollection ∉ opts.tupleMarkers)
    (text : String) (es : List Expr) (read : parse opts text = .ok es) :
    (parse opts (displayList es) = .ok es ↔ ∀ e ∈ nodesAll es, ¬ e.Fuses) ∧
      ((∃ e ∈ nodesAll es, e.Fuses) → ∃ error, parse opts (displayList es) = .error error) := by
  have plain : opts.PlainDefault := ⟨⟨trim_eq_self_iff.1 trimmed, unmarked⟩, notMapping, notTuple⟩
  have readable := readableAll_of_parse read
  refine ⟨⟨fun again e member fuses => ?_, parse_displayList_of_clean plain readable⟩, fun fuses => ?_⟩
  · exact parse_displayList_of_fuses plain readable ⟨e, member, fuses⟩ es again
  · cases outcome : parse opts (displayList es) with
    | ok fs => exact absurd outcome (parse_displayList_of_fuses plain readable fuses fs)
    | error error => exact ⟨error, rfl⟩

/-- A setter at the end of a hash's values, kept apart from the bracket in the text that was read. -/
theorem parse_displayList_setter :
    parse {} "Hash<Set<K>, Set<v= > >" =
        .ok [.mapping "Hash" [.collection "Set" [.basic "K"] false]
          [.collection "Set" [.basic "v="] false]] ∧
      ∃ error, parse {} (displayList [.mapping "Hash" [.collection "Set" [.basic "K"] false]
        [.collection "Set" [.basic "v="] false]]) = .error error := by
  have read : parse {} "Hash<Set<K>, Set<v= > >" =
      .ok [.mapping "Hash" [.collection "Set" [.basic "K"] false]
        [.collection "Set" [.basic "v="] false]] := by
    have evaluated : (parse {} "Hash<Set<K>, Set<v= > >").toOption =
        some [.mapping "Hash" [.collection "Set" [.basic "K"] false]
          [.collection "Set" [.basic "v="] false]] := by decide +kernel
    cases outcome : parse {} "Hash<Set<K>, Set<v= > >" with
    | error error =>
        rw [outcome] at evaluated
        cases evaluated
    | ok es =>
        rw [outcome] at evaluated
        rw [Option.some.inj evaluated]
  refine ⟨read, (parse_displayList_iff {} (by simp [marks]) (by decide) (by decide) (by decide)
    _ _ read).2 ⟨.collection "Set" [.basic "v="] false, by simp [nodesAll, nodes], ?_⟩⟩
  exact ⟨"Set", [.basic "v="], "v=", rfl, rfl, by decide⟩

end Crosslink.TypeSpec
