/-
# Crosslink.Proofs.TypeSpec.Written — the lexemes of canonical text

`Writes opts part n ls es`: wherever the lexemes `ls` stand, with `n` brackets
open around them, they spell the expressions `es`. Canonical text puts no blank
between a name and its bracket, so the one thing that can go wrong is that an
equals sign at the end of a name joins the bracket that closes behind it
(`Expr.Fuses`).

Main statement: in a readable list of expressions with no such name, canonical
text has lexemes that write the list, whatever stands behind it
(`lexOnto_displayList`).
-/
import Crosslink.Proofs.TypeSpec.Building

namespace Crosslink.TypeSpec

open Crosslink.Text

set_option autoImplicit false

variable {opts : Options}

/-! ## Expressions inside an expression -/

namespace Expr

mutual

/-- The expression and all expressions inside it, in the order of their text. -/
def nodes : Expr → List Expr
  | .basic name => [.basic name]
  | .collection name items ordered => .collection name items ordered :: nodesAll items
  | .mapping name keys values => .mapping name keys values :: (nodesAll keys ++ nodesAll values)

def nodesAll : List Expr → List Expr
  | [] => []
  | e :: es => nodes e ++ nodesAll es

end

/-- An unordered collection whose last item is a name that ends in an equals sign: its closing
bracket stands right behind that sign. -/
def Fuses (e : Expr) : Prop :=
  ∃ name items last, e = .collection name items false ∧ items.getLast? = some (.basic last) ∧
    last.toList.getLast? = some '='

end Expr

open Crosslink.TypeSpec.Expr

/-! ## Blanks in front of a type -/

/-- The tokens with another gap in front of the first one. -/
def withGap (gap : List Char) : List Token → List Token
  | [] => []
  | t :: ts => { t with gap } :: ts

theorem withGap_append {gap : List Char} {ts : List Token} (us : List Token) (nonempty : ts ≠ []) :
    withGap gap (ts ++ us) = withGap gap ts ++ us := by
  cases ts with
  | nil => exact absurd rfl nonempty
  | cons t ts => rfl

theorem SpellsName.withGap {us : List Token} {start : Nat} {name : String}
    (named : SpellsName us start name) (gap : List Char) :
    SpellsName (withGap gap us) start name := by
  obtain ⟨t, ts, names⟩ := named
  exact .run { t with gap } ts (by simpa using names)

/-- The blanks in front of the first token do not matter. -/
theorem Spells.withGap {part : Part} {n : Nat} {ts : List Token} {ps : List Phrase}
    (spelled : Spells opts part n ts ps) (gap : List Char) :
    Spells opts part n (withGap gap ts) ps := by
  induction spelled with
  | one head ih => exact .one ih
  | more head comma rest ihHead ihRest =>
      rw [withGap_append _ head.ne_nil]
      exact .more ihHead comma rest
  | name named => exact .name (named.withGap gap)
  | @bareAngle n o c ts ps room opens inner closes ih =>
      exact .bareAngle (o := { o with gap }) room opens inner closes
  | @bareParen n o c ts ps room opens inner closes ih =>
      exact .bareParen (o := { o with gap }) room opens inner closes
  | angle named room opens inner closes ih =>
      rw [List.append_assoc, withGap_append _ named.ne_nil, ← List.append_assoc]
      exact .angle (named.withGap gap) room opens inner closes
  | paren named room opens inner closes ih =>
      rw [List.append_assoc, withGap_append _ named.ne_nil, ← List.append_assoc]
      exact .paren (named.withGap gap) room opens inner closes
  | arrow named room brackets keys turns values ihKeys ihValues =>
      simp only [List.append_assoc]
      rw [withGap_append _ named.ne_nil]
      simpa using Spells.arrow (named.withGap gap) room brackets keys turns values

/-! ## Lexemes that spell expressions -/

/-- Wherever these lexemes stand, they spell these expressions. -/
def Writes (opts : Options) (part : Part) (n : Nat) (ls : List Lexeme) (es : List Expr) : Prop :=
  ∀ ts : List Token, ts.map Token.toLexeme = ls →
    ∃ ps, Spells opts part n ts ps ∧ Phrase.exprs ps = es

theorem Writes.widen {part : Part} {n : Nat} {l : Lexeme} {ls : List Lexeme} {es : List Expr}
    (writes : Writes opts part n (l :: ls) es) (gap : List Char) :
    Writes opts part n ({ l with gap } :: ls) es := by
  intro ts located
  obtain ⟨t, rest, rfl, head, rfl⟩ := List.map_eq_cons_iff.1 located
  obtain ⟨ps, spelled, same⟩ := writes ({ t with gap := l.gap } :: rest) (by simp [head])
  have moved := spelled.withGap t.gap
  exact ⟨ps, moved, same⟩

theorem Writes.push_blank {part : Part} {n : Nat} {ls : List Lexeme} {es : List Expr}
    (writes : Writes opts part n ls es) (behind : List Lexeme) :
    ∃ ms, Lexeme.push ' ' (ls ++ behind) = ms ++ behind ∧ Writes opts part n ms es := by
  cases ls with
  | nil =>
      obtain ⟨ps, spelled, -⟩ := writes [] rfl
      exact absurd rfl spelled.ne_nil
  | cons l ls => exact ⟨_, rfl, writes.widen _⟩

theorem spellsName_of_lexemes {name : String} (isName : IsNameText name) {us : List Token}
    (located : us.map Token.toLexeme = lexemes name.toList) : ∃ start, SpellsName us start name := by
  obtain ⟨spelled, names⟩ := isName.1.lexemes
  rw [← located] at spelled names
  cases us with
  | nil => exact absurd (String.toList_eq_nil_iff.1 spelled.symm) isName.2
  | cons t ts =>
      have named := SpellsName.run t ts (by simpa using names)
      rw [spelled, String.ofList_toList] at named
      exact ⟨t.start, named⟩

theorem writes_cons {n : Nat} {e : Expr} {es : List Expr} {ls ms : List Lexeme} {k : Lexeme}
    (head : Writes opts .type n ls [e]) (comma : k.kind = .comma) (rest : Writes opts .list n ms es) :
    Writes opts .list n (ls ++ k :: ms) (e :: es) := by
  intro ts located
  simp only [List.map_eq_append_iff, List.map_eq_cons_iff] at located
  obtain ⟨us, _, rfl, rfl, c, vs, rfl, rfl, rfl⟩ := located
  obtain ⟨ps, headSpelled, first⟩ := head us rfl
  obtain ⟨qs, restSpelled, rfl⟩ := rest vs rfl
  exact ⟨_, .more headSpelled comma restSpelled, by simp [Phrase.exprs_append, first]⟩

theorem Writes.one {n : Nat} {ls : List Lexeme} {es : List Expr} (writes : Writes opts .type n ls es) :
    Writes opts .list n ls es := by
  intro ts located
  obtain ⟨ps, spelled, same⟩ := writes ts located
  exact ⟨ps, .one spelled, same⟩

theorem writes_basic {name : String} (isName : IsNameText name) (n : Nat) :
    Writes opts .type n (lexemes name.toList) [.basic name] := by
  intro ts located
  obtain ⟨start, named⟩ := spellsName_of_lexemes isName located
  exact ⟨_, .name named, by simp [Phrase.exprs, Phrase.expr]⟩

/-- `opens` and `closes` are the brackets around the items of a collection. -/
def CollectionBrackets : Bool → TokenKind → TokenKind → Prop
  | false, opens, closes => opens = .openAngle ∧ closes = .closeAngle
  | true, opens, closes => opens = .openParen ∧ closes = .closeParen

/-- A bare bracket writes a collection of the default name. -/
theorem writes_bare {n : Nat} {items : List Expr} {ordered : Bool} {ls : List Lexeme} {j k : Lexeme}
    (room : n < maxDepth) (brackets : CollectionBrackets ordered j.kind k.kind)
    (inner : Writes opts .list (n + 1) ls items) :
    Writes opts .type n (j :: (ls ++ [k])) [.collection opts.defaultCollection items ordered] := by
  intro ts located
  simp only [List.map_eq_append_iff, List.map_eq_cons_iff, List.map_eq_nil_iff] at located
  obtain ⟨o, _, rfl, rfl, vs, _, rfl, rfl, c, _, rfl, rfl, rfl⟩ := located
  obtain ⟨ps, spelled, rfl⟩ := inner vs rfl
  cases ordered with
  | false => exact ⟨_, .bareAngle room brackets.1 spelled brackets.2, by simp [Phrase.exprs, Phrase.expr]⟩
  | true => exact ⟨_, .bareParen room brackets.1 spelled brackets.2, by simp [Phrase.exprs, Phrase.expr]⟩

/-- A name and a bracket write a collection, unless angle brackets have another reading there. -/
theorem writes_named {n : Nat} {name : String} {items : List Expr} {ordered : Bool}
    {ls : List Lexeme} {j k : Lexeme} (isName : IsNameText name) (room : n < maxDepth)
    (unread : ordered = false →
      name ∉ opts.tupleMarkers ∧ ¬ (name ∈ opts.mappingTypes ∧ items.length = 2))
    (brackets : CollectionBrackets ordered j.kind k.kind)
    (inner : Writes opts .list (n + 1) ls items) :
    Writes opts .type n (lexemes name.toList ++ j :: (ls ++ [k])) [.collection name items ordered] := by
  intro ts located
  simp only [List.map_eq_append_iff, List.map_eq_cons_iff, List.map_eq_nil_iff] at located
  obtain ⟨us, _, rfl, name_, o, _, rfl, rfl, vs, _, rfl, rfl, c, _, rfl, rfl, rfl⟩ := located
  obtain ⟨ps, spelled, rfl⟩ := inner vs rfl
  obtain ⟨start, named⟩ := spellsName_of_lexemes isName name_
  cases ordered with
  | false =>
      have whole := Spells.angle named room brackets.1 spelled brackets.2
      have unread := unread rfl
      rw [Phrase.length_exprs] at unread
      exact ⟨_, by simpa using whole, by simp [Phrase.exprs, expr_angled, unread]⟩
  | true =>
      have whole := Spells.paren named room brackets.1 spelled brackets.2
      exact ⟨_, by simpa using whole, by simp [Phrase.exprs, Phrase.expr]⟩

theorem writes_mapping {n : Nat} {name : String} {keys values : List Expr} {ls ms : List Lexeme}
    {j a k : Lexeme} (isName : IsNameText name) (room : n < maxDepth)
    (brackets : MappingBrackets j.kind k.kind) (turns : a.kind = .arrow)
    (keysWritten : Writes opts .list (n + 1) ls keys)
    (valuesWritten : Writes opts .list (n + 1) ms values) :
    Writes opts .type n (lexemes name.toList ++ j :: (ls ++ a :: (ms ++ [k])))
      [.mapping name keys values] := by
  intro ts located
  simp only [List.map_eq_append_iff, List.map_eq_cons_iff, List.map_eq_nil_iff] at located
  obtain ⟨us, _, rfl, name_, o, _, rfl, rfl, vs, _, rfl, rfl, arrow, _, rfl, rfl, ws, _, rfl, rfl,
    c, _, rfl, rfl, rfl⟩ := located
  obtain ⟨ps, keysSpelled, rfl⟩ := keysWritten vs rfl
  obtain ⟨qs, valuesSpelled, rfl⟩ := valuesWritten ws rfl
  obtain ⟨start, named⟩ := spellsName_of_lexemes isName name_
  have whole := Spells.arrow named room brackets keysSpelled turns valuesSpelled
  exact ⟨_, by simpa using whole, by simp [Phrase.exprs, Phrase.expr]⟩

/-! ## A default name that can be written -/

/-- The default name may be written out like any other. -/
structure Options.PlainDefault (opts : Options) : Prop where
  plain : IsPlain opts.defaultCollection.toList
  notMapping : opts.defaultCollection ∉ opts.mappingTypes
  notTuple : opts.defaultCollection ∉ opts.tupleMarkers

/-- A collection has a name that can be written, or none at all. -/
theorem Options.PlainDefault.bare_or_named (plain : opts.PlainDefault) {n : Nat} {name : String}
    {items : List Expr} {ordered : Bool}
    (readable : Readable opts n (.collection name items ordered)) :
    (name = "" ∧ opts.defaultCollection = "") ∨ IsNameText name := by
  rcases readable.2.1 with named | rfl
  · exact .inr named
  · by_cases empty : opts.defaultCollection = ""
    · exact .inl ⟨empty, empty⟩
    · exact .inr ⟨plain.plain, empty⟩

theorem Options.PlainDefault.isPlain (plain : opts.PlainDefault) {n : Nat} {name : String}
    {items : List Expr} {ordered : Bool}
    (readable : Readable opts n (.collection name items ordered)) : IsPlain name.toList := by
  rcases readable.2.1 with named | rfl
  · exact named.1
  · exact plain.plain

/-- A collection is written with its name, and one of the empty default name without it. -/
theorem Options.PlainDefault.writes_collection (plain : opts.PlainDefault) {n : Nat} {name : String}
    {items : List Expr} {ordered : Bool}
    (readable : Readable opts n (.collection name items ordered)) {ls : List Lexeme} {j k : Lexeme}
    (brackets : CollectionBrackets ordered j.kind k.kind)
    (inner : Writes opts .list (n + 1) ls items) :
    Writes opts .type n (lexemes name.toList ++ j :: (ls ++ [k])) [.collection name items ordered] := by
  rcases plain.bare_or_named readable with ⟨rfl, default⟩ | isName
  · rw [← default]
    simpa [default, lexemes] using writes_bare readable.1 brackets inner
  · refine writes_named isName readable.1 (fun unordered => ?_) brackets inner
    by_cases default : name = opts.defaultCollection
    · exact default ▸ ⟨plain.notTuple, fun pair => plain.notMapping pair.1⟩
    · exact readable.2.2.2.1 unordered default

/-! ## The lexemes of canonical text -/

theorem Expr.displayList_cons_cons (e f : Expr) (es : List Expr) :
    displayList (e :: f :: es) = display e ++ ", " ++ displayList (f :: es) := rfl

/-- Only a name at the end of a list can put an equals sign at the end of its text. -/
theorem last_basic_of_displayList {es : List Expr}
    (last : (displayList es).toList.getLast? = some '=') :
    ∃ name, es.getLast? = some (.basic name) ∧ name.toList.getLast? = some '=' := by
  induction es with
  | nil => simp [displayList] at last
  | cons e es ih =>
      cases es with
      | nil =>
          cases e with
          | basic name => exact ⟨name, rfl, last⟩
          | collection name items ordered =>
              cases ordered <;> simp [displayList, display, List.getLast?_cons] at last
          | mapping name keys values =>
              simp [displayList, display, List.getLast?_cons, List.getLast?_append] at last
      | cons f es =>
          rw [displayList_cons_cons] at last
          have inRest : (displayList (f :: es)).toList.getLast? = some '=' := by
            cases empty : (displayList (f :: es)).toList with
            | nil => simp [empty] at last
            | cons c cs => simpa [empty] using last
          simpa using ih inRest

mutual

theorem lexOnto_display (plain : opts.PlainDefault) : ∀ (e : Expr) (n : Nat) (behind : List Lexeme),
    Readable opts n e → (∀ f ∈ e.nodes, ¬ f.Fuses) →
    (∀ c, (display e).toList.getLast? = some c → ¬ Joins c behind) →
    ∃ ls, lexOnto (display e).toList behind = ls ++ behind ∧ Writes opts .type n ls [e]
  | .basic name, n, behind, readable, clean, apart => by
      exact ⟨lexemes name.toList, lexOnto_apart readable.1.back apart, writes_basic readable n⟩
  | .collection name items false, n, behind, readable, clean, _ => by
      have ⟨_, _, nonempty, _, inside⟩ := readable
      have written : (display (.collection name items false)).toList =
          name.toList ++ '<' :: ((displayList items).toList ++ ['>']) := by simp [display]
      -- An equals sign at the end of the items would join the closing bracket.
      have apart : ∀ c, (displayList items).toList.getLast? = some c →
          ¬ Joins c (Lexeme.push '>' behind) := by
        intro c last joins
        rw [push_mark (by decide), joins_cons] at joins
        obtain ⟨-, ⟨-, kind⟩ | ⟨isEquals, -⟩⟩ := joins
        · cases kind
        · rw [ofChar_eq_equals_iff.1 isEquals] at last
          obtain ⟨final, isLast, ends⟩ := last_basic_of_displayList last
          exact clean _ (by simp [nodes]) ⟨name, items, final, rfl, isLast, ends⟩
      obtain ⟨ls, lexed, writes⟩ := lexOnto_displayList plain items (n + 1)
        (Lexeme.push '>' behind) nonempty inside
        (fun f member => clean f (by simp [nodes, member])) apart
      refine ⟨_, ?_, plain.writes_collection readable (j := ⟨.openAngle, [], ['<']⟩)
        (k := ⟨.closeAngle, [], ['>']⟩) ⟨rfl, rfl⟩ writes⟩
      rw [written]
      exact lexOnto_bracket (plain.isPlain readable) (by decide) (by decide) (by decide) lexed
  | .collection name items true, n, behind, readable, clean, _ => by
      have ⟨_, _, nonempty, _, inside⟩ := readable
      have written : (display (.collection name items true)).toList =
          name.toList ++ '(' :: ((displayList items).toList ++ [')']) := by simp [display]
      obtain ⟨ls, lexed, writes⟩ := lexOnto_displayList plain items (n + 1)
        (Lexeme.push ')' behind) nonempty inside
        (fun f member => clean f (by simp [nodes, member]))
        (fun c _ => not_joins_push (by decide) (by decide) c behind)
      refine ⟨_, ?_, plain.writes_collection readable (j := ⟨.openParen, [], ['(']⟩)
        (k := ⟨.closeParen, [], [')']⟩) ⟨rfl, rfl⟩ writes⟩
      rw [written]
      exact lexOnto_bracket (plain.isPlain readable) (by decide) (by decide) (by decide) lexed
  | .mapping name keys values, n, behind, readable, clean, _ => by
      have ⟨room, isName, keysSome, valuesSome, keysRead, valuesRead⟩ := readable
      have written : (display (.mapping name keys values)).toList =
          name.toList ++ '{' :: (((displayList keys).toList ++ ([' ', '=', '>', ' '] ++
            (displayList values).toList)) ++ ['}']) := by simp [display]
      obtain ⟨ms, valuesLexed, valuesWritten⟩ := lexOnto_displayList plain values (n + 1)
        (Lexeme.push '}' behind) valuesSome valuesRead
        (fun f member => clean f (by simp [nodes, member]))
        (fun c _ => not_joins_push (by decide) (by decide) c behind)
      obtain ⟨ms', widened, valuesWritten'⟩ := valuesWritten.push_blank (Lexeme.push '}' behind)
      obtain ⟨ls, keysLexed, keysWritten⟩ := lexOnto_displayList plain keys (n + 1)
        (⟨.arrow, [' '], ['=', '>']⟩ :: (ms' ++ Lexeme.push '}' behind)) keysSome keysRead
        (fun f member => clean f (by simp [nodes, member]))
        (fun c _ => by simp [joins_cons])
      refine ⟨_, ?_, writes_mapping isName room (j := ⟨.openBrace, [], ['{']⟩)
        (a := ⟨.arrow, [' '], ['=', '>']⟩) (k := ⟨.closeBrace, [], ['}']⟩) (.inr ⟨rfl, rfl⟩) rfl
        keysWritten valuesWritten'⟩
      rw [written]
      have inner : lexOnto ((displayList keys).toList ++ ([' ', '=', '>', ' '] ++
          (displayList values).toList)) (Lexeme.push '}' behind) =
          (ls ++ ⟨.arrow, [' '], ['=', '>']⟩ :: ms') ++ Lexeme.push '}' behind := by
        rw [lexOnto_append, lexOnto_append, valuesLexed, lexOnto_arrow, widened, keysLexed]
        simp
      have lexed := lexOnto_bracket isName.1 (o := '{') (by decide) (by decide) (by decide) inner
      simpa [TokenKind.ofChar] using lexed

theorem lexOnto_displayList (plain : opts.PlainDefault) : ∀ (es : List Expr) (n : Nat)
    (behind : List Lexeme), es ≠ [] → ReadableAll opts n es → (∀ f ∈ nodesAll es, ¬ f.Fuses) →
    (∀ c, (displayList es).toList.getLast? = some c → ¬ Joins c behind) →
    ∃ ls, lexOnto (displayList es).toList behind = ls ++ behind ∧ Writes opts .list n ls es
  | [], _, _, nonempty, _, _, _ => absurd rfl nonempty
  | [e], n, behind, _, readable, clean, apart => by
      obtain ⟨ls, lexed, writes⟩ := lexOnto_display plain e n behind readable.1
        (by simpa [nodesAll] using clean) apart
      exact ⟨ls, lexed, writes.one⟩
  | e :: f :: es, n, behind, _, readable, clean, apart => by
      have written : (displayList (e :: f :: es)).toList =
          (display e).toList ++ ',' :: ' ' :: (displayList (f :: es)).toList := by
        simp [displayList_cons_cons]
      rw [written] at apart ⊢
      obtain ⟨ms, restLexed, restWritten⟩ := lexOnto_displayList plain (f :: es) n behind (by simp)
        readable.2 (fun g member => clean g (by rw [nodesAll]; simp [member])) (fun c last =>
          apart c (by simp [List.getLast?_append, List.getLast?_cons, last]))
      obtain ⟨ms', widened, restWritten'⟩ := restWritten.push_blank behind
      obtain ⟨ls, lexed, headWritten⟩ := lexOnto_display plain e n
        (Lexeme.push ',' (ms' ++ behind)) readable.1
        (fun g member => clean g (by rw [nodesAll]; simp [member]))
        (fun c _ => not_joins_push (by decide) (by decide) c _)
      refine ⟨ls ++ ⟨.comma, [], [',']⟩ :: ms', ?_, writes_cons headWritten rfl restWritten'⟩
      rw [lexOnto_append, lexOnto_cons, lexOnto_cons, restLexed, widened, lexed,
        push_mark (by decide)]
      simp [TokenKind.ofChar]

end

end Crosslink.TypeSpec
