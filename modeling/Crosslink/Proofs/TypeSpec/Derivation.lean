/-
# Crosslink.Proofs.TypeSpec.Derivation — the reader decides the grammar

`Derives opts part n ts tree` is the grammar over tokens with the tree of each
rule: an identifier is a run of words and lone equals signs, a bare `<…>` or
`(…)` has the default name, braces and arrows need a name, and every bracket is
opened with fewer than `maxDepth` around it. A named `<…>` without an arrow has
three rules: ordered when the name is a tuple marker, else a mapping when the
name is a mapping type and the list has two elements, else a collection.

`Spells` gives phrases where `Derives` gives trees, and takes one rule for the
named `<…>`; for tokens of a text the two agree (`derives_iff`).

Main theorem: `outline_decides_grammar`.
-/
import Crosslink.Proofs.TypeSpec.Grammar

namespace Crosslink.TypeSpec

open Crosslink.Text

set_option autoImplicit false

/-! ## Derivation trees -/

/-- The byte at which a run of tokens starts. -/
def startOf : List Token → Nat
  | [] => 0
  | t :: _ => t.start

/-- A run of words and lone equals signs. -/
def IsIdentifier (us : List Token) : Prop :=
  us ≠ [] ∧ ∀ u ∈ us, u.kind = .word ∨ u.kind = .equals

/-- The trimmed text that a run of tokens covers. -/
def textOf (us : List Token) : String := String.ofList (trim (source (us.map Token.toLexeme)))

/-- The tree of a list with exactly two elements. -/
def Outline.IsPair (l : Outline) : Prop :=
  ∃ a b k v, l = .node .list "" a [k, .node .list "" b [v]]

/-- The grammar with its trees: `Derives opts part n ts tree` when `tree` derives `ts` with `n`
brackets open around them. -/
inductive Derives (opts : Options) : Part → Nat → List Token → Outline → Prop
  | one {n : Nat} {ts : List Token} {t : Outline} (head : Derives opts .type n ts t) :
      Derives opts .list n ts (.node .list "" (startOf ts) [t])
  | more {n : Nat} {ts us : List Token} {c : Token} {t r : Outline}
      (head : Derives opts .type n ts t) (comma : c.kind = .comma)
      (rest : Derives opts .list n us r) :
      Derives opts .list n (ts ++ c :: us) (.node .list "" (startOf ts) [t, r])
  | name {n : Nat} {us : List Token} (named : IsIdentifier us) :
      Derives opts .type n us (.node .name (textOf us) (startOf us) [])
  | bareAngle {n : Nat} {o c : Token} {ts : List Token} {l : Outline} (room : n < maxDepth)
      (opens : o.kind = .openAngle) (items : Derives opts .list (n + 1) ts l)
      (closes : c.kind = .closeAngle) :
      Derives opts .type n (o :: ts ++ [c]) (.node .collection opts.defaultCollection o.start [l])
  | bareParen {n : Nat} {o c : Token} {ts : List Token} {l : Outline} (room : n < maxDepth)
      (opens : o.kind = .openParen) (items : Derives opts .list (n + 1) ts l)
      (closes : c.kind = .closeParen) :
      Derives opts .type n (o :: ts ++ [c]) (.node .ordered opts.defaultCollection o.start [l])
  | paren {n : Nat} {o c : Token} {us ts : List Token} {l : Outline} (named : IsIdentifier us)
      (room : n < maxDepth) (opens : o.kind = .openParen)
      (items : Derives opts .list (n + 1) ts l) (closes : c.kind = .closeParen) :
      Derives opts .type n (us ++ o :: ts ++ [c]) (.node .ordered (textOf us) (startOf us) [l])
  | tuple {n : Nat} {o c : Token} {us ts : List Token} {l : Outline} (named : IsIdentifier us)
      (isTuple : textOf us ∈ opts.tupleMarkers) (room : n < maxDepth)
      (opens : o.kind = .openAngle) (items : Derives opts .list (n + 1) ts l)
      (closes : c.kind = .closeAngle) :
      Derives opts .type n (us ++ o :: ts ++ [c]) (.node .ordered (textOf us) (startOf us) [l])
  | pair {n : Nat} {o m c : Token} {us ts vs : List Token} {k v : Outline} (named : IsIdentifier us)
      (notTuple : textOf us ∉ opts.tupleMarkers) (isMapping : textOf us ∈ opts.mappingTypes)
      (room : n < maxDepth) (opens : o.kind = .openAngle)
      (key : Derives opts .type (n + 1) ts k) (comma : m.kind = .comma)
      (value : Derives opts .type (n + 1) vs v) (closes : c.kind = .closeAngle) :
      Derives opts .type n (us ++ o :: (ts ++ m :: vs) ++ [c])
        (.node .mapping (textOf us) (startOf us)
          [.node .list "" (startOf ts) [k], .node .list "" (startOf vs) [v]])
  | angle {n : Nat} {o c : Token} {us ts : List Token} {l : Outline} (named : IsIdentifier us)
      (notTuple : textOf us ∉ opts.tupleMarkers)
      (notMapping : ¬ (textOf us ∈ opts.mappingTypes ∧ l.IsPair)) (room : n < maxDepth)
      (opens : o.kind = .openAngle) (items : Derives opts .list (n + 1) ts l)
      (closes : c.kind = .closeAngle) :
      Derives opts .type n (us ++ o :: ts ++ [c]) (.node .collection (textOf us) (startOf us) [l])
  | arrow {n : Nat} {o a c : Token} {us ts vs : List Token} {l m : Outline}
      (named : IsIdentifier us) (room : n < maxDepth) (brackets : MappingBrackets o.kind c.kind)
      (keys : Derives opts .list (n + 1) ts l) (turns : a.kind = .arrow)
      (values : Derives opts .list (n + 1) vs m) :
      Derives opts .type n (us ++ o :: ts ++ a :: vs ++ [c])
        (.node .mapping (textOf us) (startOf us) [l, m])

variable {opts : Options}

/-! ## Names -/

theorem isName_iff {kind : TokenKind} : kind.isName = true ↔ kind = .word ∨ kind = .equals := by
  cases kind <;> simp [TokenKind.isName]

/-- The trimmed text of a run of names is what it spells. -/
theorem textOf_of_names {us : List Token} (sound : ∀ u ∈ us, u.toLexeme.Sound)
    (names : ∀ u ∈ us, u.kind.isName = true) :
    textOf us = String.ofList (spelling (us.map Token.toLexeme)) := by
  cases us with
  | nil => rfl
  | cons t ts =>
      have plain : IsPlain (spelling ((t :: ts).map Token.toLexeme)) :=
        isPlain_spelling (by simpa using sound) (by simpa using names)
      have first := sound t (by simp)
      have nonempty : spelling ((t :: ts).map Token.toLexeme) ≠ [] := by
        simp [spelling, first.text.ne_nil]
      have trimmed := trim_append first.gap (fun c (member : c ∈ []) => absurd member (by simp))
        plain.toIsTrimmed nonempty
      rw [List.append_nil] at trimmed
      rw [textOf, List.map_cons, source_eq_gap_append, ← List.map_cons, trimmed]

theorem SpellsName.isIdentifier {us : List Token} {start : Nat} {name : String}
    (named : SpellsName us start name) (sound : ∀ u ∈ us, u.toLexeme.Sound) :
    IsIdentifier us ∧ startOf us = start ∧ textOf us = name := by
  obtain ⟨t, ts, names⟩ := named
  refine ⟨⟨by simp, ?_⟩, rfl, textOf_of_names sound names⟩
  intro u member
  exact isName_iff.1 (names u member)

theorem IsIdentifier.spellsName {us : List Token} (named : IsIdentifier us)
    (sound : ∀ u ∈ us, u.toLexeme.Sound) : SpellsName us (startOf us) (textOf us) := by
  obtain ⟨nonempty, kinds⟩ := named
  have names : ∀ u ∈ us, u.kind.isName = true := fun u member => isName_iff.2 (kinds u member)
  rw [textOf_of_names sound names]
  obtain ⟨t, ts, rfl⟩ := List.exists_cons_of_ne_nil nonempty
  exact .run t ts names

/-! ## Spelled phrases have derivations -/

theorem Options.angled_offset (opts : Options) (start : Nat) (name : String) (ps : List Phrase) :
    (opts.angled start name ps).offset = start := by
  unfold Options.angled
  split
  · rfl
  · split
    · split <;> rfl
    · rfl

theorem startOf_append {ts : List Token} (us : List Token) (nonempty : ts ≠ []) :
    startOf (ts ++ us) = startOf ts := by
  cases ts with
  | nil => exact absurd rfl nonempty
  | cons t ts => rfl

/-- The trees of the phrases that tokens spell. -/
def Grown (opts : Options) (n : Nat) (ts : List Token) (ps : List Phrase) : Part → Prop
  | .type => ∃ p, ps = [p] ∧ p.offset = startOf ts ∧ Derives opts .type n ts p.outline
  | .list => ∃ t, Phrase.outlineList ps = [t] ∧ Derives opts .list n ts t

/-- A list with a two-element tree is two types around a comma. -/
theorem Derives.of_pair {n a b : Nat} {ts : List Token} {k v : Outline}
    (derived : Derives opts .list n ts (.node .list "" a [k, .node .list "" b [v]])) :
    ∃ us m vs, ts = us ++ m :: vs ∧ m.kind = .comma ∧ startOf us = a ∧ startOf vs = b ∧
      Derives opts .type n us k ∧ Derives opts .type n vs v := by
  cases derived with
  | more head comma rest =>
      cases rest with
      | one value => exact ⟨_, _, _, rfl, comma, rfl, rfl, head, value⟩

/-- The tree of a named angle bracket without an arrow. -/
theorem Derives.angled {n : Nat} {o c : Token} {us ts : List Token} {l : Outline}
    {ps : List Phrase} (named : IsIdentifier us) (room : n < maxDepth)
    (opens : o.kind = .openAngle) (tree : Phrase.outlineList ps = [l])
    (items : Derives opts .list (n + 1) ts l) (closes : c.kind = .closeAngle) :
    Derives opts .type n (us ++ o :: ts ++ [c])
      (opts.angled (startOf us) (textOf us) ps).outline := by
  unfold Options.angled
  by_cases isTuple : textOf us ∈ opts.tupleMarkers
  · rw [if_pos isTuple, Phrase.outline, tree]
    exact .tuple named isTuple room opens items closes
  · rw [if_neg isTuple]
    split
    · rename_i key value
      obtain rfl : Outline.node .list "" key.offset [key.outline,
          .node .list "" value.offset [value.outline]] = l := by
        simpa [Phrase.outlineList] using tree
      split
      · rename_i isMapping
        obtain ⟨ks, m, vs, rfl, comma, keyStart, valueStart, keyTree, valueTree⟩ := items.of_pair
        simp only [Phrase.outline, Phrase.outlineList, List.cons_append, List.nil_append]
        rw [← keyStart, ← valueStart]
        exact .pair named isTuple isMapping room opens keyTree comma valueTree closes
      · rename_i notMapping
        rw [Phrase.outline, tree]
        exact .angle named isTuple (fun both => notMapping both.1) room opens items closes
    · rename_i notPair
      rw [Phrase.outline, tree]
      refine .angle named isTuple ?_ room opens items closes
      rintro ⟨-, a, b, k, v, rfl⟩
      match ps, tree with
      | [p], tree => simp [Phrase.outlineList] at tree
      | [p, q], _ => exact notPair p q rfl
      | p :: q :: r :: rs, tree => simp [Phrase.outlineList] at tree

theorem Spells.grown {part : Part} {n : Nat} {ts : List Token} {ps : List Phrase}
    (spelled : Spells opts part n ts ps) (sound : ∀ t ∈ ts, t.toLexeme.Sound) :
    Grown opts n ts ps part := by
  induction spelled with
  | one head ih =>
      obtain ⟨p, rfl, start, tree⟩ := ih sound
      exact ⟨_, rfl, start ▸ .one tree⟩
  | more head comma rest ihHead ihRest =>
      obtain ⟨p, rfl, start, tree⟩ := ihHead fun t member => sound t (by simp [member])
      obtain ⟨r, restTree, restDerived⟩ := ihRest fun t member => sound t (by simp [member])
      refine ⟨.node .list "" p.offset [p.outline, r], ?_, ?_⟩
      · simp [Phrase.outlineList, restTree]
      · rw [start]
        exact .more tree comma restDerived
  | name named =>
      obtain ⟨isName, rfl, rfl⟩ := named.isIdentifier sound
      exact ⟨_, rfl, rfl, .name isName⟩
  | bareAngle room opens inner closes ih =>
      obtain ⟨l, tree, derived⟩ := ih fun t member => sound t (by simp [member])
      refine ⟨_, rfl, rfl, ?_⟩
      rw [Phrase.outline, tree]
      exact .bareAngle room opens derived closes
  | bareParen room opens inner closes ih =>
      obtain ⟨l, tree, derived⟩ := ih fun t member => sound t (by simp [member])
      refine ⟨_, rfl, rfl, ?_⟩
      rw [Phrase.outline, tree]
      exact .bareParen room opens derived closes
  | angle named room opens inner closes ih =>
      obtain ⟨l, tree, derived⟩ := ih fun t member => sound t (by simp [member])
      obtain ⟨isName, rfl, rfl⟩ := named.isIdentifier fun t member => sound t (by simp [member])
      refine ⟨_, rfl, ?_, .angled isName room opens tree derived closes⟩
      rw [List.append_assoc, startOf_append _ isName.1, Options.angled_offset]
  | paren named room opens inner closes ih =>
      obtain ⟨l, tree, derived⟩ := ih fun t member => sound t (by simp [member])
      obtain ⟨isName, rfl, rfl⟩ := named.isIdentifier fun t member => sound t (by simp [member])
      refine ⟨_, rfl, ?_, ?_⟩
      · rw [List.append_assoc, startOf_append _ isName.1, Phrase.offset]
      · rw [Phrase.outline, tree]
        exact .paren isName room opens derived closes
  | arrow named room brackets keys turns values ihKeys ihValues =>
      obtain ⟨l, keysTree, keysDerived⟩ := ihKeys fun t member => sound t (by simp [member])
      obtain ⟨m, valuesTree, valuesDerived⟩ := ihValues fun t member => sound t (by simp [member])
      obtain ⟨isName, rfl, rfl⟩ := named.isIdentifier fun t member => sound t (by simp [member])
      refine ⟨_, rfl, ?_, ?_⟩
      · simp only [List.append_assoc]
        rw [startOf_append _ isName.1, Phrase.offset]
      · rw [Phrase.outline, keysTree, valuesTree]
        exact .arrow isName room brackets keysDerived turns valuesDerived

/-! ## Derivations are spelled -/

/-- The phrases that tokens with this tree spell. -/
def Spelt (opts : Options) (n : Nat) (ts : List Token) (tree : Outline) : Part → Prop
  | .type => ∃ p, Spells opts .type n ts [p] ∧ p.offset = startOf ts ∧ p.outline = tree
  | .list => ∃ ps, Spells opts .list n ts ps ∧ Phrase.outlineList ps = [tree]

theorem Derives.spelt {part : Part} {n : Nat} {ts : List Token} {tree : Outline}
    (derived : Derives opts part n ts tree) (sound : ∀ t ∈ ts, t.toLexeme.Sound) :
    Spelt opts n ts tree part := by
  induction derived with
  | one head ih =>
      obtain ⟨p, spelled, start, rfl⟩ := ih sound
      exact ⟨[p], .one spelled, by simp [Phrase.outlineList, start]⟩
  | more head comma rest ihHead ihRest =>
      obtain ⟨p, spelled, start, rfl⟩ := ihHead fun t member => sound t (by simp [member])
      obtain ⟨ps, restSpelled, tree⟩ := ihRest fun t member => sound t (by simp [member])
      exact ⟨p :: ps, .more spelled comma restSpelled, by simp [Phrase.outlineList, start, tree]⟩
  | name named =>
      exact ⟨_, .name (named.spellsName sound), rfl, rfl⟩
  | bareAngle room opens items closes ih =>
      obtain ⟨ps, spelled, tree⟩ := ih fun t member => sound t (by simp [member])
      exact ⟨_, .bareAngle room opens spelled closes, rfl, by rw [Phrase.outline, tree]⟩
  | bareParen room opens items closes ih =>
      obtain ⟨ps, spelled, tree⟩ := ih fun t member => sound t (by simp [member])
      exact ⟨_, .bareParen room opens spelled closes, rfl, by rw [Phrase.outline, tree]⟩
  | paren named room opens items closes ih =>
      obtain ⟨ps, spelled, tree⟩ := ih fun t member => sound t (by simp [member])
      have name := named.spellsName fun t member => sound t (by simp [member])
      refine ⟨_, .paren name room opens spelled closes, ?_, by rw [Phrase.outline, tree]⟩
      rw [List.append_assoc, startOf_append _ named.1, Phrase.offset]
  | tuple named isTuple room opens items closes ih =>
      obtain ⟨ps, spelled, tree⟩ := ih fun t member => sound t (by simp [member])
      have name := named.spellsName fun t member => sound t (by simp [member])
      refine ⟨_, .angle name room opens spelled closes, ?_, ?_⟩
      · rw [List.append_assoc, startOf_append _ named.1, Options.angled_offset]
      · unfold Options.angled
        rw [if_pos isTuple, Phrase.outline, tree]
  | pair named notTuple isMapping room opens key comma value closes ihKey ihValue =>
      obtain ⟨p, keySpelled, keyStart, rfl⟩ := ihKey fun t member => sound t (by simp [member])
      obtain ⟨q, valueSpelled, valueStart, rfl⟩ := ihValue fun t member => sound t (by simp [member])
      have name := named.spellsName fun t member => sound t (by simp [member])
      refine ⟨_, .angle name room opens (.more keySpelled comma (.one valueSpelled)) closes, ?_, ?_⟩
      · rw [List.append_assoc, startOf_append _ named.1, Options.angled_offset]
      · simp [Options.angled, notTuple, isMapping, Phrase.outline, Phrase.outlineList, keyStart,
          valueStart]
  | angle named notTuple notMapping room opens items closes ih =>
      obtain ⟨ps, spelled, tree⟩ := ih fun t member => sound t (by simp [member])
      have name := named.spellsName fun t member => sound t (by simp [member])
      refine ⟨_, .angle name room opens spelled closes, ?_, ?_⟩
      · rw [List.append_assoc, startOf_append _ named.1, Options.angled_offset]
      · unfold Options.angled
        rw [if_neg notTuple]
        split
        · rename_i p q
          split
          · rename_i isMapping
            refine absurd ⟨isMapping, p.offset, q.offset, p.outline, q.outline, ?_⟩ notMapping
            simpa [Phrase.outlineList] using tree.symm
          · rw [Phrase.outline, tree]
        · rw [Phrase.outline, tree]
  | arrow named room brackets keys turns values ihKeys ihValues =>
      obtain ⟨ps, keysSpelled, keysTree⟩ := ihKeys fun t member => sound t (by simp [member])
      obtain ⟨qs, valuesSpelled, valuesTree⟩ := ihValues fun t member => sound t (by simp [member])
      have name := named.spellsName fun t member => sound t (by simp [member])
      refine ⟨_, .arrow name room brackets keysSpelled turns valuesSpelled, ?_, ?_⟩
      · simp only [List.append_assoc]
        rw [startOf_append _ named.1, Phrase.offset]
      · rw [Phrase.outline, keysTree, valuesTree]
        rfl

/-! ## The reader decides the grammar -/

theorem derives_iff {ts : List Token} (sound : ∀ t ∈ ts, t.toLexeme.Sound) (tree : Outline) :
    Derives opts .list 0 ts tree ↔
      ∃ ps, Spells opts .list 0 ts ps ∧ Phrase.outlineList ps = [tree] := by
  constructor
  · intro derived
    exact derived.spelt sound
  · rintro ⟨ps, spelled, same⟩
    obtain ⟨t, tree', derived⟩ := spelled.grown sound
    obtain rfl : t = tree := by simpa [tree'] using same
    exact derived

theorem outline_eq_ok_iff {text : String} {result : Option Outline} :
    outline opts text = .ok result ↔
      ∃ ps, phrases opts text = .ok ps ∧ (Phrase.outlineList ps).head? = result := by
  unfold outline
  cases phrases opts text with
  | error error => simp [Except.map]
  | ok ps => simp [Except.map]

theorem head_outlineList_iff {ps : List Phrase} {tree : Outline} :
    (Phrase.outlineList ps).head? = some tree ↔ Phrase.outlineList ps = [tree] := by
  cases ps with
  | nil => simp [Phrase.outlineList]
  | cons p ps => simp [Phrase.outlineList]

/-- **The reader decides the grammar.** A text without tokens has no outline. Any other text has
the tree of its derivation, which is the only one, and a fault when there is none. -/
theorem outline_decides_grammar (opts : Options) (text : String) :
    (outline opts text = .ok none ↔ tokens text = []) ∧
      (∀ tree, outline opts text = .ok (some tree) ↔ Derives opts .list 0 (tokens text) tree) ∧
      ∀ tree tree', Derives opts .list 0 (tokens text) tree →
        Derives opts .list 0 (tokens text) tree' → tree = tree' := by
  have decides : ∀ tree, outline opts text = .ok (some tree) ↔
      Derives opts .list 0 (tokens text) tree := by
    intro tree
    rw [derives_iff (tokens_sound text), outline_eq_ok_iff]
    constructor
    · rintro ⟨ps, read, tree⟩
      rcases phrases_eq_ok_iff.1 read with ⟨-, rfl⟩ | spelled
      · simp [Phrase.outlineList] at tree
      · exact ⟨ps, spelled, head_outlineList_iff.1 tree⟩
    · rintro ⟨ps, spelled, tree⟩
      exact ⟨ps, phrases_eq_ok_iff.2 (.inr spelled), head_outlineList_iff.2 tree⟩
  refine ⟨?_, decides, ?_⟩
  · rw [outline_eq_ok_iff]
    constructor
    · rintro ⟨ps, read, tree⟩
      rcases phrases_eq_ok_iff.1 read with ⟨none_, -⟩ | spelled
      · exact none_
      · obtain ⟨t, isTree, -⟩ := spelled.grown (tokens_sound text)
        simp [isTree] at tree
    · intro none_
      exact ⟨[], phrases_eq_ok_iff.2 (.inl ⟨none_, rfl⟩), rfl⟩
  · intro tree tree' derived derived'
    have read := (decides tree).2 derived
    rw [(decides tree').2 derived'] at read
    cases read
    rfl

end Crosslink.TypeSpec
