/-
# Crosslink.Proofs.TypeSpec.Positions — outlines are faithful to the text

A node of an outline derives a run of the tokens of its text, and it says where
that run starts (`Derives.offset_eq`). The run is one of three things
(`Derives.shape`): the elements of a list, the first of which starts where the
list does; a type that starts with its name; or a bracket without a name.

What a run of tokens covers stands in the text at the byte where the run starts
(`standsAt_spelling`), so the text of a named node can be read off at its place.
Tokens are in the order of the text, and so are the nodes, each before those
below it (`Derives.ordered`).

Main theorem: `outline_positions_faithful`.
-/
import Crosslink.Proofs.Text.Split
import Crosslink.Proofs.TypeSpec.EarliestFault

namespace Crosslink.TypeSpec

open Crosslink.Text

set_option autoImplicit false

variable {opts : Options}

/-! ## Nodes -/

namespace Outline

def label : Outline → OutlineLabel
  | .node label _ _ _ => label

def text : Outline → String
  | .node _ text _ _ => text

def offset : Outline → Nat
  | .node _ _ offset _ => offset

def children : Outline → List Outline
  | .node _ _ _ children => children

mutual

/-- A node and all below it, each before those below it. -/
def preorder : Outline → List Outline
  | .node label text offset children => .node label text offset children :: preorderAll children

def preorderAll : List Outline → List Outline
  | [] => []
  | t :: ts => preorder t ++ preorderAll ts

end

theorem preorder_eq (t : Outline) : t.preorder = t :: preorderAll t.children := by
  cases t
  rfl

end Outline

open Outline (preorderAll)

/-! ## The tokens of a node -/

/-- **A node starts where its tokens do.** -/
theorem Derives.offset_eq {part : Part} {n : Nat} {ts : List Token} {t : Outline}
    (derived : Derives opts part n ts t) : ts ≠ [] ∧ t.offset = startOf ts := by
  induction derived with
  | one head ih => exact ⟨ih.1, rfl⟩
  | more head comma rest ih => exact ⟨by simp, (startOf_append _ ih.1).symm⟩
  | name named => exact ⟨named.1, rfl⟩
  | bareAngle => exact ⟨by simp, rfl⟩
  | bareParen => exact ⟨by simp, rfl⟩
  | _ =>
      rename IsIdentifier _ => named
      refine ⟨by simp, ?_⟩
      simp only [List.append_assoc]
      exact (startOf_append _ named.1).symm

/-- What tokens a node may stand for, besides those of the nodes below it. -/
inductive Shape (opts : Options) (ts : List Token) (m : Outline) : Prop
  /-- A list starts where its first element does. -/
  | list (label : m.label = .list) (head : Outline) (tail : List Outline)
      (children : m.children = head :: tail) (start : head.offset = m.offset)
  /-- A type with the name that its first tokens spell. -/
  | named (label : m.label ≠ .list) (us tail : List Token) (split : ts = us ++ tail)
      (name : IsIdentifier us) (text : m.text = textOf us)
      (ends : ∀ o ∈ tail.head?, o.kind.isName = false)
  /-- A bracket without a name. -/
  | bare (label : m.label = .collection ∨ m.label = .ordered) (o : Token) (tail : List Token)
      (split : ts = o :: tail) (opens : o.kind = .openAngle ∨ o.kind = .openParen)
      (text : m.text = opts.defaultCollection)

/-- A name and a bracket behind it. -/
theorem Shape.of_name {us rest : List Token} {o : Token} {label : OutlineLabel} {offset : Nat}
    {children : List Outline} (isType : label ≠ .list) (name : IsIdentifier us)
    (opens : o.kind.isName = false) :
    Shape opts (us ++ o :: rest) (.node label (textOf us) offset children) := by
  refine .named isType us (o :: rest) rfl name rfl ?_
  intro p head
  obtain rfl : o = p := by simpa using head
  exact opens

theorem Derives.shape {part : Part} {n : Nat} {ts : List Token} {m : Outline}
    (derived : Derives opts part n ts m) : Shape opts ts m := by
  cases derived with
  | one head => exact .list rfl _ _ rfl head.offset_eq.2
  | more head comma rest => exact .list rfl _ _ rfl head.offset_eq.2
  | name named => exact .named (by simp [Outline.label]) _ [] (by simp) named rfl (by simp)
  | bareAngle room opens items closes => exact .bare (.inl rfl) _ _ rfl (.inl opens) rfl
  | bareParen room opens items closes => exact .bare (.inr rfl) _ _ rfl (.inr opens) rfl
  | paren named room opens items closes =>
      rw [List.append_assoc]
      exact .of_name (by decide) named (by rw [opens]; rfl)
  | tuple named isTuple room opens items closes =>
      rw [List.append_assoc]
      exact .of_name (by decide) named (by rw [opens]; rfl)
  | pair named notTuple isMapping room opens key comma value closes =>
      rw [List.append_assoc]
      exact .of_name (by decide) named (by rw [opens]; rfl)
  | angle named notTuple notMapping room opens items closes =>
      rw [List.append_assoc]
      exact .of_name (by decide) named (by rw [opens]; rfl)
  | arrow named room brackets keys turns values =>
      simp only [List.append_assoc]
      refine .of_name (by decide) named ?_
      rcases brackets with ⟨opens, -⟩ | ⟨opens, -⟩
      · rw [opens]
        rfl
      · rw [opens]
        rfl

/-! ## Tokens in order -/

/-- Tokens in the order of the text. -/
def Rising (ts : List Token) : Prop := ts.Pairwise fun t u => t.start ≤ u.start

theorem Rising.within {ts us : List Token} (rising : Rising us) (among : ts <:+: us) : Rising ts :=
  List.Pairwise.sublist among.sublist rising

theorem le_start_of_mem_locate {position : Nat} {ls : List Lexeme} {t : Token}
    (member : t ∈ locate position ls) : position ≤ t.start := by
  induction ls generalizing position with
  | nil => cases member
  | cons l ls ih =>
      rcases List.mem_cons.1 member with rfl | inRest
      · exact Nat.le_add_right ..
      · have behind := ih inRest
        omega

theorem rising_locate (position : Nat) (ls : List Lexeme) : Rising (locate position ls) := by
  induction ls generalizing position with
  | nil => exact .nil
  | cons l ls ih =>
      refine List.pairwise_cons.2 ⟨?_, ih _⟩
      intro t member
      have behind := le_start_of_mem_locate member
      show position + byteLength l.gap ≤ t.start
      omega

/-! ## Nodes in order -/

/-- Nodes that are each derived by a run of the tokens `ts`, in the order of the text. -/
structure Ordered (opts : Options) (ts : List Token) (ms : List Outline) : Prop where
  within : ∀ m ∈ ms, ∃ part n us, us <:+: ts ∧ Derives opts part n us m
  rising : (ms.map Outline.offset).Pairwise (· ≤ ·)

namespace Ordered

variable {ts us : List Token} {ms ns : List Outline}

theorem widen (ordered : Ordered opts ts ms) (among : ts <:+: us) : Ordered opts us ms := by
  refine ⟨?_, ordered.rising⟩
  intro m member
  obtain ⟨part, n, vs, inner, derived⟩ := ordered.within m member
  exact ⟨part, n, vs, inner.trans among, derived⟩

theorem exists_start (ordered : Ordered opts ts ms) {m : Outline} (member : m ∈ ms) :
    ∃ t ∈ ts, m.offset = t.start := by
  obtain ⟨part, n, vs, inner, derived⟩ := ordered.within m member
  obtain ⟨nonempty, start⟩ := derived.offset_eq
  obtain ⟨v, vs, rfl⟩ := List.exists_cons_of_ne_nil nonempty
  exact ⟨v, inner.subset (by simp), start⟩

theorem append (rising : Rising (ts ++ us)) (left : Ordered opts ts ms)
    (right : Ordered opts us ns) : Ordered opts (ts ++ us) (ms ++ ns) := by
  have apart := (List.pairwise_append.1 rising).2.2
  refine ⟨?_, ?_⟩
  · intro m member
    rcases List.mem_append.1 member with inLeft | inRight
    · exact (left.widen (List.prefix_append ..).isInfix).within m inLeft
    · exact (right.widen (List.suffix_append ..).isInfix).within m inRight
  · rw [List.map_append, List.pairwise_append]
    refine ⟨left.rising, right.rising, ?_⟩
    simp only [List.mem_map]
    rintro _ ⟨m, inLeft, rfl⟩ _ ⟨n, inRight, rfl⟩
    obtain ⟨t, tokenLeft, start⟩ := left.exists_start inLeft
    obtain ⟨u, tokenRight, start'⟩ := right.exists_start inRight
    rw [start, start']
    exact apart t tokenLeft u tokenRight

/-- A node in front of those below it. -/
theorem node {part : Part} {n : Nat} {t : Outline} (derived : Derives opts part n ts t)
    (rising : Rising ts) (below : Ordered opts ts (preorderAll t.children)) :
    Ordered opts ts t.preorder := by
  obtain ⟨nonempty, start⟩ := derived.offset_eq
  rw [Outline.preorder_eq]
  refine ⟨?_, ?_⟩
  · intro m member
    rcases List.mem_cons.1 member with rfl | isBelow
    · exact ⟨part, n, ts, List.infix_rfl, derived⟩
    · exact below.within m isBelow
  · refine List.pairwise_cons.2 ⟨?_, below.rising⟩
    simp only [List.mem_map]
    rintro _ ⟨m, isBelow, rfl⟩
    obtain ⟨v, member, start'⟩ := below.exists_start isBelow
    obtain ⟨u, us, rfl⟩ := List.exists_cons_of_ne_nil nonempty
    rw [start, start', startOf]
    rcases List.mem_cons.1 member with rfl | inRest
    · exact Nat.le_refl _
    · exact (List.pairwise_cons.1 rising).1 v inRest

/-- A node with one child. -/
theorem one {part : Part} {n : Nat} {label : OutlineLabel} {text : String} {offset : Nat}
    {l : Outline} (derived : Derives opts part n us (.node label text offset [l]))
    (rising : Rising us) (among : ts <:+: us) (child : Rising ts → Ordered opts ts l.preorder) :
    Ordered opts us (Outline.node label text offset [l]).preorder := by
  refine node derived rising ?_
  have below := (child (rising.within among)).widen among
  simpa [Outline.children, preorderAll] using below

/-- A node with two children, whose tokens stand one behind the other. -/
theorem two {part : Part} {n : Nat} {label : OutlineLabel} {text : String} {offset : Nat}
    {l r : Outline} {vs : List Token} (derived : Derives opts part n us (.node label text offset [l, r]))
    (rising : Rising us) (front between back : List Token)
    (split : us = front ++ (ts ++ (between ++ vs)) ++ back)
    (left : Rising ts → Ordered opts ts l.preorder)
    (right : Rising vs → Ordered opts vs r.preorder) :
    Ordered opts us (Outline.node label text offset [l, r]).preorder := by
  refine node derived rising ?_
  have among : ts ++ (between ++ vs) <:+: us := ⟨front, back, split.symm⟩
  have inner := rising.within among
  have first := left (inner.within (List.prefix_append ..).isInfix)
  have second := right (inner.within ⟨ts ++ between, [], by simp⟩)
  have both := append inner first (second.widen (List.suffix_append ..).isInfix)
  simpa [Outline.children, preorderAll] using both.widen among

end Ordered

theorem within_bracket (us ts : List Token) (o c : Token) : ts <:+: us ++ o :: ts ++ [c] :=
  ⟨us ++ [o], [c], by simp⟩

/-- **The nodes of a derivation are derived by runs of its tokens, in the order of the text.** -/
theorem Derives.ordered {part : Part} {n : Nat} {ts : List Token} {t : Outline}
    (derived : Derives opts part n ts t) : Rising ts → Ordered opts ts t.preorder := by
  induction derived with
  | one head ih =>
      intro rising
      exact .one (.one head) rising List.infix_rfl ih
  | @more n ts us c t r head comma rest ihHead ihRest =>
      intro rising
      exact .two (.more head comma rest) rising [] [c] [] (by simp) ihHead ihRest
  | @name n us named =>
      intro rising
      exact .node (n := n) (.name named) rising ⟨by simp [Outline.children, preorderAll], .nil⟩
  | bareAngle room opens items closes ih =>
      intro rising
      exact .one (.bareAngle room opens items closes) rising (within_bracket [] ..) ih
  | bareParen room opens items closes ih =>
      intro rising
      exact .one (.bareParen room opens items closes) rising (within_bracket [] ..) ih
  | paren named room opens items closes ih =>
      intro rising
      exact .one (.paren named room opens items closes) rising (within_bracket ..) ih
  | tuple named isTuple room opens items closes ih =>
      intro rising
      exact .one (.tuple named isTuple room opens items closes) rising (within_bracket ..) ih
  | @pair n o m c us ts vs k v named notTuple isMapping room opens key comma value closes ihKey
      ihValue =>
      intro rising
      -- Each half of a pair is a list of one, so a node of its own stands between.
      have keys : Rising ts → Ordered opts ts (Outline.node .list "" (startOf ts) [k]).preorder :=
        fun inner => .one (.one key) inner List.infix_rfl ihKey
      have values : Rising vs → Ordered opts vs (Outline.node .list "" (startOf vs) [v]).preorder :=
        fun inner => .one (.one value) inner List.infix_rfl ihValue
      exact .two (.pair named notTuple isMapping room opens key comma value closes) rising
        (us ++ [o]) [m] [c] (by simp) keys values
  | angle named notTuple notMapping room opens items closes ih =>
      intro rising
      exact .one (.angle named notTuple notMapping room opens items closes) rising
        (within_bracket ..) ih
  | @arrow n o a c us ts vs l m named room brackets keys turns values ihKeys ihValues =>
      intro rising
      exact .two (.arrow named room brackets keys turns values) rising (us ++ [o]) [a] [c] (by simp)
        ihKeys ihValues

/-! ## Places in the text -/

/-- `part` stands in the text at the byte `offset`. -/
def StandsAt (text : String) (offset : Nat) (part : String) : Prop :=
  ∃ before after : String, text = before ++ part ++ after ∧ before.utf8ByteSize = offset

theorem byteLength_eq (cs : List Char) : byteLength cs = (String.ofList cs).utf8ByteSize := by
  induction cs with
  | nil => rfl
  | cons c cs ih =>
      rw [byteLength, ih, String.ofList_cons, String.utf8ByteSize_append]
      simp

/-- What stands at a byte starts there with a whole character. -/
theorem StandsAt.boundary {text part : String} {offset : Nat} (stands : StandsAt text offset part) :
    String.Pos.Raw.IsValid text ⟨offset⟩ := by
  obtain ⟨before, after, rfl, rfl⟩ := stands
  rw [String.Pos.Raw.isValid_iff_exists_append]
  exact ⟨before, part ++ after, String.append_assoc, rfl⟩

/-- The byte at which a token starts. -/
theorem start_eq {text : String} {front back : List Token} {t : Token}
    (split : tokens text = front ++ t :: back) :
    t.start = byteLength (source (front.map Token.toLexeme)) + byteLength t.gap := by
  have placed := startOf_locate split
  rwa [Nat.zero_add, byteLength_append] at placed

/-- What a run of tokens covers stands where the run starts. -/
theorem standsAt_spelling {text : String} {us : List Token} (nonempty : us ≠ [])
    (among : us <:+: tokens text) :
    StandsAt text (startOf us) (String.ofList (spelling (us.map Token.toLexeme))) := by
  obtain ⟨t, ts, rfl⟩ := List.exists_cons_of_ne_nil nonempty
  obtain ⟨front, back, split⟩ := among
  have start := @start_eq text front (ts ++ back) t (by simp [← split])
  obtain ⟨tail, -, whole⟩ := exists_source_append text.toList
  refine ⟨String.ofList (source (front.map Token.toLexeme) ++ t.gap),
    String.ofList (source (back.map Token.toLexeme) ++ tail), ?_, ?_⟩
  · rw [← String.ofList_append, ← String.ofList_append, ← String.toList_inj, whole,
      lexemes_of_tokens split.symm]
    simp [source, spelling]
  · rw [← byteLength_eq, byteLength_append, ← start]
    rfl

/-- A run of tokens ends where what it covers ends. -/
theorem stop_eq {text : String} {us : List Token} {last : Token} (among : us <:+: tokens text)
    (isLast : us.getLast? = some last) :
    last.stop = startOf us + byteLength (spelling (us.map Token.toLexeme)) := by
  obtain ⟨front, back, split⟩ := among
  obtain ⟨init, rfl⟩ := List.getLast?_eq_some_iff.1 isLast
  have stop := @start_eq text (front ++ init) back last (by simp [← split])
  cases init with
  | nil => simp [Token.stop, startOf, spelling, source]
  | cons t ts =>
      have start := @start_eq text front (ts ++ [last] ++ back) t (by simp [← split])
      simp only [Token.stop, stop, start, startOf, spelling, source, List.map_append, List.map_cons,
        List.map_nil, List.flatMap_append, List.flatMap_cons, List.flatMap_nil, List.cons_append,
        byteLength_append, byteLength]
      omega

/-! ## Faithful positions -/

/-- How a node lies in its text: `first` is the first of its tokens and `rest` are the others. -/
structure Outline.Placed (opts : Options) (text : String) (m : Outline) (first : Token)
    (rest : List Token) : Prop where
  among : first :: rest <:+: tokens text
  derived : ∃ part n, Derives opts part n (first :: rest) m
  start : m.offset = first.start
  /-- No character is cut. -/
  boundary : String.Pos.Raw.IsValid text ⟨m.offset⟩
  list : m.label = .list → ∃ head tail, m.children = head :: tail ∧ m.offset = head.offset
  /-- The name is what its tokens cover, from the first to the last of them. -/
  named : m.label ≠ .list → first.kind.isName = true →
    StandsAt text m.offset m.text ∧ trim m.text.toList = m.text.toList ∧
      ∃ last, ((first :: rest).takeWhile fun u => u.kind.isName).getLast? = some last ∧
        last.stop = m.offset + m.text.utf8ByteSize
  bare : m.label ≠ .list → first.kind.isName = false →
    (m.label = .collection ∨ m.label = .ordered) ∧ m.text = opts.defaultCollection ∧
      (StandsAt text m.offset "<" ∨ StandsAt text m.offset "(")

/-- A node that starts with its name. -/
theorem standsAt_name {text : String} {us tail : List Token} (name : IsIdentifier us)
    (among : us ++ tail <:+: tokens text) (ends : ∀ o ∈ tail.head?, o.kind.isName = false) :
    StandsAt text (startOf us) (textOf us) ∧ trim (textOf us).toList = (textOf us).toList ∧
      ∃ last, ((us ++ tail).takeWhile fun u => u.kind.isName).getLast? = some last ∧
        last.stop = startOf us + (textOf us).utf8ByteSize := by
  have inText : us <:+: tokens text := (List.prefix_append ..).isInfix.trans among
  have names : ∀ u ∈ us, u.kind.isName = true := fun u member => isName_iff.2 (name.2 u member)
  have sound : ∀ u ∈ us, u.toLexeme.Sound := fun u member =>
    tokens_sound text u (inText.subset member)
  have plain : IsPlain (spelling (us.map Token.toLexeme)) :=
    isPlain_spelling (by simpa using sound) (by simpa using names)
  rw [textOf_of_names sound names, takeWhile_run names ends]
  refine ⟨standsAt_spelling name.1 inText, ?_, ?_⟩
  · rw [String.toList_ofList]
    exact trim_eq_self_iff.2 plain.toIsTrimmed
  · obtain ⟨last, isLast⟩ := Option.isSome_iff_exists.1 (List.getLast?_isSome.2 name.1)
    exact ⟨last, isLast, by rw [stop_eq inText isLast, byteLength_eq]⟩

theorem eq_of_ofChar_opens {c : Char} : (TokenKind.ofChar c = .openAngle → c = '<') ∧
    (TokenKind.ofChar c = .openParen → c = '(') := by
  unfold TokenKind.ofChar
  split <;> simp_all

theorem standsAt_bracket {text : String} {o : Token} {tail : List Token}
    (opens : o.kind = .openAngle ∨ o.kind = .openParen) (among : o :: tail <:+: tokens text) :
    StandsAt text o.start "<" ∨ StandsAt text o.start "(" := by
  have inText : [o] <:+: tokens text := (List.prefix_append [o] tail).isInfix.trans among
  have stands := standsAt_spelling (by simp) inText
  have covers : spelling ([o].map Token.toLexeme) = o.text := by simp [spelling]
  have isText := (tokens_sound text o (inText.subset (by simp))).text
  rw [covers] at stands
  rcases opens with kind | kind
  · rw [kind] at isText
    obtain ⟨c, isChar, opening⟩ := isText
    rw [isChar, eq_of_ofChar_opens.1 opening] at stands
    exact .inl stands
  · rw [kind] at isText
    obtain ⟨c, isChar, opening⟩ := isText
    rw [isChar, eq_of_ofChar_opens.2 opening] at stands
    exact .inr stands

/-- A node lies in the text where its tokens do. -/
theorem Derives.placed {text : String} {part : Part} {n : Nat} {first : Token} {rest : List Token}
    {m : Outline} (derived : Derives opts part n (first :: rest) m)
    (among : first :: rest <:+: tokens text) : m.Placed opts text first rest := by
  have start : m.offset = first.start := derived.offset_eq.2
  have boundary : String.Pos.Raw.IsValid text ⟨m.offset⟩ := by
    rw [start]
    exact (standsAt_spelling (by simp) among).boundary
  cases derived.shape with
  | list label head tail children headStart =>
      exact ⟨among, ⟨part, n, derived⟩, start, boundary,
        fun _ => ⟨head, tail, children, headStart.symm⟩, absurd label, absurd label⟩
  | named label us tail split name isText ends =>
      have isFirst : first.kind.isName = true := by
        obtain ⟨u, us', rfl⟩ := List.exists_cons_of_ne_nil name.1
        obtain rfl : first = u := (List.cons.inj split).1
        exact isName_iff.2 (name.2 first (by simp))
      have sameStart : startOf us = m.offset := by
        rw [derived.offset_eq.2, split, startOf_append tail name.1]
      refine ⟨among, ⟨part, n, derived⟩, start, boundary, fun isList => absurd isList label, ?_, ?_⟩
      · intro _ _
        rw [split] at among ⊢
        rw [isText, ← sameStart]
        exact standsAt_name name among ends
      · intro _ notName
        rw [isFirst] at notName
        cases notName
  | bare label o tail split opens isText =>
      obtain ⟨rfl, rfl⟩ := List.cons.inj split
      have notList : m.label ≠ .list := by
        rcases label with isLabel | isLabel <;> simp [isLabel]
      have notFirst : first.kind.isName = false := by
        rcases opens with kind | kind <;> rw [kind] <;> rfl
      refine ⟨among, ⟨part, n, derived⟩, start, boundary, fun isList => absurd isList notList, ?_, ?_⟩
      · intro _ isName
        rw [notFirst] at isName
        cases isName
      · intro _ _
        rw [start]
        exact ⟨label, isText, standsAt_bracket opens among⟩

/-- **An outline is faithful to the places of its text.** Every node is derived by a run of tokens and
starts at the byte of the first of them, where a character of the text starts. A list starts where its
first element does, also when it is one half of a pair. A node that starts with a name has what stands
there as its text: all that its name tokens cover, with no blank at its ends. A bracket without a name
has the default name, and `<` or `(` stands at its place. From each node to those below it and on to
those behind it, places never go back. -/
theorem outline_positions_faithful (opts : Options) (text : String) (tree : Outline)
    (read : outline opts text = .ok (some tree)) :
    (∀ m ∈ tree.preorder, ∃ first rest, m.Placed opts text first rest) ∧
      (tree.preorder.map Outline.offset).Pairwise (· ≤ ·) := by
  obtain ⟨ps, isRead, isTree⟩ := outline_eq_ok_iff.1 read
  have derived : Derives opts .list 0 (tokens text) tree := by
    rcases phrases_eq_ok_iff.1 isRead with ⟨-, rfl⟩ | spelled
    · cases isTree
    · exact (derives_iff (tokens_sound text) tree).2 ⟨ps, spelled, head_outlineList_iff.1 isTree⟩
  have ordered := derived.ordered (rising_locate 0 (lexemes text.toList))
  refine ⟨?_, ordered.rising⟩
  intro m member
  obtain ⟨part, n, us, among, derived⟩ := ordered.within m member
  obtain ⟨first, rest, rfl⟩ := List.exists_cons_of_ne_nil derived.offset_eq.1
  exact ⟨first, rest, derived.placed among⟩

/-- A pair behind letters and blanks of two and three bytes. -/
theorem outline_positions_faithful_wide :
    ∃ tree, outline {} "é\u3000ü, Hash<ñ = , <B>>" = .ok (some tree) ∧
      (tree.preorder.map fun m => (m.text, m.offset)) =
        [("", 0), ("é\u3000ü", 0), ("", 9), ("Hash", 9), ("", 14), ("ñ =", 14), ("", 21), ("Array", 21),
          ("", 22), ("B", 22)] ∧
      ∀ m ∈ tree.preorder, ∃ first rest, m.Placed {} "é\u3000ü, Hash<ñ = , <B>>" first rest := by
  have listed : ((outline {} "é\u3000ü, Hash<ñ = , <B>>").toOption.bind id).map
      (fun tree => tree.preorder.map fun m => (m.text, m.offset)) =
        some [("", 0), ("é\u3000ü", 0), ("", 9), ("Hash", 9), ("", 14), ("ñ =", 14), ("", 21),
          ("Array", 21), ("", 22), ("B", 22)] := by
    decide +kernel
  obtain ⟨tree, found, places⟩ := Option.map_eq_some_iff.1 listed
  have read : outline {} "é\u3000ü, Hash<ñ = , <B>>" = .ok (some tree) := by
    cases result : outline {} "é\u3000ü, Hash<ñ = , <B>>" with
    | error fault => simp [result, Except.toOption] at found
    | ok trees =>
        obtain rfl : trees = some tree := by simpa [result, Except.toOption] using found
        rfl
  exact ⟨tree, read, places, (outline_positions_faithful {} _ tree read).1⟩

end Crosslink.TypeSpec
