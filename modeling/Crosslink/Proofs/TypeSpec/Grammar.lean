/-
# Crosslink.Proofs.TypeSpec.Grammar — the reader decides the grammar

`Spells opts part n ts ps` is the grammar of the reader as a relation: the
tokens `ts`, with `n` brackets open around them, form a type or a list of types
whose phrases are `ps`. A bracket needs room for itself, so no derivation has
more than `maxDepth` brackets open at once.

* `Spells.run`: what is spelled is read. The reader goes from a state that wants
  a type to one that has ended it, with the phrases in front of those it had.
* `Reached` accounts for every token taken so far: those of the open brackets,
  those of the finished phrases, and those of the name or type at the end. One
  step keeps the account (`Reached.step`), so a whole run does (`Reached.run`).
* `readTokens_eq_ok_iff`: the reader gives `ps` exactly when the tokens spell `ps`.
* `Spells.weigh`: what is spelled closes every bracket that it opens.
-/
import Crosslink.Proofs.TypeSpec.Lexing
import Crosslink.TypeSpec.Reader

namespace Crosslink.TypeSpec

open Crosslink.Text

set_option autoImplicit false

/-! ## The grammar -/

/-- A name that starts at byte `start`: words and lone equals signs, with the blanks between
them. -/
inductive SpellsName : List Token → Nat → String → Prop
  | run (t : Token) (ts : List Token) (names : ∀ u ∈ t :: ts, u.kind.isName = true) :
      SpellsName (t :: ts) t.start (String.ofList (spelling ((t :: ts).map Token.toLexeme)))

inductive Part where
  | type
  | list

/-- `opens` and `closes` are the brackets around a mapping with an arrow. -/
def MappingBrackets (opens closes : TokenKind) : Prop :=
  (opens = .openAngle ∧ closes = .closeAngle) ∨ (opens = .openBrace ∧ closes = .closeBrace)

/-- The tokens of a type or of a list of types, with this many brackets open around them. -/
inductive Spells (opts : Options) : Part → Nat → List Token → List Phrase → Prop
  | one {n : Nat} {ts : List Token} {ps : List Phrase}
      (head : Spells opts .type n ts ps) : Spells opts .list n ts ps
  | more {n : Nat} {ts us : List Token} {c : Token} {ps qs : List Phrase}
      (head : Spells opts .type n ts ps) (comma : c.kind = .comma)
      (rest : Spells opts .list n us qs) : Spells opts .list n (ts ++ c :: us) (ps ++ qs)
  | name {n start : Nat} {us : List Token} {name : String}
      (named : SpellsName us start name) : Spells opts .type n us [.basic start name]
  | bareAngle {n : Nat} {o c : Token} {ts : List Token} {ps : List Phrase}
      (room : n < maxDepth) (opens : o.kind = .openAngle)
      (items : Spells opts .list (n + 1) ts ps) (closes : c.kind = .closeAngle) :
      Spells opts .type n (o :: ts ++ [c]) [.collection o.start opts.defaultCollection ps false]
  | bareParen {n : Nat} {o c : Token} {ts : List Token} {ps : List Phrase}
      (room : n < maxDepth) (opens : o.kind = .openParen)
      (items : Spells opts .list (n + 1) ts ps) (closes : c.kind = .closeParen) :
      Spells opts .type n (o :: ts ++ [c]) [.collection o.start opts.defaultCollection ps true]
  | angle {n start : Nat} {name : String} {o c : Token} {us ts : List Token} {ps : List Phrase}
      (named : SpellsName us start name) (room : n < maxDepth) (opens : o.kind = .openAngle)
      (items : Spells opts .list (n + 1) ts ps) (closes : c.kind = .closeAngle) :
      Spells opts .type n (us ++ o :: ts ++ [c]) [opts.angled start name ps]
  | paren {n start : Nat} {name : String} {o c : Token} {us ts : List Token} {ps : List Phrase}
      (named : SpellsName us start name) (room : n < maxDepth) (opens : o.kind = .openParen)
      (items : Spells opts .list (n + 1) ts ps) (closes : c.kind = .closeParen) :
      Spells opts .type n (us ++ o :: ts ++ [c]) [.collection start name ps true]
  | arrow {n start : Nat} {name : String} {o a c : Token} {us ts vs : List Token}
      {ps qs : List Phrase}
      (named : SpellsName us start name) (room : n < maxDepth)
      (brackets : MappingBrackets o.kind c.kind)
      (keys : Spells opts .list (n + 1) ts ps) (turns : a.kind = .arrow)
      (values : Spells opts .list (n + 1) vs qs) :
      Spells opts .type n (us ++ o :: ts ++ a :: vs ++ [c]) [.mapping start name ps qs]

/-! ## Spelled tokens are read -/

/-- The kinds that may follow a complete type. -/
def TokenKind.endsType : TokenKind → Bool
  | .closeAngle | .closeParen | .closeBrace | .comma | .arrow => true
  | _ => false

variable {opts : Options}

/-- After a name or a type, a kind that ends a type is taken as if the name were settled. -/
theorem step_of_endsType {s : State} {t : Token} (settled : s.settle.mode = .complete)
    (ends : t.kind.endsType = true) :
    s.step opts t = s.settle.follow opts t.kind t.start := by
  obtain ⟨levels, items, mode⟩ := s
  cases mode with
  | wantType => cases settled
  | complete => rfl
  | naming start read =>
      obtain ⟨⟨kind, gap, text⟩, position⟩ := t
      cases kind <;> first | rfl | cases ends

/-- The state `s` after one more list of phrases has been read in it. -/
def State.adds (s : State) (ps : List Phrase) : State :=
  ⟨s.levels, ps.reverse ++ s.items, .complete⟩

/-- The state after some tokens. -/
def State.run (opts : Options) (s : State) (ts : List Token) : Except Fault State :=
  ts.foldlM (State.step opts) s

@[simp] theorem run_nil (s : State) : State.run opts s [] = .ok s := rfl

@[simp] theorem run_cons (s : State) (t : Token) (ts : List Token) :
    State.run opts s (t :: ts) = (s.step opts t).bind fun s' => State.run opts s' ts := rfl

theorem run_append (s : State) (ts us : List Token) :
    State.run opts s (ts ++ us) = (State.run opts s ts).bind fun s' => State.run opts s' us := by
  simp only [State.run, List.foldlM_append]; rfl

theorem run_names (opts : Options) (levels : List Level) (items : List Phrase) (start : Nat) (us : List Token)
    (names : ∀ u ∈ us, u.kind.isName = true) (read : List Char) :
    State.run opts ⟨levels, items, .naming start read⟩ us =
      .ok ⟨levels, items,
        .naming start ((source (us.map Token.toLexeme)).reverse ++ read)⟩ := by
  induction us generalizing read with
  | nil => rfl
  | cons u us ih =>
      have isName := names u (by simp)
      have step : State.step opts ⟨levels, items, .naming start read⟩ u =
          .ok ⟨levels, items, .naming start (u.text.reverse ++ (u.gap.reverse ++ read))⟩ := by
        simp only [State.step]
        split <;> simp_all [TokenKind.isName]
      rw [run_cons, step]
      simp only [Except.bind]
      rw [ih (fun v member => names v (by simp [member]))]
      simp [source]

theorem run_spellsName (opts : Options) {us : List Token} {start : Nat} {name : String}
    (named : SpellsName us start name) (levels : List Level) (items : List Phrase) :
    ∃ read, State.run opts ⟨levels, items, .wantType⟩ us = .ok ⟨levels, items, .naming start read⟩ ∧
      String.ofList read.reverse = name := by
  obtain ⟨t, ts, names⟩ := named
  have isName := names t (by simp)
  have step : State.step opts ⟨levels, items, .wantType⟩ t =
      .ok ⟨levels, items, .naming t.start t.text.reverse⟩ := by
    simp only [State.step]
    split <;> simp_all [TokenKind.isName]
  have rest := run_names opts levels items t.start ts
    (fun v member => names v (by simp [member])) t.text.reverse
  exact ⟨_, by rw [run_cons, step]; exact rest, by simp [spelling]⟩

/-- A name and an opening bracket enter that bracket. -/
theorem run_named_open (opts : Options) {us : List Token} {start : Nat} {name : String}
    (named : SpellsName us start name) {levels : List Level} (items : List Phrase)
    (room : levels.length < maxDepth) {o : Token} {bracket : Bracket}
    (opens : (o.kind = .openAngle ∧ bracket = .angle true) ∨
      (o.kind = .openParen ∧ bracket = .paren) ∨ (o.kind = .openBrace ∧ bracket = .brace)) :
    State.run opts ⟨levels, items, .wantType⟩ (us ++ [o]) =
      .ok ⟨⟨bracket, start, name, items⟩ :: levels, [], .wantType⟩ := by
  obtain ⟨read, reads, rfl⟩ := run_spellsName opts named levels items
  rw [run_append, reads]
  simp only [Except.bind, run_cons, run_nil]
  rcases opens with ⟨kind, rfl⟩ | ⟨kind, rfl⟩ | ⟨kind, rfl⟩ <;>
    simp [State.step, State.enter, kind, room]

theorem settled_mode {s s' : State} {ps : List Phrase} (settled : s'.settle = s.adds ps) :
    s'.settle.mode = .complete := by
  rw [settled]; rfl

/-- A list inside a bracket, and the token behind it. -/
theorem run_inside {level : Level} {outer : List Level} {ts : List Token} {ps : List Phrase}
    {c : Token}
    (reads : ∃ s', State.run opts ⟨level :: outer, [], .wantType⟩ ts = .ok s' ∧
      s'.settle = (State.mk (level :: outer) [] .wantType).adds ps)
    (ends : c.kind.endsType = true) :
    State.run opts ⟨level :: outer, [], .wantType⟩ (ts ++ [c]) =
      State.follow opts ⟨level :: outer, ps.reverse, .complete⟩ c.kind c.start := by
  obtain ⟨s', reads, settled⟩ := reads
  rw [run_append, reads]
  simp only [Except.bind, run_cons, run_nil]
  rw [step_of_endsType (settled_mode settled) ends, settled]
  simp only [State.adds, List.append_nil]
  cases State.follow opts _ c.kind c.start <;> rfl

/-- Tokens that enter a bracket, a list inside it, and the token that closes it. -/
theorem run_bracket {levels : List Level} {items : List Phrase} {level : Level}
    {vs ts : List Token} {ps : List Phrase} {c : Token} {p : Phrase}
    (enters : State.run opts ⟨levels, items, .wantType⟩ vs = .ok ⟨level :: levels, [], .wantType⟩)
    (reads : ∃ s', State.run opts ⟨level :: levels, [], .wantType⟩ ts = .ok s' ∧
      s'.settle = (State.mk (level :: levels) [] .wantType).adds ps)
    (ends : c.kind.endsType = true)
    (leaves : State.follow opts ⟨level :: levels, ps.reverse, .complete⟩ c.kind c.start =
      .ok ⟨levels, p :: items, .complete⟩) :
    ∃ s', State.run opts ⟨levels, items, .wantType⟩ (vs ++ (ts ++ [c])) = .ok s' ∧
      s'.settle = (State.mk levels items .wantType).adds [p] := by
  refine ⟨⟨levels, p :: items, .complete⟩, ?_, rfl⟩
  rw [run_append, enters]
  exact (run_inside reads ends).trans leaves

/-- **Every spelled list is read**, and leaves its phrases behind the ones that were there. -/
theorem Spells.run {part : Part} {n : Nat} {ts : List Token} {ps : List Phrase}
    (spelled : Spells opts part n ts ps) (levels : List Level) (items : List Phrase)
    (depth : levels.length = n) :
    ∃ s', State.run opts ⟨levels, items, .wantType⟩ ts = .ok s' ∧
      s'.settle = (State.mk levels items .wantType).adds ps := by
  induction spelled generalizing levels items with
  | one head ih => exact ih levels items depth
  | @more n ts us c ps qs head comma rest ihHead ihRest =>
      obtain ⟨s₁, reads₁, settled₁⟩ := ihHead levels items depth
      obtain ⟨s₂, reads₂, settled₂⟩ := ihRest levels (ps.reverse ++ items) depth
      have step : s₁.step opts c = .ok ⟨levels, ps.reverse ++ items, .wantType⟩ := by
        rw [step_of_endsType (settled_mode settled₁) (by simp [comma, TokenKind.endsType]), settled₁]
        simp [State.follow, comma, State.adds]
      refine ⟨s₂, ?_, ?_⟩
      · rw [run_append, reads₁]
        simp only [Except.bind, run_cons, step]
        exact reads₂
      · simp [settled₂, State.adds]
  | @name n start us name named =>
      obtain ⟨read, reads, rfl⟩ := run_spellsName opts named levels items
      exact ⟨_, reads, rfl⟩
  | @bareAngle n o c ts ps room opens inner closes ih =>
      subst depth
      let level : Level := ⟨.angle false, o.start, opts.defaultCollection, items⟩
      have enters : State.run opts ⟨levels, items, .wantType⟩ [o] =
          .ok ⟨level :: levels, [], .wantType⟩ := by
        simp [State.step, State.enter, opens, room, Except.bind, level]
      refine run_bracket enters (ih (level :: levels) [] rfl) (by simp [closes, TokenKind.endsType]) ?_
      simp [State.follow, closes, level]
  | @bareParen n o c ts ps room opens inner closes ih =>
      subst depth
      let level : Level := ⟨.paren, o.start, opts.defaultCollection, items⟩
      have enters : State.run opts ⟨levels, items, .wantType⟩ [o] =
          .ok ⟨level :: levels, [], .wantType⟩ := by
        simp [State.step, State.enter, opens, room, Except.bind, level]
      refine run_bracket enters (ih (level :: levels) [] rfl) (by simp [closes, TokenKind.endsType]) ?_
      simp [State.follow, closes, level]
  | @angle n start name o c us ts ps named room opens inner closes ih =>
      subst depth
      have enters := run_named_open opts named items room (.inl ⟨opens, rfl⟩)
      have result := run_bracket (c := c) (p := opts.angled start name ps) enters (ih _ [] rfl)
        (by simp [closes, TokenKind.endsType]) (by simp [State.follow, closes])
      simpa using result
  | @paren n start name o c us ts ps named room opens inner closes ih =>
      subst depth
      have enters := run_named_open opts named items room (.inr (.inl ⟨opens, rfl⟩))
      have result := run_bracket (c := c) (p := .collection start name ps true) enters (ih _ [] rfl)
        (by simp [closes, TokenKind.endsType]) (by simp [State.follow, closes])
      simpa using result
  | @arrow n start name o a c us ts vs ps qs named room brackets keys turns values ihKeys ihValues =>
      subst depth
      obtain ⟨bracket, opens, turn⟩ : ∃ bracket, ((o.kind = .openAngle ∧ bracket = .angle true) ∨
          (o.kind = .openParen ∧ bracket = .paren) ∨ (o.kind = .openBrace ∧ bracket = .brace)) ∧
          State.follow opts ⟨⟨bracket, start, name, items⟩ :: levels, ps.reverse, .complete⟩ .arrow
            a.start = .ok ⟨⟨.values ps c.kind, start, name, items⟩ :: levels, [], .wantType⟩ := by
        rcases brackets with ⟨opens, closes⟩ | ⟨opens, closes⟩
        · exact ⟨.angle true, .inl ⟨opens, rfl⟩, by simp [State.follow, closes]⟩
        · exact ⟨.brace, .inr (.inr ⟨opens, rfl⟩), by simp [State.follow, closes]⟩
      have ends : c.kind.endsType = true ∧ c.kind ≠ .comma := by
        rcases brackets with ⟨-, closes⟩ | ⟨-, closes⟩ <;> simp [closes, TokenKind.endsType]
      have enters := run_named_open opts named items room opens
      have turned := run_inside (c := a) (ihKeys (⟨bracket, start, name, items⟩ :: levels) [] rfl)
        (by simp [turns, TokenKind.endsType])
      rw [turns, turn] at turned
      have result := run_bracket (p := .mapping start name ps qs)
        (show State.run opts _ (us ++ [o] ++ (ts ++ [a])) = _ by
          rw [run_append, enters]; exact turned) (ihValues _ [] rfl) ends.1
        (by simp [State.follow, ends.2])
      simpa using result

/-! ## Tokens that are read are spelled -/

/-- `ts` spells phrases that are each followed by a comma; the last phrase comes first. -/
inductive Listed (opts : Options) (n : Nat) : List Token → List Phrase → Prop
  | nil : Listed opts n [] []
  | snoc {ts us : List Token} {c : Token} {ps : List Phrase} {p : Phrase}
      (before : Listed opts n ts ps) (last : Spells opts .type n us [p]) (comma : c.kind = .comma) :
      Listed opts n (ts ++ us ++ [c]) (p :: ps)

theorem Listed.append {n : Nat} {ts us : List Token} {ps qs : List Phrase}
    (before : Listed opts n ts ps) (rest : Spells opts .list n us qs) :
    Spells opts .list n (ts ++ us) (ps.reverse ++ qs) := by
  induction before generalizing us qs with
  | nil => exact rest
  | snoc before last comma ih =>
      have := ih (.more last comma rest)
      simpa using this

/-- The tokens of a bracket that is still open, up to the list inside it. -/
inductive Opening (opts : Options) (n : Nat) : List Token → Bracket → Nat → String → Prop
  | bareAngle {o : Token} (opens : o.kind = .openAngle) :
      Opening opts n [o] (.angle false) o.start opts.defaultCollection
  | bareParen {o : Token} (opens : o.kind = .openParen) :
      Opening opts n [o] .paren o.start opts.defaultCollection
  | angle {us : List Token} {o : Token} {start : Nat} {name : String}
      (named : SpellsName us start name) (opens : o.kind = .openAngle) :
      Opening opts n (us ++ [o]) (.angle true) start name
  | paren {us : List Token} {o : Token} {start : Nat} {name : String}
      (named : SpellsName us start name) (opens : o.kind = .openParen) :
      Opening opts n (us ++ [o]) .paren start name
  | brace {us : List Token} {o : Token} {start : Nat} {name : String}
      (named : SpellsName us start name) (opens : o.kind = .openBrace) :
      Opening opts n (us ++ [o]) .brace start name
  | values {us ts : List Token} {o a : Token} {start : Nat} {name : String} {ps : List Phrase}
      {closer : TokenKind}
      (named : SpellsName us start name) (brackets : MappingBrackets o.kind closer)
      (keys : Spells opts .list (n + 1) ts ps) (turns : a.kind = .arrow) :
      Opening opts n (us ++ o :: ts ++ [a]) (.values ps closer) start name

/-- The tokens up to the innermost open bracket. -/
inductive Opened (opts : Options) : List Token → List Level → Prop
  | nil : Opened opts [] []
  | cons {ts us vs : List Token} {outer : List Level} {before : List Phrase} {bracket : Bracket}
      {offset : Nat} {name : String}
      (outside : Opened opts ts outer) (room : outer.length < maxDepth)
      (earlier : Listed opts outer.length us before)
      (opening : Opening opts outer.length vs bracket offset name) :
      Opened opts (ts ++ us ++ vs) (⟨bracket, offset, name, before⟩ :: outer)

/-- What the tokens taken so far say about the state. -/
inductive Reached (opts : Options) : List Token → State → Prop
  | wantType {ts us : List Token} {levels : List Level} {items : List Phrase}
      (opened : Opened opts ts levels) (listed : Listed opts levels.length us items) :
      Reached opts (ts ++ us) ⟨levels, items, .wantType⟩
  | naming {ts us vs : List Token} {levels : List Level} {items : List Phrase} {start : Nat}
      {read : List Char}
      (opened : Opened opts ts levels) (listed : Listed opts levels.length us items)
      (named : SpellsName vs start (String.ofList read.reverse)) :
      Reached opts (ts ++ us ++ vs) ⟨levels, items, .naming start read⟩
  | complete {ts us vs : List Token} {levels : List Level} {items : List Phrase} {p : Phrase}
      (opened : Opened opts ts levels) (listed : Listed opts levels.length us items)
      (last : Spells opts .type levels.length vs [p]) :
      Reached opts (ts ++ us ++ vs) ⟨levels, p :: items, .complete⟩

theorem Reached.settle {ts : List Token} {s : State} (reached : Reached opts ts s) :
    Reached opts ts s.settle := by
  cases reached with
  | wantType opened listed => exact .wantType opened listed
  | naming opened listed named => exact .complete opened listed (.name named)
  | complete opened listed last => exact .complete opened listed last

/-- An opening and the list inside it, closed. -/
theorem Opening.close {n : Nat} {vs ws : List Token} {bracket : Bracket} {offset start : Nat}
    {name : String} {ps before : List Phrase} {outer : List Level} {c : Token} {s' : State}
    (opening : Opening opts n vs bracket offset name) (room : n < maxDepth)
    (items : Spells opts .list (n + 1) ws ps)
    (step : State.follow opts ⟨⟨bracket, offset, name, before⟩ :: outer, ps.reverse, .complete⟩
      c.kind start = .ok s') (comma : c.kind ≠ .comma) :
    (∃ p, s' = ⟨outer, p :: before, .complete⟩ ∧ Spells opts .type n (vs ++ ws ++ [c]) [p]) ∨
      (∃ next, s' = ⟨⟨next, offset, name, before⟩ :: outer, [], .wantType⟩ ∧
        Opening opts n (vs ++ ws ++ [c]) next offset name) := by
  simp only [State.follow, comma, if_false, List.reverse_reverse] at step
  cases opening with
  | bareAngle opens =>
      split at step <;> simp_all
      subst step
      exact .inl ⟨_, rfl, .bareAngle room opens items ‹_›⟩
  | bareParen opens =>
      split at step <;> simp_all
      subst step
      exact .inl ⟨_, rfl, .bareParen room opens items ‹_›⟩
  | angle named opens =>
      split at step <;> simp_all
      · subst step
        exact .inr ⟨_, rfl, by simpa using Opening.values named (.inl ⟨opens, rfl⟩) items ‹_›⟩
      · subst step
        exact .inl ⟨_, rfl, by simpa using Spells.angle named room opens items ‹_›⟩
  | paren named opens =>
      split at step <;> simp_all
      subst step
      exact .inl ⟨_, rfl, by simpa using Spells.paren named room opens items ‹_›⟩
  | brace named opens =>
      split at step <;> simp_all
      subst step
      exact .inr ⟨_, rfl, by simpa using Opening.values named (.inr ⟨opens, rfl⟩) items ‹_›⟩
  | values named brackets keys turns =>
      split at step <;> simp_all
      split at step <;> simp_all
      rename_i closes
      subst step
      rw [← closes] at brackets
      exact .inl ⟨_, rfl, by simpa using Spells.arrow named room brackets keys turns items⟩

/-- Taking the token after a complete type keeps the account. -/
theorem Reached.follow {ts : List Token} {s s' : State} {t : Token} {start : Nat}
    (reached : Reached opts ts s) (settled : s.mode = .complete)
    (step : s.follow opts t.kind start = .ok s') : Reached opts (ts ++ [t]) s' := by
  cases reached with
  | wantType => cases settled
  | naming => cases settled
  | @complete ts us vs levels items p opened listed last =>
      by_cases comma : t.kind = .comma
      · simp only [State.follow, comma, if_true, Except.ok.injEq] at step
        subst step
        simpa using Reached.wantType opened (.snoc listed last comma)
      · cases opened with
        | nil => simp [State.follow, comma] at step
        | @cons ts' us' vs' outer before bracket offset name outside room earlier opening =>
            have inside := listed.append (.one last)
            have step' : State.follow opts ⟨⟨bracket, offset, name, before⟩ :: outer,
                (items.reverse ++ [p]).reverse, .complete⟩ t.kind start = .ok s' := by
              simpa using step
            obtain ⟨q, rfl, spelled⟩ | ⟨next, rfl, opening'⟩ := opening.close room inside step' comma
            · simpa using Reached.complete outside earlier spelled
            · simpa using Reached.wantType (.cons outside room earlier opening') .nil

/-- A name run with one more token of a name. -/
theorem SpellsName.snoc {us : List Token} {start : Nat} {read : List Char} {t : Token}
    (named : SpellsName us start (String.ofList read.reverse)) (isName : t.kind.isName = true) :
    SpellsName (us ++ [t]) start
      (String.ofList (t.text.reverse ++ (t.gap.reverse ++ read)).reverse) := by
  generalize spelled : String.ofList read.reverse = name at named
  obtain ⟨u, us, names⟩ := named
  have extended := SpellsName.run u (us ++ [t]) (by
    intro v member
    rcases List.mem_append.1 (show v ∈ (u :: us) ++ [t] from member) with old | new
    · exact names v old
    · rw [List.mem_singleton.1 new]; exact isName)
  rw [String.ofList_inj] at spelled
  simpa [spelling, spelled, source_singleton] using extended

theorem Reached.enter {ts us : List Token} {s s' : State} {offset : Nat} {name : String}
    {bracket : Bracket} (opened : Opened opts ts s.levels)
    (listed : Listed opts s.levels.length us s.items) {vs : List Token}
    (opening : Opening opts s.levels.length vs bracket offset name)
    (step : s.enter offset name bracket = .ok s') : Reached opts (ts ++ us ++ vs) s' := by
  unfold State.enter at step
  split at step
  · rename_i room
    cases step
    simpa using Reached.wantType (.cons opened room listed opening) .nil
  · cases step

/-- **One step keeps the account of the tokens.** -/
theorem Reached.step {ts : List Token} {s s' : State} {t : Token} (reached : Reached opts ts s)
    (step : s.step opts t = .ok s') : Reached opts (ts ++ [t]) s' := by
  cases reached with
  | @wantType ts us levels items opened listed =>
      simp only [State.step] at step
      split at step
      · exact Reached.enter (s := ⟨levels, items, .wantType⟩) opened listed (.bareParen ‹_›) step
      · exact Reached.enter (s := ⟨levels, items, .wantType⟩) opened listed (.bareAngle ‹_›) step
      · split at step
        · rename_i isName
          cases step
          have named := SpellsName.run t [] (by simpa using isName)
          refine .naming opened listed ?_
          simpa [spelling] using named
        · cases step
  | @naming ts us vs levels items start read opened listed named =>
      have settled := (Reached.naming opened listed named).settle
      simp only [State.step] at step
      split at step
      · simpa using Reached.enter (s := ⟨levels, items, .naming start read⟩) opened listed (.angle named ‹_›) step
      · simpa using Reached.enter (s := ⟨levels, items, .naming start read⟩) opened listed (.paren named ‹_›) step
      · simpa using Reached.enter (s := ⟨levels, items, .naming start read⟩) opened listed (.brace named ‹_›) step
      · split at step
        · rename_i isName
          cases step
          simpa using Reached.naming opened listed (named.snoc isName)
        · exact settled.follow rfl step
  | @complete ts us vs levels items p opened listed last =>
      exact (Reached.complete opened listed last).follow rfl step

theorem Reached.run {ts us : List Token} {s s' : State} (reached : Reached opts ts s)
    (reads : State.run opts s us = .ok s') : Reached opts (ts ++ us) s' := by
  induction us generalizing ts s with
  | nil =>
      cases reads
      simpa using reached
  | cons u us ih =>
      rw [run_cons] at reads
      cases step : s.step opts u with
      | error fault => simp [step, Except.bind] at reads
      | ok next =>
          rw [step] at reads
          simpa using ih (reached.step step) reads

theorem reached_of_run {ts : List Token} {s : State} (reads : State.run opts .initial ts = .ok s) :
    Reached opts ts s := by
  have start : Reached opts [] .initial := .wantType .nil .nil
  simpa using start.run reads

/-- A text may end where all brackets are closed and a type has ended. -/
theorem finish_eq_ok_iff {s : State} {stop : Nat} {ps : List Phrase} :
    s.finish stop = .ok ps ↔ s.settle = ⟨[], ps.reverse, .complete⟩ := by
  obtain ⟨levels, items, mode⟩ := s
  cases mode <;> cases levels <;>
    simp [State.finish, State.settle, List.reverse_eq_iff]
  simp [← List.reverse_eq_iff]

theorem Reached.spells {ts : List Token} {ps : List Phrase}
    (reached : Reached opts ts ⟨[], ps.reverse, .complete⟩) : Spells opts .list 0 ts ps := by
  generalize items : ps.reverse = items at reached
  cases reached with
  | complete opened listed last =>
      cases opened
      have spelled := listed.append (.one last)
      rw [List.reverse_eq_iff] at items
      simpa [items] using spelled

/-- **The reader decides the grammar**: it reads a list of tokens as `ps` exactly when they spell `ps`. -/
theorem readTokens_eq_ok_iff (stop : Nat) {ts : List Token} {ps : List Phrase} :
    readTokens opts stop ts = .ok ps ↔ Spells opts .list 0 ts ps := by
  have unfolded : readTokens opts stop ts = (State.run opts .initial ts).bind (·.finish stop) := rfl
  rw [unfolded]
  constructor
  · intro reads
    cases result : State.run opts .initial ts with
    | error fault => simp [result, Except.bind] at reads
    | ok s =>
        rw [result] at reads
        have settled := (reached_of_run result).settle
        rw [finish_eq_ok_iff.1 reads] at settled
        exact settled.spells
  · intro spelled
    obtain ⟨s, reads, settled⟩ := spelled.run [] [] rfl
    rw [State.initial, reads]
    exact finish_eq_ok_iff.2 (by simpa [State.adds] using settled)

/-! ## Brackets cancel out -/

/-- Weights of kinds under which a bracket and the one that closes it cancel out, and no other kind
has any. -/
structure Cancels (w : TokenKind → Int) : Prop where
  name : ∀ kind : TokenKind, kind.isName = true → w kind = 0
  comma : w .comma = 0
  arrow : w .arrow = 0
  angle : w .openAngle + w .closeAngle = 0
  paren : w .openParen + w .closeParen = 0
  brace : w .openBrace + w .closeBrace = 0

/-- The weight of all tokens together. -/
def weigh (w : TokenKind → Int) : List Token → Int
  | [] => 0
  | t :: ts => w t.kind + weigh w ts

@[simp] theorem weigh_nil (w : TokenKind → Int) : weigh w [] = 0 := rfl

@[simp] theorem weigh_cons (w : TokenKind → Int) (t : Token) (ts : List Token) :
    weigh w (t :: ts) = w t.kind + weigh w ts := rfl

@[simp] theorem weigh_append (w : TokenKind → Int) (ts us : List Token) :
    weigh w (ts ++ us) = weigh w ts + weigh w us := by
  induction ts with
  | nil => simp
  | cons t ts ih =>
      simp only [List.cons_append, weigh_cons, ih]
      omega

theorem SpellsName.weigh {w : TokenKind → Int} (cancels : Cancels w) {us : List Token} {start : Nat}
    {name : String} (named : SpellsName us start name) : weigh w us = 0 := by
  obtain ⟨t, ts, names⟩ := named
  generalize t :: ts = us at names
  induction us with
  | nil => rfl
  | cons u us ih =>
      rw [weigh_cons, cancels.name u.kind (names u (by simp)),
        ih fun v member => names v (by simp [member])]
      rfl

/-- Spelled tokens weigh nothing. -/
theorem Spells.weigh {w : TokenKind → Int} (cancels : Cancels w) {part : Part} {n : Nat}
    {ts : List Token} {ps : List Phrase} (spelled : Spells opts part n ts ps) : weigh w ts = 0 := by
  have angle := cancels.angle
  have paren := cancels.paren
  have brace := cancels.brace
  induction spelled with
  | one head ih => exact ih
  | more head comma rest ihHead ihRest => simp [ihHead, ihRest, comma, cancels.comma]
  | name named => exact named.weigh cancels
  | bareAngle room opens inner closes ih => simp [ih, opens, closes, angle]
  | bareParen room opens inner closes ih => simp [ih, opens, closes, paren]
  | angle named room opens inner closes ih => simp [ih, named.weigh cancels, opens, closes, angle]
  | paren named room opens inner closes ih => simp [ih, named.weigh cancels, opens, closes, paren]
  | arrow named room brackets keys turns values ihKeys ihValues =>
      rcases brackets with ⟨opens, closes⟩ | ⟨opens, closes⟩
      · simp [ihKeys, ihValues, named.weigh cancels, opens, turns, closes, cancels.arrow, angle]
      · simp [ihKeys, ihValues, named.weigh cancels, opens, turns, closes, cancels.arrow, brace]

/-! ## Texts -/

theorem SpellsName.ne_nil {us : List Token} {start : Nat} {name : String}
    (named : SpellsName us start name) : us ≠ [] := by
  cases named
  simp

theorem Spells.ne_nil {part : Part} {n : Nat} {ts : List Token} {ps : List Phrase}
    (spelled : Spells opts part n ts ps) : ts ≠ [] := by
  induction spelled with
  | one head ih => exact ih
  | name named => exact named.ne_nil
  | _ => simp

/-- A text has the phrases that its tokens spell, and a text without tokens has none. -/
theorem phrases_eq_ok_iff {text : String} {ps : List Phrase} :
    phrases opts text = .ok ps ↔
      (tokens text = [] ∧ ps = []) ∨ Spells opts .list 0 (tokens text) ps := by
  unfold phrases
  split
  · rename_i none_
    have unspelled : ¬ Spells opts .list 0 [] ps := fun spelled => spelled.ne_nil rfl
    simp only [none_, unspelled, or_false, true_and, Except.ok.injEq]
    exact eq_comm
  · rename_i some_
    rw [← readTokens_eq_ok_iff (byteLength text.toList)]
    have nonempty : tokens text ≠ [] := some_
    simp only [nonempty, false_and, false_or]
    cases readTokens opts (byteLength text.toList) (tokens text) with
    | error fault =>
        constructor
        · intro impossible
          cases impossible
        · intro impossible
          cases impossible
    | ok ps' =>
        constructor
        · intro read
          exact congrArg _ (Except.ok.inj read)
        · intro read
          exact congrArg _ (Except.ok.inj read)

end Crosslink.TypeSpec
