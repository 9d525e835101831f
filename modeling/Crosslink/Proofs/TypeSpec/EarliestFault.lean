/-
# Crosslink.Proofs.TypeSpec.EarliestFault — faults are at the earliest token

A list of kinds is viable when the kinds of some well-formed text begin with it.
Which kinds a text has decides whether it is well-formed (`Spells.alike`), so
viability is a matter of tokens of any text and at any place (`viable_iff`).

* What has been read can be finished: every open bracket can be closed, and a
  missing type supplied by a word (`Reached.exists_spells`). So the kinds of the
  tokens taken without a fault are viable (`viable_of_run`).
* A token that is refused is refused behind any tokens of the same kinds, so its
  kind makes the list hopeless (`not_viable_of_step`).

A fault is reported where the refused token starts, or at the end of the text.
Only a bracket too many is reported where its type starts (`step_eq_error`).

Main theorem: `outline_fault_earliest`.
-/
import Crosslink.Proofs.TypeSpec.Derivation
import Crosslink.Proofs.TypeSpec.Tiling

namespace Crosslink.TypeSpec

open Crosslink.Text

set_option autoImplicit false

variable {opts : Options}

/-! ## Kinds decide what is spelled -/

/-- The kinds of tokens. -/
def kinds (ts : List Token) : List TokenKind := ts.map fun t => t.kind

@[simp] theorem kinds_nil : kinds [] = [] := rfl

@[simp] theorem kinds_cons (t : Token) (ts : List Token) : kinds (t :: ts) = t.kind :: kinds ts := rfl

@[simp] theorem kinds_append (ts us : List Token) : kinds (ts ++ us) = kinds ts ++ kinds us :=
  List.map_append

@[simp] theorem kinds_eq_nil_iff {ts : List Token} : kinds ts = [] ↔ ts = [] := List.map_eq_nil_iff

@[simp] theorem kinds_eq_cons_iff {ts : List Token} {k : TokenKind} {ks : List TokenKind} :
    kinds ts = k :: ks ↔ ∃ t us, ts = t :: us ∧ t.kind = k ∧ kinds us = ks := List.map_eq_cons_iff

@[simp] theorem kinds_eq_append_iff {ts : List Token} {ks ls : List TokenKind} :
    kinds ts = ks ++ ls ↔ ∃ us vs, ts = us ++ vs ∧ kinds us = ks ∧ kinds vs = ls :=
  List.map_eq_append_iff

theorem take_kinds (ts us : List Token) : (kinds (ts ++ us)).take ts.length = kinds ts := by
  rw [kinds_append]
  exact List.take_left' (by simp [kinds])

/-- Tokens of the kinds of a bracket are a bracket. -/
theorem kinds_eq_bracket {vs ts : List Token} {o c : Token} (same : kinds vs = kinds (o :: ts ++ [c])) :
    ∃ o' ts' c', vs = o' :: ts' ++ [c'] ∧ o'.kind = o.kind ∧ kinds ts' = kinds ts ∧
      c'.kind = c.kind := by
  simp only [List.cons_append, kinds_cons, kinds_append, kinds_nil, kinds_eq_cons_iff,
    kinds_eq_append_iff, kinds_eq_nil_iff] at same
  obtain ⟨o', _, rfl, first, ts', _, rfl, middle, c', _, rfl, last, rfl⟩ := same
  exact ⟨o', ts', c', rfl, first, middle, last⟩

theorem SpellsName.alike {us vs : List Token} {start : Nat} {name : String}
    (named : SpellsName us start name) (same : kinds vs = kinds us) :
    ∃ start' name', SpellsName vs start' name' := by
  obtain ⟨t, ts, names⟩ := named
  obtain ⟨v, rest, rfl, -, -⟩ := kinds_eq_cons_iff.1 same
  refine ⟨_, _, .run v rest ?_⟩
  intro u member
  have inKinds : u.kind ∈ kinds (t :: ts) := same ▸ List.mem_map_of_mem member
  obtain ⟨w, inNames, kind⟩ := List.mem_map.1 inKinds
  rw [← kind]
  exact names w inNames

/-- Tokens of the kinds of a name and a bracket are a name and a bracket. -/
theorem SpellsName.alike_bracket {us ts vs : List Token} {o c : Token} {start : Nat} {name : String}
    (named : SpellsName us start name) (same : kinds vs = kinds (us ++ o :: ts ++ [c])) :
    ∃ us' start' name' o' ts' c', vs = us' ++ o' :: ts' ++ [c'] ∧ SpellsName us' start' name' ∧
      o'.kind = o.kind ∧ kinds ts' = kinds ts ∧ c'.kind = c.kind := by
  rw [List.append_assoc, kinds_append, kinds_eq_append_iff] at same
  obtain ⟨us', _, rfl, front, inBracket⟩ := same
  obtain ⟨o', ts', c', rfl, first, middle, last⟩ := kinds_eq_bracket inBracket
  obtain ⟨start', name', named'⟩ := named.alike front
  exact ⟨us', start', name', o', ts', c', by simp, named', first, middle, last⟩

/-- **Tokens of the same kinds are spelled alike.** -/
theorem Spells.alike {part : Part} {n : Nat} {ts : List Token} {ps : List Phrase}
    (spelled : Spells opts part n ts ps) {vs : List Token} (same : kinds vs = kinds ts) :
    ∃ qs, Spells opts part n vs qs := by
  induction spelled generalizing vs with
  | one head ih =>
      obtain ⟨qs, spelled⟩ := ih same
      exact ⟨qs, .one spelled⟩
  | more head comma rest ihHead ihRest =>
      simp only [kinds_append, kinds_cons, kinds_eq_append_iff, kinds_eq_cons_iff] at same
      obtain ⟨us, _, rfl, front, c, ws, rfl, kind, back⟩ := same
      obtain ⟨qs, headSpelled⟩ := ihHead front
      obtain ⟨rs, restSpelled⟩ := ihRest back
      exact ⟨_, .more headSpelled (kind.trans comma) restSpelled⟩
  | name named =>
      obtain ⟨start, name, named'⟩ := named.alike same
      exact ⟨_, .name named'⟩
  | bareAngle room opens inner closes ih =>
      obtain ⟨o, ws, c, rfl, first, middle, last⟩ := kinds_eq_bracket same
      obtain ⟨qs, spelled⟩ := ih middle
      exact ⟨_, .bareAngle room (first.trans opens) spelled (last.trans closes)⟩
  | bareParen room opens inner closes ih =>
      obtain ⟨o, ws, c, rfl, first, middle, last⟩ := kinds_eq_bracket same
      obtain ⟨qs, spelled⟩ := ih middle
      exact ⟨_, .bareParen room (first.trans opens) spelled (last.trans closes)⟩
  | angle named room opens inner closes ih =>
      obtain ⟨us, start, name, o, ws, c, rfl, named', first, middle, last⟩ := named.alike_bracket same
      obtain ⟨qs, spelled⟩ := ih middle
      exact ⟨_, .angle named' room (first.trans opens) spelled (last.trans closes)⟩
  | paren named room opens inner closes ih =>
      obtain ⟨us, start, name, o, ws, c, rfl, named', first, middle, last⟩ := named.alike_bracket same
      obtain ⟨qs, spelled⟩ := ih middle
      exact ⟨_, .paren named' room (first.trans opens) spelled (last.trans closes)⟩
  | @arrow n start name o a c us ts ws ps qs named room brackets keys turns values ihKeys ihValues =>
      have grouped : us ++ o :: ts ++ a :: ws ++ [c] = us ++ o :: (ts ++ a :: ws) ++ [c] := by simp
      rw [grouped] at same
      obtain ⟨us', start', name', o', _, c', rfl, named', first, middle, last⟩ :=
        named.alike_bracket same
      simp only [kinds_append, kinds_cons, kinds_eq_append_iff, kinds_eq_cons_iff] at middle
      obtain ⟨ts', _, rfl, inKeys, a', ws', rfl, turn, inValues⟩ := middle
      obtain ⟨ps', keysSpelled⟩ := ihKeys inKeys
      obtain ⟨qs', valuesSpelled⟩ := ihValues inValues
      rw [← first, ← last] at brackets
      have whole := Spells.arrow named' room brackets keysSpelled (turn.trans turns) valuesSpelled
      exact ⟨_, by simpa using whole⟩

/-! ## Viable kinds -/

/-- The kinds of some well-formed text begin with these. -/
def Viable (opts : Options) (ks : List TokenKind) : Prop :=
  ∃ text, ks <+: kinds (tokens text) ∧ ∃ tree, outline opts text = .ok tree

/-- A token of this kind. -/
def tokenOf (kind : TokenKind) : Token := ⟨spaced kind, 0⟩

theorem spells_word (opts : Options) (n : Nat) :
    ∃ p, Spells opts .type n [tokenOf .word] [p] := by
  have named := SpellsName.run (tokenOf .word) [] (by simp [tokenOf, spaced, TokenKind.isName])
  exact ⟨_, .name named⟩

/-- Spelled tokens are tokens of a well-formed text, up to their texts and places. -/
theorem Spells.exists_text {ts : List Token} {ps : List Phrase} (spelled : Spells opts .list 0 ts ps) :
    ∃ text, kinds (tokens text) = kinds ts ∧ ∃ tree, outline opts text = .ok tree := by
  obtain ⟨text, same⟩ := exists_text_of_kinds (kinds ts)
  obtain ⟨qs, spelled'⟩ := spelled.alike same
  exact ⟨text, same, _, outline_eq_ok_iff.2 ⟨qs, phrases_eq_ok_iff.2 (.inr spelled'), rfl⟩⟩

/-- Kinds are viable exactly when tokens of kinds that begin with them can be spelled. -/
theorem viable_iff {ks : List TokenKind} :
    Viable opts ks ↔ ∃ ts ps, ks <+: kinds ts ∧ Spells opts .list 0 ts ps := by
  constructor
  · rintro ⟨text, begins, tree, read⟩
    obtain ⟨ps, phrasesRead, -⟩ := outline_eq_ok_iff.1 read
    rcases phrases_eq_ok_iff.1 phrasesRead with ⟨none_, -⟩ | spelled
    · rw [none_, kinds_nil, List.prefix_nil] at begins
      obtain ⟨p, word⟩ := spells_word opts 0
      exact ⟨_, _, begins ▸ List.nil_prefix, .one word⟩
    · exact ⟨_, _, begins, spelled⟩
  · rintro ⟨ts, ps, begins, spelled⟩
    obtain ⟨text, same, read⟩ := spelled.exists_text
    exact ⟨text, same ▸ begins, read⟩

/-! ## What has been read can be finished -/

/-- An open bracket and the list inside it can be closed. -/
theorem Opening.exists_close {n : Nat} {vs ws : List Token} {bracket : Bracket} {offset : Nat}
    {name : String} {ps : List Phrase} (opening : Opening opts n vs bracket offset name)
    (room : n < maxDepth) (inner : Spells opts .list (n + 1) ws ps) :
    ∃ xs p, Spells opts .type n (vs ++ ws ++ xs) [p] := by
  cases opening with
  | bareAngle opens =>
      exact ⟨[tokenOf .closeAngle], _, .bareAngle room opens inner rfl⟩
  | bareParen opens =>
      exact ⟨[tokenOf .closeParen], _, .bareParen room opens inner rfl⟩
  | angle named opens =>
      have closed := Spells.angle (c := tokenOf .closeAngle) named room opens inner rfl
      exact ⟨[tokenOf .closeAngle], _, by simpa using closed⟩
  | paren named opens =>
      have closed := Spells.paren (c := tokenOf .closeParen) named room opens inner rfl
      exact ⟨[tokenOf .closeParen], _, by simpa using closed⟩
  | @brace us o start name named opens =>
      obtain ⟨p, word⟩ := spells_word opts (n + 1)
      have closed := Spells.arrow (a := tokenOf .arrow) (c := tokenOf .closeBrace) named room
        (.inr ⟨opens, rfl⟩) inner rfl (.one word)
      exact ⟨[tokenOf .arrow, tokenOf .word, tokenOf .closeBrace], _, by simpa using closed⟩
  | @values us ts o a start name keys closer named brackets keysSpelled turns =>
      have closed := Spells.arrow (c := tokenOf closer) named room brackets keysSpelled turns inner
      exact ⟨[tokenOf closer], _, by simpa using closed⟩

/-- All open brackets can be closed, from the innermost one outwards. -/
theorem Opened.exists_spells {ts : List Token} {levels : List Level} (opened : Opened opts ts levels)
    {us : List Token} {ps : List Phrase} (inner : Spells opts .list levels.length us ps) :
    ∃ ws qs, Spells opts .list 0 (ts ++ us ++ ws) qs := by
  induction opened generalizing us ps with
  | nil => exact ⟨[], ps, by simpa using inner⟩
  | cons outside room earlier opening ih =>
      obtain ⟨xs, p, closed⟩ := opening.exists_close room inner
      obtain ⟨ws, qs, whole⟩ := ih (earlier.append (.one closed))
      exact ⟨xs ++ ws, qs, by simpa using whole⟩

theorem Reached.exists_spells {ts : List Token} {s : State} (reached : Reached opts ts s) :
    ∃ ws qs, Spells opts .list 0 (ts ++ ws) qs := by
  cases reached with
  | @wantType ts us levels items opened listed =>
      obtain ⟨p, word⟩ := spells_word opts levels.length
      obtain ⟨ws, qs, whole⟩ := opened.exists_spells (listed.append (.one word))
      exact ⟨tokenOf .word :: ws, qs, by simpa using whole⟩
  | naming opened listed named =>
      obtain ⟨ws, qs, whole⟩ := opened.exists_spells (listed.append (.one (.name named)))
      exact ⟨ws, qs, by simpa using whole⟩
  | complete opened listed last =>
      obtain ⟨ws, qs, whole⟩ := opened.exists_spells (listed.append (.one last))
      exact ⟨ws, qs, by simpa using whole⟩

/-- **Tokens that are taken without a fault have viable kinds.** -/
theorem viable_of_run {ts : List Token} {s : State} (reads : State.run opts .initial ts = .ok s) :
    Viable opts (kinds ts) := by
  obtain ⟨ws, qs, spelled⟩ := (reached_of_run reads).exists_spells
  exact viable_iff.2 ⟨_, _, by simp, spelled⟩

/-! ## A refused token is refused behind any tokens of these kinds -/

/-- **The kind of a refused token makes the list hopeless.** -/
theorem not_viable_of_step {ts : List Token} {s : State} {t : Token} {fault : Fault}
    (reads : State.run opts .initial ts = .ok s) (refused : s.step opts t = .error fault) :
    ¬ Viable opts (kinds (ts ++ [t])) := by
  intro viable
  obtain ⟨us, ps, ⟨behind, begins⟩, spelled⟩ := viable_iff.1 viable
  obtain ⟨front, back, rfl, sameFront, -⟩ := kinds_eq_append_iff.1 begins.symm
  -- The tokens that were read, with what stands behind their likes, would be spelled too.
  have same : kinds (ts ++ [t] ++ back) = kinds (front ++ back) := by
    rw [kinds_append, kinds_append front, sameFront]
  obtain ⟨qs, spelled'⟩ := spelled.alike same
  obtain ⟨s', finished, -⟩ := spelled'.run [] [] rfl
  change State.run opts .initial (ts ++ [t] ++ back) = .ok s' at finished
  rw [List.append_assoc, run_append, reads] at finished
  simp only [Except.bind, List.cons_append, run_cons, refused] at finished
  cases finished

/-- A run that fails stops at a token that is refused. -/
theorem run_eq_error {s : State} {ts : List Token} {fault : Fault}
    (fails : State.run opts s ts = .error fault) :
    ∃ before t after s', ts = before ++ t :: after ∧ State.run opts s before = .ok s' ∧
      s'.step opts t = .error fault := by
  induction ts generalizing s with
  | nil => cases fails
  | cons t ts ih =>
      rw [run_cons] at fails
      cases step : s.step opts t with
      | error first =>
          rw [step] at fails
          cases fails
          exact ⟨[], t, ts, s, rfl, rfl, step⟩
      | ok next =>
          rw [step] at fails
          obtain ⟨before, u, after, s', rfl, reads, refused⟩ := ih fails
          exact ⟨t :: before, u, after, s', rfl, by rw [run_cons, step]; exact reads, refused⟩

/-- A reading that fails stops at a token that is refused, or at the end. -/
theorem readTokens_eq_error {stop : Nat} {ts : List Token} {fault : Fault}
    (fails : readTokens opts stop ts = .error fault) :
    (∃ before t after s, ts = before ++ t :: after ∧ State.run opts .initial before = .ok s ∧
      s.step opts t = .error fault) ∨
    (∃ s, State.run opts .initial ts = .ok s ∧ s.finish stop = .error fault) := by
  have unfolded : readTokens opts stop ts = (State.run opts .initial ts).bind (·.finish stop) := rfl
  rw [unfolded] at fails
  cases result : State.run opts .initial ts with
  | ok s =>
      rw [result] at fails
      exact .inr ⟨s, rfl, fails⟩
  | error first =>
      rw [result] at fails
      cases fails
      exact .inl (run_eq_error result)

/-! ## Where a fault is reported -/

theorem message_eq_tooDeep_iff {cause : Cause} :
    cause.message = "type specifier nested too deeply" ↔ cause = .tooDeep := by
  constructor
  · intro same
    -- Every other message has another letter among its first five.
    have letters := congrArg String.toList same
    unfold Cause.message at letters
    cases cause with
    | tooDeep => rfl
    | noType found => simp at letters
    | unexpected wanted found => simp at letters
    | afterType found => simp at letters
    | noKind label => simp at letters
    | missingChild label index => cases label <;> simp [OutlineLabel.text] at letters
  · rintro rfl
    rfl

/-- The byte at which the text of lexeme `j` starts, or the length of a text that has no such
lexeme. -/
def startAt (text : String) (j : Nat) : Nat :=
  match (lexemes text.toList).drop j with
  | [] => byteLength text.toList
  | l :: _ => byteLength (source ((lexemes text.toList).take j) ++ l.gap)

theorem startOf_locate {position : Nat} {ls : List Lexeme} {front back : List Token} {t : Token}
    (split : locate position ls = front ++ t :: back) :
    t.start = position + byteLength (source (front.map Token.toLexeme) ++ t.gap) := by
  induction front generalizing position ls with
  | nil =>
      cases ls with
      | nil => cases split
      | cons l ls =>
          obtain ⟨rfl, -⟩ := List.cons.inj split
          rfl
  | cons u front ih =>
      cases ls with
      | nil => cases split
      | cons l ls =>
          obtain ⟨rfl, rest⟩ := List.cons.inj split
          rw [ih rest]
          simp [source]
          omega

theorem lexemes_of_tokens {text : String} {front back : List Token}
    (split : tokens text = front ++ back) :
    lexemes text.toList = front.map Token.toLexeme ++ back.map Token.toLexeme := by
  rw [← List.map_append, ← split, tokens, locate_map]

theorem startOf_eq_startAt {text : String} {front back : List Token} (nonempty : back ≠ [])
    (split : tokens text = front ++ back) : startOf back = startAt text front.length := by
  cases back with
  | nil => exact absurd rfl nonempty
  | cons t back =>
      have start := startOf_locate split
      simp only [startAt, lexemes_of_tokens split, startOf]
      simpa using start

theorem startAt_length (text : String) : startAt text (tokens text).length = byteLength text.toList := by
  have all := lexemes_of_tokens (List.append_nil (tokens text)).symm
  rw [startAt, all, List.drop_eq_nil_of_le (by simp)]

theorem follow_eq_error {s : State} {kind : TokenKind} {start : Nat} {fault : Fault}
    (refused : s.follow opts kind start = .error fault) :
    fault.cause ≠ .tooDeep ∧ fault.offset = start := by
  unfold State.follow at refused
  split at refused
  · cases refused
  · split at refused
    · cases refused
      exact ⟨by simp, rfl⟩
    · simp only at refused
      split at refused
      · cases refused
      · cases refused
      · cases refused
      · cases refused
      · cases refused
      · split at refused
        · cases refused
        · cases refused
          exact ⟨by simp, rfl⟩
      · cases refused
        exact ⟨by simp, rfl⟩

theorem finish_eq_error {s : State} {stop : Nat} {fault : Fault}
    (unfinished : s.finish stop = .error fault) : fault.cause ≠ .tooDeep ∧ fault.offset = stop := by
  unfold State.finish at unfinished
  split at unfinished
  · cases unfinished
    exact ⟨by simp, rfl⟩
  · split at unfinished
    · cases unfinished
    · cases unfinished
      exact ⟨by simp, rfl⟩

/-- What a token adds to the number of open brackets. -/
def TokenKind.nesting : TokenKind → Int
  | .openAngle | .openParen | .openBrace => 1
  | .closeAngle | .closeParen | .closeBrace => -1
  | _ => 0

theorem enter_eq_error {s : State} {offset : Nat} {name : String} {bracket : Bracket} {fault : Fault}
    (refused : s.enter offset name bracket = .error fault) :
    fault.cause = .tooDeep ∧ maxDepth ≤ s.levels.length ∧ fault.offset = offset := by
  unfold State.enter at refused
  split at refused
  · cases refused
  · cases refused
    exact ⟨rfl, by omega, rfl⟩

/-- A refused token is at fault where it starts. A bracket too many is at fault where its type
starts, with its name or with itself. -/
theorem step_eq_error {s : State} {t : Token} {fault : Fault}
    (refused : s.step opts t = .error fault) :
    (fault.cause ≠ .tooDeep ∧ fault.offset = t.start) ∨
      (fault.cause = .tooDeep ∧ maxDepth ≤ s.levels.length ∧ t.kind.nesting = 1 ∧
        ((s.mode = .wantType ∧ fault.offset = t.start) ∨
          ∃ read, s.mode = .naming fault.offset read)) := by
  unfold State.step at refused
  split at refused
  · rename_i mode
    split at refused
    · obtain ⟨deep, full, offset⟩ := enter_eq_error refused
      exact .inr ⟨deep, full, by simp [*, TokenKind.nesting], .inl ⟨mode, offset⟩⟩
    · obtain ⟨deep, full, offset⟩ := enter_eq_error refused
      exact .inr ⟨deep, full, by simp [*, TokenKind.nesting], .inl ⟨mode, offset⟩⟩
    · split at refused
      · cases refused
      · cases refused
        exact .inl ⟨by simp, rfl⟩
  · rename_i start read mode
    simp only at refused
    split at refused
    · obtain ⟨deep, full, offset⟩ := enter_eq_error refused
      exact .inr ⟨deep, full, by simp [*, TokenKind.nesting], .inr ⟨read, offset ▸ mode⟩⟩
    · obtain ⟨deep, full, offset⟩ := enter_eq_error refused
      exact .inr ⟨deep, full, by simp [*, TokenKind.nesting], .inr ⟨read, offset ▸ mode⟩⟩
    · obtain ⟨deep, full, offset⟩ := enter_eq_error refused
      exact .inr ⟨deep, full, by simp [*, TokenKind.nesting], .inr ⟨read, offset ▸ mode⟩⟩
    · split at refused
      · cases refused
      · exact .inl (follow_eq_error refused)
  · exact .inl (follow_eq_error refused)

/-! ## The brackets that are open -/

theorem nesting_cancels : Cancels TokenKind.nesting := by
  refine ⟨?_, rfl, rfl, rfl, rfl, rfl⟩
  intro kind isName
  cases kind <;> first | rfl | cases isName

/-- The number of brackets that are open after some tokens. -/
def openBrackets (ts : List Token) : Int := weigh TokenKind.nesting ts

@[simp] theorem openBrackets_append (ts us : List Token) :
    openBrackets (ts ++ us) = openBrackets ts + openBrackets us := weigh_append _ ts us

theorem Listed.openBrackets {n : Nat} {ts : List Token} {ps : List Phrase}
    (listed : Listed opts n ts ps) : openBrackets ts = 0 := by
  induction listed with
  | nil => rfl
  | snoc before last comma ih =>
      have closed : TypeSpec.openBrackets _ = 0 := last.weigh nesting_cancels
      rw [openBrackets_append, openBrackets_append, ih, closed]
      simp [TypeSpec.openBrackets, comma, TokenKind.nesting]

theorem Opening.openBrackets {n : Nat} {vs : List Token} {bracket : Bracket} {offset : Nat}
    {name : String} (opening : Opening opts n vs bracket offset name) : openBrackets vs = 1 := by
  unfold TypeSpec.openBrackets
  cases opening with
  | bareAngle opens => simp [opens, TokenKind.nesting]
  | bareParen opens => simp [opens, TokenKind.nesting]
  | angle named opens => simp [named.weigh nesting_cancels, opens, TokenKind.nesting]
  | paren named opens => simp [named.weigh nesting_cancels, opens, TokenKind.nesting]
  | brace named opens => simp [named.weigh nesting_cancels, opens, TokenKind.nesting]
  | values named brackets keys turns =>
      simp only [weigh_append, weigh_cons, weigh_nil, named.weigh nesting_cancels,
        keys.weigh nesting_cancels, turns]
      rcases brackets with ⟨opens, -⟩ | ⟨opens, -⟩
      · simp [opens, TokenKind.nesting]
      · simp [opens, TokenKind.nesting]

/-- Each level is an open bracket. -/
theorem Opened.openBrackets {ts : List Token} {levels : List Level} (opened : Opened opts ts levels) :
    openBrackets ts = levels.length := by
  induction opened with
  | nil => rfl
  | cons outside room earlier opening ih =>
      rw [openBrackets_append, openBrackets_append, ih, earlier.openBrackets, opening.openBrackets]
      simp

theorem Opened.length_le {ts : List Token} {levels : List Level} (opened : Opened opts ts levels) :
    levels.length ≤ maxDepth := by
  cases opened with
  | nil => exact Nat.zero_le _
  | cons outside room earlier opening => exact room

/-- No name can go on behind these tokens. -/
def EndsNoName (ts : List Token) : Prop := ∀ u, ts.getLast? = some u → u.kind.isName = false

theorem endsNoName_concat (ts : List Token) {t : Token} (mark : t.kind.isName = false) :
    EndsNoName (ts ++ [t]) := by
  intro u last
  obtain rfl : t = u := by simpa using last
  exact mark

theorem Opened.endsNoName {ts : List Token} {levels : List Level} (opened : Opened opts ts levels) :
    EndsNoName ts := by
  cases opened with
  | nil => simp [EndsNoName]
  | cons outside room earlier opening =>
      cases opening with
      | bareAngle opens => exact endsNoName_concat _ (by simp [opens, TokenKind.isName])
      | bareParen opens => exact endsNoName_concat _ (by simp [opens, TokenKind.isName])
      | values named brackets keys turns =>
          rw [← List.append_assoc]
          exact endsNoName_concat _ (by simp [turns, TokenKind.isName])
      | _ named opens =>
          rw [← List.append_assoc]
          exact endsNoName_concat _ (by simp [opens, TokenKind.isName])

theorem Listed.endsNoName {n : Nat} {ts us : List Token} {ps : List Phrase}
    (listed : Listed opts n us ps) (before : EndsNoName ts) : EndsNoName (ts ++ us) := by
  cases listed with
  | nil => simpa using before
  | snoc earlier last comma =>
      rw [← List.append_assoc]
      exact endsNoName_concat _ (by simp [comma, TokenKind.isName])

/-- The token `t` opens the 65th bracket behind `front ++ name`, where `name` is all of the name in
front of it, if it has one. -/
structure OneTooMany (front name : List Token) (t : Token) : Prop where
  opens : t.kind.nesting = 1
  count : openBrackets (front ++ name ++ [t]) = 65
  named : ∀ u ∈ name, u.kind.isName = true
  whole : EndsNoName front

theorem oneTooMany_of_full {ts us name : List Token} {t : Token} {levels : List Level}
    {items : List Phrase} (opened : Opened opts ts levels) (listed : Listed opts levels.length us items)
    (full : maxDepth ≤ levels.length) (opens : t.kind.nesting = 1)
    (named : ∀ u ∈ name, u.kind.isName = true) (unopened : openBrackets name = 0) :
    OneTooMany (ts ++ us) name t := by
  refine ⟨opens, ?_, named, listed.endsNoName opened.endsNoName⟩
  have depth : levels.length = 64 := Nat.le_antisymm opened.length_le full
  have last : openBrackets [t] = 1 := by simp [openBrackets, opens]
  rw [openBrackets_append, openBrackets_append, openBrackets_append, opened.openBrackets,
    listed.openBrackets, unopened, last, depth]
  rfl

/-- A token that is refused for its depth is one bracket too many, and is reported where its type
starts. -/
theorem Reached.oneTooMany {ts : List Token} {s : State} {t : Token} {fault : Fault}
    (reached : Reached opts ts s) (refused : s.step opts t = .error fault)
    (deep : fault.cause = .tooDeep) :
    ∃ front name, ts = front ++ name ∧ OneTooMany front name t ∧
      fault.offset = startOf (name ++ [t]) := by
  rcases step_eq_error refused with ⟨shallow, -⟩ | ⟨-, full, opens, place⟩
  · exact absurd deep shallow
  · cases reached with
    | wantType opened listed =>
        rcases place with ⟨-, offset⟩ | ⟨read, mode⟩
        · exact ⟨_, [], by simp, oneTooMany_of_full opened listed full opens (by simp) rfl, offset⟩
        · cases mode
    | naming opened listed named =>
        rcases place with ⟨mode, -⟩ | ⟨read, mode⟩
        · cases mode
        · obtain ⟨offset, -⟩ := Mode.naming.inj mode
          have unopened : openBrackets _ = 0 := named.weigh nesting_cancels
          generalize String.ofList _ = name at named
          obtain ⟨u, us, names⟩ := named
          exact ⟨_, _, rfl, oneTooMany_of_full opened listed full opens names unopened, offset.symm⟩
    | complete opened listed last =>
        rcases place with ⟨mode, -⟩ | ⟨read, mode⟩
        · cases mode
        · cases mode

/-! ## Faults of texts -/

theorem outline_eq_error {text : String} {e : ParseError} (fails : outline opts text = .error e) :
    readTokens opts (byteLength text.toList) (tokens text) = .error e.toFault := by
  unfold outline phrases at fails
  split at fails
  · cases fails
  · cases result : readTokens opts (byteLength text.toList) (tokens text) with
    | ok ps =>
        rw [result] at fails
        cases fails
    | error fault =>
        rw [result] at fails
        cases fails
        rfl

/-- **A fault is at the earliest token.** The kinds in front of token `j` begin a well-formed text,
and with the kind of token `j`, if there is one, they begin none. The fault is reported where that
token starts, or at the end of the text; one bracket too many is reported where its type starts. -/
theorem outline_fault_earliest (opts : Options) (text : String) (e : ParseError)
    (fails : outline opts text = .error e) :
    ∃ j ≤ (tokens text).length,
      Viable opts ((kinds (tokens text)).take j) ∧
      (j < (tokens text).length → ¬ Viable opts ((kinds (tokens text)).take (j + 1))) ∧
      (e.cause.message ≠ "type specifier nested too deeply" → e.offset = startAt text j) ∧
      (e.cause.message = "type specifier nested too deeply" →
        ∃ front name t rest, tokens text = front ++ name ++ t :: rest ∧
          j = (front ++ name).length ∧ OneTooMany front name t ∧
          e.offset = startAt text front.length) := by
  rw [ne_eq, message_eq_tooDeep_iff]
  rcases readTokens_eq_error (outline_eq_error fails) with
    ⟨before, t, after, s, split, reads, refused⟩ | ⟨s, reads, unfinished⟩
  · refine ⟨before.length, by simp [split], ?_, ?_, ?_, ?_⟩
    · rw [split, take_kinds]
      exact viable_of_run reads
    · intro _
      have taken := take_kinds (before ++ [t]) after
      rw [List.append_assoc, List.length_append] at taken
      rw [split]
      exact taken ▸ not_viable_of_step reads refused
    · intro shallow
      rcases step_eq_error refused with ⟨-, offset⟩ | ⟨deep, -⟩
      · rw [← startOf_eq_startAt (by simp) split]
        exact offset
      · exact absurd deep shallow
    · intro deep
      obtain ⟨front, name, rfl, tooMany, offset⟩ := (reached_of_run reads).oneTooMany refused deep
      refine ⟨front, name, t, after, split, rfl, tooMany, ?_⟩
      rw [offset, ← startOf_append after (by simp)]
      exact startOf_eq_startAt (by simp) (by simp [split])
  · obtain ⟨shallow, offset⟩ := finish_eq_error unfinished
    refine ⟨(tokens text).length, le_rfl, ?_, by simp, ?_, fun deep => absurd deep shallow⟩
    · rw [List.take_of_length_le (by simp [kinds])]
      exact viable_of_run reads
    · intro _
      rw [startAt_length, offset]

/-- An angle bracket that a brace closes, behind two letters of two bytes each. -/
theorem outline_fault_earliest_brace :
    outline {} "Hash\x7bClé => Array<é\x7d" =
        .error ⟨⟨.unexpected .closeAngle (some .closeBrace), 21⟩, "Hash\x7bClé => Array<é\x7d"⟩ ∧
      ∃ j ≤ (tokens "Hash\x7bClé => Array<é\x7d").length,
        Viable {} ((kinds (tokens "Hash\x7bClé => Array<é\x7d")).take j) ∧
        (j < (tokens "Hash\x7bClé => Array<é\x7d").length →
          ¬ Viable {} ((kinds (tokens "Hash\x7bClé => Array<é\x7d")).take (j + 1))) ∧
        21 = startAt "Hash\x7bClé => Array<é\x7d" j := by
  have fails : outline {} "Hash\x7bClé => Array<é\x7d" =
      .error ⟨⟨.unexpected .closeAngle (some .closeBrace), 21⟩, "Hash\x7bClé => Array<é\x7d"⟩ := by
    rfl
  obtain ⟨j, bound, viable, hopeless, place, -⟩ := outline_fault_earliest {} _ _ fails
  exact ⟨fails, j, bound, viable, hopeless, place (by simp [message_eq_tooDeep_iff])⟩

end Crosslink.TypeSpec
