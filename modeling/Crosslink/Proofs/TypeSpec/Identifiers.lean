/-
# Crosslink.Proofs.TypeSpec.Identifiers — the names of a text are the names of its expressions

Between a text and its expressions stands the outline, and building it adds no
fault and no name of its own.

`saidNames` reads names off the tokens alone: the text of each longest run of
words and equals signs, and the default name for each `<` or `(` that does not
stand right behind such a run. Tokens that spell phrases say exactly the names of
their expressions, in the order of the text (`Spells.saidNames`).

Main theorem: `parse_keeps_names`.
-/
import Crosslink.Proofs.TypeSpec.Derivation
import Crosslink.Proofs.TypeSpec.Written

namespace Crosslink.TypeSpec

open Crosslink.Text
open Crosslink.TypeSpec.Expr

set_option autoImplicit false

variable {opts : Options}

/-! ## Names off the tokens -/

/-- The name that a run of words and equals signs says, if there is a run. -/
def runName (run : List Token) : List String := if run = [] then [] else [textOf run]

/-- The names that tokens say, from left to right, behind the run `run` of words and equals signs:
the trimmed text of each longest run, and the default name for a `<` or `(` that is not right
behind one. -/
def saidNames (opts : Options) (run : List Token) : List Token → List String
  | [] => runName run
  | t :: ts =>
    if t.kind.isName then saidNames opts (run ++ [t]) ts
    else
      let bare := run = [] ∧ (t.kind = .openAngle ∨ t.kind = .openParen)
      runName run ++ (if bare then [opts.defaultCollection] else []) ++ saidNames opts [] ts

/-- The names of expressions, each before those inside it. -/
def namesAll (es : List Expr) : List String := (nodesAll es).map Expr.name

/-- Nothing comes, or a token that ends a type. -/
def EndsType (rest : List Token) : Prop := ∀ t, rest.head? = some t → t.kind.endsType = true

theorem endsType_nil : EndsType [] := by
  intro t head
  cases head

theorem endsType_cons {t : Token} (ends : t.kind.endsType = true) (rest : List Token) :
    EndsType (t :: rest) := by
  intro u head
  obtain rfl : t = u := by simpa using head
  exact ends

theorem saidNames_names {us : List Token} (names : ∀ u ∈ us, u.kind.isName = true)
    (run rest : List Token) :
    saidNames opts run (us ++ rest) = saidNames opts (run ++ us) rest := by
  induction us generalizing run with
  | nil => simp
  | cons u us ih =>
      have isName := names u (by simp)
      rw [List.cons_append, saidNames, if_pos isName, ih fun v member => names v (by simp [member])]
      simp

/-- A token that ends a type says nothing itself. -/
theorem saidNames_ends {t : Token} (ends : t.kind.endsType = true) (run ts : List Token) :
    saidNames opts run (t :: ts) = runName run ++ saidNames opts [] ts := by
  have notName : ¬ t.kind.isName = true := by
    intro isName
    cases kind : t.kind <;> simp [kind, TokenKind.endsType, TokenKind.isName] at ends isName
  have notOpen : ¬ (t.kind = .openAngle ∨ t.kind = .openParen) := by
    rintro (kind | kind) <;> simp [kind, TokenKind.endsType] at ends
  simp [saidNames, notName, notOpen]

theorem saidNames_of_endsType {rest : List Token} (ends : EndsType rest) (run : List Token) :
    saidNames opts run rest = runName run ++ saidNames opts [] rest := by
  cases rest with
  | nil => simp [saidNames, runName]
  | cons t ts =>
      have here := ends t rfl
      rw [saidNames_ends here run, saidNames_ends here []]
      simp [runName]

/-- A run says its name, whatever bracket is opened behind it. -/
theorem saidNames_named {us : List Token} {start : Nat} {name : String}
    (named : SpellsName us start name) (sound : ∀ u ∈ us, u.toLexeme.Sound) {o : Token}
    (opens : o.kind.isName = false) (rest : List Token) :
    saidNames opts [] (us ++ o :: rest) = name :: saidNames opts [] rest := by
  obtain ⟨isIdentifier, -, rfl⟩ := named.isIdentifier sound
  have names : ∀ u ∈ us, u.kind.isName = true := fun u member =>
    isName_iff.2 (isIdentifier.2 u member)
  rw [saidNames_names names, List.nil_append]
  simp [saidNames, opens, runName, isIdentifier.1]

theorem MappingBrackets.kinds {opens closes : TokenKind} (brackets : MappingBrackets opens closes) :
    opens.isName = false ∧ closes.endsType = true := by
  rcases brackets with ⟨rfl, rfl⟩ | ⟨rfl, rfl⟩
  · exact ⟨rfl, rfl⟩
  · exact ⟨rfl, rfl⟩

theorem saidNames_bare {o : Token} (opens : o.kind = .openAngle ∨ o.kind = .openParen)
    (rest : List Token) :
    saidNames opts [] (o :: rest) = opts.defaultCollection :: saidNames opts [] rest := by
  have notName : ¬ o.kind.isName = true := by
    rcases opens with kind | kind <;> simp [kind, TokenKind.isName]
  simp [saidNames, notName, opens, runName]

theorem namesAll_append (es fs : List Expr) : namesAll (es ++ fs) = namesAll es ++ namesAll fs := by
  have nodes : nodesAll (es ++ fs) = nodesAll es ++ nodesAll fs := by
    induction es with
    | nil => rfl
    | cons e es ih => simp [nodesAll, ih]
  simp [namesAll, nodes]

theorem namesAll_collection (name : String) (items : List Expr) (ordered : Bool) :
    namesAll [.collection name items ordered] = name :: namesAll items := by
  simp [namesAll, nodesAll, nodes, Expr.name]

theorem namesAll_mapping (name : String) (keys values : List Expr) :
    namesAll [.mapping name keys values] = name :: (namesAll keys ++ namesAll values) := by
  simp [namesAll, nodesAll, nodes, Expr.name]

/-- However a named angle bracket is read, its items stay in order behind its name. -/
theorem namesAll_angled (start : Nat) (name : String) (ps : List Phrase) :
    namesAll [(opts.angled start name ps).expr] = name :: namesAll (Phrase.exprs ps) := by
  rw [expr_angled]
  split
  · rw [namesAll_collection]
  · split
    · rw [namesAll_mapping, ← namesAll_append, List.take_append_drop]
    · rw [namesAll_collection]

/-- A token that ends a type, behind tokens that say `names`. -/
theorem saidNames_ended {ts rest : List Token} {c : Token} {names : List String}
    (ends : c.kind.endsType = true)
    (inner : ∀ rest', EndsType rest' →
      saidNames opts [] (ts ++ rest') = names ++ saidNames opts [] rest') :
    saidNames opts [] (ts ++ c :: rest) = names ++ saidNames opts [] rest := by
  rw [inner _ (endsType_cons ends rest), saidNames_ends ends []]
  simp [runName]

/-- **Tokens that spell phrases say the names of their expressions.** -/
theorem Spells.saidNames {part : Part} {n : Nat} {ts : List Token} {ps : List Phrase}
    (spelled : Spells opts part n ts ps) (sound : ∀ t ∈ ts, t.toLexeme.Sound) :
    ∀ rest, EndsType rest →
      saidNames opts [] (ts ++ rest) = namesAll (Phrase.exprs ps) ++ saidNames opts [] rest := by
  induction spelled with
  | one head ih => exact ih sound
  | @more n ts us c ps qs head comma tail ihHead ihTail =>
      intro rest ends
      have first := ihHead fun t member => sound t (by simp [member])
      have others := ihTail fun t member => sound t (by simp [member])
      rw [List.append_assoc, List.cons_append, saidNames_ended (by rw [comma]; rfl) first,
        others rest ends, Phrase.exprs_append, namesAll_append, List.append_assoc]
  | name named =>
      intro rest ends
      obtain ⟨isIdentifier, -, rfl⟩ := named.isIdentifier sound
      rw [saidNames_names fun u member => isName_iff.2 (isIdentifier.2 u member), List.nil_append,
        saidNames_of_endsType ends]
      simp [runName, isIdentifier.1, namesAll, nodesAll, nodes, Phrase.exprs, Phrase.expr,
        Expr.name]
  | bareAngle room opens inner closes ih =>
      intro rest _
      have items := ih fun t member => sound t (by simp [member])
      simp only [List.cons_append, List.append_assoc, List.nil_append]
      rw [saidNames_bare (.inl opens), saidNames_ended (by rw [closes]; rfl) items]
      exact (congrArg (· ++ _) (namesAll_collection ..)).symm
  | bareParen room opens inner closes ih =>
      intro rest _
      have items := ih fun t member => sound t (by simp [member])
      simp only [List.cons_append, List.append_assoc, List.nil_append]
      rw [saidNames_bare (.inr opens), saidNames_ended (by rw [closes]; rfl) items]
      exact (congrArg (· ++ _) (namesAll_collection ..)).symm
  | angle named room opens inner closes ih =>
      intro rest _
      have items := ih fun t member => sound t (by simp [member])
      simp only [List.cons_append, List.append_assoc, List.nil_append]
      rw [saidNames_named named (fun u member => sound u (by simp [member])) (by rw [opens]; rfl),
        saidNames_ended (by rw [closes]; rfl) items]
      exact (congrArg (· ++ _) (namesAll_angled ..)).symm
  | paren named room opens inner closes ih =>
      intro rest _
      have items := ih fun t member => sound t (by simp [member])
      simp only [List.cons_append, List.append_assoc, List.nil_append]
      rw [saidNames_named named (fun u member => sound u (by simp [member])) (by rw [opens]; rfl),
        saidNames_ended (by rw [closes]; rfl) items]
      exact (congrArg (· ++ _) (namesAll_collection ..)).symm
  | arrow named room brackets keys turns values ihKeys ihValues =>
      intro rest _
      have left := ihKeys fun t member => sound t (by simp [member])
      have right := ihValues fun t member => sound t (by simp [member])
      obtain ⟨opens, closes⟩ := brackets.kinds
      simp only [List.cons_append, List.append_assoc, List.nil_append]
      rw [saidNames_named named (fun u member => sound u (by simp [member])) opens,
        saidNames_ended (by rw [turns]; rfl) left, saidNames_ended closes right,
        ← List.append_assoc]
      exact (congrArg (· ++ _) (namesAll_mapping ..)).symm

/-! ## Texts -/

/-- **No name is lost, added or moved between a text and its expressions.** A text has a fault
exactly when it has no outline, and the same fault; otherwise its expressions are those that the
outline stands for, which never fails. The names of the expressions, each before those inside it,
are the names that the tokens of the text say from left to right. -/
theorem parse_keeps_names (opts : Options) (text : String) :
    (∀ e, parse opts text = .error e ↔ outline opts text = .error e) ∧
      (outline opts text = .ok none → parse opts text = .ok []) ∧
      (∀ tree, outline opts text = .ok (some tree) →
        ∃ es, tree.build = .ok es ∧ parse opts text = .ok es) ∧
      ∀ es, parse opts text = .ok es →
        (nodesAll es).map Expr.name = saidNames opts [] (tokens text) := by
  refine ⟨fun e => parse_eq_error_iff, ?_, ?_, ?_⟩
  · intro blank
    rw [parse, blank]
    rfl
  · intro tree outlined
    have parsed : parse opts text = tree.build.mapError fun fault => ⟨fault, text⟩ := by
      rw [parse, outlined]
      rfl
    cases built : tree.build with
    | ok es =>
        rw [built] at parsed
        exact ⟨es, rfl, parsed⟩
    | error fault =>
        -- A fault of the builder would be one of the outline.
        rw [built] at parsed
        have unread := parse_eq_error_iff.1 parsed
        rw [outlined] at unread
        cases unread
  · intro es parsed
    rcases parse_eq_ok_iff.1 parsed with ⟨none_, rfl⟩ | ⟨ps, spelled, rfl⟩
    · rw [none_]
      rfl
    · have said := spelled.saidNames (tokens_sound text) [] endsType_nil
      rw [List.append_nil] at said
      rw [said]
      simp [saidNames, runName, namesAll]

theorem eq_ok_of_toOption {ε α : Type} {outcome : Except ε α} {a : α}
    (evaluated : outcome.toOption = some a) : outcome = .ok a := by
  cases outcome with
  | error e => cases evaluated
  | ok b => exact congrArg Except.ok (Option.some.inj evaluated)

/-- A pair that is read as a mapping, with a setter and bare brackets in it. -/
theorem parse_keeps_names_pair :
    parse {} "Hash<k = , <V>>, (A  B)" =
        .ok [.mapping "Hash" [.basic "k ="] [.collection "Array" [.basic "V"] false],
          .collection "Array" [.basic "A  B"] true] ∧
      saidNames {} [] (tokens "Hash<k = , <V>>, (A  B)") =
        ["Hash", "k =", "Array", "V", "Array", "A  B"] := by
  have parsed : parse {} "Hash<k = , <V>>, (A  B)" =
      .ok [.mapping "Hash" [.basic "k ="] [.collection "Array" [.basic "V"] false],
        .collection "Array" [.basic "A  B"] true] :=
    eq_ok_of_toOption (by decide +kernel)
  exact ⟨parsed, ((parse_keeps_names {} _).2.2.2 _ parsed).symm⟩

end Crosslink.TypeSpec
