/-
# Crosslink.Proofs.Symbols.TableText — table texts are read back

One lemma for each value of a record (`readKind_quote` and its like), one for a
step of the member loop (`readMembers_step`), and one for a step of the record
loop give the round trip: the text of a list of symbols is read as that list
(`readTable_writeTable`). So a table given in memory is the table of its own
text (`ofText_writeTable`), fingerprint included.

Main theorem: `table_survives_text`.
-/
import Crosslink.Proofs.Json.Quoted
import Crosslink.Symbols.Table

namespace Crosslink.Symbols

open Crosslink.Json

set_option autoImplicit false

/-! ## Values -/

theorem skipBlanks_cons {c : Char} (solid : isBlank c = false) (cs : List Char) :
    skipBlanks (c :: cs) = c :: cs := by
  simp [skipBlanks, solid]

theorem readName_quote {α : Type} {ofText? : String → Option α} {name : String} {a : α}
    (known : ofText? name = some a) (choices : String) (rest : List Char) :
    readName ofText? choices (quote name ++ rest) = .ok (a, rest) := by
  rw [quote_append, readName, skipBlanks_cons rfl]
  simp [readChoice, readQuoted_literal, known]

theorem readKind_quote (kind : SymbolKind) (rest : List Char) :
    readKind (quote kind.text ++ rest) = .ok (kind, rest) := by
  have known : SymbolKind.ofText? kind.text = some kind := by
    cases kind <;> rfl
  exact readName_quote known kindChoices rest

theorem readScope_quote (scope : Scope) (rest : List Char) :
    readScope (quote scope.text ++ rest) = .ok (some scope, rest) := by
  have known : Scope.ofText? scope.text = some scope := by
    cases scope <;> rfl
  have name := readName_quote known scopeChoices rest
  rw [quote_append] at name ⊢
  rw [readScope, skipBlanks_cons rfl]
  split
  · rename_i isNull
    exact absurd (List.cons.inj isNull).1 (by decide)
  · rw [name]
    rfl

theorem readTitle_quote (title : String) (rest : List Char) :
    readTitle (quote title ++ rest) = .ok (title, rest) := by
  rw [quote_append, readTitle, skipBlanks_cons rfl]
  exact readQuoted_literal title rest

theorem readFlag_boolText (flag : Bool) (rest : List Char) :
    readFlag (Value.boolText flag ++ rest) = .ok (flag, rest) := by
  cases flag <;> rfl

/-! ## Members -/

theorem readMembers_step {fuel : Nat} {first : Bool} {draft draft' : Draft} {name : String}
    {cs tail rest : List Char}
    (next : nextMember? first cs = .ok (some (name.toList.flatMap escapeChar ++ '"' :: tail)))
    (read : draft.readMember name tail = .ok (draft', rest)) :
    readMembers (fuel + 1) first draft cs = readMembers fuel false draft' rest := by
  rw [readMembers, next]
  simp only [readQuoted_literal, read]

theorem readMembers_end {fuel : Nat} {draft : Draft} {symbol : Symbol}
    (finished : draft.finish = .ok symbol) (rest : List Char) :
    readMembers (fuel + 1) false draft ('}' :: rest) = .ok (symbol, rest) := by
  have next : nextMember? false ('}' :: rest) = .ok none := rfl
  have closed : endObject ('}' :: rest) = .ok rest := rfl
  rw [readMembers, next]
  simp only [finished, closed]

/-- A member that has not been read before. -/
theorem readOnce_fresh {α : Type} {read : List Char → Reading α} {text rest : List Char} {a : α}
    (reads : read (text ++ rest) = .ok (a, rest)) (name : String) :
    readOnce name none read (':' :: (text ++ rest)) = .ok (a, rest) := by
  have colon : skipColon (':' :: (text ++ rest)) = .ok (text ++ rest) := rfl
  rw [readOnce, colon]
  exact reads

theorem readMember_kind {draft : Draft} (fresh : draft.kind = none) (kind : SymbolKind)
    (rest : List Char) : draft.readMember "kind" (':' :: (quote kind.text ++ rest)) =
      .ok ({ draft with kind := some kind }, rest) := by
  simp only [Draft.readMember, fresh, readOnce_fresh (readKind_quote kind rest)]
  rfl

theorem readMember_scope {draft : Draft} (fresh : draft.scope = none) (scope : Scope)
    (rest : List Char) : draft.readMember "scope" (':' :: (quote scope.text ++ rest)) =
      .ok ({ draft with scope := some (some scope) }, rest) := by
  simp only [Draft.readMember, fresh, readOnce_fresh (readScope_quote scope rest)]
  rfl

theorem readMember_title {draft : Draft} (fresh : draft.title = none) (title : String)
    (rest : List Char) : draft.readMember "title" (':' :: (quote title ++ rest)) =
      .ok ({ draft with title := some title }, rest) := by
  simp only [Draft.readMember, fresh, readOnce_fresh (readTitle_quote title rest)]
  rfl

theorem readMember_flag {draft : Draft} (fresh : draft.isAttribute = none) (flag : Bool)
    (rest : List Char) : draft.readMember "is_attribute" (':' :: (Value.boolText flag ++ rest)) =
      .ok ({ draft with isAttribute := some flag }, rest) := by
  simp only [Draft.readMember, fresh, readOnce_fresh (readFlag_boolText flag rest)]
  rfl

/-! ## Records -/

theorem nextMember?_first (name : String) (tail : List Char) :
    nextMember? true (quote name ++ tail) =
      .ok (some (name.toList.flatMap escapeChar ++ '"' :: tail)) := by
  rw [quote_append]
  rfl

theorem nextMember?_next (name : String) (tail : List Char) :
    nextMember? false (',' :: (quote name ++ tail)) =
      .ok (some (name.toList.flatMap escapeChar ++ '"' :: tail)) := by
  rw [quote_append]
  rfl

/-- The members of a record, with the brace behind them. -/
theorem readMembers_members (s : Symbol) (fuel : Nat) (rest : List Char) :
    ∃ members, s.value.compact ++ rest = '{' :: members ∧ 4 ≤ members.length ∧
      readMembers (fuel + 5) true {} members = .ok (s, rest) := by
  obtain ⟨kind, scope, title, flag⟩ := s
  cases scope with
  | none =>
      refine ⟨quote "kind" ++ ':' :: (quote kind.text ++ ',' :: (quote "title" ++ ':' :: (quote title ++
        ',' :: (quote "is_attribute" ++ ':' :: (Value.boolText flag ++ '}' :: rest))))),
        by simp [Symbol.value, Value.compact, Value.compactMembers], by simp [quote]; omega, ?_⟩
      rw [readMembers_step (nextMember?_first _ _) (readMember_kind rfl kind _),
        readMembers_step (nextMember?_next _ _) (readMember_title rfl title _),
        readMembers_step (nextMember?_next _ _) (readMember_flag rfl flag _)]
      exact readMembers_end rfl rest
  | some scope =>
      refine ⟨quote "kind" ++ ':' :: (quote kind.text ++ ',' :: (quote "scope" ++ ':' ::
        (quote scope.text ++ ',' :: (quote "title" ++ ':' :: (quote title ++ ',' ::
        (quote "is_attribute" ++ ':' :: (Value.boolText flag ++ '}' :: rest))))))),
        by simp [Symbol.value, Value.compact, Value.compactMembers], by simp [quote]; omega, ?_⟩
      rw [readMembers_step (nextMember?_first _ _) (readMember_kind rfl kind _),
        readMembers_step (nextMember?_next _ _) (readMember_scope rfl scope _),
        readMembers_step (nextMember?_next _ _) (readMember_title rfl title _),
        readMembers_step (nextMember?_next _ _) (readMember_flag rfl flag _)]
      exact readMembers_end rfl rest

theorem readRecord_compact (s : Symbol) (rest : List Char) :
    readRecord (s.value.compact ++ rest) = .ok (s, rest) := by
  obtain ⟨members, written, long, -⟩ := readMembers_members s 0 rest
  obtain ⟨members', written', -, read⟩ := readMembers_members s (members.length - 4) rest
  obtain rfl : members = members' := by simpa [written] using written'
  rw [show members.length - 4 + 5 = members.length + 1 by omega] at read
  rw [written, readRecord, skipBlanks_cons rfl]
  exact read

/-! ## Tables -/

/-- The items of a list behind its first one, each with its comma. -/
def itemsAfter (vs : List Value) : List Char := vs.flatMap fun v => ',' :: v.compact

theorem compactItems_cons (v : Value) (vs : List Value) :
    Value.compactItems (v :: vs) = v.compact ++ itemsAfter vs := by
  induction vs generalizing v with
  | nil => simp [Value.compactItems, itemsAfter]
  | cons w vs ih => simp [Value.compactItems, ih, itemsAfter]

theorem compact_value_cons (s : Symbol) : ∃ inside, s.value.compact = '{' :: inside := by
  simp [Symbol.value, Value.compact]

theorem readRecords_after (symbols : List Symbol) (fuel : Nat) (rest : List Char)
    (enough : symbols.length < fuel) :
    readRecords fuel false (itemsAfter (symbols.map Symbol.value) ++ ']' :: rest) =
      .ok (symbols, rest) := by
  induction symbols generalizing fuel with
  | nil =>
      obtain ⟨fuel, rfl⟩ := Nat.exists_eq_add_of_lt enough
      rfl
  | cons s symbols ih =>
      obtain ⟨fuel, rfl⟩ : ∃ n, fuel = n + 1 := ⟨fuel - 1, by omega⟩
      have later := ih fuel (by simpa using enough)
      have record := readRecord_compact s (itemsAfter (symbols.map Symbol.value) ++ ']' :: rest)
      obtain ⟨inside, written⟩ := compact_value_cons s
      have text : itemsAfter ((s :: symbols).map Symbol.value) ++ ']' :: rest =
          ',' :: '{' :: (inside ++ (itemsAfter (symbols.map Symbol.value) ++ ']' :: rest)) := by
        simp [itemsAfter, written]
      have next : nextItem? false (itemsAfter ((s :: symbols).map Symbol.value) ++ ']' :: rest) =
          .ok (some (s.value.compact ++ (itemsAfter (symbols.map Symbol.value) ++ ']' :: rest))) := by
        rw [text, written]
        rfl
      rw [readRecords, next]
      simp only [record, later]

theorem length_le_itemsAfter (vs : List Value) : vs.length ≤ (itemsAfter vs).length := by
  induction vs with
  | nil => exact Nat.le_refl 0
  | cons v vs ih =>
      have step : (itemsAfter (v :: vs)).length =
          v.compact.length + 1 + (itemsAfter vs).length := by
        simp only [itemsAfter, List.flatMap_cons, List.length_append, List.length_cons]
      rw [List.length_cons, step]
      omega

/-- **The text of a list of symbols is read as that list.** -/
theorem readTable_writeTable (symbols : List Symbol) :
    readTable (writeTable symbols) = .ok symbols := by
  cases symbols with
  | nil => rfl
  | cons s symbols =>
      let after := itemsAfter (symbols.map Symbol.value) ++ [']']
      have text : writeTable (s :: symbols) = '[' :: (s.value.compact ++ after) := by
        simp [writeTable, Value.compact, compactItems_cons, after]
      have counted := length_le_itemsAfter (symbols.map Symbol.value)
      rw [List.length_map] at counted
      have record := readRecord_compact s after
      have later : readRecords (s.value.compact ++ after).length false after = .ok (symbols, []) := by
        refine readRecords_after symbols _ [] ?_
        simp only [after, List.length_append, List.length_singleton]
        omega
      have next : nextItem? true (s.value.compact ++ after) = .ok (some (s.value.compact ++ after)) := by
        obtain ⟨inside, written⟩ := compact_value_cons s
        rw [written]
        rfl
      rw [readTable, text, skipBlanks_cons rfl]
      simp only [readRecords, next, record, later]
      rfl

/-- A table given in memory is read from its own text. -/
theorem ofText_writeTable (symbols : List Symbol) :
    Table.ofText (String.ofList (writeTable symbols)) = .ok (Table.ofSymbols symbols) := by
  rw [Table.ofText, String.toList_ofList, readTable_writeTable]
  rfl

/-- **Symbols survive their text.** The text that gives a list of symbols its fingerprint is read
as the same table, with the same records in the same order and the same fingerprint, and no other
list has that text. -/
theorem table_survives_text (symbols others : List Symbol) :
    (Table.ofSymbols symbols).fingerprint =
        Digest.fingerprint (String.ofList (writeTable symbols)) ∧
      Table.ofText (String.ofList (writeTable symbols)) = .ok (Table.ofSymbols symbols) ∧
      (writeTable symbols = writeTable others ↔ symbols = others) := by
  refine ⟨rfl, ofText_writeTable symbols, ?_, ?_⟩
  · intro same
    have read := readTable_writeTable symbols
    rw [same, readTable_writeTable others] at read
    exact (Except.ok.inj read).symm
  · intro same
    rw [same]

end Crosslink.Symbols
