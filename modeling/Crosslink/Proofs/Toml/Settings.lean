/-
# Crosslink.Proofs.Toml.Settings — written settings are read back

A written number, text or list of texts is a value (`IsValue`): with the end of
its line behind it, it is read as one item, up to that end. A line with a bare
key, an equals sign and a value adds one entry to a document (`readFrom_setting`).
-/
import Crosslink.Proofs.Text.Split
import Crosslink.Proofs.Toml.Quoted
import Crosslink.Toml.Document

namespace Crosslink.Toml

open Crosslink.Text

set_option autoImplicit false

/-! ## Blanks and line breaks -/

/-- Characters that no blank, comment or line break starts with. -/
def isSolid (c : Char) : Bool := c ∉ [' ', '\t', '\n', '\r', '#']

theorem isSolid_iff {c : Char} :
    isSolid c = true ↔ c ≠ ' ' ∧ c ≠ '\t' ∧ c ≠ '\n' ∧ c ≠ '\r' ∧ c ≠ '#' := by
  simp [isSolid]

theorem skipBlanks_run {blanks : List Char} (spaces : ∀ b ∈ blanks, b = ' ') {c : Char}
    (notSpace : c ≠ ' ') (notTab : c ≠ '\t') (cs : List Char) :
    skipBlanks (blanks ++ c :: cs) = c :: cs := by
  rw [skipBlanks, List.dropWhile_append_of_pos fun b member => by simp [spaces b member]]
  simp [notSpace, notTab]

/-- Blanks, and what stands behind them. -/
theorem skipLines_run {blanks : List Char} (spaces : ∀ b ∈ blanks, b = ' ') {c : Char}
    (solid : isSolid c = true) (fuel : Nat) (cs : List Char) :
    skipLines (fuel + 1) (blanks ++ c :: cs) = some (c :: cs) := by
  obtain ⟨notSpace, notTab, notBreak, notReturn, notMark⟩ := isSolid_iff.1 solid
  rw [skipLines, skipBlanks_run spaces notSpace notTab]
  simp [notBreak, notReturn, notMark]

theorem skipFiller_solid {c : Char} (solid : isSolid c = true) (cs : List Char) :
    skipFiller (c :: cs) = some (c :: cs) :=
  skipLines_run (List.forall_mem_nil _) solid _ cs

/-- A line break, and the blanks that the next line starts with. -/
theorem skipFiller_indent {blanks : List Char} (spaces : ∀ b ∈ blanks, b = ' ') {c : Char}
    (solid : isSolid c = true) (cs : List Char) :
    skipFiller ('\n' :: (blanks ++ c :: cs)) = some (c :: cs) :=
  skipLines_run spaces solid _ cs

theorem endLine_break (cs : List Char) : endLine ('\n' :: cs) = some cs := rfl

/-! ## Numbers -/

theorem head?_toDigits {n : Nat} (leads : (Nat.toDigits 10 n).head? = some '0') : n = 0 := by
  induction n using Nat.strongRecOn with
  | ind n ih =>
      rcases Nat.lt_or_ge n 10 with small | large
      · rw [Nat.toDigits_of_lt_base small] at leads
        have single : ∀ d < 10, [Nat.digitChar d].head? = some '0' → d = 0 := by decide
        exact single n small leads
      · rw [Nat.toDigits_of_base_le (by decide) large,
          List.head?_append_of_ne_nil _ Nat.toDigits_ne_nil] at leads
        have := ih (n / 10) (by omega) leads
        omega

theorem ungroup_digits {isDigit : Char → Bool} (noBar : isDigit '_' = false) {cs : List Char}
    (nonempty : cs ≠ []) (digits : ∀ c ∈ cs, isDigit c = true) : ungroup isDigit cs = some cs := by
  induction cs with
  | nil => exact absurd rfl nonempty
  | cons c cs ih =>
      cases cs with
      | nil => simp [ungroup, digits c]
      | cons d cs =>
          have notBar : d ≠ '_' := by
            rintro rfl
            simp [digits '_'] at noBar
          have behind := ih (by simp) fun e member => digits e (by simp [member])
          rw [ungroup, behind]
          · simp [digits c]
          · exact List.cons_ne_nil d cs
          · exact fun rest same => notBar (List.cons.inj same).1

theorem isDigit_of_mem_toDigits {n : Nat} {c : Char} (member : c ∈ Nat.toDigits 10 n) :
    c.isDigit = true :=
  Nat.isDigit_of_mem_toDigits (by decide) (by decide) member

theorem not_mem_toDigits {n : Nat} {c : Char} (letter : c.isDigit = false) :
    c ∉ Nat.toDigits 10 n := by
  intro member
  rw [isDigit_of_mem_toDigits member] at letter
  cases letter

theorem decimal?_toDigits (n : Nat) : decimal? (Nat.toDigits 10 n) = some (Nat.toDigits 10 n) := by
  rw [decimal?, ungroup_digits (by decide) Nat.toDigits_ne_nil fun _ => isDigit_of_mem_toDigits]
  split
  · rename_i c cs leading
    have zero : n = 0 := head?_toDigits (by rw [Option.some.inj leading]; rfl)
    rw [zero] at leading
    simp at leading
  · rfl

theorem valueOf_digits {cs : List Char} (digits : ∀ c ∈ cs, c.isDigit = true) :
    valueOf 10 cs = Nat.ofDigitChars 10 cs 0 := by
  rw [valueOf, Nat.ofDigitChars_eq_foldl]
  refine List.foldl_ext _ _ _ fun n c member => ?_
  simp [hexValue?, digits c member]

theorem integer?_toDigits {n : Nat} (small : n < Nat.pow 2 128) :
    integer? (Nat.toDigits 10 n) = some (n : Int) := by
  have unsigned : takeSign (Nat.toDigits 10 n) = (none, Nat.toDigits 10 n) := by
    unfold takeSign
    split
    · rename_i rest spelled
      exact absurd (spelled ▸ List.mem_cons_self) (not_mem_toDigits rfl)
    · rename_i rest spelled
      exact absurd (spelled ▸ List.mem_cons_self) (not_mem_toDigits rfl)
    · rfl
  have inside : inRange (n : Int) = true := by
    simp only [inRange, Bool.and_eq_true, decide_eq_true_eq]
    omega
  -- The marks of other bases are no digits.
  unfold integer?
  dsimp only
  split
  · rename_i rest spelled
    exact absurd (by simp [spelled]) (not_mem_toDigits (n := n) (c := 'x') rfl)
  · rename_i rest spelled
    exact absurd (by simp [spelled]) (not_mem_toDigits (n := n) (c := 'o') rfl)
  · rename_i rest spelled
    exact absurd (by simp [spelled]) (not_mem_toDigits (n := n) (c := 'b') rfl)
  · rw [unsigned, decimal?_toDigits]
    simp [valueOf_digits fun _ => isDigit_of_mem_toDigits, Nat.ofDigitChars_toDigits, inside]

theorem scalar?_toDigits {n : Nat} (small : n < Nat.pow 2 128) :
    scalar? (Nat.toDigits 10 n) = some (.integer n) := by
  have notTrue : ¬ (Nat.toDigits 10 n == "true".toList) = true := by
    intro spelled
    exact absurd (by simp [beq_iff_eq.1 spelled]) (not_mem_toDigits (n := n) (c := 't') rfl)
  have notFalse : ¬ (Nat.toDigits 10 n == "false".toList) = true := by
    intro spelled
    exact absurd (by simp [beq_iff_eq.1 spelled]) (not_mem_toDigits (n := n) (c := 'f') rfl)
  rw [scalar?, if_neg notTrue, if_neg notFalse, integer?_toDigits small]

/-- The characters of a number are those up to the end of the line. -/
theorem scalarRun_toDigits (n : Nat) (tail : List Char) :
    scalarRun (Nat.toDigits 10 n ++ '\n' :: tail) = (Nat.toDigits 10 n, '\n' :: tail) := by
  have run : (Nat.toDigits 10 n ++ '\n' :: tail).takeWhile isScalarChar = Nat.toDigits 10 n := by
    refine takeWhile_run ?_ ?_
    · intro c member
      have digit := isDigit_of_mem_toDigits member
      simp [isScalarChar, Char.isAlphanum, digit]
    · rintro c ⟨rfl⟩
      decide
  simp [scalarRun, run]

/-! ## Values -/

/-- `value` stands for `item`, when the line ends behind it. -/
structure IsValue (value : List Char) (item : Item) : Prop where
  starts : ∃ c rest, value = c :: rest ∧ isSolid c = true
  reads : ∀ tail, readItem maxNesting (value ++ '\n' :: tail) = some (item, '\n' :: tail)

theorem isValue_number {n : Nat} (small : n < Nat.pow 2 128) :
    IsValue (Nat.toDigits 10 n) (.scalar (.integer n)) := by
  obtain ⟨c, rest, spelled⟩ := List.exists_cons_of_ne_nil (Nat.toDigits_ne_nil : Nat.toDigits 10 n ≠ [])
  have digit : c.isDigit = true := isDigit_of_mem_toDigits (spelled ▸ List.mem_cons_self)
  have other : ∀ {d : Char}, d.isDigit = false → c ≠ d := by
    rintro d letter rfl
    rw [digit] at letter
    cases letter
  refine ⟨⟨c, rest, spelled, ?_⟩, fun tail => ?_⟩
  · exact isSolid_iff.2 ⟨other rfl, other rfl, other rfl, other rfl, other rfl⟩
  · have scalar : readItem maxNesting (Nat.toDigits 10 n ++ '\n' :: tail) =
        readScalar (Nat.toDigits 10 n ++ '\n' :: tail) := by
      rw [spelled, List.cons_append]
      unfold readItem
      split
      · rename_i same
        exact absurd (List.cons.inj same).1 (other rfl)
      · rename_i same
        exact absurd (List.cons.inj same).1 (other rfl)
      · rename_i same
        exact absurd (List.cons.inj same).1 (other rfl)
      · rename_i same
        exact absurd (List.cons.inj same).1 (other rfl)
      · rfl
    rw [scalar, readScalar, scalarRun_toDigits]
    simp [scalar?_toDigits small]

/-- A string opens with a quote. -/
theorem head_writeText (text : String) :
    ∃ c rest, writeText text = c :: rest ∧ (c = '"' ∨ c = '\'') := by
  unfold writeText
  dsimp only
  repeat' split
  all_goals first | exact ⟨'"', _, rfl, .inl rfl⟩ | exact ⟨'\'', _, rfl, .inr rfl⟩

theorem isSolid_of_quote {c : Char} (quote : c = '"' ∨ c = '\'') : isSolid c = true := by
  rcases quote with rfl | rfl
  · rfl
  · rfl

theorem readItem_writeText (depth : Nat) (text : String) {rest : List Char}
    (noDouble : rest.head? ≠ some '"') (noSingle : rest.head? ≠ some '\'') :
    readItem depth (writeText text ++ rest) = some (.text text, rest) := by
  have read := readText?_writeText text noDouble noSingle
  obtain ⟨c, inner, written, quote⟩ := head_writeText text
  rw [written, List.cons_append] at read ⊢
  unfold readItem
  rcases quote with rfl | rfl
  · simp [read]
  · simp [read]

theorem isValue_text (text : String) : IsValue (writeText text) (.text text) := by
  obtain ⟨c, rest, written, quote⟩ := head_writeText text
  exact ⟨⟨c, rest, written, isSolid_of_quote quote⟩,
    fun tail => readItem_writeText _ text (by simp) (by simp)⟩

/-! ### Lists -/

theorem readItem_list {depth : Nat} {cs rest : List Char} {items : List Item}
    (read : readItems (readItem depth) (cs.length + 1) cs = some (items, rest)) :
    readItem (depth + 1) ('[' :: cs) = some (.list items, rest) := by
  rw [readItem, read]
  rfl

theorem readItems_end {item : ReadItem} {fuel : Nat} {cs rest : List Char}
    (start : skipFiller cs = some (']' :: rest)) : readItems item (fuel + 1) cs = some ([], rest) := by
  rw [readItems, start]
  rfl

/-- A text as the last item of a list, without a comma. -/
theorem readItems_lastText {depth fuel : Nat} {cs rest : List Char} {text : String}
    (start : skipFiller cs = some (writeText text ++ ']' :: rest)) :
    readItems (readItem depth) (fuel + 1) cs = some ([.text text], rest) := by
  have read : readItem depth (writeText text ++ ']' :: rest) = some (.text text, ']' :: rest) :=
    readItem_writeText depth text (by simp) (by simp)
  obtain ⟨c, inner, written, quote⟩ := head_writeText text
  rw [written, List.cons_append] at start read
  rcases quote with rfl | rfl
  · simp [readItems, start, read, skipFiller_solid (c := ']') rfl]
  · simp [readItems, start, read, skipFiller_solid (c := ']') rfl]

/-- A text as an item with a comma behind it. -/
theorem readItems_nextText {depth fuel : Nat} {cs rest : List Char} {text : String}
    (start : skipFiller cs = some (writeText text ++ ',' :: rest)) :
    readItems (readItem depth) (fuel + 1) cs =
      (readItems (readItem depth) fuel rest).map fun (others, rest) => (.text text :: others, rest) := by
  have read : readItem depth (writeText text ++ ',' :: rest) = some (.text text, ',' :: rest) :=
    readItem_writeText depth text (by simp) (by simp)
  obtain ⟨c, inner, written, quote⟩ := head_writeText text
  rw [written, List.cons_append] at start read
  rw [readItems]
  rcases quote with rfl | rfl
  · cases others : readItems (readItem depth) fuel rest <;>
      simp [start, read, others, skipFiller_solid (c := ',') rfl]
  · cases others : readItems (readItem depth) fuel rest <;>
      simp [start, read, others, skipFiller_solid (c := ',') rfl]

/-- One line an item. -/
def itemLine (text : String) : List Char := "    ".toList ++ writeText text ++ [',', '\n']

theorem skipFiller_itemLine (text : String) (rest : List Char) :
    skipFiller ('\n' :: (itemLine text ++ rest)) = some (writeText text ++ ',' :: '\n' :: rest) := by
  obtain ⟨c, inner, written, quote⟩ := head_writeText text
  have layout : itemLine text ++ rest =
      [' ', ' ', ' ', ' '] ++ c :: (inner ++ ',' :: '\n' :: rest) := by
    simp [itemLine, written]
  rw [layout, written]
  exact skipFiller_indent (by simp) (isSolid_of_quote quote) _

theorem readItems_itemLines (depth : Nat) (texts : List String) {fuel : Nat}
    (enough : texts.length < fuel) (rest : List Char) :
    readItems (readItem depth) fuel ('\n' :: (texts.flatMap itemLine ++ ']' :: rest)) =
      some (texts.map Item.text, rest) := by
  obtain ⟨fuel, rfl⟩ : ∃ less, fuel = less + 1 := ⟨fuel - 1, by omega⟩
  induction texts generalizing fuel with
  | nil => exact readItems_end (skipFiller_indent (List.forall_mem_nil _) rfl rest)
  | cons text texts ih =>
      obtain ⟨fuel, rfl⟩ : ∃ less, fuel = less + 1 := ⟨fuel - 1, by simp at enough; omega⟩
      rw [List.flatMap_cons, List.append_assoc, readItems_nextText (skipFiller_itemLine text _),
        ih fuel (by simpa using enough)]
      rfl

theorem length_itemLines (texts : List String) : texts.length ≤ (texts.flatMap itemLine).length := by
  induction texts with
  | nil => exact Nat.le_refl 0
  | cons text texts ih =>
      simp only [List.flatMap_cons, List.length_append, List.length_cons, itemLine] at ih ⊢
      omega

theorem readItem_writeTexts (depth : Nat) (texts : List String) (rest : List Char) :
    readItem (depth + 1) (writeTexts texts ++ rest) = some (.list (texts.map Item.text), rest) := by
  unfold writeTexts
  split
  · exact readItem_list (readItems_end (skipFiller_solid rfl rest))
  · rename_i text
    obtain ⟨c, inner, written, quote⟩ := head_writeText text
    have start : skipFiller (writeText text ++ ']' :: rest) = some (writeText text ++ ']' :: rest) := by
      rw [written]
      exact skipFiller_solid (isSolid_of_quote quote) _
    rw [List.append_assoc]
    exact readItem_list (readItems_lastText start)
  · have layout : ('[' :: '\n' :: texts.flatMap itemLine ++ [']']) ++ rest =
        '[' :: '\n' :: (texts.flatMap itemLine ++ ']' :: rest) := by
      simp
    have enough := length_itemLines texts
    refine (congrArg (readItem (depth + 1)) layout).trans (readItem_list ?_)
    refine readItems_itemLines depth texts ?_ rest
    simp only [List.length_cons, List.length_append]
    omega

theorem isValue_texts (texts : List String) :
    IsValue (writeTexts texts) (.list (texts.map Item.text)) := by
  refine ⟨?_, fun tail => readItem_writeTexts 79 texts _⟩
  unfold writeTexts
  split
  · exact ⟨'[', _, rfl, rfl⟩
  · exact ⟨'[', _, rfl, rfl⟩
  · exact ⟨'[', _, rfl, rfl⟩

/-! ## Lines -/

/-- Keys that need no quotes. -/
def IsBareKey (key : String) : Prop := key.toList ≠ [] ∧ key.toList.all isBareKeyChar = true

instance (key : String) : Decidable (IsBareKey key) := inferInstanceAs (Decidable (_ ∧ _))

theorem key?_bare {key : String} (bare : IsBareKey key) (tail : List Char) :
    key? (key.toList ++ ' ' :: '=' :: tail) = some ([], key, '=' :: tail) := by
  obtain ⟨nonempty, all⟩ := bare
  have letters := List.all_eq_true.1 all
  obtain ⟨c, rest, spelled⟩ := List.exists_cons_of_ne_nil nonempty
  have letter : isBareKeyChar c = true := letters c (by simp [spelled])
  have run : (key.toList ++ ' ' :: '=' :: tail).takeWhile isBareKeyChar = key.toList := by
    refine takeWhile_run letters ?_
    rintro c ⟨rfl⟩
    rfl
  have part : keyPart? (key.toList ++ ' ' :: '=' :: tail) = some (key, ' ' :: '=' :: tail) := by
    unfold keyPart?
    split
    · rename_i same
      rw [spelled] at same
      rw [(List.cons.inj same).1] at letter
      cases letter
    · rename_i same
      rw [spelled] at same
      rw [(List.cons.inj same).1] at letter
      cases letter
    · simp [run, nonempty]
  rw [key?, keyFrom?, part]
  rfl

theorem readSetting_bare {es : Entries} {key : String} {value : List Char} {item : Item}
    (bare : IsBareKey key) (isValue : IsValue value item) (fresh : es.lookup key = none)
    (tail : List Char) :
    readSetting ⟨es, []⟩ (key.toList ++ ' ' :: '=' :: ' ' :: (value ++ '\n' :: tail)) =
      some (⟨es ++ [(key, item)], []⟩, '\n' :: tail) := by
  obtain ⟨⟨c, rest, spelled, solid⟩, reads⟩ := isValue
  obtain ⟨notSpace, notTab, -⟩ := isSolid_iff.1 solid
  have start : skipBlanks (' ' :: (value ++ '\n' :: tail)) = value ++ '\n' :: tail := by
    have one : ∀ b ∈ [' '], b = ' ' := by simp
    rw [spelled]
    exact skipBlanks_run one notSpace notTab _
  have added : es.atHeader (Entries.assign true key item []) [] = some (es ++ [(key, item)]) := by
    simp [Entries.atHeader, Entries.assign, Entries.add, fresh]
  simp [readSetting, key?_bare bare, start, reads, added]

/-- **A line with a setting adds one entry.** -/
theorem readFrom_setting {es : Entries} {key : String} {value : List Char} {item : Item}
    (bare : IsBareKey key) (isValue : IsValue value item) (fresh : es.lookup key = none) (fuel : Nat)
    (tail : List Char) :
    readFrom (fuel + 1) ⟨es, []⟩ (key.toList ++ ' ' :: '=' :: ' ' :: (value ++ '\n' :: tail)) =
      readFrom fuel ⟨es ++ [(key, item)], []⟩ tail := by
  have setting := readSetting_bare bare isValue fresh tail
  obtain ⟨c, rest, spelled⟩ := List.exists_cons_of_ne_nil bare.1
  have letter : isBareKeyChar c = true := List.all_eq_true.1 bare.2 c (by simp [spelled])
  have other : ∀ {d : Char}, isBareKeyChar d = false → c ≠ d := by
    rintro d mark rfl
    rw [letter] at mark
    cases mark
  have solid : isSolid c = true :=
    isSolid_iff.2 ⟨other rfl, other rfl, other rfl, other rfl, other rfl⟩
  rw [spelled, List.cons_append] at setting ⊢
  rw [readFrom, skipFiller_solid solid]
  simp only [Option.bind_eq_bind, Option.bind_some]
  split
  · rename_i same
    cases same
  · rename_i same
    exact absurd (List.cons.inj same).1 (other rfl)
  · rename_i same
    exact absurd (List.cons.inj same).1 (other rfl)
  · rw [setting, Option.bind_some, endLine_break, Option.bind_some]

theorem readFrom_nil (fuel : Nat) (p : Progress) : readFrom (fuel + 1) p [] = some p.entries := rfl

end Crosslink.Toml
