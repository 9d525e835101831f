/-
# Crosslink.Proofs.Toml.Quoted — written strings are read back

A text is written in one of four kinds of strings, and each is read back by its
own decoder. The two basic kinds undo the same escapes (`decode_escapeChar`), by
what they have in common (`Unescapes`). Between tripled quotes a quote may stand
for itself, as long as no three follow each other: a string ends at the first of
three quotes, and up to two quotes in front of those belong to it (`closing?_run`).

Main theorem of the module: `readText?_writeText`, for every text and whatever
stands behind it, as long as that is no further quote.
-/
import Mathlib.Data.List.Basic
import Crosslink.Proofs.Text.Decoder
import Crosslink.Toml.Quoted

namespace Crosslink.Toml

open Crosslink.Text

set_option autoImplicit false

/-! ## Escapes -/

/-- A decoder of basic strings: a backslash starts an escape, and what needs none stands for itself. -/
structure Unescapes (move : QuoteState → Char → List Char → Move QuoteState Unit) : Prop where
  backslash : ∀ rest, move .plain '\\' rest = .emit [] .escape
  escape : ∀ c rest, c ∉ [' ', '\t', '\n', '\r'] → move .escape c rest = escapeMove c
  hex : ∀ wanted value c rest, move (.hex wanted value) c rest = hexMove wanted value c
  plain : ∀ c rest, c ∉ ['"', '\\', '\n'] → isControl c = false → move .plain c rest = .emit [c] .plain

theorem unescapes_basicMove : Unescapes basicMove := by
  refine ⟨fun _ => rfl, fun _ _ _ => rfl, fun _ _ _ _ => rfl, ?_⟩
  intro c rest unescaped visible
  simp only [List.mem_cons, List.not_mem_nil, or_false, not_or] at unescaped
  simp [basicMove, unescaped, visible]

theorem unescapes_longBasicMove : Unescapes longBasicMove := by
  refine ⟨fun _ => rfl, ?_, fun _ _ _ _ => rfl, ?_⟩
  · intro c rest solid
    simp only [List.mem_cons, List.not_mem_nil, or_false, not_or] at solid
    simp [longBasicMove, isFiller, solid]
  · intro c rest unescaped visible
    simp only [List.mem_cons, List.not_mem_nil, or_false, not_or] at unescaped
    have notReturn : c ≠ '\r' := by
      rintro rfl
      cases visible
    simp [longBasicMove, longPlainMove, unescaped, visible, notReturn]

variable {move : QuoteState → Char → List Char → Move QuoteState Unit}

/-- An escape of one letter. -/
theorem Unescapes.decode_letter (unescapes : Unescapes move) {c d : Char}
    (solid : c ∉ [' ', '\t', '\n', '\r']) (letter : unescape? c = some d) (rest : List Char) :
    decode move () .plain ('\\' :: c :: rest) = withOutput [d] (decode move () .plain rest) := by
  have emits : move .escape c rest = .emit [d] .plain := by
    rw [unescapes.escape c rest solid, escapeMove, letter]
  rw [decode_silent (unescapes.backslash _), decode_emit emits]

/-- A digit of a numeric escape, in upper case. -/
def upperDigit (n : Nat) : Char := (hexDigit n).toUpper

theorem hexValue?_upperDigit : ∀ n < 16, hexValue? (upperDigit n) = some n := by
  decide

theorem Unescapes.decode_digit (unescapes : Unescapes move) {wanted value n : Nat} (small : n < 16)
    (rest : List Char) :
    decode move () (.hex (wanted + 2) value) (upperDigit n :: rest) =
      decode move () (.hex (wanted + 1) (16 * value + n)) rest := by
  refine decode_silent ?_
  rw [unescapes.hex, hexMove, hexValue?_upperDigit n small]
  simp

theorem Unescapes.decode_lastDigit (unescapes : Unescapes move) {value n : Nat} (small : n < 16)
    (valid : (16 * value + n).isValidChar) (rest : List Char) :
    decode move () (.hex 1 value) (upperDigit n :: rest) =
      withOutput [Char.ofNat (16 * value + n)] (decode move () .plain rest) := by
  refine decode_emit ?_
  rw [unescapes.hex, hexMove, hexValue?_upperDigit n small]
  simp [valid]

/-- The numeric escape of a character below 256. -/
theorem Unescapes.decode_number (unescapes : Unescapes move) {c : Char} (low : c.toNat < 256)
    (rest : List Char) :
    decode move () .plain ('\\' :: 'u' :: '0' :: '0' :: upperDigit (c.toNat / 16) ::
        upperDigit (c.toNat % 16) :: rest) =
      withOutput [c] (decode move () .plain rest) := by
  have start : ∀ tail, move .escape 'u' tail = .emit [] (.hex 4 0) := by
    intro tail
    rw [unescapes.escape 'u' tail (by decide)]
    rfl
  have zero : '0' = upperDigit 0 := by decide
  have value : 16 * (c.toNat / 16) + c.toNat % 16 = c.toNat := by omega
  have valid : (16 * (c.toNat / 16) + c.toNat % 16).isValidChar := by
    rw [value]
    exact c.valid
  rw [decode_silent (unescapes.backslash _), decode_silent (start _), zero,
    unescapes.decode_digit (by omega), unescapes.decode_digit (by omega),
    unescapes.decode_digit (by omega), show 16 * (16 * (16 * 0 + 0) + 0) + c.toNat / 16 = c.toNat / 16 by omega,
    unescapes.decode_lastDigit (by omega) valid, value, Char.ofNat_toNat]

theorem isControl_iff {c : Char} :
    isControl c = true ↔ (c.toNat < 32 ∧ c ≠ '\t') ∨ c.toNat = 127 := by
  simp [isControl]

theorem isControl_eq_false {c : Char} (visible : isHidden c = false) (notBreak : c ≠ '\n') :
    isControl c = false := by
  simpa [isHidden, notBreak] using visible

theorem Unescapes.decode_escapeHidden (unescapes : Unescapes move) {c : Char}
    (control : isControl c = true) (rest : List Char) :
    decode move () .plain (escapeHidden c ++ rest) = withOutput [c] (decode move () .plain rest) := by
  have low : c.toNat < 256 := by
    rcases isControl_iff.1 control with ⟨low, -⟩ | delete
    · omega
    · omega
  unfold escapeHidden
  split
  · rename_i isBackspace
    obtain rfl : Char.ofNat 8 = c := by rw [← beq_iff_eq.1 isBackspace, Char.ofNat_toNat]
    exact unescapes.decode_letter (by decide) rfl rest
  split
  · rename_i isFormFeed
    obtain rfl : Char.ofNat 12 = c := by rw [← beq_iff_eq.1 isFormFeed, Char.ofNat_toNat]
    exact unescapes.decode_letter (by decide) rfl rest
  split
  · rename_i isReturn
    obtain rfl : Char.ofNat 13 = c := by rw [← beq_iff_eq.1 isReturn, Char.ofNat_toNat]
    exact unescapes.decode_letter (by decide) rfl rest
  · exact unescapes.decode_number low rest

/-- **A character of a basic string is decoded as that character.** -/
theorem Unescapes.decode_escapeChar (unescapes : Unescapes move) {c : Char} (notQuote : c ≠ '"')
    (notBreak : c ≠ '\n') (rest : List Char) :
    decode move () .plain (escapeChar c ++ rest) = withOutput [c] (decode move () .plain rest) := by
  unfold escapeChar
  split
  · rename_i isTab
    obtain rfl := beq_iff_eq.1 isTab
    exact unescapes.decode_letter (by decide) rfl rest
  split
  · rename_i isBackslash
    obtain rfl := beq_iff_eq.1 isBackslash
    exact unescapes.decode_letter (by decide) rfl rest
  split
  · rename_i hidden
    have control : isControl c = true := by
      simp only [isHidden, Bool.and_eq_true] at hidden
      exact hidden.1
    exact unescapes.decode_escapeHidden control rest
  · rename_i notBackslash notHidden
    have visible : isControl c = false := isControl_eq_false (by simpa using notHidden) notBreak
    have unescaped : c ∉ ['"', '\\', '\n'] := by
      simp_all
    exact decode_emit (unescapes.plain c rest unescaped visible)

/-! ## Strings on one line -/

theorem decode_basicChar (c : Char) (rest : List Char) :
    decode basicMove () .plain (basicChar c ++ rest) =
      withOutput [c] (decode basicMove () .plain rest) := by
  unfold basicChar
  split
  · rename_i isQuote
    obtain rfl := beq_iff_eq.1 isQuote
    exact unescapes_basicMove.decode_letter (by decide) rfl rest
  split
  · rename_i isBreak
    obtain rfl := beq_iff_eq.1 isBreak
    exact unescapes_basicMove.decode_letter (by decide) rfl rest
  · rename_i notQuote notBreak
    exact unescapes_basicMove.decode_escapeChar (by simpa using notQuote) (by simpa using notBreak)
      rest

theorem decode_basic (cs rest : List Char) :
    decode basicMove () .plain (cs.flatMap basicChar ++ '"' :: rest) = .ok (cs, rest) := by
  induction cs with
  | nil => exact decode_stop rfl
  | cons c cs ih =>
      rw [List.flatMap_cons, List.append_assoc, decode_basicChar, ih]
      rfl

theorem decode_literal {cs : List Char} (visible : ∀ c ∈ cs, isControl c = false)
    (unquoted : '\'' ∉ cs) (rest : List Char) :
    decode literalMove () () (cs ++ '\'' :: rest) = .ok (cs, rest) := by
  induction cs with
  | nil => exact decode_stop rfl
  | cons c cs ih =>
      simp only [List.mem_cons, not_or] at unquoted
      have emits : literalMove () c (cs ++ '\'' :: rest) = .emit [c] () := by
        simp [literalMove, visible c, Ne.symm unquoted.1]
      rw [List.cons_append, decode_emit emits, ih (fun d member => visible d (by simp [member]))
        unquoted.2]
      rfl

/-! ## The end of a string between tripled quotes -/

/-- Quotes in a row, up to two of which belong to the string. -/
theorem closing?_run {q : Char} {more : List Char} (rest : List Char)
    (short : more = [] ∨ more = [q] ∨ more = [q, q]) (ends : rest.head? ≠ some q) :
    closing? q (more ++ q :: q :: rest) = some (more, rest) := by
  have none_ : [q].isPrefixOf? rest = none := by
    cases rest with
    | nil => rfl
    | cons c rest =>
        have differs : q ≠ c := fun same => ends (by rw [same]; rfl)
        simp [List.isPrefixOf?, differs]
  have noneBoth : [q, q].isPrefixOf? rest = none := by
    cases rest with
    | nil => rfl
    | cons c rest =>
        have differs : q ≠ c := fun same => ends (by rw [same]; rfl)
        simp [List.isPrefixOf?, differs]
  rcases short with rfl | rfl | rfl
  · simp [closing?, List.isPrefixOf?, none_, noneBoth]
  · simp [closing?, List.isPrefixOf?, none_]
  · simp [closing?, List.isPrefixOf?]

theorem closing?_eq_none {q : Char} {cs : List Char} (open_ : ¬ [q, q] <+: cs) :
    closing? q cs = none := by
  cases found : [q, q].isPrefixOf? cs with
  | none => simp [closing?, found]
  | some rest => exact absurd ⟨rest, List.isPrefixOf?_eq_some_iff_append_eq.1 found⟩ open_

/-- Behind a quote of a string comes the end, the end behind one more quote, or something else. -/
theorem quotes_behind {q : Char} {tail : List Char} (rest : List Char) (apart : ¬ [q, q] <+: tail) :
    (tail = [] ∨ tail = [q]) ∨ ¬ [q, q] <+: tail ++ q :: q :: q :: rest := by
  match tail, apart with
  | [], _ => exact .inl (.inl rfl)
  | [c], _ =>
      by_cases same : c = q
      · exact .inl (.inr (by rw [same]))
      · exact .inr (by simp [Ne.symm same])
  | c :: d :: tail, apart => exact .inr (by simpa using apart)

/-- The first of the closing quotes. -/
theorem closing?_first {q : Char} {rest : List Char} (ends : rest.head? ≠ some q) :
    closing? q (q :: q :: rest) = some ([], rest) :=
  closing?_run rest (.inl rfl) ends

/-- A quote right in front of the end of a string. -/
theorem closing?_last {q : Char} {tail rest : List Char} (last : tail = [] ∨ tail = [q])
    (ends : rest.head? ≠ some q) :
    closing? q (tail ++ q :: q :: q :: rest) = some (q :: tail, rest) := by
  rcases last with rfl | rfl
  · exact closing?_run rest (.inr (.inl rfl)) ends
  · exact closing?_run rest (.inr (.inr rfl)) ends

/-! ## Literal strings between tripled quotes -/

theorem not_isPrefix_of_not_hasLongRun {q : Char} {run : Nat} {cs : List Char} (few : run ≤ 2)
    (short : hasLongRun q run (q :: cs) = false) : ¬ [q, q] <+: cs := by
  rintro ⟨rest, rfl⟩
  have long : hasLongRun q run (q :: ([q, q] ++ rest)) = true := by
    simp only [hasLongRun, List.cons_append, beq_self_eq_true, if_true, Bool.or_eq_true, beq_iff_eq]
    omega
  rw [long] at short
  cases short

theorem decode_longLiteral {cs : List Char} (visible : ∀ c ∈ cs, isHidden c = false) {run : Nat}
    (few : run ≤ 2) (short : hasLongRun '\'' run cs = false) {rest : List Char}
    (ends : rest.head? ≠ some '\'') :
    decode longLiteralMove () () (cs ++ '\'' :: '\'' :: '\'' :: rest) = .ok (cs, rest) := by
  induction cs generalizing run with
  | nil =>
      refine decode_stop ?_
      simp [longLiteralMove, closing?_first ends]
  | cons c cs ih =>
      have visibleRest : ∀ d ∈ cs, isHidden d = false := fun d member => visible d (by simp [member])
      by_cases isQuote : c = '\''
      · subst isQuote
        have apart := not_isPrefix_of_not_hasLongRun few short
        rcases quotes_behind rest apart with last | goesOn
        · refine decode_stop ?_
          simp [longLiteralMove, closing?_last last ends]
        · have emits : longLiteralMove () '\'' (cs ++ '\'' :: '\'' :: '\'' :: rest) = .emit ['\''] () := by
            simp [longLiteralMove, closing?_eq_none goesOn]
          simp only [hasLongRun, beq_self_eq_true, if_true, Bool.or_eq_false_iff,
            beq_eq_false_iff_ne] at short
          rw [List.cons_append, decode_emit emits, ih visibleRest (by omega) short.2]
          rfl
      · have emits : longLiteralMove () c (cs ++ '\'' :: '\'' :: '\'' :: rest) = .emit [c] () := by
          by_cases isBreak : c = '\n'
          · simp [longLiteralMove, isBreak]
          · have notControl := isControl_eq_false (visible c (by simp)) isBreak
            have notReturn : c ≠ '\r' := by
              rintro rfl
              cases notControl
            simp [longLiteralMove, isQuote, isBreak, notReturn, notControl]
        have restShort : hasLongRun '\'' 0 cs = false := by
          simpa [hasLongRun, isQuote] using short
        rw [List.cons_append, decode_emit emits, ih visibleRest (by omega) restShort]
        rfl

/-! ## Basic strings between tripled quotes -/

/-- An escape starts with neither a quote nor a line break. -/
theorem head_escapeChar {c : Char} (notQuote : c ≠ '"') :
    ∃ d tail, escapeChar c = d :: tail ∧ d ≠ '"' ∧ d ≠ '\r' ∧ (c ≠ '\n' → d ≠ '\n') := by
  unfold escapeChar
  split
  · exact ⟨_, _, rfl, by decide, by decide, fun _ => by decide⟩
  split
  · exact ⟨_, _, rfl, by decide, by decide, fun _ => by decide⟩
  split
  · unfold escapeHidden
    repeat' split
    all_goals exact ⟨_, _, rfl, by decide, by decide, fun _ => by decide⟩
  · rename_i notHidden
    refine ⟨c, [], rfl, notQuote, ?_, id⟩
    rintro rfl
    exact notHidden (by decide)

theorem head?_longBasicChars (cs : List Char) : (longBasicChars 2 cs).head? ≠ some '"' := by
  cases cs with
  | nil => simp [longBasicChars]
  | cons c cs =>
      by_cases isQuote : c = '"'
      · simp [longBasicChars, isQuote]
      · obtain ⟨d, tail, escape, notQuote, -⟩ := head_escapeChar isQuote
        simp [longBasicChars, isQuote, escape, notQuote]

/-- Behind a quote, no two more follow. -/
theorem not_isPrefix_longBasicChars {run : Nat} (few : run < 2) (cs : List Char) :
    ¬ ['"', '"'] <+: longBasicChars (run + 1) cs := by
  cases cs with
  | nil => simp [longBasicChars]
  | cons c cs =>
      by_cases isQuote : c = '"'
      · by_cases second : run = 1
        · simp [longBasicChars, isQuote, second]
        · obtain rfl : run = 0 := by omega
          have third := head?_longBasicChars cs
          rintro ⟨rest, both⟩
          simp only [longBasicChars, isQuote, beq_self_eq_true, if_true] at both
          have tails : '"' :: rest = longBasicChars 2 cs := by simpa using both
          exact third (by rw [← tails]; rfl)
      · obtain ⟨d, tail, escape, notQuote, -⟩ := head_escapeChar isQuote
        simp [longBasicChars, isQuote, escape, Ne.symm notQuote]

theorem eq_nil_of_longBasicChars {run : Nat} {cs : List Char}
    (written : longBasicChars run cs = []) : cs = [] := by
  cases cs with
  | nil => rfl
  | cons c cs =>
      by_cases isQuote : c = '"'
      · by_cases third : run = 2
        · simp [longBasicChars, isQuote, third] at written
        · simp [longBasicChars, isQuote, third] at written
      · obtain ⟨d, tail, escape, -⟩ := head_escapeChar isQuote
        simp [longBasicChars, isQuote, escape] at written

/-- What is written as one quote or nothing is just that. -/
theorem longBasicChars_last {run : Nat} {cs : List Char}
    (last : longBasicChars run cs = [] ∨ longBasicChars run cs = ['"']) :
    longBasicChars run cs = cs := by
  rcases last with written | written
  · rw [written, eq_nil_of_longBasicChars written]
  cases cs with
  | nil => rfl
  | cons c cs =>
      by_cases isQuote : c = '"'
      · by_cases third : run = 2
        · simp [longBasicChars, isQuote, third] at written
        · have behind : longBasicChars (run + 1) cs = [] := by
            simpa [longBasicChars, isQuote, third] using written
          rw [written, isQuote, eq_nil_of_longBasicChars behind]
      · obtain ⟨d, tail, escape, notQuote, -⟩ := head_escapeChar isQuote
        simp [longBasicChars, isQuote, escape, notQuote] at written

theorem decode_longBasic (cs : List Char) {run : Nat} (few : run ≤ 2) {rest : List Char}
    (ends : rest.head? ≠ some '"') :
    decode longBasicMove () .plain (longBasicChars run cs ++ '"' :: '"' :: '"' :: rest) =
      .ok (cs, rest) := by
  induction cs generalizing run with
  | nil =>
      refine decode_stop ?_
      simp [longBasicMove, longPlainMove, closing?_first ends]
  | cons c cs ih =>
      by_cases isQuote : c = '"'
      · subst isQuote
        by_cases third : run = 2
        · have escaped : longBasicChars run ('"' :: cs) = '\\' :: '"' :: longBasicChars 0 cs := by
            simp [longBasicChars, third]
          rw [escaped, List.cons_append, List.cons_append,
            unescapes_longBasicMove.decode_letter (by decide) rfl, ih (by omega)]
          rfl
        · have bare : longBasicChars run ('"' :: cs) = '"' :: longBasicChars (run + 1) cs := by
            simp [longBasicChars, third]
          rw [bare, List.cons_append]
          have apart := not_isPrefix_longBasicChars (by omega : run < 2) cs
          rcases quotes_behind rest apart with last | goesOn
          · have same : longBasicChars (run + 1) cs = cs := longBasicChars_last last
            rw [same] at last ⊢
            refine decode_stop ?_
            simp [longBasicMove, longPlainMove, closing?_last last ends]
          · have emits : longBasicMove .plain '"'
                (longBasicChars (run + 1) cs ++ '"' :: '"' :: '"' :: rest) = .emit ['"'] .plain := by
              simp [longBasicMove, longPlainMove, closing?_eq_none goesOn]
            rw [decode_emit emits, ih (by omega)]
            rfl
      · have written : longBasicChars run (c :: cs) = escapeChar c ++ longBasicChars 0 cs := by
          simp [longBasicChars, isQuote]
        rw [written, List.append_assoc]
        by_cases isBreak : c = '\n'
        · subst isBreak
          rw [show escapeChar '\n' = ['\n'] by decide, List.singleton_append, decode_emit rfl,
            ih (by omega)]
          rfl
        · rw [unescapes_longBasicMove.decode_escapeChar isQuote isBreak, ih (by omega)]
          rfl

/-! ## Strings of every kind -/

theorem readWith_of_decode {σ : Type} {move : σ → Char → List Char → Move σ Unit} {state : σ}
    {cs out rest : List Char} (decoded : decode move () state cs = .ok (out, rest)) :
    readWith move state cs = some (String.ofList out, rest) := by
  rw [readWith, decoded]

/-- A quote that is not tripled opens a string on one line. -/
theorem readText?_eq_readLine? {q : Char} {tail : List Char} (apart : ¬ [q, q] <+: tail) :
    readText? (q :: tail) = readLine? (q :: tail) := by
  unfold readText?
  split
  · rename_i rest tripled
    obtain ⟨rfl, rfl⟩ := List.cons.inj tripled
    exact absurd ⟨rest, rfl⟩ apart
  · rename_i rest tripled
    obtain ⟨rfl, rfl⟩ := List.cons.inj tripled
    exact absurd ⟨rest, rfl⟩ apart
  · rfl

theorem not_isPrefix_of_head? {q : Char} {cs : List Char} (other : cs.head? ≠ some q) :
    ¬ [q, q] <+: cs := by
  rintro ⟨rest, rfl⟩
  exact other rfl

theorem head_basicChar (c : Char) : ∃ d tail, basicChar c = d :: tail ∧ d ≠ '"' := by
  unfold basicChar
  split
  · exact ⟨_, _, rfl, by decide⟩
  split
  · exact ⟨_, _, rfl, by decide⟩
  · rename_i notQuote _
    obtain ⟨d, tail, escape, other, -⟩ := head_escapeChar (by simpa using notQuote)
    exact ⟨d, tail, escape, other⟩

theorem readText?_writeBasic (cs : List Char) {rest : List Char} (ends : rest.head? ≠ some '"') :
    readText? (writeBasic cs ++ rest) = some (String.ofList cs, rest) := by
  have layout : writeBasic cs ++ rest = '"' :: (cs.flatMap basicChar ++ '"' :: rest) := by
    simp [writeBasic]
  have apart : ¬ ['"', '"'] <+: cs.flatMap basicChar ++ '"' :: rest := by
    cases cs with
    | nil =>
        rintro ⟨behind, both⟩
        exact ends (by rw [← (List.cons.inj both).2]; rfl)
    | cons c cs =>
        obtain ⟨d, tail, written, other⟩ := head_basicChar c
        exact not_isPrefix_of_head? (by simp [written, other])
  rw [layout, readText?_eq_readLine? apart]
  exact readWith_of_decode (decode_basic cs rest)

theorem readText?_writeLiteral {cs rest : List Char} (visible : ∀ c ∈ cs, isControl c = false)
    (unquoted : '\'' ∉ cs) (ends : rest.head? ≠ some '\'') :
    readText? (writeLiteral cs ++ rest) = some (String.ofList cs, rest) := by
  have layout : writeLiteral cs ++ rest = '\'' :: (cs ++ '\'' :: rest) := by
    simp [writeLiteral]
  have apart : ¬ ['\'', '\''] <+: cs ++ '\'' :: rest := by
    cases cs with
    | nil =>
        rintro ⟨behind, both⟩
        exact ends (by rw [← (List.cons.inj both).2]; rfl)
    | cons c cs =>
        refine not_isPrefix_of_head? ?_
        intro first
        exact unquoted (by simp [Option.some.inj first])
  rw [layout, readText?_eq_readLine? apart]
  exact readWith_of_decode (decode_literal visible unquoted rest)

/-- The line break that is written behind opening quotes is the one that does not count. -/
theorem dropFirstBreak_firstBreak {cs tail : List Char}
    (solid : '\n' ∉ cs → tail.head? ≠ some '\n' ∧ tail.head? ≠ some '\r') :
    dropFirstBreak (firstBreak cs ++ tail) = tail := by
  by_cases broken : '\n' ∈ cs
  · simp [firstBreak, broken, dropFirstBreak]
  · obtain ⟨notBreak, notReturn⟩ := solid broken
    rw [firstBreak, if_neg broken, List.nil_append]
    unfold dropFirstBreak
    split
    · exact absurd rfl notBreak
    · exact absurd rfl notReturn
    · rfl

theorem readText?_writeLongBasic (cs : List Char) {rest : List Char} (ends : rest.head? ≠ some '"') :
    readText? (writeLongBasic cs ++ rest) = some (String.ofList cs, rest) := by
  have layout : writeLongBasic cs ++ rest =
      '"' :: '"' :: '"' :: (firstBreak cs ++ (longBasicChars 0 cs ++ '"' :: '"' :: '"' :: rest)) := by
    simp [writeLongBasic]
  have solid : '\n' ∉ cs →
      (longBasicChars 0 cs ++ '"' :: '"' :: '"' :: rest).head? ≠ some '\n' ∧
        (longBasicChars 0 cs ++ '"' :: '"' :: '"' :: rest).head? ≠ some '\r' := by
    intro unbroken
    cases cs with
    | nil => simp [longBasicChars]
    | cons c cs =>
        by_cases isQuote : c = '"'
        · simp [longBasicChars, isQuote]
        · obtain ⟨d, tail, escape, -, notReturn, notBreak⟩ := head_escapeChar isQuote
          have other : d ≠ '\n' := notBreak fun same => unbroken (by simp [same])
          simp [longBasicChars, isQuote, escape, other, notReturn]
  rw [layout, readText?, dropFirstBreak_firstBreak solid]
  exact readWith_of_decode (decode_longBasic cs (by omega) ends)

theorem readText?_writeLongLiteral {cs rest : List Char} (visible : ∀ c ∈ cs, isHidden c = false)
    (short : hasLongRun '\'' 0 cs = false) (ends : rest.head? ≠ some '\'') :
    readText? (writeLongLiteral cs ++ rest) = some (String.ofList cs, rest) := by
  have layout : writeLongLiteral cs ++ rest =
      '\'' :: '\'' :: '\'' :: (firstBreak cs ++ (cs ++ '\'' :: '\'' :: '\'' :: rest)) := by
    simp [writeLongLiteral]
  have solid : '\n' ∉ cs →
      (cs ++ '\'' :: '\'' :: '\'' :: rest).head? ≠ some '\n' ∧
        (cs ++ '\'' :: '\'' :: '\'' :: rest).head? ≠ some '\r' := by
    intro unbroken
    cases cs with
    | nil => simp
    | cons c cs =>
        have notReturn : c ≠ '\r' := by
          rintro rfl
          cases visible '\r' (by simp)
        have notBreak : c ≠ '\n' := fun same => unbroken (by simp [same])
        simp [notReturn, notBreak]
  rw [layout, readText?, dropFirstBreak_firstBreak solid]
  exact readWith_of_decode (decode_longLiteral visible (by omega) short ends)

/-- **Written texts are read back**, with whatever stands behind them. -/
theorem readText?_writeText (text : String) {rest : List Char} (noDouble : rest.head? ≠ some '"')
    (noSingle : rest.head? ≠ some '\'') :
    readText? (writeText text ++ rest) = some (text, rest) := by
  suffices read : readText? (writeText text ++ rest) = some (String.ofList text.toList, rest) by
    rwa [String.ofList_toList] at read
  unfold writeText
  dsimp only
  split
  · exact readText?_writeBasic _ noDouble
  split
  · rename_i plain
    simp only [Bool.and_eq_true, decide_eq_true_eq, Bool.not_eq_true', decide_eq_false_iff_not,
      List.any_eq_false, Bool.not_eq_true] at plain
    obtain ⟨⟨visible, unbroken⟩, unquoted⟩ := plain
    refine readText?_writeLiteral (fun c member => isControl_eq_false (visible c member) ?_) unquoted
      noSingle
    rintro rfl
    exact unbroken member
  split
  · exact readText?_writeLongBasic _ noDouble
  split
  · rename_i plain
    simp only [Bool.and_eq_true, Bool.not_eq_true', List.any_eq_false, Bool.not_eq_true] at plain
    exact readText?_writeLongLiteral plain.1 plain.2 noSingle
  split
  · exact readText?_writeLongBasic _ noDouble
  · exact readText?_writeBasic _ noDouble

end Crosslink.Toml
