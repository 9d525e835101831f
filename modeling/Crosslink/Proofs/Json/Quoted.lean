/-
# Crosslink.Proofs.Json.Quoted — literals are read back

Decoding goes on behind an escaped character with that character in front of
its output (`decode_escapeChar`), so a written literal is read as the text it
was written from (`readQuoted_literal`).
-/
import Crosslink.Json.Quoted
import Crosslink.Proofs.Text.Decoder

namespace Crosslink.Json

open Crosslink.Text

set_option autoImplicit false

/-! ## One step -/

theorem decode_backslash (cs : List Char) :
    decode (quoteMove true) .truncated .plain ('\\' :: cs) =
      decode (quoteMove true) .truncated .escape cs := by
  have move : quoteMove true .plain '\\' cs = .emit [] .escape := rfl
  exact decode_silent move

theorem decode_escape {c d : Char} (escaped : unescape? c = some d) (cs : List Char) :
    decode (quoteMove true) .truncated .plain ('\\' :: c :: cs) =
      withOutput [d] (decode (quoteMove true) .truncated .plain cs) := by
  have move : quoteMove true .escape c cs = .emit [d] .plain := by
    simp [quoteMove, escaped]
  rw [decode_backslash, decode_emit move]

theorem hexValue?_hexDigit : ∀ n < 16, hexValue? (hexDigit n) = some n := by
  decide

theorem decode_hexDigit {digits value n : Nat} (early : digits < 3) (small : n < 16)
    (cs : List Char) :
    decode (quoteMove true) .truncated (.hex digits value none) (hexDigit n :: cs) =
      decode (quoteMove true) .truncated (.hex (digits + 1) (16 * value + n) none) cs := by
  have notLast : digits ≠ 3 := by omega
  have move : quoteMove true (.hex digits value none) (hexDigit n) cs =
      .emit [] (.hex (digits + 1) (16 * value + n) none) := by
    simp [quoteMove, hexValue?_hexDigit n small, notLast]
  exact decode_silent move

/-- The last digit of an escape for a control character. -/
theorem decode_lastHexDigit {value n : Nat} (small : n < 16) (control : 16 * value + n < 32)
    (cs : List Char) :
    decode (quoteMove true) .truncated (.hex 3 value none) (hexDigit n :: cs) =
      withOutput [Char.ofNat (16 * value + n)] (decode (quoteMove true) .truncated .plain cs) := by
  have notTrail : isTrailSurrogate (16 * value + n) = false := by
    simp only [isTrailSurrogate, Bool.and_eq_false_imp, decide_eq_true_eq, decide_eq_false_iff_not]
    omega
  have notLead : isLeadSurrogate (16 * value + n) = false := by
    simp only [isLeadSurrogate, Bool.and_eq_false_imp, decide_eq_true_eq, decide_eq_false_iff_not]
    omega
  have move : quoteMove true (.hex 3 value none) (hexDigit n) cs =
      .emit [Char.ofNat (16 * value + n)] .plain := by
    simp [quoteMove, hexValue?_hexDigit n small, endHex, notTrail, notLead]
  exact decode_emit move

/-! ## Characters -/

theorem decode_control {c : Char} (control : c.toNat < 32) (cs : List Char) :
    decode (quoteMove true) .truncated .plain
        ('\\' :: 'u' :: '0' :: '0' :: hexDigit (c.toNat / 16) :: hexDigit (c.toNat % 16) :: cs) =
      withOutput [c] (decode (quoteMove true) .truncated .plain cs) := by
  have start : ∀ rest, quoteMove true .escape 'u' rest = .emit [] (.hex 0 0 none) := fun _ => rfl
  have zero : '0' = hexDigit 0 := by decide
  have value : 16 * (c.toNat / 16) + c.toNat % 16 = c.toNat := by omega
  rw [decode_backslash, decode_silent (start _), zero,
    decode_hexDigit (by omega) (by omega), decode_hexDigit (by omega) (by omega),
    decode_hexDigit (by omega) (by omega), decode_lastHexDigit (by omega) (by omega)]
  rw [show 16 * (16 * (16 * 0 + 0) + 0) + c.toNat / 16 = c.toNat / 16 by omega, value,
    Char.ofNat_toNat]

theorem eq_of_toNat_eq {c d : Char} (same : c.toNat = d.toNat) : c = d := by
  rw [← Char.ofNat_toNat c, same, Char.ofNat_toNat]

/-- An escaped character is decoded as that character. -/
theorem decode_escapeChar (c : Char) (cs : List Char) :
    decode (quoteMove true) .truncated .plain (escapeChar c ++ cs) =
      withOutput [c] (decode (quoteMove true) .truncated .plain cs) := by
  unfold escapeChar
  by_cases isQuote : c = '"'
  · subst isQuote
    exact decode_escape rfl cs
  by_cases isBackslash : c = '\\'
  · subst isBackslash
    exact decode_escape rfl cs
  by_cases isBackspace : c.toNat = 8
  · obtain rfl : c = Char.ofNat 8 := eq_of_toNat_eq isBackspace
    exact decode_escape rfl cs
  by_cases isTab : c.toNat = 9
  · obtain rfl : c = '\t' := eq_of_toNat_eq isTab
    exact decode_escape rfl cs
  by_cases isNewLine : c.toNat = 10
  · obtain rfl : c = '\n' := eq_of_toNat_eq isNewLine
    exact decode_escape rfl cs
  by_cases isFormFeed : c.toNat = 12
  · obtain rfl : c = Char.ofNat 12 := eq_of_toNat_eq isFormFeed
    exact decode_escape rfl cs
  by_cases isReturn : c.toNat = 13
  · obtain rfl : c = '\r' := eq_of_toNat_eq isReturn
    exact decode_escape rfl cs
  simp only [beq_iff_eq, isQuote, isBackslash, isBackspace, isTab, isNewLine, isFormFeed, isReturn,
    if_false]
  by_cases control : c.toNat < 32
  · rw [if_pos control]
    exact decode_control control cs
  · rw [if_neg control]
    have move : quoteMove true .plain c cs = .emit [c] .plain := by
      simp [quoteMove, isQuote, isBackslash, control]
    exact decode_emit move

theorem decode_flatMap_escapeChar (text rest : List Char) :
    decode (quoteMove true) .truncated .plain (text.flatMap escapeChar ++ '"' :: rest) =
      .ok (text, rest) := by
  induction text with
  | nil => rfl
  | cons c text ih =>
      rw [List.flatMap_cons, List.append_assoc, decode_escapeChar, ih]
      rfl

theorem quote_append (text : String) (rest : List Char) :
    quote text ++ rest = '"' :: (text.toList.flatMap escapeChar ++ '"' :: rest) := by
  simp [quote]

/-- **A written literal is read back.** -/
theorem readQuoted_literal (text : String) (rest : List Char) :
    readQuoted (text.toList.flatMap escapeChar ++ '"' :: rest) = .ok (text, rest) := by
  rw [readQuoted, decode_flatMap_escapeChar]
  simp

end Crosslink.Json
