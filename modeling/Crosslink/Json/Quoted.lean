/-
# Crosslink.Json.Quoted — JSON string literals

`quote` writes a literal: quotes, backslashes and control characters are
escaped, everything else stands for itself. `readQuoted` reads the inside of a
literal behind its opening quote; characters above U+FFFF may be written as two
escapes, a leading and a trailing surrogate. A literal that is only skipped may
hold any `\u` escape; one that is decoded must pair its surrogates.
-/
import Crosslink.Json.Fault
import Crosslink.Text.Bytes
import Crosslink.Text.Decoder
import Crosslink.Text.Hex

namespace Crosslink.Json

open Crosslink.Text

/-! ## Writing -/

/-- One character inside a literal. -/
def escapeChar (c : Char) : List Char :=
  if c == '"' then ['\\', '"']
  else if c == '\\' then ['\\', '\\']
  else if c.toNat == 8 then ['\\', 'b']
  else if c.toNat == 9 then ['\\', 't']
  else if c.toNat == 10 then ['\\', 'n']
  else if c.toNat == 12 then ['\\', 'f']
  else if c.toNat == 13 then ['\\', 'r']
  else if c.toNat < 32 then
    ['\\', 'u', '0', '0', hexDigit (c.toNat / 16), hexDigit (c.toNat % 16)]
  else [c]

/-- `text` as a literal. -/
def quote (text : String) : List Char := '"' :: text.toList.flatMap escapeChar ++ ['"']

/-! ## Reading -/

inductive QuoteState where
  | plain
  /-- Behind a backslash. -/
  | escape
  /-- Inside a `\u` escape: digits read, their value, and the leading surrogate
  that came before it. -/
  | hex (digits value : Nat) (lead : Option Nat)
  /-- Behind a leading surrogate, where the next escape must start. -/
  | wantEscape (lead : Nat)
  /-- Behind the backslash of that escape. -/
  | wantHex (lead : Nat)

/-- The character that a backslash and `c` stand for. -/
def unescape? (c : Char) : Option Char :=
  match c with
  | '"' => some '"'
  | '\\' => some '\\'
  | '/' => some '/'
  | 'b' => some (Char.ofNat 8)
  | 'f' => some (Char.ofNat 12)
  | 'n' => some '\n'
  | 'r' => some '\r'
  | 't' => some '\t'
  | _ => none

def isLeadSurrogate (n : Nat) : Bool := 0xd800 ≤ n && n ≤ 0xdbff

def isTrailSurrogate (n : Nat) : Bool := 0xdc00 ≤ n && n ≤ 0xdfff

/-- The end of a `\u` escape with value `n`. -/
def endHex (paired : Bool) (n : Nat) (lead : Option Nat) : Move QuoteState Fault :=
  if !paired then .emit [] .plain
  else
    match lead with
    | none =>
      if isTrailSurrogate n then .fail .malformed
      else if isLeadSurrogate n then .emit [] (.wantEscape n)
      else .emit [Char.ofNat n] .plain
    | some high =>
      if isTrailSurrogate n then
        .emit [Char.ofNat ((high - 0xd800) * 1024 + (n - 0xdc00) + 0x10000)] .plain
      else .fail .malformed

/-- One character inside a literal, `rest` behind it. A `\u` escape needs four
more bytes; with fewer the text ends too early. -/
def quoteMove (paired : Bool) (state : QuoteState) (c : Char) (rest : List Char) :
    Move QuoteState Fault :=
  match state with
  | .plain =>
    if c == '"' then .stop [] rest
    else if c == '\\' then .emit [] .escape
    else if c.toNat < 32 then .fail .malformed
    else .emit [c] .plain
  | .escape =>
    match unescape? c with
    | some d => .emit [d] .plain
    | none => if c == 'u' then .emit [] (.hex 0 0 none) else .fail .malformed
  | .hex digits value lead =>
    match hexValue? c with
    | some d =>
      if digits == 3 then endHex paired (16 * value + d) lead
      else .emit [] (.hex (digits + 1) (16 * value + d) lead)
    | none =>
      if digits + byteLength ((c :: rest).take 4) < 4 then .fail .truncated else .fail .malformed
  | .wantEscape lead => if c == '\\' then .emit [] (.wantHex lead) else .fail .malformed
  | .wantHex lead => if c == 'u' then .emit [] (.hex 0 0 (some lead)) else .fail .malformed

/-- The text of a literal, from behind its opening quote. -/
def readQuoted (cs : List Char) : Reading String :=
  match decode (quoteMove true) .truncated .plain cs with
  | .ok (text, rest) => .ok (String.ofList text, rest)
  | .error fault => .error fault

/-- The text behind a literal, from behind its opening quote. -/
def skipQuoted (cs : List Char) : Except Fault (List Char) :=
  (decode (quoteMove false) .truncated .plain cs).map fun (_, rest) => rest

end Crosslink.Json
