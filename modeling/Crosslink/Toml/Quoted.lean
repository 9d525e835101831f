/-
# Crosslink.Toml.Quoted — the four kinds of TOML strings

A basic string stands between double quotes and knows escapes; a literal string
stands between single quotes and knows none. Both also exist between tripled
quotes, where they may span lines: a line break right behind the opening quotes
does not count, one or two more quotes may stand right before the closing ones,
and in a basic string a backslash at the end of a line joins the lines.

`writeText` picks the plainest kind that shows a text without escapes, and falls
back to a basic string.
-/
import Crosslink.Text.Decoder
import Crosslink.Text.Hex

namespace Crosslink.Toml

open Crosslink.Text

/-- Control characters other than the tab. -/
def isControl (c : Char) : Bool := (c.toNat < 32 && c != '\t') || c.toNat == 127

/-! ## Reading -/

inductive QuoteState where
  | plain
  /-- Behind a backslash. -/
  | escape
  /-- Inside a numeric escape: digits still wanted, and the value so far. -/
  | hex (wanted value : Nat)
  /-- Behind a backslash that joins lines, before and after the line break. -/
  | join (broken : Bool)

/-- The character that a backslash and `c` stand for. -/
def unescape? (c : Char) : Option Char :=
  match c with
  | 'b' => some (Char.ofNat 8)
  | 't' => some '\t'
  | 'n' => some '\n'
  | 'f' => some (Char.ofNat 12)
  | 'r' => some '\r'
  | 'e' => some (Char.ofNat 27)
  | '"' => some '"'
  | '\\' => some '\\'
  | _ => none

/-- The number of digits of a numeric escape. -/
def hexLength? (c : Char) : Option Nat :=
  match c with
  | 'x' => some 2
  | 'u' => some 4
  | 'U' => some 8
  | _ => none

/-- Behind the backslash of an escape. -/
def escapeMove (c : Char) : Move QuoteState Unit :=
  match unescape? c, hexLength? c with
  | some d, _ => .emit [d] .plain
  | none, some n => .emit [] (.hex n 0)
  | none, none => .fail ()

/-- One digit of a numeric escape; the value must be that of a character. -/
def hexMove (wanted value : Nat) (c : Char) : Move QuoteState Unit :=
  match hexValue? c with
  | none => .fail ()
  | some d =>
    let n := 16 * value + d
    if wanted != 1 then .emit [] (.hex (wanted - 1) n)
    else if n.isValidChar then .emit [Char.ofNat n] .plain
    else .fail ()

def basicMove (state : QuoteState) (c : Char) (rest : List Char) : Move QuoteState Unit :=
  match state with
  | .escape => escapeMove c
  | .hex wanted value => hexMove wanted value c
  | _ =>
    if c == '"' then .stop [] rest
    else if c == '\\' then .emit [] .escape
    else if isControl c then .fail ()
    else .emit [c] .plain

def literalMove (_ : Unit) (c : Char) (rest : List Char) : Move Unit Unit :=
  if c == '\'' then .stop [] rest
  else if isControl c then .fail ()
  else .emit [c] ()

/-- The end of a string between tripled quotes, at the first of them: up to two
quotes more belong to the string. -/
def closing? (quote : Char) (rest : List Char) : Option (List Char × List Char) :=
  match [quote, quote].isPrefixOf? rest with
  | none => none
  | some rest =>
    match [quote, quote].isPrefixOf? rest, [quote].isPrefixOf? rest with
    | some rest, _ => some ([quote, quote], rest)
    | none, some rest => some ([quote], rest)
    | none, none => some ([], rest)

/-- A character of a basic string between tripled quotes; a line break is a
newline whether or not a carriage return comes before it. -/
def longPlainMove (c : Char) (rest : List Char) : Move QuoteState Unit :=
  if c == '"' then
    match closing? '"' rest with
    | some (more, rest) => .stop more rest
    | none => .emit [c] .plain
  else if c == '\\' then .emit [] .escape
  else if c == '\n' then .emit [c] .plain
  else if c == '\r' && rest.head? == some '\n' then .emit [] .plain
  else if isControl c then .fail ()
  else .emit [c] .plain

/-- `c` is a blank, or starts a line break. -/
def isFiller (c : Char) (rest : List Char) : Bool :=
  c == ' ' || c == '\t' || c == '\n' || (c == '\r' && rest.head? == some '\n')

def longBasicMove (state : QuoteState) (c : Char) (rest : List Char) : Move QuoteState Unit :=
  match state with
  | .plain => longPlainMove c rest
  | .escape => if isFiller c rest then .emit [] (.join (c == '\n')) else escapeMove c
  | .hex wanted value => hexMove wanted value c
  | .join broken =>
    if isFiller c rest then .emit [] (.join (broken || c == '\n'))
    else if broken then longPlainMove c rest
    else .fail ()

def longLiteralMove (_ : Unit) (c : Char) (rest : List Char) : Move Unit Unit :=
  if c == '\'' then
    match closing? '\'' rest with
    | some (more, rest) => .stop more rest
    | none => .emit [c] ()
  else if c == '\n' || (c == '\r' && rest.head? == some '\n') then .emit [c] ()
  else if isControl c then .fail ()
  else .emit [c] ()

/-- A line break right behind opening quotes does not count. -/
def dropFirstBreak : List Char → List Char
  | '\n' :: rest => rest
  | '\r' :: '\n' :: rest => rest
  | cs => cs

/-- A decoded string and the text behind it. -/
def readWith {σ : Type} (move : σ → Char → List Char → Move σ Unit) (state : σ) (cs : List Char) :
    Option (String × List Char) :=
  match decode move () state cs with
  | .ok (text, rest) => some (String.ofList text, rest)
  | .error _ => none

/-- A string on one line, from its opening quote. -/
def readLine? : List Char → Option (String × List Char)
  | '"' :: rest => readWith basicMove .plain rest
  | '\'' :: rest => readWith literalMove () rest
  | _ => none

/-- A string of any kind, from its opening quotes. -/
def readText? : List Char → Option (String × List Char)
  | '"' :: '"' :: '"' :: rest => readWith longBasicMove .plain (dropFirstBreak rest)
  | '\'' :: '\'' :: '\'' :: rest => readWith longLiteralMove () (dropFirstBreak rest)
  | cs => readLine? cs

/-! ## Writing -/

/-- More than two `quote` in a row; `run` of them stand right before. -/
def hasLongRun (quote : Char) (run : Nat) : List Char → Bool
  | [] => false
  | c :: cs =>
    if c == quote then run == 2 || hasLongRun quote (run + 1) cs else hasLongRun quote 0 cs

/-- A control character other than a line break. -/
def isHidden (c : Char) : Bool := isControl c && c != '\n'

/-- A control character as an escape. -/
def escapeHidden (c : Char) : List Char :=
  if c.toNat == 8 then ['\\', 'b']
  else if c.toNat == 12 then ['\\', 'f']
  else if c.toNat == 13 then ['\\', 'r']
  else
    let digit (n : Nat) : Char := (hexDigit n).toUpper
    ['\\', 'u', '0', '0', digit (c.toNat / 16), digit (c.toNat % 16)]

/-- One character of a basic string, without quotes and line breaks. -/
def escapeChar (c : Char) : List Char :=
  if c == '\t' then ['\\', 't']
  else if c == '\\' then ['\\', '\\']
  else if isHidden c then escapeHidden c
  else [c]

def basicChar (c : Char) : List Char :=
  if c == '"' then ['\\', '"']
  else if c == '\n' then ['\\', 'n']
  else escapeChar c

/-- The inside of a basic string between tripled quotes: of quotes in a row
every third is escaped. `run` quotes stand right before. -/
def longBasicChars (run : Nat) : List Char → List Char
  | [] => []
  | c :: cs =>
    if c == '"' then
      if run == 2 then '\\' :: '"' :: longBasicChars 0 cs else '"' :: longBasicChars (run + 1) cs
    else escapeChar c ++ longBasicChars 0 cs

/-- The line break behind opening quotes, when the text has one itself. -/
def firstBreak (cs : List Char) : List Char := if '\n' ∈ cs then ['\n'] else []

def writeBasic (cs : List Char) : List Char := '"' :: cs.flatMap basicChar ++ ['"']

def writeLiteral (cs : List Char) : List Char := '\'' :: cs ++ ['\'']

def writeLongBasic (cs : List Char) : List Char :=
  ['"', '"', '"'] ++ firstBreak cs ++ longBasicChars 0 cs ++ ['"', '"', '"']

def writeLongLiteral (cs : List Char) : List Char :=
  ['\'', '\'', '\''] ++ firstBreak cs ++ cs ++ ['\'', '\'', '\'']

/-- A text as a string, in the first kind that fits. -/
def writeText (text : String) : List Char :=
  let cs := text.toList
  let hidden := cs.any isHidden
  let broken := '\n' ∈ cs
  if !hidden && !broken && '\\' ∉ cs && '"' ∉ cs then writeBasic cs
  else if !hidden && !broken && '\'' ∉ cs then writeLiteral cs
  else if !hidden && '\\' ∉ cs && !hasLongRun '"' 0 cs then writeLongBasic cs
  else if !hidden && !hasLongRun '\'' 0 cs then writeLongLiteral cs
  else if broken then writeLongBasic cs
  else writeBasic cs

/-- Texts as a list: on one line up to one item, else one line an item. -/
def writeTexts : List String → List Char
  | [] => ['[', ']']
  | [text] => '[' :: writeText text ++ [']']
  | texts =>
    '[' :: '\n' :: (texts.flatMap fun text => "    ".toList ++ writeText text ++ [',', '\n']) ++ [']']

end Crosslink.Toml
