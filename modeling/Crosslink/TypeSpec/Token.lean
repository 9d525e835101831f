/-
# Crosslink.TypeSpec.Token — the tokens of a type specifier

A type specifier is made of nine punctuation tokens and words. A word is a
longest run of characters that are neither blank nor punctuation; `=>` is one
token, and an `=` that no `>` follows is a token of its own. Blanks separate
words and are otherwise skipped, but no character is lost: a lexeme keeps the
blank run in front of it.

The text is read from its end, one character at a time: `Lexeme.push` puts a
character in front of lexemes already read. A word character joins a word that
starts right behind it, `=` joins a `>` right behind it, and a blank joins the
gap of the lexeme behind it.
-/
import Crosslink.Text.Blank
import Crosslink.Text.Bytes

namespace Crosslink.TypeSpec

open Crosslink.Text

inductive TokenKind where
  | openAngle
  | closeAngle
  | openParen
  | closeParen
  | openBrace
  | closeBrace
  | comma
  | arrow
  | equals
  | word
deriving DecidableEq, Repr, Inhabited

/-- How a message names a token. -/
def TokenKind.describe : TokenKind → String
  | .openAngle => "'<'"
  | .closeAngle => "'>'"
  | .openParen => "'('"
  | .closeParen => "')'"
  | .openBrace => "'\x7b'"
  | .closeBrace => "'\x7d'"
  | .comma => "','"
  | .arrow => "'=>'"
  | .equals => "'='"
  | .word => "identifier"

/-- Words and lone equals signs spell names. -/
def TokenKind.isName : TokenKind → Bool
  | .word => true
  | .equals => true
  | _ => false

/-- The token that a character is on its own. -/
def TokenKind.ofChar : Char → TokenKind
  | '<' => .openAngle
  | '>' => .closeAngle
  | '(' => .openParen
  | ')' => .closeParen
  | '{' => .openBrace
  | '}' => .closeBrace
  | ',' => .comma
  | '=' => .equals
  | _ => .word

/-- A token's text and the blanks in front of it. -/
structure Lexeme where
  kind : TokenKind
  gap : List Char
  text : List Char
deriving DecidableEq, Repr

/-- The lexemes of `c :: cs`, given those of `cs`. -/
def Lexeme.push (c : Char) (behind : List Lexeme) : List Lexeme :=
  if isBlank c then
    match behind with
    | [] => []
    | next :: rest => { next with gap := c :: next.gap } :: rest
  else
    let kind := TokenKind.ofChar c
    match kind, behind with
    | .word, ⟨.word, [], text⟩ :: rest => ⟨.word, [], c :: text⟩ :: rest
    | .equals, ⟨.closeAngle, [], text⟩ :: rest => ⟨.arrow, [], c :: text⟩ :: rest
    | _, _ => ⟨kind, [], [c]⟩ :: behind

/-- The lexemes of a text. -/
def lexemes (cs : List Char) : List Lexeme := cs.foldr Lexeme.push []

/-- A lexeme and the byte at which its text starts. -/
structure Token extends Lexeme where
  start : Nat
deriving DecidableEq, Repr

/-- The byte after the token's text. -/
def Token.stop (t : Token) : Nat := t.start + byteLength t.text

/-- Lexemes placed one after another from byte `position` on. -/
def locate (position : Nat) : List Lexeme → List Token
  | [] => []
  | l :: rest =>
    let start := position + byteLength l.gap
    ⟨l, start⟩ :: locate (start + byteLength l.text) rest

/-- The tokens of a text, in order. -/
def tokens (text : String) : List Token := locate 0 (lexemes text.toList)

end Crosslink.TypeSpec
