/-
# Crosslink.TypeSpec.Reader — reading the outline of a type specifier

The grammar, over tokens:

    list  ::= type ("," type)*
    type  ::= name | name "<" list ">" | name "<" list "=>" list ">"
            | name "(" list ")" | name "{" list "=>" list "}"
            | "<" list ">" | "(" list ")"
    name  ::= (word | "=")+

A bracket without a name stands for the default collection. A named `<list>`
is ordered when the name is a tuple marker; otherwise it is a mapping when the
name is a mapping type and the list has exactly two elements; otherwise it is a
plain collection. At most `maxDepth` brackets may be open at once.

The reader takes one token at a time. Its state is the stack of open brackets,
the phrases of the innermost list read so far, and whether a type must start, a
name is being read, or a type has just ended. It stops at the first token that
no specifier could have there, so every fault is at the earliest place.
-/
import Crosslink.TypeSpec.Token
import Crosslink.TypeSpec.Phrase

namespace Crosslink.TypeSpec

open Crosslink.Text

/-- The names with a reading of their own, and the name of a bare bracket. -/
structure Options where
  mappingTypes : List String := ["Hash"]
  tupleMarkers : List String := ["Tuple"]
  defaultCollection : String := "Array"
deriving DecidableEq, Repr, Inhabited

/-- The most brackets that may be open at once. -/
def maxDepth : Nat := 64

/-! ## Faults -/

/-- Why a text is no type specifier. A missing token means the text ended. -/
inductive Cause where
  | noType (found : Option TokenKind)
  | unexpected (wanted : TokenKind) (found : Option TokenKind)
  | afterType (found : TokenKind)
  | tooDeep
  /-- A node of the outline has a label that stands for nothing. -/
  | noKind (label : OutlineLabel)
  /-- A node of the outline has no child at `index`. -/
  | missingChild (label : OutlineLabel) (index : Nat)
deriving DecidableEq, Repr

/-- How a message names what was found. -/
def describeFound : Option TokenKind → String
  | some kind => kind.describe
  | none => "end of input"

def Cause.message : Cause → String
  | .noType found => "expected a type, found " ++ describeFound found
  | .unexpected wanted found => "expected " ++ wanted.describe ++ ", found " ++ describeFound found
  | .afterType found => "unexpected " ++ found.describe ++ " after type"
  | .tooDeep => "type specifier nested too deeply"
  | .noKind label => "no node kind registered for rule " ++ label.text
  | .missingChild label index => label.text ++ " is missing child " ++ toString index

/-- A cause and the byte it is reported at. -/
structure Fault where
  cause : Cause
  offset : Nat
deriving DecidableEq, Repr

/-- A fault and the text it is about. -/
structure ParseError extends Fault where
  input : String
deriving DecidableEq, Repr

def ParseError.message (e : ParseError) : String :=
  "cannot parse type specifier '" ++ e.input ++ "': " ++ e.cause.message ++
    " (offset " ++ toString e.offset ++ ")"

/-! ## The reading state -/

/-- What has been opened, and with it what may close it. -/
inductive Bracket where
  /-- `<`, before any arrow. -/
  | angle (named : Bool)
  /-- `(`. -/
  | paren
  /-- A brace, before its arrow. -/
  | brace
  /-- The values of a mapping whose keys have been read. -/
  | values (keys : List Phrase) (closer : TokenKind)

/-- The token that may end the list inside the bracket, besides a comma. -/
def Bracket.wanted : Bracket → TokenKind
  | .angle _ => .closeAngle
  | .paren => .closeParen
  | .brace => .arrow
  | .values _ closer => closer

/-- An open bracket: the type it belongs to, and the phrases that stand before
that type in its own list, last first. -/
structure Level where
  bracket : Bracket
  offset : Nat
  name : String
  before : List Phrase

inductive Mode where
  /-- A type must start here. -/
  | wantType
  /-- A name that starts at `start` is being read; its text so far, last character first. -/
  | naming (start : Nat) (read : List Char)
  /-- A type has ended. -/
  | complete

/-- The open brackets, innermost first; the phrases of the innermost list, last
first; and what may come next. -/
structure State where
  levels : List Level
  items : List Phrase
  mode : Mode

def State.initial : State := ⟨[], [], .wantType⟩

/-- Opens a bracket of the type that starts at `offset`. -/
def State.enter (s : State) (offset : Nat) (name : String) (bracket : Bracket) :
    Except Fault State :=
  if s.levels.length < maxDepth then
    .ok ⟨⟨bracket, offset, name, s.items⟩ :: s.levels, [], .wantType⟩
  else .error ⟨.tooDeep, offset⟩

/-- The state in which the name being read, if any, has become a type. -/
def State.settle (s : State) : State :=
  match s.mode with
  | .naming start read => ⟨s.levels, .basic start (String.ofList read.reverse) :: s.items, .complete⟩
  | _ => s

/-- The reading of a named angle bracket without an arrow. -/
def Options.angled (opts : Options) (offset : Nat) (name : String) (items : List Phrase) : Phrase :=
  if name ∈ opts.tupleMarkers then .collection offset name items true
  else
    match items with
    | [key, value] =>
      if name ∈ opts.mappingTypes then .mapping offset name [key] [value]
      else .collection offset name items false
    | _ => .collection offset name items false

/-- Takes the token after a complete type. -/
def State.follow (opts : Options) (s : State) (kind : TokenKind) (start : Nat) :
    Except Fault State :=
  if kind = .comma then .ok { s with mode := .wantType }
  else
    match s.levels with
    | [] => .error ⟨.afterType kind, start⟩
    | level :: outer =>
      let items := s.items.reverse
      let turn (closer : TokenKind) : State :=
        ⟨{ level with bracket := .values items closer } :: outer, [], .wantType⟩
      let leave (phrase : Phrase) : State := ⟨outer, phrase :: level.before, .complete⟩
      match level.bracket, kind with
      | .angle true, .arrow => .ok (turn .closeAngle)
      | .brace, .arrow => .ok (turn .closeBrace)
      | .angle true, .closeAngle => .ok (leave (opts.angled level.offset level.name items))
      | .angle false, .closeAngle => .ok (leave (.collection level.offset level.name items false))
      | .paren, .closeParen => .ok (leave (.collection level.offset level.name items true))
      | .values keys closer, kind =>
        if kind = closer then .ok (leave (.mapping level.offset level.name keys items))
        else .error ⟨.unexpected closer (some kind), start⟩
      | bracket, kind => .error ⟨.unexpected bracket.wanted (some kind), start⟩

/-- Takes one token. -/
def State.step (opts : Options) (s : State) (t : Token) : Except Fault State :=
  match s.mode with
  | .wantType =>
    match t.kind with
    | .openParen => s.enter t.start opts.defaultCollection .paren
    | .openAngle => s.enter t.start opts.defaultCollection (.angle false)
    | kind =>
      if kind.isName then .ok { s with mode := .naming t.start t.text.reverse }
      else .error ⟨.noType (some kind), t.start⟩
  | .naming start read =>
    let name := String.ofList read.reverse
    match t.kind with
    | .openAngle => s.enter start name (.angle true)
    | .openParen => s.enter start name .paren
    | .openBrace => s.enter start name .brace
    | kind =>
      if kind.isName then
        .ok { s with mode := .naming start (t.text.reverse ++ (t.gap.reverse ++ read)) }
      else s.settle.follow opts kind t.start
  | .complete => s.follow opts t.kind t.start

/-- The phrases of the whole text, once it has ended at byte `stop`. -/
def State.finish (s : State) (stop : Nat) : Except Fault (List Phrase) :=
  match s.mode with
  | .wantType => .error ⟨.noType none, stop⟩
  | _ =>
    match s.levels with
    | [] => .ok s.settle.items.reverse
    | level :: _ => .error ⟨.unexpected level.bracket.wanted none, stop⟩

/-- Reads all tokens of a text that is `stop` bytes long. -/
def readTokens (opts : Options) (stop : Nat) (ts : List Token) : Except Fault (List Phrase) :=
  (ts.foldlM (State.step opts) .initial).bind fun s => s.finish stop

/-! ## Reading texts -/

/-- The phrases of a text; a blank text has none. -/
def phrases (opts : Options) (text : String) : Except ParseError (List Phrase) :=
  match tokens text with
  | [] => .ok []
  | ts => (readTokens opts (byteLength text.toList) ts).mapError fun fault => ⟨fault, text⟩

/-- The outline of a text; a blank text has none. -/
def outline (opts : Options) (text : String) : Except ParseError (Option Outline) :=
  (phrases opts text).map fun ps => (Phrase.outlineList ps).head?

end Crosslink.TypeSpec
