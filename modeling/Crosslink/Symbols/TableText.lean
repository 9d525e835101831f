/-
# Crosslink.Symbols.TableText — symbol tables as JSON text

A table is a JSON list of records. A record is written as an object with the
members `kind`, `scope` when it has one, `title` and `is_attribute`. Reading
takes members in any order, skips unknown ones, and defaults a missing scope to
none and a missing flag to false; a record may also be a list of the four values
in that order. The first fault in text order is the one reported.
-/
import Crosslink.Json.Scan
import Crosslink.Json.Value
import Crosslink.Symbols.Symbol

namespace Crosslink.Symbols

open Crosslink.Json

/-! ## Writing -/

def Symbol.value (s : Symbol) : Value :=
  .object ([("kind", .text s.kind.text)] ++
    (s.scope.map fun scope => ("scope", Value.text scope.text)).toList ++
    [("title", .text s.title), ("is_attribute", .bool s.isAttribute)])

/-- The compact text of a list of symbols. -/
def writeTable (symbols : List Symbol) : List Char := (Value.list (symbols.map Symbol.value)).compact

/-! ## Reading members -/

def kindChoices : String := "one of `module`, `class`, `constant`, `method`"

def scopeChoices : String := "`class` or `instance`"

/-- A name out of a fixed choice, from behind its opening quote. -/
def readChoice {α : Type} (ofText? : String → Option α) (choices : String) (cs : List Char) :
    Reading α :=
  match readQuoted cs with
  | .error fault => .error fault
  | .ok (name, rest) =>
    match ofText? name with
    | some a => .ok (a, rest)
    | none => .error (.mismatch (.unknownName name choices))

/-- The text behind a null. -/
def skipNull (cs : List Char) : Except Fault (List Char) :=
  match skipBlanks cs with
  | [] => .error .truncated
  | 'n' :: rest => skipWord "ull".toList rest
  | rest => .error (wrongType "unit" rest)

/-- A name out of a fixed choice: a literal, or an object whose only member has
that name and the value null. -/
def readName {α : Type} (ofText? : String → Option α) (choices : String) (cs : List Char) :
    Reading α :=
  match skipBlanks cs with
  | [] => .error .truncated
  | '"' :: rest => readChoice ofText? choices rest
  | '{' :: rest =>
    match skipBlanks rest with
    | [] => .error .truncated
    | '"' :: rest =>
      match readChoice ofText? choices rest with
      | .error fault => .error fault
      | .ok (a, rest) =>
        match skipColon rest >>= skipNull >>= endObject with
        | .ok rest => .ok (a, rest)
        | .error fault => .error fault
    | rest => .error (wrongType "variant identifier" rest)
  | _ => .error .malformed

def readKind (cs : List Char) : Reading SymbolKind := readName SymbolKind.ofText? kindChoices cs

def readScope (cs : List Char) : Reading (Option Scope) :=
  match skipBlanks cs with
  | 'n' :: rest => (skipWord "ull".toList rest).map fun rest => (none, rest)
  | rest => (readName Scope.ofText? scopeChoices rest).map fun (scope, rest) => (some scope, rest)

def readTitle (cs : List Char) : Reading String :=
  match skipBlanks cs with
  | [] => .error .truncated
  | '"' :: rest => readQuoted rest
  | rest => .error (wrongType "a string" rest)

def readFlag (cs : List Char) : Reading Bool :=
  match skipBlanks cs with
  | [] => .error .truncated
  | 't' :: rest => (skipWord "rue".toList rest).map fun rest => (true, rest)
  | 'f' :: rest => (skipWord "alse".toList rest).map fun rest => (false, rest)
  | rest => .error (wrongType "a boolean" rest)

/-! ## Reading records -/

/-- The members of a record read so far. -/
structure Draft where
  kind : Option SymbolKind := none
  scope : Option (Option Scope) := none
  title : Option String := none
  isAttribute : Option Bool := none

/-- The record of a draft, once its object has ended. -/
def Draft.finish (d : Draft) : Except Fault Symbol :=
  match d.kind, d.title with
  | none, _ => .error (.mismatch (.missingMember "kind"))
  | _, none => .error (.mismatch (.missingMember "title"))
  | some kind, some title => .ok ⟨kind, d.scope.getD none, title, d.isAttribute.getD false⟩

/-- A member that may stand once: `old` is what was read for it before. -/
def readOnce {α : Type} (name : String) (old : Option α) (read : List Char → Reading α)
    (cs : List Char) : Reading α :=
  if old.isSome then .error (.mismatch (.repeatedMember name)) else (skipColon cs).bind read

/-- The value of the member `name`, from behind that name. -/
def Draft.readMember (d : Draft) (name : String) (cs : List Char) : Reading Draft :=
  match name with
  | "kind" => (readOnce name d.kind readKind cs).map fun (a, rest) => ({ d with kind := a }, rest)
  | "scope" => (readOnce name d.scope readScope cs).map fun (a, rest) => ({ d with scope := a }, rest)
  | "title" => (readOnce name d.title readTitle cs).map fun (a, rest) => ({ d with title := a }, rest)
  | "is_attribute" =>
    (readOnce name d.isAttribute readFlag cs).map fun (a, rest) => ({ d with isAttribute := a }, rest)
  | _ => (skipColon cs >>= skipValue).map fun rest => (d, rest)

/-- The remaining members of a record and its closing brace. -/
def readMembers : (fuel : Nat) → (first : Bool) → Draft → List Char → Reading Symbol
  | 0, _, _, _ => .error .malformed
  | fuel + 1, first, draft, cs =>
    match nextMember? first cs with
    | .error fault => .error fault
    | .ok none =>
      match draft.finish, endObject cs with
      | .ok symbol, .ok rest => .ok (symbol, rest)
      | .error fault, _ => .error fault
      | _, .error fault => .error fault
    | .ok (some cs) =>
      match readQuoted cs with
      | .error fault => .error fault
      | .ok (name, cs) =>
        match draft.readMember name cs with
        | .error fault => .error fault
        | .ok (draft, cs) => readMembers fuel false draft cs

/-- The item that comes next in a record written as a list; `absent` when the
list ends here. -/
def readItem {α : Type} (first : Bool) (read : List Char → Reading α) (absent : Except Fault α)
    (cs : List Char) : Reading α :=
  match nextItem? first cs with
  | .error fault => .error fault
  | .ok none => absent.map fun a => (a, cs)
  | .ok (some cs) => read cs

def recordShape : String := "struct Symbol with 4 elements"

/-- A record written as a list, from behind its opening bracket. -/
def readRow (cs : List Char) : Except Fault (Symbol × List Char) := do
  let missing (n : Nat) : Fault := .mismatch (.wrongLength n recordShape)
  let (kind, cs) ← readItem true readKind (.error (missing 0)) cs
  let (scope, cs) ← readItem false readScope (.ok none) cs
  let (title, cs) ← readItem false readTitle (.error (missing 2)) cs
  let (isAttribute, cs) ← readItem false readFlag (.ok false) cs
  let rest ← endList cs
  return (⟨kind, scope, title, isAttribute⟩, rest)

def readRecord (cs : List Char) : Reading Symbol :=
  match skipBlanks cs with
  | [] => .error .truncated
  | '[' :: rest => readRow rest
  | '{' :: rest => readMembers (rest.length + 1) true {} rest
  | rest => .error (wrongType "struct Symbol" rest)

/-- The remaining records of a table and its closing bracket. -/
def readRecords : (fuel : Nat) → (first : Bool) → List Char → Reading (List Symbol)
  | 0, _, _ => .error .malformed
  | fuel + 1, first, cs =>
    match nextItem? first cs with
    | .error fault => .error fault
    | .ok none => (endList cs).map fun rest => ([], rest)
    | .ok (some cs) =>
      match readRecord cs with
      | .error fault => .error fault
      | .ok (symbol, cs) =>
        match readRecords fuel false cs with
        | .error fault => .error fault
        | .ok (symbols, rest) => .ok (symbol :: symbols, rest)

/-- The symbols of a table text. -/
def readTable (cs : List Char) : Except Fault (List Symbol) :=
  match skipBlanks cs with
  | [] => .error .truncated
  | '[' :: rest =>
    match readRecords (rest.length + 1) true rest with
    | .error fault => .error fault
    | .ok (symbols, rest) => if (skipBlanks rest).isEmpty then .ok symbols else .error .malformed
  | rest => .error (wrongType "a sequence" rest)

end Crosslink.Symbols
