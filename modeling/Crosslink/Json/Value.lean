/-
# Crosslink.Json.Value — values and their two layouts

The JSON values this library writes: texts, truth values, lists and objects
whose members keep their order. `compact` writes a value without any blank;
`pretty` puts every item and member on a line of its own, indented by two
spaces a level, and writes an empty list or object as two brackets.
-/
import Crosslink.Json.Quoted

namespace Crosslink.Json

inductive Value where
  | text (value : String)
  | bool (value : Bool)
  | list (items : List Value)
  | object (members : List (String × Value))
deriving Inhabited, Repr

namespace Value

def boolText (b : Bool) : List Char := if b then "true".toList else "false".toList

/-! ## Without blanks -/

mutual

def compact : Value → List Char
  | .text value => quote value
  | .bool value => boolText value
  | .list items => '[' :: compactItems items ++ [']']
  | .object members => '{' :: compactMembers members ++ ['}']

def compactItems : List Value → List Char
  | [] => []
  | [v] => compact v
  | v :: vs => compact v ++ ',' :: compactItems vs

def compactMembers : List (String × Value) → List Char
  | [] => []
  | [(name, v)] => quote name ++ ':' :: compact v
  | (name, v) :: rest => quote name ++ ':' :: compact v ++ ',' :: compactMembers rest

end

/-! ## One line an item -/

/-- The start of a line at a level of nesting. -/
def newLine (level : Nat) : List Char := '\n' :: List.replicate (2 * level) ' '

mutual

/-- The layout of a value that stands at `level`. -/
def layout (level : Nat) : Value → List Char
  | .text value => quote value
  | .bool value => boolText value
  | .list [] => ['[', ']']
  | .list items => '[' :: layoutItems (level + 1) items ++ newLine level ++ [']']
  | .object [] => ['{', '}']
  | .object members => '{' :: layoutMembers (level + 1) members ++ newLine level ++ ['}']

def layoutItems (level : Nat) : List Value → List Char
  | [] => []
  | [v] => newLine level ++ layout level v
  | v :: vs => newLine level ++ layout level v ++ ',' :: layoutItems level vs

def layoutMembers (level : Nat) : List (String × Value) → List Char
  | [] => []
  | [(name, v)] => newLine level ++ quote name ++ ':' :: ' ' :: layout level v
  | (name, v) :: rest =>
    newLine level ++ quote name ++ ':' :: ' ' :: layout level v ++ ',' :: layoutMembers level rest

end

def pretty (v : Value) : List Char := layout 0 v

end Value

end Crosslink.Json
