/-
# Crosslink.Reference.Form — what a reference text refers to

With segments `[A-Z]\w*`, paths of segments joined by `::`, and method names
`[a-z_]\w*[=?!]?`, a trimmed text, up to one full stop at its end, is

* an instance method: `#method`, or a path and then `#method`;
* a constant: a path whose last segment is `[A-Z][A-Z0-9_]*`;
* a definition: any other path;
* a class method: an optional path, then `.method` or the older `::method`.

A path may carry a leading `::`. Any other text is unstructured. `\w` is the
class of `isWordChar`; the first characters and constants are ASCII. Since no
word character is a separator, each language is decided by cutting the text at
the only place where its separator can stand.
-/
import Crosslink.Text.Blank
import Crosslink.Text.Split
import Crosslink.Text.WordChar

namespace Crosslink.Reference

open Crosslink.Text

inductive Form where
  | instanceMethod
  | constant
  | definition
  | classMethod
deriving DecidableEq, Repr, Inhabited

namespace Form

def text : Form → String
  | .instanceMethod => "instance_method"
  | .constant => "constant"
  | .definition => "definition"
  | .classMethod => "class_method"

/-- What stands between the namespace and the name of a full title. -/
def separator : Form → String
  | .instanceMethod => "#"
  | .constant => "::"
  | .definition => "::"
  | .classMethod => "."

end Form

/-! ## Names -/

/-- `[A-Z]\w*` -/
def isSegment : List Char → Bool
  | [] => false
  | c :: cs => c.isUpper && cs.all isWordChar

/-- `[A-Z][A-Z0-9_]*` -/
def isConstantName : List Char → Bool
  | [] => false
  | c :: cs => c.isUpper && cs.all fun d => d.isUpper || d.isDigit || d == '_'

/-- `[a-z_]\w*[=?!]?` -/
def isMethodName : List Char → Bool
  | [] => false
  | c :: cs =>
    (c.isLower || c == '_') &&
      match cs.dropWhile isWordChar with
      | [] => true
      | [d] => d == '=' || d == '?' || d == '!'
      | _ => false

/-- Segments joined by `::`. -/
def isPath (cs : List Char) : Bool := (segments cs).all isSegment

/-- No namespace, or a path that may carry a leading `::`. -/
def isOwner (cs : List Char) : Bool := cs.isEmpty || isPath (dropScopeMark cs)

/-! ## The languages, on a text without its final full stop -/

def isInstanceMethod (body : List Char) : Bool :=
  match cutFirst ['#'] body with
  | some (owner, method) => isOwner owner && isMethodName method
  | none => false

def isConstant (body : List Char) : Bool :=
  let parts := segments (dropScopeMark body)
  parts.dropLast.all isSegment && parts.getLast?.any isConstantName

def isDefinition (body : List Char) : Bool := isPath (dropScopeMark body)

/-- A class method written with a dot; here a lone `::` may stand for top level. -/
def isDottedMethod (body : List Char) : Bool :=
  match cutFirst ['.'] body with
  | some (owner, method) => (isOwner owner || owner == scopeMark) && isMethodName method
  | none => false

/-- A class method written in the older way, with `::`. -/
def isScopedMethod (body : List Char) : Bool :=
  match cutLast scopeMark body with
  | some (owner, method) => isOwner owner && isMethodName method
  | none => false

def isClassMethod (body : List Char) : Bool := isDottedMethod body || isScopedMethod body

/-- A reference text without blanks at its ends and one final full stop. -/
def bodyOf (text : String) : List Char := dropFullStop (trim text.toList)

/-- What a body refers to; nothing when it is unstructured. -/
def formOf (body : List Char) : Option Form :=
  if isInstanceMethod body then some .instanceMethod
  else if isConstant body then some .constant
  else if isDefinition body then some .definition
  else if isClassMethod body then some .classMethod
  else none

/-- What a text refers to; nothing when it is unstructured. -/
def classify (text : String) : Option Form := formOf (bodyOf text)

end Crosslink.Reference
