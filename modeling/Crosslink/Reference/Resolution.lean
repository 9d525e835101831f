/-
# Crosslink.Reference.Resolution — looking a reference up

A reference written inside a namespace is first looked up below that
namespace, then at top level; with a leading `::`, or outside any namespace,
only at top level. What was found under which full name decides the namespace,
the name, the page and the category of the link.

The label of a reference is its body without the leading `::`, except that a
class method in the older `::` spelling keeps it, because `::bar` is also the
title of a class method at top level.
-/
import Crosslink.Reference.Form
import Crosslink.Reference.Slug
import Crosslink.Symbols.Query

namespace Crosslink.Reference

open Crosslink.Text
open Crosslink.Symbols

/-- What a link leads to. -/
inductive Category where
  | constant
  | instanceMethod
  | instanceAttribute
  | classMethod
  /-- A path that names no recorded module or class. -/
  | definition
  /-- A recorded module or class. -/
  | recorded (kind : SymbolKind)
deriving DecidableEq, Repr

def Category.text : Category → String
  | .constant => "constant"
  | .instanceMethod => "instance-method"
  | .instanceAttribute => "instance-attribute"
  | .classMethod => "class-method"
  | .definition => "definition"
  | .recorded kind => kind.text

/-- The outcome of looking a structured reference up. -/
structure Resolution where
  form : Form
  /-- The cleaned text of the reference. -/
  label : String
  /-- What stands before the last separator of the full name. -/
  space : String
  /-- What stands after it. -/
  name : String
  /-- Found below the enclosing namespace. -/
  relative : Bool
  found : Bool
  /-- The page of the target, when it was found and has one. -/
  page : Option String
  category : Category
deriving DecidableEq, Repr

/-- The label of a body. -/
def labelOf (form : Form) (body : List Char) : List Char :=
  if form = .classMethod && isScopedMethod body then body else dropScopeMark body

/-- The name looked up for a label: a leading `::` stays only when no other
`::` follows it. -/
def lookupName (label : List Char) : List Char :=
  match scopeMark.isPrefixOf? label with
  | some rest => if (cutFirst scopeMark rest).isSome then rest else label
  | none => label

/-- `name` below the namespace `parent`; a name that starts with its own
separator is attached directly. -/
def qualify (parent name : List Char) : List Char :=
  if name.head? == some '#' || name.head? == some '.' then parent ++ name
  else parent ++ scopeMark ++ name

/-- The record that `name` spells, of the kind that `form` refers to. -/
def findAs (symbols : List Symbol) : Form → List Char → Option Symbol
  | .constant, name => findConstant symbols name
  | .definition, name => findDefinition symbols name
  | .instanceMethod, name => findInstanceMethod symbols name
  | .classMethod, name => findClassMethod symbols name

/-- The parts of a full name around its last separator. -/
def cutFull (form : Form) (full : List Char) : List Char × List Char :=
  let parts := match form with
    | .classMethod => (cutLast ['.'] full).or (cutLast scopeMark full)
    | .instanceMethod => cutLast ['#'] full
    | _ => cutLast scopeMark full
  parts.getD ([], full)

/-- The full name a body is resolved to, whether it was found below `parent`,
and whether it was found at all. -/
def locateName (symbols : List Symbol) (form : Form) (parent body : List Char) :
    List Char × Bool × Bool :=
  let name := lookupName (labelOf form body)
  let atTop := (name, false, (findAs symbols form name).isSome)
  if scopeMark.isPrefixOf body || parent.isEmpty then atTop
  else
    let full := qualify parent name
    if (findAs symbols form full).isSome then (full, true, true) else atTop

def categoryOf (symbols : List Symbol) (form : Form) (full : List Char) (found : Bool) : Category :=
  match form with
  | .constant => .constant
  | .definition =>
    match findDefinition symbols full with
    | some s => if found then .recorded s.kind else .definition
    | none => .definition
  | .instanceMethod =>
    if found && isInstanceAttribute symbols full then .instanceAttribute else .instanceMethod
  | .classMethod => .classMethod

/-- A definition links to its own page, a member to the page of its namespace. -/
def pageFor (form : Form) (full space : List Char) : Option String :=
  match pageOf (if form = .definition then full else space) with
  | [] => none
  | page => some (String.ofList page)

/-- Looks a body up from inside the namespace `parent`. -/
def resolveBody (symbols : List Symbol) (form : Form) (parent body : List Char) : Resolution :=
  let (full, relative, found) := locateName symbols form parent body
  let (space, name) := cutFull form full
  { form
    label := String.ofList (labelOf form body)
    space := String.ofList space
    name := String.ofList name
    relative
    found
    page := if found then pageFor form full space else none
    category := categoryOf symbols form full found }

end Crosslink.Reference
