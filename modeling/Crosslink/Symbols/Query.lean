/-
# Crosslink.Symbols.Query — finding records by name

A query scans a list of symbols for the first record of the wanted kind whose
title is the wanted one. Method names have older spellings, which are first
turned into titles: `Foo::bar` may stand for the instance method `Foo#bar` or
for the class method `Foo.bar`, and `.bar` for the top-level class method
`::bar`.
-/
import Crosslink.Symbols.Symbol
import Crosslink.Text.Split

namespace Crosslink.Symbols

open Crosslink.Text

/-- The parts of `Foo::bar` when what follows the last `::` starts like a
method name. -/
def cutMethod? (name : List Char) : Option (List Char × List Char) :=
  match cutLast scopeMark name with
  | some (space, c :: rest) =>
    if c.isLower || c == '_' then some (space, c :: rest) else none
  | _ => none

/-- The title of the instance method that `name` spells. -/
def instanceTitle (name : List Char) : List Char :=
  if '#' ∈ name then name
  else
    match cutMethod? name with
    | some (space, method) => space ++ '#' :: method
    | none => name

/-- The title of the class method that `name` spells. -/
def classTitle (name : List Char) : List Char :=
  match name with
  | '.' :: method => scopeMark ++ method
  | _ =>
    match cutMethod? name with
    | some ([], _) => name
    | some (space, method) => space ++ '.' :: method
    | none => name

/-- The first record with this title that `accept` takes. -/
def findTitled (symbols : List Symbol) (title : List Char) (accept : Symbol → Bool) :
    Option Symbol :=
  let wanted := String.ofList title
  symbols.find? fun s => s.title == wanted && accept s

def findConstant (symbols : List Symbol) (name : List Char) : Option Symbol :=
  findTitled symbols name fun s => s.kind == .constant

/-- The module or class with this title. -/
def findDefinition (symbols : List Symbol) (name : List Char) : Option Symbol :=
  findTitled symbols name fun s => s.kind.isNamespace

/-- The instance method that `name` spells. -/
def findInstanceMethod (symbols : List Symbol) (name : List Char) : Option Symbol :=
  findTitled symbols (instanceTitle name) fun s => s.isMethodIn .onInstance

/-- The class method that `name` spells. -/
def findClassMethod (symbols : List Symbol) (name : List Char) : Option Symbol :=
  findTitled symbols (classTitle name) fun s => s.isMethodIn .onClass

/-- `name` spells an instance method that is recorded as an attribute. -/
def isInstanceAttribute (symbols : List Symbol) (name : List Char) : Bool :=
  (findInstanceMethod symbols name).any fun s => s.isAttribute

end Crosslink.Symbols
