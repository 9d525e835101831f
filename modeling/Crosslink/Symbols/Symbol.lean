/-
# Crosslink.Symbols.Symbol — records of documented names

A symbol is a module, a class, a constant or a method. Its title is its fully
qualified name: `Foo::Bar`, `Foo::BAZ`, `Foo#bar` for an instance method,
`Foo.bar` for a class method, and `::bar` for a class method at top level.
-/

namespace Crosslink.Symbols

inductive SymbolKind where
  | moduleDef
  | classDef
  | constant
  | method
deriving DecidableEq, Repr, Inhabited

namespace SymbolKind

def text : SymbolKind → String
  | .moduleDef => "module"
  | .classDef => "class"
  | .constant => "constant"
  | .method => "method"

def ofText? : String → Option SymbolKind
  | "module" => some .moduleDef
  | "class" => some .classDef
  | "constant" => some .constant
  | "method" => some .method
  | _ => none

/-- Modules and classes hold other symbols. -/
def isNamespace : SymbolKind → Bool
  | .moduleDef => true
  | .classDef => true
  | _ => false

end SymbolKind

/-- Whether a method belongs to a class itself or to its instances. -/
inductive Scope where
  | onClass
  | onInstance
deriving DecidableEq, Repr, Inhabited

namespace Scope

def text : Scope → String
  | .onClass => "class"
  | .onInstance => "instance"

def ofText? : String → Option Scope
  | "class" => some .onClass
  | "instance" => some .onInstance
  | _ => none

end Scope

structure Symbol where
  kind : SymbolKind
  scope : Option Scope
  title : String
  isAttribute : Bool
deriving DecidableEq, Repr, Inhabited

namespace Symbol

/-- A record of `kind` that has no scope. -/
def plain (kind : SymbolKind) (title : String) : Symbol := ⟨kind, none, title, false⟩

def method (title : String) (scope : Scope) : Symbol := ⟨.method, some scope, title, false⟩

/-- A method that only reads or writes a stored value. -/
def accessor (title : String) (scope : Scope) : Symbol := ⟨.method, some scope, title, true⟩

def isMethodIn (s : Symbol) (scope : Scope) : Bool :=
  s.kind == .method && s.scope == some scope

end Symbol

end Crosslink.Symbols
