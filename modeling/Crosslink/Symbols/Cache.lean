/-
# Crosslink.Symbols.Cache — one table kept in memory

The cache holds at most one table, with the path it was loaded from. Loading
always reads the file; when the cached path has the same components and the
cached fingerprint is that of the text just read, the cached table is given
without reading it as JSON again. Every other table that is loaded replaces the
cached one. The cache is the state of a load, whatever the load comes to.
-/
import Crosslink.Files.Access
import Crosslink.Symbols.Table

namespace Crosslink.Symbols

open Crosslink.Files

inductive TableError where
  | unreadable (path : Path) (fault : FileFault)
  | malformed (path : Path) (fault : Json.Fault)
deriving DecidableEq, Repr

def TableError.message : TableError → String
  | .unreadable path fault =>
    "symbol table error: failed to read symbol table: " ++ fault.message ++
      " (path: " ++ path.text ++ ")"
  | .malformed path fault =>
    "symbol table error: failed to parse symbol table: json error: " ++ fault.message ++
      " (path: " ++ path.text ++ ")"

/-- The table that the text of the file at `path` holds. -/
def Table.ofFileText (path : Path) (text : String) : Except TableError Table :=
  match Table.ofText text with
  | .ok table => .ok table
  | .error fault => .error (.malformed path fault)

section Load

variable {m : Type → Type} [Monad m] [FileAccess m]

/-- Reads the table at `path`. -/
def Table.load (path : Path) : m (Except TableError Table) := do
  match ← FileAccess.readText path with
  | .error fault => return .error (.unreadable path fault)
  | .ok text => return Table.ofFileText path text

end Load

/-- A table and the path it belongs to. -/
structure Cached where
  path : Path
  table : Table
deriving DecidableEq, Repr

structure Cache where
  slot : Option Cached := none
deriving DecidableEq, Repr

namespace Cache

def current (c : Cache) : Option Table := c.slot.map Cached.table

def install (_ : Cache) (path : Path) (table : Table) : Cache := ⟨some ⟨path, table⟩⟩

def invalidate (_ : Cache) : Cache := {}

/-- The cached table, when it stands for the text `text` at `path`. -/
def hit? (c : Cache) (path : Path) (text : String) : Option Table :=
  match c.slot with
  | some cached =>
    if cached.path.components = path.components ∧
        cached.table.fingerprint = Digest.fingerprint text then some cached.table
    else none
  | none => none

/-- A loaded table, and whether the cached one was given. -/
structure Loaded where
  table : Table
  reused : Bool

variable {m : Type → Type} [Monad m] [FileAccess m]

/-- Reads the table at `path` through the cache. -/
def load (path : Path) : StateT Cache m (Except TableError Loaded) := do
  match ← FileAccess.readText (m := m) path with
  | .error fault => return .error (.unreadable path fault)
  | .ok text =>
    match (← get).hit? path text with
    | some table => return .ok ⟨table, true⟩
    | none =>
      match Table.ofFileText path text with
      | .error error => return .error error
      | .ok table =>
        modify fun cache => cache.install path table
        return .ok ⟨table, false⟩

end Cache

end Crosslink.Symbols
