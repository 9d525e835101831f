/-
# Crosslink.Project.Linker — a project opened for linking

A linker is the settings of a project and its symbol table. It reads type
specifiers with the names of the settings, and resolves references against the
table.
-/
import Crosslink.Project.Config
import Crosslink.Reference.Tag
import Crosslink.Symbols.Cache
import Crosslink.TypeSpec.Builder

namespace Crosslink.Project

open Crosslink.Files
open Crosslink.Symbols
open Crosslink.Reference (Tag)

structure Linker where
  config : Config
  table : Table

/-- Why a project cannot be used. -/
inductive ProjectError where
  | config (error : ConfigError)
  | table (error : TableError)
deriving DecidableEq, Repr

def ProjectError.message : ProjectError → String
  | .config error => error.message
  | .table error => error.message

namespace Linker

/-- The type expressions of a text. -/
def types (l : Linker) (text : String) : Except TypeSpec.ParseError (List TypeSpec.Expr) :=
  TypeSpec.parse l.config.options text

/-- The type expressions of a text, and none when it is malformed. -/
def typesLenient (l : Linker) (text : String) : List TypeSpec.Expr :=
  TypeSpec.parseLenient l.config.options text

/-- Resolves a reference written inside `parent`. -/
def resolve (l : Linker) (text parent : String) : Tag :=
  Reference.resolve l.table.symbols text parent none

/-- Resolves a see-also body written inside `parent`. -/
def resolveSee (l : Linker) (body parent : String) : Tag :=
  Reference.resolveSee l.table.symbols body parent

/-- An opened project, and whether its table came from the cache. -/
structure Opened where
  linker : Linker
  reused : Bool

variable {m : Type → Type} [Monad m] [FileAccess m]

/-- Opens the project at `root`, with its symbol table through the cache. -/
def openProject (root : Path) : StateT Cache m (Except ProjectError Opened) := do
  match ← (Config.load root : m (Except ConfigError Config)) with
  | .error error => return .error (.config error)
  | .ok config =>
    match ← Cache.load (config.symbolsFile root) with
    | .error error => return .error (.table error)
    | .ok loaded => return .ok ⟨⟨config, loaded.table⟩, loaded.reused⟩

end Linker

end Crosslink.Project
