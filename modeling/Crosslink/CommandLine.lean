/-
# Crosslink.CommandLine — the commands and what they print

`init` writes the settings file of a project, `types` reads type specifiers and
shows them in canonical form or as JSON, and `resolve` looks a see-also body
up. An option is given by its letter or its name, at most once, anywhere among
the operands; its value follows, attached, behind an equals sign, or as the next
argument, which then must not look like an option. Behind `--` everything is an
operand.
-/
import Crosslink.Project.Linker
import Crosslink.Project.Report

namespace Crosslink.CommandLine

open Crosslink.Files
open Crosslink.Project

/-! ## Arguments -/

/-- Why no command is run. -/
inductive Refusal where
  /-- The arguments make no command. -/
  | usage
  /-- An explanation was asked for. -/
  | help
deriving DecidableEq, Repr

structure OptionSpec where
  letter : Char
  name : String
  takesValue : Bool

/-- What a command accepts besides its name. -/
structure Shape where
  options : List OptionSpec
  /-- The most operands it takes; none means any number. -/
  maxOperands : Option Nat

/-- The arguments read so far: options by their letter, latest first, and
operands in order. -/
structure Given where
  options : List (Char × String) := []
  operands : List String := []

namespace Given

def setOption (g : Given) (letter : Char) (value : String) : Except Refusal Given :=
  if (g.options.lookup letter).isSome then .error .usage
  else .ok { g with options := (letter, value) :: g.options }

def addOperand (shape : Shape) (g : Given) (text : String) : Except Refusal Given :=
  if shape.maxOperands.any fun most => most ≤ g.operands.length then .error .usage
  else .ok { g with operands := g.operands ++ [text] }

end Given

/-- An argument that is not an operand. A lone hyphen is one. -/
def looksLikeOption (arg : List Char) : Bool :=
  match arg with
  | '-' :: _ :: _ => true
  | _ => false

/-- The arguments read so far, and the option that waits for its value. -/
abbrev Step := Given × Option Char

/-- An option given by name, with the value behind an equals sign. -/
def readNamed (shape : Shape) (g : Given) (body : List Char) : Except Refusal Step :=
  let name := String.ofList (body.takeWhile fun c => c != '=')
  let attached := (Text.cutFirst ['='] body).map fun (_, value) => String.ofList value
  match shape.options.find? fun o => o.name == name, attached with
  | some o, some value =>
    if o.takesValue then (g.setOption o.letter value).map fun g => (g, none) else .error .usage
  | some o, none =>
    if o.takesValue then .ok (g, some o.letter)
    else (g.setOption o.letter "").map fun g => (g, none)
  | none, none => if name == "help" then .error .help else .error .usage
  | none, some _ => .error .usage

/-- Options given by letters in one argument; the first that takes a value
takes what is left of it. -/
def readLetters (shape : Shape) (g : Given) : List Char → Except Refusal Step
  | [] => .ok (g, none)
  | c :: rest =>
    match shape.options.find? fun o => o.letter == c with
    | none => if c == 'h' then .error .help else .error .usage
    | some o =>
      if o.takesValue then
        match rest with
        | [] => .ok (g, some c)
        | '=' :: value => (g.setOption c (String.ofList value)).map fun g => (g, none)
        | value => (g.setOption c (String.ofList value)).map fun g => (g, none)
      else
        match g.setOption c "" with
        | .ok g => readLetters shape g rest
        | .error refusal => .error refusal

/-- One argument, before any `--`. -/
def readArgument (shape : Shape) (step : Step) (arg : String) : Except Refusal Step :=
  match step, arg.toList with
  | (g, some letter), cs =>
    if looksLikeOption cs then .error .usage else (g.setOption letter arg).map fun g => (g, none)
  | (g, none), '-' :: '-' :: name => readNamed shape g name
  | (g, none), '-' :: c :: letters => readLetters shape g (c :: letters)
  | (g, none), _ => (g.addOperand shape arg).map fun g => (g, none)

/-- All arguments of a command. -/
def readArguments (shape : Shape) : Step → List String → Except Refusal Given
  | (g, none), [] => .ok g
  | (_, some _), [] => .error .usage
  | (g, waiting), arg :: rest =>
    if arg == "--" then
      if waiting.isSome then .error .usage else rest.foldlM (Given.addOperand shape) g
    else
      match readArgument shape (g, waiting) arg with
      | .ok step => readArguments shape step rest
      | .error refusal => .error refusal

/-! ## Commands -/

inductive Command where
  | init (root : Option String)
  | types (specs : List String) (root : Option String) (json : Bool)
  | resolve (body parent : String) (root : Option String)
deriving DecidableEq, Repr

def rootOption : OptionSpec := ⟨'p', "path", true⟩

def initShape : Shape := ⟨[], some 1⟩

def typesShape : Shape := ⟨[rootOption, ⟨'j', "json", false⟩], none⟩

def resolveShape : Shape := ⟨[⟨'n', "namespace", true⟩, rootOption], some 1⟩

/-- The command that arguments spell. -/
def Command.ofArguments : List String → Except Refusal Command
  | "init" :: args => do
    let g ← readArguments initShape ({}, none) args
    return .init g.operands.head?
  | "types" :: args => do
    let g ← readArguments typesShape ({}, none) args
    return .types g.operands (g.options.lookup 'p') (g.options.lookup 'j').isSome
  | "resolve" :: args => do
    let g ← readArguments resolveShape ({}, none) args
    match g.operands with
    | body :: _ => return .resolve body ((g.options.lookup 'n').getD "") (g.options.lookup 'p')
    | [] => .error .usage
  | arg :: _ => if arg ∈ ["help", "-h", "--help"] then .error .help else .error .usage
  | [] => .error .usage

/-! ## Running -/

inductive Status where
  | success
  | failure (message : String)
  | usage
deriving DecidableEq, Repr

def Status.code : Status → Nat
  | .success => 0
  | .failure _ => 1
  | .usage => 2

/-- What a run prints and how it ends. -/
structure Outcome where
  output : String
  status : Status
deriving DecidableEq, Repr

/-- One line per command. -/
def helpText : String :=
  "Usage: doclink init [PATH]\n" ++
  "       doclink types [SPECS]... [-p PATH] [-j]\n" ++
  "       doclink resolve BODY [-n NAMESPACE] [-p PATH]\n"

/-- What is printed for one specifier. -/
def typesLine (json : Bool) (spec : String) (es : List TypeSpec.Expr) : String :=
  if json then String.ofList (Json.Value.list (exprValues es)).pretty ++ "\n"
  else spec ++ " => " ++ TypeSpec.Expr.displayList es ++ "\n"

/-- Shows specifiers one after another up to the first malformed one. -/
def showTypes (opts : TypeSpec.Options) (json : Bool) : List String → Outcome
  | [] => ⟨"", .success⟩
  | spec :: specs =>
    match TypeSpec.parse opts spec with
    | .error e => ⟨"", .failure e.message⟩
    | .ok es =>
      let rest := showTypes opts json specs
      { rest with output := typesLine json spec es ++ rest.output }

variable {m : Type → Type} [Monad m] [FileAccess m]

/-- The project at a given path, or at the working directory. -/
def projectRoot : Option String → m Path
  | some text => return ⟨text⟩
  | none => FileAccess.workingDirectory

def failed (message : String) : Outcome := ⟨"", .failure message⟩

def runInit (root : Path) : m Outcome := do
  match ← Config.load root with
  | .error e => return failed e.message
  | .ok config =>
    match ← config.save root with
    | .error e => return failed e.message
    | .ok _ => return ⟨"Wrote doclink.toml in " ++ root.text ++ "\n", .success⟩

def runTypes (root : Path) (specs : List String) (json : Bool) : m Outcome := do
  match ← Config.load root with
  | .error e => return failed e.message
  | .ok config => return showTypes config.options json specs

/-- A project without a symbol table is linked against an empty one. -/
def linkerFor (root : Path) (config : Config) : m (Except ProjectError Linker) := do
  if ← FileAccess.isPresent (config.symbolsFile root) then
    let (opened, _) ← (Linker.openProject root).run {}
    return opened.map fun opened => opened.linker
  else return .ok ⟨config, .empty⟩

def runResolve (root : Path) (body parent : String) : m Outcome := do
  match ← Config.load root with
  | .error e => return failed e.message
  | .ok config =>
    match ← linkerFor root config with
    | .error e => return failed e.message
    | .ok linker =>
      let shown := (tagValue (linker.resolveSee body parent)).pretty
      return ⟨String.ofList shown ++ "\n", .success⟩

def Command.run : Command → m Outcome
  | .init root => do runInit (← projectRoot root)
  | .types specs root json => do runTypes (← projectRoot root) specs json
  | .resolve body parent root => do runResolve (← projectRoot root) body parent

/-- Runs the command that arguments spell. -/
def run (args : List String) : m Outcome :=
  match Command.ofArguments args with
  | .ok command => command.run
  | .error .help => return ⟨helpText, .success⟩
  | .error .usage => return ⟨"", .usage⟩

end Crosslink.CommandLine
