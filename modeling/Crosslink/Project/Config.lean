/-
# Crosslink.Project.Config — the settings of a project

A project has a file `doclink.toml` with a version, the place of its symbol
table, and the names that type specifiers read in a special way. Settings that
the file leaves out, or a missing file, give the defaults; settings that it
does not know are passed over.

Saving writes a file beside the old one and then moves it into place, so at
every moment the settings on disk are the old ones or the new ones.
-/
import Crosslink.Files.Access
import Crosslink.Toml.Document
import Crosslink.TypeSpec.Reader

namespace Crosslink.Project

open Crosslink.Files
open Crosslink.Toml (Item Entries Scalar)

structure Config where
  version : UInt32 := 1
  symbolsPath : String := ".doclink/symbols.json"
  options : TypeSpec.Options := {}
deriving DecidableEq, Repr, Inhabited

/-! ## As text -/

/-- Why a text is no settings file. -/
inductive SettingsFault where
  | notToml
  | wrongSetting (key : String)
deriving DecidableEq, Repr

def SettingsFault.message : SettingsFault → String
  | .notToml => "not a TOML document"
  | .wrongSetting key => "wrong value for `" ++ key ++ "`"

namespace Config

/-- One setting on a line of its own. -/
def settingLine (key : String) (value : List Char) : List Char :=
  key.toList ++ " = ".toList ++ value ++ ['\n']

/-- The text of a settings file. -/
def write (c : Config) : String :=
  String.ofList (settingLine "version" (Nat.toDigits 10 c.version.toNat) ++
    settingLine "symbols_path" (Toml.writeText c.symbolsPath) ++
    settingLine "mapping_types" (Toml.writeTexts c.options.mappingTypes) ++
    settingLine "tuple_markers" (Toml.writeTexts c.options.tupleMarkers) ++
    settingLine "default_collection" (Toml.writeText c.options.defaultCollection))

/-- A version is a number of 32 bits. -/
def version? : Item → Option UInt32
  | .scalar (.integer n) => if 0 ≤ n && n < (Nat.pow 2 32 : Nat) then some (UInt32.ofNat n.toNat) else none
  | _ => none

def text? : Item → Option String
  | .text value => some value
  | _ => none

def texts? : Item → Option (List String)
  | .list items => items.mapM text?
  | _ => none

/-- The setting under `key`, or `default` when there is none. -/
def setting {α : Type} (es : Entries) (key : String) (read : Item → Option α) (default : α) :
    Except SettingsFault α :=
  match es.lookup key with
  | some item =>
    match read item with
    | some value => .ok value
    | none => .error (.wrongSetting key)
  | none => .ok default

/-- The settings that the entries of a document hold. -/
def ofEntries (es : Entries) : Except SettingsFault Config := do
  let base : Config := {}
  let version ← setting es "version" version? base.version
  let symbolsPath ← setting es "symbols_path" text? base.symbolsPath
  let mappingTypes ← setting es "mapping_types" texts? base.options.mappingTypes
  let tupleMarkers ← setting es "tuple_markers" texts? base.options.tupleMarkers
  let defaultCollection ← setting es "default_collection" text? base.options.defaultCollection
  return ⟨version, symbolsPath, ⟨mappingTypes, tupleMarkers, defaultCollection⟩⟩

/-- The settings that a text holds. -/
def read (text : String) : Except SettingsFault Config :=
  match Toml.readDocument text with
  | some es => ofEntries es
  | none => .error .notToml

/-! ## On disk -/

/-- The settings file of the project at `root`. -/
def pathIn (root : Path) : Path := root.join "doclink.toml"

/-- The file that is written before it takes the place of the settings file. -/
def draftPathIn (root : Path) : Path := ⟨(pathIn root).text ++ ".tmp"⟩

/-- The symbol table of the project at `root`. -/
def symbolsFile (c : Config) (root : Path) : Path := root.join c.symbolsPath

end Config

inductive ConfigError where
  | unreadable (path : Path) (fault : FileFault)
  | malformed (path : Path) (fault : SettingsFault)
  | noDirectory (root : Path) (fault : FileFault)
  | unwritable (path : Path) (fault : FileFault)
  | unmovable (source target : Path) (fault : FileFault)
deriving DecidableEq, Repr

def ConfigError.message : ConfigError → String
  | .unreadable path fault =>
    "config error: failed to read config file '" ++ path.text ++ "': " ++ fault.message
  | .malformed path fault =>
    "config error: failed to parse config file '" ++ path.text ++ "': " ++ fault.message
  | .noDirectory root fault =>
    "config error: failed to create project directory '" ++ root.text ++ "': " ++ fault.message
  | .unwritable path fault =>
    "config error: failed to write temporary config file '" ++ path.text ++ "': " ++ fault.message
  | .unmovable source target fault =>
    "config error: failed to rename temporary config file '" ++ source.text ++ "' to '" ++
      target.text ++ "': " ++ fault.message

namespace Config

variable {m : Type → Type} [Monad m] [FileAccess m]

/-- The settings of the project at `root`. -/
def load (root : Path) : m (Except ConfigError Config) := do
  let path := pathIn root
  if !(← FileAccess.isPresent path) then return .ok {}
  match ← FileAccess.readText path with
  | .error fault => return .error (.unreadable path fault)
  | .ok text =>
    match read text with
    | .error fault => return .error (.malformed path fault)
    | .ok config => return .ok config

/-- Saves settings as those of the project at `root`. -/
def save (root : Path) (config : Config) : m (Except ConfigError Unit) := do
  let path := pathIn root
  let draft := draftPathIn root
  match ← makeDirectories root with
  | .error fault => return .error (.noDirectory root fault)
  | .ok _ =>
    match ← FileAccess.writeText draft config.write with
    | .error fault => return .error (.unwritable draft fault)
    | .ok _ =>
      match ← FileAccess.moveFile draft path with
      | .error fault => return .error (.unmovable draft path fault)
      | .ok _ => return .ok ()

end Config

end Crosslink.Project
