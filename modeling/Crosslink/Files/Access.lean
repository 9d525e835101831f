/-
# Crosslink.Files.Access — what a program asks of a file system

The few operations that loading and saving need, over any monad that offers
them. Whatever is built from these runs alike on a disk in memory and on the
disk of a machine.
-/
import Crosslink.Files.Path

namespace Crosslink.Files

/-- Why a file operation failed. -/
inductive FileFault where
  | notFound
  | alreadyExists
  | notDirectory
  | isDirectory
  | tooManyLinks
  | notUtf8
  /-- A fault of the machine itself, in its own words. -/
  | other (text : String)
deriving DecidableEq, Repr

def FileFault.message : FileFault → String
  | .notFound => "No such file or directory (os error 2)"
  | .alreadyExists => "File exists (os error 17)"
  | .notDirectory => "Not a directory (os error 20)"
  | .isDirectory => "Is a directory (os error 21)"
  | .tooManyLinks => "Too many levels of symbolic links (os error 40)"
  | .notUtf8 => "stream did not contain valid UTF-8"
  | .other text => text

class FileAccess (m : Type → Type) where
  isPresent : Path → m Bool
  isDirectory : Path → m Bool
  readText : Path → m (Except FileFault String)
  /-- Writes a whole file, replacing what it held. -/
  writeText : Path → String → m (Except FileFault Unit)
  /-- Makes one directory, in a directory that is there already. -/
  makeDirectory : Path → m (Except FileFault Unit)
  /-- Moves a file, replacing a file that has the new name. -/
  moveFile : Path → Path → m (Except FileFault Unit)
  workingDirectory : m Path

variable {m : Type → Type} [Monad m] [FileAccess m]

/-- `made`, unless it failed on a path that is a directory all the same. -/
def orDirectory (p : Path) (made : Except FileFault Unit) : m (Except FileFault Unit) := do
  match made with
  | .ok _ => return .ok ()
  | .error fault => if ← FileAccess.isDirectory p then return .ok () else return .error fault

/-- Makes the first directory of the list, and before it those that it stands in. -/
def makeChain : List Path → m (Except FileFault Unit)
  | [] => return .error .notFound
  | p :: up => do
    if p.text.isEmpty then return .ok ()
    match ← FileAccess.makeDirectory p with
    | .error .notFound =>
      match ← makeChain up with
      | .error fault => return .error fault
      | .ok _ => orDirectory p (← FileAccess.makeDirectory p)
    | made => orDirectory p made

/-- Makes a directory and all that are missing above it. -/
def makeDirectories (p : Path) : m (Except FileFault Unit) := makeChain (p :: p.above)

end Crosslink.Files
