/-
# Crosslink.Main — the program

Access to the disk of the machine, and the entry point.
-/
import Crosslink.CommandLine

namespace Crosslink.Machine

open Crosslink.Files

/-- The fault that an error of the machine stands for. Some calls give its code with the sign turned. -/
def faultOf (e : IO.Error) : FileFault :=
  match e with
  | .noFileOrDirectory .. => .notFound
  | .alreadyExists .. => .alreadyExists
  | .inappropriateType _ code _ =>
    if code = 20 ∨ code = -20 then .notDirectory
    else if code = 21 ∨ code = -21 then .isDirectory
    else .other (toString e)
  | .invalidArgument _ code _ => if code = 40 ∨ code = -40 then .tooManyLinks else .other (toString e)
  | _ => .other (toString e)

/-- An action with its error as a fault. -/
def attempt {α : Type} (act : IO α) : IO (Except FileFault α) := do
  match ← act.toBaseIO with
  | .ok a => return .ok a
  | .error e => return .error (faultOf e)

instance : FileAccess IO where
  isPresent p := do (((← IO.currentDir) / p.text).pathExists : IO Bool)
  isDirectory p := do (((← IO.currentDir) / p.text).isDir : IO Bool)
  readText p := do
    match ← attempt (IO.FS.readBinFile p.text) with
    | .error fault => return .error fault
    | .ok content =>
      match String.fromUTF8? content with
      | some text => return .ok text
      | none => return .error .notUtf8
  writeText p text := attempt (IO.FS.writeFile p.text text)
  makeDirectory p := attempt (IO.FS.createDir p.text)
  moveFile source target := attempt (IO.FS.rename source.text target.text)
  workingDirectory := do return ⟨(← IO.currentDir).toString⟩

end Crosslink.Machine

open Crosslink in
def main (args : List String) : IO UInt32 := do
  let outcome ← (CommandLine.run args : IO CommandLine.Outcome)
  IO.print outcome.output
  match outcome.status with
  | .failure message => IO.eprintln ("Error: " ++ message)
  | .usage => IO.eprint CommandLine.helpText
  | .success => pure ()
  return UInt32.ofNat outcome.status.code
