/-
# Crosslink.Files.Disk — a disk in memory

A disk is a list of entries, each a file, a directory or a symbolic link at a
location below the root. A path is walked one part at a time, from the root or
from the working directory: an empty part or a dot stays, two dots go up, a name
goes down, and a link on the way is followed. Each step needs a directory to
start from, so a walk through a file fails in another way than a walk to
something missing.

Reading follows a link at the end of a path too, and so does writing, which
makes the file that the link leads to. Making a directory and moving an entry
mean the name itself, whether or not it is a link.

A change can go wrong although nothing on the disk is in its way. The mishaps to
come are listed with the disk; one in the middle of writing a file leaves a part
of the content. Looking at the disk never goes wrong in this way.

Some states of a file system are no such disk: there are no permissions, so
whatever is found can be read and replaced; no file has two names; and nothing
is a device, a pipe or a socket.
-/
import Crosslink.Files.Access

namespace Crosslink.Files

/-- The names on the way from the root. -/
abbrev Location := List String

inductive Entry where
  | file (content : ByteArray)
  | directory
  /-- A symbolic link, which stands for the path in it. -/
  | link (target : Path)

instance : DecidableEq Entry
  | .file a, .file b =>
    match ByteArray.instDecidableEq a b with
    | isTrue same => isTrue (congrArg Entry.file same)
    | isFalse different => isFalse fun same => different (Entry.file.inj same)
  | .directory, .directory => isTrue rfl
  | .link p, .link q =>
    match decEq p q with
    | isTrue same => isTrue (congrArg Entry.link same)
    | isFalse different => isFalse fun same => different (Entry.link.inj same)
  | .file _, .directory => isFalse Entry.noConfusion
  | .file _, .link _ => isFalse Entry.noConfusion
  | .directory, .file _ => isFalse Entry.noConfusion
  | .directory, .link _ => isFalse Entry.noConfusion
  | .link _, .file _ => isFalse Entry.noConfusion
  | .link _, .directory => isFalse Entry.noConfusion

/-- A fault of the machine in the middle of a change, in its own words. -/
structure Mishap where
  text : String
  /-- How many bytes of a file were written before, if the file was opened. -/
  written : Option Nat := none

structure Disk where
  entries : List (Location × Entry) := []
  workingDirectory : Location := []
  /-- What goes wrong with the next changes, one by one; after the last, nothing does. -/
  mishaps : List (Option Mishap) := []

namespace Disk

/-- What stands at a location; the root is always a directory. -/
def entry? (d : Disk) (l : Location) : Option Entry :=
  if l = [] then some .directory else d.entries.lookup l

/-- Removes the entry at a location. -/
def erase (d : Disk) (l : Location) : Disk :=
  { d with entries := d.entries.filter fun (k, _) => k != l }

/-- Puts an entry at a location, in place of the one that was there. -/
def insert (d : Disk) (l : Location) (e : Entry) : Disk :=
  { d with entries := (l, e) :: (d.erase l).entries }

/-! ## Walks -/

/-- The most links that one walk follows. -/
def maxLinks : Nat := 40

/-- What a part of a path leads to: a location, or a link that is followed. -/
inductive Turn where
  | location (l : Location)
  | link (target : Path)

/-- Where a part leads from `l`. The last name of a path need not be there, and a link at the end is
followed only if `follow` is set. -/
def turn (d : Disk) (follow last : Bool) (l : Location) (part : List Char) : Except FileFault Turn :=
  match d.entry? l with
  | some .directory =>
    if part = [] ∨ part = ['.'] then .ok (.location l)
    else if part = ['.', '.'] then .ok (.location l.dropLast)
    else
      let next := l ++ [String.ofList part]
      match d.entry? next with
      | some (.link target) => if last && !follow then .ok (.location next) else .ok (.link target)
      | some _ => .ok (.location next)
      | none => if last then .ok (.location next) else .error .notFound
  | some _ => .error .notDirectory
  | none => .error .notFound

/-- Where a path starts whose relative form is meant from `l`. -/
def startFrom (l : Location) (p : Path) : Location := if p.isAbsolute then [] else l

/-- The location reached from `l` through the parts of a path; behind a link, `jump` goes on. -/
def walkWith (d : Disk) (follow : Bool) (jump : Location → List (List Char) → Except FileFault Location)
    (l : Location) : List (List Char) → Except FileFault Location
  | [] => .ok l
  | part :: rest =>
    match d.turn follow rest.isEmpty l part with
    | .error fault => .error fault
    | .ok (.location next) => d.walkWith follow jump next rest
    | .ok (.link target) =>
      if target.text.isEmpty then .error .notFound
      else jump (startFrom l target) (pieces target.text.toList ++ rest)

/-- The location reached from `l` through the parts of a path and at most `links` links. -/
def walk (d : Disk) (follow : Bool) : (links : Nat) → Location → List (List Char) → Except FileFault Location
  | 0 => d.walkWith follow fun _ _ => .error .tooManyLinks
  | links + 1 => d.walkWith follow (d.walk follow links)

/-- Where the walk of a path starts. -/
def start (d : Disk) (p : Path) : Location := startFrom d.workingDirectory p

/-- The location of something that is there. -/
def locate (d : Disk) (p : Path) : Except FileFault Location :=
  if p.text.isEmpty then .error .notFound
  else
    match d.walk true maxLinks (d.start p) (pieces p.text.toList) with
    | .ok l => if (d.entry? l).isSome then .ok l else .error .notFound
    | .error fault => .error fault

/-- The location that a path names, whether or not something is there. -/
def locateNew (d : Disk) (follow : Bool) (p : Path) : Except FileFault Location :=
  if p.text.isEmpty then .error .notFound else d.walk follow maxLinks (d.start p) p.named

/-! ## Operations -/

def read (d : Disk) (p : Path) : Except FileFault String :=
  match d.locate p with
  | .error fault => .error fault
  | .ok l =>
    match d.entry? l with
    | some (.file content) =>
      match String.fromUTF8? content with
      | some text => .ok text
      | none => .error .notUtf8
    | some .directory => .error .isDirectory
    | _ => .error .notFound

def holdsDirectory (d : Disk) (p : Path) : Bool :=
  match d.locate p with
  | .ok l => d.entry? l == some .directory
  | .error _ => false

/-- The disk with a file written; `content` replaces what the file held. -/
def write (d : Disk) (p : Path) (content : ByteArray) : Except FileFault Disk :=
  match d.locateNew true p with
  | .error fault => .error fault
  | .ok l =>
    if d.entry? l = some .directory || p.text.toList.getLast? == some '/' then .error .isDirectory
    else .ok (d.insert l (.file content))

def makeDirectory (d : Disk) (p : Path) : Except FileFault Disk :=
  match d.locateNew false p with
  | .error fault => .error fault
  | .ok l => if (d.entry? l).isSome then .error .alreadyExists else .ok (d.insert l .directory)

/-- The disk with a file or a link moved to a new name, replacing one of that name. -/
def move (d : Disk) (source target : Path) : Except FileFault Disk :=
  match d.locateNew false source with
  | .error fault => .error fault
  | .ok l =>
    match d.entry? l with
    | none => .error .notFound
    | some .directory => .error .isDirectory
    | some entry =>
      match d.locateNew false target with
      | .error fault => .error fault
      | .ok new =>
        if d.entry? new = some .directory then .error .isDirectory
        else .ok ((d.erase l).insert new entry)

end Disk

/-! ## Access to a disk in memory -/

namespace Disk

/-- The disk once a change has been tried. -/
def tried (d : Disk) : Disk := { d with mishaps := d.mishaps.tail }

/-- The result of a change. When it fails, the disk stays as it is; a mishap leaves what `broken` says. -/
def commit (change : Disk → Except FileFault Disk) (broken : Mishap → Disk → Disk := fun _ d => d) :
    StateM Disk (Except FileFault Unit) :=
  fun d =>
    match d.mishaps.head? with
    | some (some mishap) => (.error (.other mishap.text), broken mishap d.tried)
    | _ =>
      match change d.tried with
      | .ok d => (.ok (), d)
      | .error fault => (.error fault, d.tried)

/-- What a mishap leaves of a file that was being written. -/
def writePart (p : Path) (content : ByteArray) (mishap : Mishap) (d : Disk) : Disk :=
  match mishap.written with
  | none => d
  | some n => (d.write p (content.extract 0 n)).toOption.getD d

end Disk

instance : FileAccess (StateM Disk) where
  isPresent p := fun d => ((d.locate p).isOk, d)
  isDirectory p := fun d => (d.holdsDirectory p, d)
  readText p := fun d => (d.read p, d)
  writeText p text := Disk.commit (fun d => d.write p text.toUTF8) (Disk.writePart p text.toUTF8)
  makeDirectory p := Disk.commit fun d => d.makeDirectory p
  moveFile source target := Disk.commit fun d => d.move source target
  workingDirectory := fun d => (⟨"/" ++ String.intercalate "/" d.workingDirectory⟩, d)

end Crosslink.Files
