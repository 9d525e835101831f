/-
# Crosslink.Files.Path — path names

A path is a text; nothing in it is normalized until it is walked or compared.
Two paths name the same place for the cache when their components agree:
repeated slashes, a slash at the end and dots inside do not count, but a parent
step `..` does, and so does a dot at the front of a relative path.
-/

namespace Crosslink.Files

structure Path where
  text : String
deriving DecidableEq, Repr, Inhabited

/-- The parts of a text between its slashes; some may be empty. -/
def pieces : List Char → List (List Char)
  | [] => [[]]
  | c :: cs =>
    match pieces cs with
    | [] => [[c]]
    | p :: ps => if c == '/' then [] :: p :: ps else (c :: p) :: ps

namespace Path

def isAbsolute (p : Path) : Bool := p.text.toList.head? == some '/'

/-- `name` below `p`. An absolute `name` stands for itself; a slash is put
between only when `p` is not empty and does not end in one. -/
def join (p : Path) (name : String) : Path :=
  if name.toList.head? == some '/' || p.text.isEmpty then ⟨name⟩
  else if p.text.toList.getLast? == some '/' then ⟨p.text ++ name⟩
  else ⟨p.text ++ "/" ++ name⟩

/-- The parts of a path, without the empty ones behind slashes at its end. -/
def named (p : Path) : List (List Char) :=
  ((pieces p.text.toList).reverse.dropWhile fun part => part == []).reverse

/-- What a path is compared by: whether it is absolute, and its parts. -/
structure Components where
  rooted : Bool
  parts : List (List Char)
deriving DecidableEq, Repr

def components (p : Path) : Components :=
  let rooted := p.isAbsolute
  let all := pieces p.text.toList
  let kept := all.filter fun part => part != [] && part != ['.']
  ⟨rooted, if !rooted && all.head? == some ['.'] then ['.'] :: kept else kept⟩

/-- The path with these components. -/
def Components.path (c : Components) : Path :=
  let body := ['/'].intercalate c.parts
  ⟨String.ofList (if c.rooted then '/' :: body else body)⟩

/-- The directories above a path, nearest first; the last is the root or empty. -/
def above (p : Path) : List Path :=
  let c := p.components
  (List.range c.parts.length).reverse.map fun n => Components.path ⟨c.rooted, c.parts.take n⟩

end Path

end Crosslink.Files
