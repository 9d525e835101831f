/-
# Crosslink.Text.Split — cutting a text at a mark

A mark is a short text such as `::`. `cutFirst` and `cutLast` give the parts
before and after the leftmost and the rightmost place where the mark stands;
`segments` cuts at every `::`, from the left and without overlap, so a text
with `n` such places has `n + 1` segments, some of which may be empty.
-/

namespace Crosslink.Text

/-- The mark between the segments of a qualified name. -/
def scopeMark : List Char := [':', ':']

/-- The parts before and after the leftmost `mark`. -/
def cutFirst (mark : List Char) : List Char → Option (List Char × List Char)
  | [] => none
  | c :: cs =>
    match mark.isPrefixOf? (c :: cs) with
    | some rest => some ([], rest)
    | none => (cutFirst mark cs).map fun (before, after) => (c :: before, after)

/-- The parts before and after the rightmost `mark`. -/
def cutLast (mark : List Char) : List Char → Option (List Char × List Char)
  | [] => none
  | c :: cs =>
    match cutLast mark cs with
    | some (before, after) => some (c :: before, after)
    | none => (mark.isPrefixOf? (c :: cs)).map fun rest => ([], rest)

/-- The parts between the `::` of a text. -/
def segments : List Char → List (List Char)
  | [] => [[]]
  | ':' :: ':' :: cs => [] :: segments cs
  | c :: cs =>
    match segments cs with
    | [] => [[c]]
    | s :: ss => (c :: s) :: ss

/-- `cs` without a `::` in front. -/
def dropScopeMark (cs : List Char) : List Char := (scopeMark.isPrefixOf? cs).getD cs

/-- `cs` without one full stop at its end. -/
def dropFullStop (cs : List Char) : List Char :=
  if cs.getLast? = some '.' then cs.dropLast else cs

end Crosslink.Text
