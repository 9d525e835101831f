/-
# Crosslink.Text.CodePoints — sets of characters given by runs of code points

A character property of the Unicode standard is a finite list of runs. A run is
`(first, last, step)`: the code points from `first` to `last` that are a
multiple of `step` away from `first`. Alternating letter case is one run of
step two, so the tables below stay short.

Below 128 no table is read: each property states its ASCII part as a rule, so
facts about ASCII characters never unfold a table.
-/

namespace Crosslink.Text

/-- Runs of code points `(first, last, step)`. -/
abbrev CodePoints := List (Nat × Nat × Nat)

/-- `n` lies on one of the runs. -/
def CodePoints.contains (runs : CodePoints) (n : Nat) : Bool :=
  runs.any fun (first, last, step) => first ≤ n && n ≤ last && (n - first) % step == 0

/-- A property with the ASCII part `ascii` and the runs `runs` from 128 on. -/
def CodePoints.decides (runs : CodePoints) (ascii : Char → Bool) (c : Char) : Bool :=
  if c.toNat < 128 then ascii c else runs.contains c.toNat

end Crosslink.Text
