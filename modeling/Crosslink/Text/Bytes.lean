/-
# Crosslink.Text.Bytes — lengths and positions in UTF-8

Positions in a text are counted in the bytes of its UTF-8 encoding.
-/

namespace Crosslink.Text

/-- The number of bytes that encode `cs`. -/
def byteLength : List Char → Nat
  | [] => 0
  | c :: cs => c.utf8Size + byteLength cs

@[simp] theorem byteLength_append (xs ys : List Char) :
    byteLength (xs ++ ys) = byteLength xs + byteLength ys := by
  induction xs with
  | nil => simp [byteLength]
  | cons c xs ih => simp [byteLength, ih, Nat.add_assoc]

end Crosslink.Text
