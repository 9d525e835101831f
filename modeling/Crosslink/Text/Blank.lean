/-
# Crosslink.Text.Blank — blank characters and trimming

A blank is a character with the property White_Space. A text is trimmed by
dropping the blanks at both of its ends; blanks inside it stay.
-/

namespace Crosslink.Text

/-- The characters with the property White_Space. -/
def isBlank (c : Char) : Bool :=
  let n := c.toNat
  (9 ≤ n && n ≤ 13) || n == 0x20 || n == 0x85 || n == 0xa0 || n == 0x1680 ||
    (0x2000 ≤ n && n ≤ 0x200a) || n == 0x2028 || n == 0x2029 || n == 0x202f || n == 0x205f ||
    n == 0x3000

def trimLeft (cs : List Char) : List Char := cs.dropWhile isBlank

def trimRight (cs : List Char) : List Char := (cs.reverse.dropWhile isBlank).reverse

/-- `cs` without the blanks at its ends. -/
def trim (cs : List Char) : List Char := trimRight (trimLeft cs)

end Crosslink.Text
