/-
# Crosslink.Text.Decoder — quoted text, one character at a time

A decoder reads the inside of a quoted text. In each state it looks at one
character, and at what follows it, and either goes on with some output, stops
at a place behind the closing quote, or fails. Running out of characters before
the closing quote is a failure of its own. Every run is a recursion on the
characters, so what a decoder does to `c :: cs` is what it does to `c` and then
to `cs`.
-/

namespace Crosslink.Text

/-- What a decoder does with a character. -/
inductive Move (σ ε : Type) where
  | emit (out : List Char) (next : σ)
  | stop (out : List Char) (rest : List Char)
  | fail (fault : ε)

/-- The decoded text and what stands behind its closing quote. -/
def decode {σ ε : Type} (move : σ → Char → List Char → Move σ ε) (atEnd : ε) :
    σ → List Char → Except ε (List Char × List Char)
  | _, [] => .error atEnd
  | s, c :: cs =>
    match move s c cs with
    | .fail fault => .error fault
    | .stop out rest => .ok (out, rest)
    | .emit out next =>
      match decode move atEnd next cs with
      | .ok (text, rest) => .ok (out ++ text, rest)
      | .error fault => .error fault

end Crosslink.Text
