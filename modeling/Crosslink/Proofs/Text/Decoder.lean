/-
# Crosslink.Proofs.Text.Decoder — decoding goes on behind what was read

One character that a decoder goes on from puts its output in front of what is
decoded behind it (`decode_emit`). So a text that was written piece by piece is
decoded piece by piece.
-/
import Crosslink.Text.Decoder

namespace Crosslink.Text

set_option autoImplicit false

variable {σ ε : Type} {move : σ → Char → List Char → Move σ ε} {atEnd : ε}

/-- The outcome of decoding with more output in front. -/
def withOutput (out : List Char) (decoded : Except ε (List Char × List Char)) :
    Except ε (List Char × List Char) :=
  decoded.map fun (text, rest) => (out ++ text, rest)

@[simp] theorem withOutput_nil (decoded : Except ε (List Char × List Char)) :
    withOutput [] decoded = decoded := by
  cases decoded with
  | error fault => rfl
  | ok decoded => rfl

theorem decode_emit {state next : σ} {c : Char} {cs out : List Char}
    (emits : move state c cs = .emit out next) :
    decode move atEnd state (c :: cs) = withOutput out (decode move atEnd next cs) := by
  simp only [decode, emits]
  cases decode move atEnd next cs with
  | error fault => rfl
  | ok decoded => rfl

theorem decode_silent {state next : σ} {c : Char} {cs : List Char}
    (emits : move state c cs = .emit [] next) :
    decode move atEnd state (c :: cs) = decode move atEnd next cs := by
  rw [decode_emit emits, withOutput_nil]

theorem decode_stop {state : σ} {c : Char} {cs out rest : List Char}
    (stops : move state c cs = .stop out rest) :
    decode move atEnd state (c :: cs) = .ok (out, rest) := by
  simp only [decode, stops]

end Crosslink.Text
