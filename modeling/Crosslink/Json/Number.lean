/-
# Crosslink.Json.Number — JSON numbers

A number is an optional minus sign, digits without a leading zero, an optional
fraction and an optional exponent. Whole numbers that fit in 64 bits are
integers; all others are doubles. A double is the first digits, as many as fit
in 64 bits, scaled by one power of ten in double arithmetic; a number too large
for a double is malformed.
-/
import Crosslink.Decimal.Shortest
import Crosslink.Json.Fault

namespace Crosslink.Json

def digitValue (c : Char) : Nat := c.toNat - '0'.toNat

/-- The largest number of 64 bits. -/
def maxWord : Nat := Nat.pow 2 64 - 1

/-- The leading digits taken into `significand` while it fits in 64 bits, how
many were taken, and the digits left. -/
def takeDigits (significand taken : Nat) : List Char → Nat × Nat × List Char
  | [] => (significand, taken, [])
  | c :: cs =>
    let next := significand * 10 + digitValue c
    if next ≤ maxWord then takeDigits next (taken + 1) cs else (significand, taken, c :: cs)

/-- `significand * 10 ^ exponent` in double arithmetic. -/
def scaled (negative : Bool) (significand : Nat) (exponent : Int) : Except Fault Float :=
  let signed (x : Float) : Float := if negative then -x else x
  let whole := (UInt64.ofNat significand).toFloat
  if significand == 0 then .ok (signed 0)
  else if exponent ≥ 0 then
    if exponent > 308 then .error .malformed
    else
      let x := whole * Float.ofScientific 1 false exponent.toNat
      if x.isInf then .error .malformed else .ok (signed x)
  else
    let steps := (-exponent).toNat
    let divide (x : Float) (n : Nat) : Float := x / Float.ofScientific 1 false n
    .ok (signed (if steps ≤ 308 then divide whole steps
      else if steps ≤ 616 then divide (divide whole 308) (steps - 308)
      else if steps ≤ 924 then divide (divide (divide whole 308) 308) (steps - 616)
      else 0))

def real (negative : Bool) (significand : Nat) (exponent : Int) (rest : List Char) :
    Reading Found :=
  (scaled negative significand exponent).map fun x => (.real (Decimal.shown x), rest)

/-- The largest exponent that is still counted. -/
def maxExponent : Nat := Nat.pow 2 31 - 1

/-- The exponent of a number, from behind its mark. -/
def readExponent (negative : Bool) (significand : Nat) (base : Int) (cs : List Char) :
    Reading Found :=
  let (down, cs) := match cs with
    | '+' :: rest => (false, rest)
    | '-' :: rest => (true, rest)
    | _ => (false, cs)
  match cs with
  | [] => .error .truncated
  | c :: _ =>
    if !c.isDigit then .error .malformed
    else
      let digits := cs.takeWhile Char.isDigit
      let rest := cs.dropWhile Char.isDigit
      let size := digits.foldl (fun n d => min (n * 10 + digitValue d) (maxExponent + 1)) 0
      if size > maxExponent then
        if significand != 0 && !down then .error .malformed
        else .ok (.real (Decimal.shown (if negative then -0.0 else 0.0)), rest)
      else real negative significand (if down then base - size else base + size) rest

def isExponentMark (c : Char) : Bool := c == 'e' || c == 'E'

/-- The fraction of a number, from behind its point. -/
def readFraction (negative : Bool) (significand : Nat) (base : Int) (cs : List Char) :
    Reading Found :=
  let digits := cs.takeWhile Char.isDigit
  let rest := cs.dropWhile Char.isDigit
  if digits.isEmpty then
    if rest.isEmpty then .error .truncated else .error .malformed
  else
    let (significand, taken, _) := takeDigits significand 0 digits
    let exponent := base - taken
    match rest with
    | c :: after =>
      if isExponentMark c then readExponent negative significand exponent after
      else real negative significand exponent rest
    | [] => real negative significand exponent rest

/-- A whole number that fits in 64 bits, with its sign. -/
def whole (negative : Bool) (n : Nat) : Found :=
  if !negative then .integer n
  else if 1 ≤ n && n ≤ Nat.pow 2 63 then .integer (-(n : Int))
  else .real (Decimal.shown (-(UInt64.ofNat n).toFloat))

/-- A number from its first digit on, behind its sign. -/
def readNumber (negative : Bool) (cs : List Char) : Reading Found :=
  let digits := cs.takeWhile Char.isDigit
  let rest := cs.dropWhile Char.isDigit
  match digits with
  | [] => if cs.isEmpty then .error .truncated else .error .malformed
  | '0' :: _ :: _ => .error .malformed
  | _ =>
    let (significand, _, left) := takeDigits 0 0 digits
    let base : Int := left.length
    match rest with
    | '.' :: after => readFraction negative significand base after
    | c :: after =>
      if isExponentMark c then readExponent negative significand base after
      else if left.isEmpty then .ok (whole negative significand, rest)
      else real negative significand base rest
    | [] =>
      if left.isEmpty then .ok (whole negative significand, rest)
      else real negative significand base rest

/-! ## Skipping -/

def skipExponent (cs : List Char) : Except Fault (List Char) :=
  let cs := match cs with
    | '+' :: rest => rest
    | '-' :: rest => rest
    | _ => cs
  if (cs.takeWhile Char.isDigit).isEmpty then .error .malformed
  else .ok (cs.dropWhile Char.isDigit)

def skipExponentPart : List Char → Except Fault (List Char)
  | c :: cs => if isExponentMark c then skipExponent cs else .ok (c :: cs)
  | [] => .ok []

/-- The text behind a number, from behind its sign. Only the form is checked. -/
def skipNumber (cs : List Char) : Except Fault (List Char) :=
  match cs.takeWhile Char.isDigit with
  | [] => .error .malformed
  | '0' :: _ :: _ => .error .malformed
  | _ =>
    match cs.dropWhile Char.isDigit with
    | '.' :: after =>
      if (after.takeWhile Char.isDigit).isEmpty then .error .malformed
      else skipExponentPart (after.dropWhile Char.isDigit)
    | rest => skipExponentPart rest

end Crosslink.Json
