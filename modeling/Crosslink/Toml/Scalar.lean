/-
# Crosslink.Toml.Scalar — numbers, truth values and times

The values that are written without quotes. Single underscores may stand
between digits; a decimal number has no leading zero; a number in base two,
eight or sixteen has no sign. A date, a time of day, or both with an optional
offset must exist in the calendar; seconds may be left out.
-/
import Crosslink.Text.Hex

namespace Crosslink.Toml

open Crosslink.Text

inductive Scalar where
  | bool (value : Bool)
  | integer (value : Int)
  /-- A number with a fraction or an exponent, an infinity, or no number; as written. -/
  | real (written : String)
  /-- A date, a time, or both; as written. -/
  | moment (written : String)
deriving DecidableEq, Repr

/-! ## Numbers -/

/-- Digits without the underscores between them. -/
def ungroup (isDigit : Char → Bool) : List Char → Option (List Char)
  | [] => none
  | [c] => if isDigit c then some [c] else none
  | c :: '_' :: rest => if isDigit c then (ungroup isDigit rest).map (c :: ·) else none
  | c :: rest => if isDigit c then (ungroup isDigit rest).map (c :: ·) else none

def digitsIn (base : Nat) (c : Char) : Bool := (hexValue? c).any fun d => d < base

/-- The value of digits, most significant first. -/
def valueOf (base : Nat) (digits : List Char) : Nat :=
  digits.foldl (fun n c => base * n + (hexValue? c).getD 0) 0

/-- Decimal digits without a leading zero. -/
def decimal? (cs : List Char) : Option (List Char) :=
  match ungroup Char.isDigit cs with
  | some ('0' :: _ :: _) => none
  | digits => digits

/-- A sign and what follows it. -/
def takeSign : List Char → Option Bool × List Char
  | '+' :: rest => (some false, rest)
  | '-' :: rest => (some true, rest)
  | cs => (none, cs)

/-- Integers reach up to 128 bits. -/
def inRange (n : Int) : Bool := -(Nat.pow 2 127 : Nat) ≤ n && n < (Nat.pow 2 128 : Nat)

def integer? (cs : List Char) : Option Int :=
  let value := match cs with
    | '0' :: 'x' :: rest => (ungroup (digitsIn 16) rest).map fun ds => (valueOf 16 ds : Int)
    | '0' :: 'o' :: rest => (ungroup (digitsIn 8) rest).map fun ds => (valueOf 8 ds : Int)
    | '0' :: 'b' :: rest => (ungroup (digitsIn 2) rest).map fun ds => (valueOf 2 ds : Int)
    | _ =>
      let (sign, rest) := takeSign cs
      (decimal? rest).map fun ds =>
        if sign == some true then -(valueOf 10 ds : Int) else (valueOf 10 ds : Int)
  value.filter inRange

/-- `digits * 10 ^ exponent` is at least the smallest number beyond the doubles. -/
def overflows (digits : Nat) (exponent : Int) : Bool :=
  let limit := Nat.pow 2 1024 - Nat.pow 2 970
  let size : Int := (Nat.toDigits 10 digits).length + exponent
  if digits == 0 || size < 309 then false
  else if size > 310 then true
  else if exponent ≥ 0 then digits * Nat.pow 10 exponent.toNat ≥ limit
  else digits ≥ limit * Nat.pow 10 (-exponent).toNat

def isExponentMark (c : Char) : Bool := c == 'e' || c == 'E'

/-- The exponent of a number, from behind its mark. -/
def exponent? (cs : List Char) : Option Int :=
  let (sign, rest) := takeSign cs
  (ungroup Char.isDigit rest).map fun ds =>
    if sign == some true then -(valueOf 10 ds : Int) else (valueOf 10 ds : Int)

/-- A number with a fraction or an exponent, without its sign. -/
def isPlainReal (cs : List Char) : Bool :=
  let whole := cs.takeWhile fun (c : Char) => c.isDigit || c == '_'
  let rest := cs.drop whole.length
  let (fraction, rest) := match rest with
    | '.' :: rest =>
      let fraction := rest.takeWhile fun (c : Char) => c.isDigit || c == '_'
      (some fraction, rest.drop fraction.length)
    | _ => (none, rest)
  let exponent := match rest with
    | [] => if fraction.isSome then some 0 else none
    | c :: rest => if isExponentMark c then exponent? rest else none
  let fractionDigits := match fraction with
    | some digits => ungroup Char.isDigit digits
    | none => some []
  match decimal? whole, fractionDigits, exponent with
  | some ds, some fs, some e => !overflows (valueOf 10 (ds ++ fs)) (e - fs.length)
  | _, _, _ => false

def isReal (cs : List Char) : Bool :=
  let (_, rest) := takeSign cs
  rest == "inf".toList || rest == "nan".toList || isPlainReal rest

/-! ## Times -/

/-- A number of exactly `n` digits. -/
def digits? (n : Nat) (cs : List Char) : Option (Nat × List Char) :=
  let ds := cs.take n
  if ds.length == n && ds.all Char.isDigit then some (valueOf 10 ds, cs.drop n) else none

def isLeapYear (year : Nat) : Bool := year % 4 == 0 && (year % 100 != 0 || year % 400 == 0)

def daysIn (year month : Nat) : Nat :=
  if month == 2 then if isLeapYear year then 29 else 28
  else if month == 4 || month == 6 || month == 9 || month == 11 then 30
  else 31

/-- The text behind one given character. -/
def expect (c : Char) : List Char → Option (List Char)
  | d :: rest => if d == c then some rest else none
  | [] => none

/-- The text behind a date. -/
def date? (cs : List Char) : Option (List Char) := do
  let (year, cs) ← digits? 4 cs
  let (month, cs) ← digits? 2 (← expect '-' cs)
  let (day, cs) ← digits? 2 (← expect '-' cs)
  if 1 ≤ month && month ≤ 12 && 1 ≤ day && day ≤ daysIn year month then some cs else none

/-- The text behind hours and minutes. -/
def hourMinute? (cs : List Char) : Option (List Char) := do
  let (hour, cs) ← digits? 2 cs
  let (minute, cs) ← digits? 2 (← expect ':' cs)
  if hour ≤ 23 && minute ≤ 59 then some cs else none

/-- The text behind the fraction of a second, if there is one. -/
def fraction? : List Char → Option (List Char)
  | '.' :: rest =>
    if (rest.takeWhile Char.isDigit).isEmpty then none else some (rest.dropWhile Char.isDigit)
  | cs => some cs

/-- The text behind a time of day. -/
def time? (cs : List Char) : Option (List Char) := do
  let cs ← hourMinute? cs
  match cs with
  | ':' :: rest =>
    let (second, rest) ← digits? 2 rest
    if second ≤ 60 then fraction? rest else none
  | _ => some cs

/-- Nothing, or an offset from universal time. -/
def isOffset : List Char → Bool
  | [] => true
  | ['Z'] => true
  | ['z'] => true
  | '+' :: rest => hourMinute? rest == some []
  | '-' :: rest => hourMinute? rest == some []
  | _ => false

def isMoment (cs : List Char) : Bool :=
  match date? cs with
  | some [] => true
  | some (c :: rest) => (c == 'T' || c == 't' || c == ' ') && (time? rest).any isOffset
  | none => time? cs == some []

/-! ## Reading -/

def isScalarChar (c : Char) : Bool :=
  c.isAlphanum || c == '+' || c == '-' || c == '_' || c == '.' || c == ':'

/-- A run of characters that may be a value. A date and a time may have one
space between them. -/
def scalarRun (cs : List Char) : List Char × List Char :=
  let run := cs.takeWhile isScalarChar
  let rest := cs.drop run.length
  match date? run, rest with
  | some [], ' ' :: c :: more =>
    if c.isDigit then
      let time := (c :: more).takeWhile isScalarChar
      (run ++ ' ' :: time, (c :: more).drop time.length)
    else (run, rest)
  | _, _ => (run, rest)

/-- The value that a run of characters spells. -/
def scalar? (run : List Char) : Option Scalar :=
  if run == "true".toList then some (.bool true)
  else if run == "false".toList then some (.bool false)
  else
    match integer? run with
    | some n => some (.integer n)
    | none =>
      if isReal run then some (.real (String.ofList run))
      else if isMoment run then some (.moment (String.ofList run))
      else none

end Crosslink.Toml
