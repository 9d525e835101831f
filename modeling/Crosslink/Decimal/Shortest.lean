/-
# Crosslink.Decimal.Shortest — the fewest digits that read back

A double `m * 2 ^ q` is the value of every real number in an interval around
it; the ends belong to it when `m` is even. Its shortest decimal is a point of
the coarsest power-of-ten grid that meets the interval, of two such points the
nearer one, and of two equally near ones the even one. All comparisons are
made in exact arithmetic.

`shown` writes it: a plain decimal with at least one digit on both sides of the
point while the leading digit has an exponent from -5 to 15, and the digits
with an exponent mark beyond that.
-/

namespace Crosslink.Decimal

/-- The significand and binary exponent of a finite double, without its sign,
and whether the next double below it is only half as far as the one above. -/
def parts (x : Float) : Nat × Int × Bool :=
  let bits : Nat := x.toBits.toNat
  let fraction : Nat := bits % Nat.pow 2 52
  let exponent : Nat := bits / Nat.pow 2 52 % Nat.pow 2 11
  if exponent == 0 then (fraction, -1074, false)
  else (Nat.pow 2 52 + fraction, (exponent : Int) - 1075, fraction == 0 && exponent != 1)

/-- `2 ^ q` as a quotient of natural numbers. -/
def twoPower (q : Int) : Nat × Nat := (Nat.pow 2 q.toNat, Nat.pow 2 (-q).toNat)

/-- `10 ^ k` as a quotient of natural numbers. -/
def tenPower (k : Int) : Nat × Nat := (Nat.pow 10 k.toNat, Nat.pow 10 (-k).toNat)

/-- The point of the grid `10 ^ k` that the interval of `m * 2 ^ q` holds, if it
holds one. Everything is scaled by four, so that the ends are whole. -/
def gridPoint? (m : Nat) (q : Int) (narrow : Bool) (k : Int) : Option Nat :=
  let (twoNum, twoDen) := twoPower q
  let (tenNum, tenDen) := tenPower k
  let scale (n : Nat) : Nat := n * twoNum * tenDen
  let unit := 4 * twoDen * tenNum
  let low := scale (4 * m - if narrow then 1 else 2)
  let high := scale (4 * m + 2)
  let value := scale (4 * m)
  let inside (point : Nat) : Bool :=
    let place := point * unit
    if m % 2 == 0 then low ≤ place && place ≤ high else low < place && place < high
  let below := value / unit
  let above := below + 1
  let toBelow := value - below * unit
  let toAbove := above * unit - value
  match inside below && below != 0, inside above with
  | true, true =>
    if toBelow < toAbove || (toBelow == toAbove && below % 2 == 0) then some below else some above
  | true, false => some below
  | false, true => some above
  | false, false => none

/-- The shortest decimal `digits * 10 ^ exponent` of a double that is not zero. -/
def shortest (x : Float) : Nat × Int :=
  let (m, q, narrow) := parts x
  let hit := (List.range 640).findSome? fun (i : Nat) =>
    let k : Int := 309 - i
    (gridPoint? m q narrow k).map fun digits => (digits, k)
  hit.getD (0, 0)

/-- The digits of a shortest decimal with their point or exponent. -/
def layout (digits : List Char) (exponent : Int) : List Char :=
  let zeros (n : Int) : List Char := List.replicate n.toNat '0'
  let point : Int := digits.length + exponent
  if 0 ≤ exponent && point ≤ 16 then digits ++ zeros exponent ++ ['.', '0']
  else if 0 < point && point ≤ 16 then
    digits.take point.toNat ++ '.' :: digits.drop point.toNat
  else if -5 < point && point ≤ 0 then '0' :: '.' :: zeros (-point) ++ digits
  else
    let mark := 'e' :: (toString (point - 1)).toList
    match digits with
    | [d] => d :: mark
    | d :: ds => d :: '.' :: ds ++ mark
    | [] => mark

/-- The text of a finite double. -/
def shown (x : Float) : String :=
  let sign := if x.toBits.toNat / Nat.pow 2 63 == 1 then ['-'] else []
  let text :=
    if x == 0 then ['0', '.', '0']
    else
      let (digits, exponent) := shortest x
      layout (Nat.toDigits 10 digits) exponent
  String.ofList (sign ++ text)

end Crosslink.Decimal
