import Deployer.Number.Binary64

/-!
# Shortest decimal text

`Binary64.shortest` finds the decimal `digits * 10 ^ exponent` with the fewest digits that rounds back
to a given number, and of these the nearest to it. The search is exact: for one, two, … digits it
tests the two neighbours of the number on that decimal grid against the interval of the reals that
round to the number, whose ends belong to it when the significand is even.

`Binary64.text` lays the digits out. With the value written as `0.d₁d₂… * 10 ^ point`, the positional
form is used when `-5 < point ≤ 16`, always with at least one digit after the decimal point;
otherwise a scientific form is used, as `1.5e+300` or `1e-7`.
-/

namespace Deployer.Binary64

/-- A decimal `digits * 10 ^ exponent`. -/
structure Decimal where
  digits : Nat
  exponent : Int
deriving DecidableEq, Repr

/-- A positive number as a fraction in quarters of its last binary place, with the ends of the
interval that rounds to it: the number is `mid * unit`, the ends are `low * unit` and `high * unit`,
where `unit` is the fraction `unitNum / unitDen`. -/
structure Neighbourhood where
  low : Nat
  mid : Nat
  high : Nat
  unitNum : Nat
  unitDen : Nat
  closed : Bool

/-- The reals that round to a positive number. Below a power of two the gap is half as wide, except
at the bottom of the range. -/
def neighbourhood (x : Binary64) : Neighbourhood where
  low := if x.significand = hidden ∧ minExponent < x.exponent then 4 * x.significand - 1
    else 4 * x.significand - 2
  mid := 4 * x.significand
  high := 4 * x.significand + 2
  unitNum := if 2 ≤ x.exponent then Nat.pow 2 (x.exponent - 2).toNat else 1
  unitDen := if 2 ≤ x.exponent then 1 else Nat.pow 2 (2 - x.exponent).toNat
  closed := x.significand % 2 == 0

/-- The fraction of `10 ^ k`. -/
def tenPowFraction (k : Int) : Nat × Nat :=
  if 0 ≤ k then (Nat.pow 10 k.toNat, 1) else (1, Nat.pow 10 (-k).toNat)

/-- Whether `digits * 10 ^ exponent` lies in a neighbourhood. -/
def Neighbourhood.contains (v : Neighbourhood) (d : Decimal) : Bool :=
  let (tn, td) := tenPowFraction d.exponent
  let here := d.digits * tn * v.unitDen
  let low := v.low * v.unitNum * td
  let high := v.high * v.unitNum * td
  if v.closed then low ≤ here && here ≤ high else low < here && here < high

/-- The point `k` with `10 ^ (k - 1) ≤ value < 10 ^ k`. -/
def Neighbourhood.point (v : Neighbourhood) : Int :=
  let num := v.mid * v.unitNum
  if v.unitDen ≤ num then (Nat.toDigits 10 (num / v.unitDen)).length
  else
    match (List.range 330).find? fun t => v.unitDen ≤ num * Nat.pow 10 t with
    | some t => 1 - (t : Int)
    | none => 0

/-- The neighbour of a number on the grid of multiples of `10 ^ exponent` that rounds back to it, if
there is one; of two, the nearer, and the even one at a tie. -/
def Neighbourhood.onGrid? (v : Neighbourhood) (exponent : Int) : Option Decimal :=
  let (tn, td) := tenPowFraction exponent
  let num := v.mid * v.unitNum * td
  let den := v.unitDen * tn
  let below : Decimal := ⟨num / den, exponent⟩
  let above : Decimal := ⟨num / den + 1, exponent⟩
  match v.contains below, v.contains above with
  | true, true => some ⟨roundDiv num den, exponent⟩
  | true, false => some below
  | false, true => some above
  | false, false => none

/-- A decimal without trailing zeros among its digits. -/
def Decimal.normal (d : Decimal) : Decimal :=
  let digits := (Nat.toDigits 10 d.digits).reverse
  let zeros := (digits.takeWhile (· == '0')).length
  ⟨d.digits / Nat.pow 10 zeros, d.exponent + zeros⟩

/-- The decimal with the fewest digits that rounds to a positive number; seventeen digits suffice. -/
def shortest (x : Binary64) : Decimal :=
  let v := x.neighbourhood
  let point := v.point
  match (List.range 17).findSome? fun (n : Nat) => v.onGrid? (point - 1 - (n : Int)) with
  | some d => d.normal
  | none => ⟨0, 0⟩

/-- The layout of a positive decimal. -/
def Decimal.layout (d : Decimal) : List Char :=
  let digits := Nat.toDigits 10 d.digits
  let n := digits.length
  let point := (n : Int) + d.exponent
  if -5 < point ∧ point ≤ 16 then
    if point ≤ 0 then
      ['0', '.'] ++ List.replicate (-point).toNat '0' ++ digits
    else if n ≤ point.toNat then
      digits ++ List.replicate (point.toNat - n) '0' ++ ['.', '0']
    else
      digits.take point.toNat ++ ['.'] ++ digits.drop point.toNat
  else
    let mantissa := match digits with
      | [] => []
      | [only] => [only]
      | first :: others => first :: '.' :: others
    let size := Nat.toDigits 10 (point - 1).natAbs
    mantissa ++ ['e', if point - 1 < 0 then '-' else '+'] ++ size

/-- The text of a number. -/
def text (x : Binary64) : List Char :=
  let size := if x.significand = 0 then ['0', '.', '0'] else x.shortest.layout
  if x.negative then '-' :: size else size

end Deployer.Binary64
