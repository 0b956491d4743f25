/-!
# Finite binary64 numbers

A `Binary64` is a finite number of the 64-bit binary format, held exactly: a sign, a significand
below `2^53` and an exponent of two. `Binary64.nearest?` rounds an exact fraction to the nearest such
number, a tie going to the even significand, and fails where the result would be infinite. The
operations `times?` and `dividedBy` are rounded in the same way, so they agree with the format's own.

`Binary64.ofDecimal?` is the value given to a decimal numeral whose digits form a 64-bit integer: the
integer is rounded once, and then multiplied or divided once by the nearest power of ten. The result
is not always the number nearest to the numeral.
-/

namespace Deployer

/-- A finite number `± significand * 2 ^ exponent`. -/
structure Binary64 where
  negative : Bool
  significand : Nat
  exponent : Int
deriving DecidableEq, Repr, Inhabited

namespace Binary64

/-- The least exponent: that of the subnormal numbers. -/
def minExponent : Int := -1074

/-- The greatest exponent. -/
def maxExponent : Int := 971

/-- The significands from here on are those of normal numbers. -/
def hidden : Nat := 0x10000000000000

/-- Positive zero. -/
def zero : Binary64 := ⟨false, 0, minExponent⟩

/-- The number with the opposite sign. -/
def neg (x : Binary64) : Binary64 := { x with negative := !x.negative }

/-- The quotient `num / den` to the nearest integer, a tie going to the even one. -/
def roundDiv (num den : Nat) : Nat :=
  let q := num / den
  let r := num % den
  if 2 * r < den then q else if den < 2 * r then q + 1 else q + q % 2

/-- The fraction `num / den` divided by `2 ^ e`, as a fraction. -/
def unscale (num den : Nat) (e : Int) : Nat × Nat :=
  if 0 ≤ e then (num, den * Nat.pow 2 e.toNat) else (num * Nat.pow 2 (-e).toNat, den)

/-- The exponent at which the integer part of `num / den / 2 ^ e` has 53 binary digits, or the least
exponent if that is smaller. -/
def exponentOf (num den : Nat) : Int :=
  let guess : Int := (Nat.log2 num : Int) - (Nat.log2 den : Int) - 52
  let (n, d) := unscale num den guess
  max minExponent (if n / d < hidden then guess - 1 else guess)

/-- The nonnegative number nearest to `num / den`, unless it is beyond the largest finite one. -/
def nearest? (num den : Nat) : Option Binary64 :=
  if num = 0 then some zero
  else
    let e := exponentOf num den
    let (n, d) := unscale num den e
    let m := roundDiv n d
    let (m, e) := if m = 2 * hidden then (hidden, e + 1) else (m, e)
    if maxExponent < e then none else some ⟨false, m, e⟩

/-- The size of a number as a fraction. -/
def fraction (x : Binary64) : Nat × Nat :=
  if 0 ≤ x.exponent then (x.significand * Nat.pow 2 x.exponent.toNat, 1)
  else (x.significand, Nat.pow 2 (-x.exponent).toNat)

/-- The rounded product of the sizes of two numbers. -/
def times? (x y : Binary64) : Option Binary64 :=
  nearest? (x.fraction.1 * y.fraction.1) (x.fraction.2 * y.fraction.2)

/-- The rounded quotient of the sizes of two numbers; the divisor is at least one. -/
def dividedBy (x y : Binary64) : Binary64 :=
  (nearest? (x.fraction.1 * y.fraction.2) (x.fraction.2 * y.fraction.1)).getD zero

/-- The number nearest to a natural number below `2 ^ 64`. -/
def ofNat (n : Nat) : Binary64 := (nearest? n 1).getD zero

/-- The largest power of ten by which a numeral is scaled in one step. -/
def maxPower : Nat := 308

/-- The number nearest to `10 ^ k`, for `k` up to `maxPower`. -/
def tenPow (k : Nat) : Binary64 := (nearest? (Nat.pow 10 k) 1).getD zero

/-- A number divided by `10 ^ k`, in steps of at most `maxPower` places. -/
def shiftDown (x : Binary64) (k : Nat) : Binary64 :=
  if k ≤ maxPower then x.dividedBy (tenPow k)
  else if x.significand = 0 then x
  else shiftDown (x.dividedBy (tenPow maxPower)) (k - maxPower)
termination_by k
decreasing_by simp [maxPower] at *; omega

/-- The number that a numeral `digits * 10 ^ exponent` denotes, unless it is out of range. -/
def ofDecimal? (digits : Nat) (exponent : Int) : Option Binary64 :=
  let x := ofNat digits
  if exponent < 0 then some (shiftDown x (-exponent).toNat)
  else if exponent.toNat ≤ maxPower then x.times? (tenPow exponent.toNat)
  else if x.significand = 0 then some x
  else none

end Binary64

end Deployer
