/-!
The double nearest to a decimal.

A decimal `digits · 10^exponent` is read as the double nearest to it, a tie going to the double
with an even significand; a decimal past the largest double is infinity, and one below half the
least positive double is zero.

The quotient `num / den` is first scaled by a power of two so that its integer part has 55 or 56
bits, which leaves at least two bits below the 53 a double keeps; the remainder of the division
says whether anything lies below those. The significand is then the top 53 bits (fewer for a
subnormal, whose exponent cannot go below `-1074`), rounded by the bits cut off: up when they are
more than half, to even when exactly half with nothing below. The product of a significand below
`2^54` and a power of two is exact whenever it is a double, so scaling it loses nothing.
-/

-- `^` on numbers is core's `NatPow` power here, also where Mathlib's monoid power is in scope.
attribute [local instance (high)] instPowNat

namespace CrossRef.Decimal

/-- **The double nearest to `num / den`**, ties to even; `0` when either is `0`. -/
def nearestRatio (num den : Nat) : Float :=
  if num = 0 ∨ den = 0 then 0
  else
    let e0 : Int := (Nat.log2 num : Int) - (Nat.log2 den : Int) - 55
    let n := if e0 ≥ 0 then num else num * 2 ^ (-e0).toNat
    let d := if e0 ≥ 0 then den * 2 ^ e0.toNat else den
    let q := n / d
    let below := n % d ≠ 0
    let s0 : Int := (Nat.log2 q : Int) + 1 - 53
    let ef0 := e0 + s0
    let s := if ef0 < -1074 then s0 + (-1074 - ef0) else s0
    let ef := if ef0 < -1074 then -1074 else ef0
    let cut := s.toNat
    let m := q >>> cut
    let rest := q % 2 ^ cut
    let half := 2 ^ (cut - 1)
    let up := rest > half ∨ (rest = half ∧ (below ∨ m % 2 = 1))
    let m := if up then m + 1 else m
    (m.toUInt64.toFloat).scaleB ef

/-- The number of decimal digits of a positive number. -/
def decimalLength (n : Nat) : Nat := (Nat.toDigits 10 n).length

/-- **The double nearest to `± digits · 10^exponent`.** -/
def nearestFloat (negative : Bool) (digits : Nat) (exponent : Int) : Float :=
  let magnitude : Float :=
    if digits = 0 then 0
    else if exponent + decimalLength digits > 310 then 1 / 0
    else if exponent + decimalLength digits < -326 then 0
    else if exponent ≥ 0 then nearestRatio (digits * 10 ^ exponent.toNat) 1
    else nearestRatio digits (10 ^ (-exponent).toNat)
  if negative then -magnitude else magnitude

end CrossRef.Decimal
