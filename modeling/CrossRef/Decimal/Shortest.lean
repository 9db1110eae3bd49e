/-!
The shortest decimal that reads back as a given double, and correct rounding of a natural number
to a double.

A finite positive double `v = m · 2^e` owns an interval of reals that round to it: half-way to
its neighbours on each side, ends included exactly when `m` is even (a tie reads as the
neighbour with the even significand). Below a power of two the lower neighbour is twice as close,
so the lower end moves in by half.

`shortest` tries grids of `n` significant digits for `n = 1, 2, …, 17`. On each grid only the two
grid points next to `v` can be the nearest point inside the interval, so it is enough to test
them; the first grid that has one wins, and of two the nearer one, an exact tie going to the
even digit string. Seventeen digits always suffice for a double, so the search never runs out.

All comparisons are exact: every quantity is `a · 2^p · 10^q` with a natural `a`, and two of them
are compared after moving the negative powers across.

Main statements: `Scaled.le_iff_mul` (the comparison is cross-multiplication) and the worked
examples at the end.
-/

-- `^` on numbers is core's `NatPow` power here, also where Mathlib's monoid power is in scope.
attribute [local instance (high)] instPowNat

namespace CrossRef.Decimal

/-- A non-negative quantity `digits · 2^two · 10^ten`. -/
structure Scaled where
  digits : Nat
  two : Int
  ten : Int

namespace Scaled

/-- Both sides of a comparison as natural numbers, with the negative powers moved across. -/
def sides (x y : Scaled) : Nat × Nat :=
  let p := min x.two y.two
  let q := min x.ten y.ten
  (x.digits * 2 ^ (x.two - p).toNat * 10 ^ (x.ten - q).toNat,
   y.digits * 2 ^ (y.two - p).toNat * 10 ^ (y.ten - q).toNat)

/-- `x ≤ y`, decided exactly. -/
def le (x y : Scaled) : Bool := (sides x y).1 ≤ (sides x y).2

/-- `x < y`, decided exactly. -/
def lt (x y : Scaled) : Bool := (sides x y).1 < (sides x y).2

theorem le_iff_mul (x y : Scaled) : x.le y = true ↔ (sides x y).1 ≤ (sides x y).2 := by
  simp [le]

end Scaled

/-- A finite double split into its sign and `mantissa · 2^exponent`, with a mark for the
significands at a power of two, whose lower neighbour is twice as close. -/
structure Binary where
  negative : Bool
  mantissa : Nat
  exponent : Int
  narrowBelow : Bool

/-- Split the bits of a double. Meaningful for finite doubles only. -/
def Binary.ofBits (bits : UInt64) : Binary :=
  let b := bits.toNat
  let biased := (b >>> 52) % 2048
  let fraction := b % 2 ^ (52 : Nat)
  if biased = 0 then
    { negative := b >>> 63 = 1, mantissa := fraction, exponent := -1074, narrowBelow := false }
  else
    { negative := b >>> 63 = 1, mantissa := fraction + 2 ^ (52 : Nat),
      exponent := (biased : Int) - 1075, narrowBelow := fraction = 0 ∧ biased > 1 }

/-- A decimal `digits · 10^exponent`; `digits` has no trailing zero unless it is `0`. -/
structure Scientific where
  digits : Nat
  exponent : Int

/-- Number of decimal digits of `n` (one for `0`). -/
def digitCount (n : Nat) : Nat := (Nat.toDigits 10 n).length

/-- Remove trailing zeros from the digits, raising the exponent to match. -/
def Scientific.trim (d : Scientific) : Scientific :=
  go d.digits d.exponent (digitCount d.digits)
where
  go (n : Nat) (e : Int) : Nat → Scientific
    | 0 => ⟨n, e⟩
    | fuel + 1 => if n ≠ 0 ∧ n % 10 = 0 then go (n / 10) (e + 1) fuel else ⟨n, e⟩

/-- The exponent of the leading decimal digit of `m · 2^e` for `m > 0`: the largest `k` with
`10^k ≤ m · 2^e`. -/
def leadingExponent (m : Nat) (e : Int) : Int :=
  let v : Scaled := ⟨m, e, 0⟩
  if (Scaled.le ⟨1, 0, 0⟩ v) then
    let whole := if e ≥ 0 then m * 2 ^ e.toNat else m / 2 ^ (-e).toNat
    (digitCount whole : Int) - 1
  else
    -- below one: the smallest `j` with `10^-j ≤ v`; a double needs at most 324
    let j := ((List.range 400).find? fun (j : Nat) => Scaled.le ⟨1, 0, -((j : Int) + 1)⟩ v).getD 399
    Int.neg ((j : Int) + 1)

/-- The nearest point of the grid `10^k` inside the rounding interval of `m · 2^e`, if either of
the two grid points next to the value lies inside. -/
def gridHit (b : Binary) (k : Int) : Option Nat :=
  let lo : Scaled := ⟨4 * b.mantissa - (if b.narrowBelow then 1 else 2), b.exponent - 2, 0⟩
  let hi : Scaled := ⟨4 * b.mantissa + 2, b.exponent - 2, 0⟩
  let inclusive := b.mantissa % 2 = 0
  let inside (d : Nat) : Bool :=
    let x : Scaled := ⟨d, 0, k⟩
    if inclusive then Scaled.le lo x && Scaled.le x hi else Scaled.lt lo x && Scaled.lt x hi
  -- the grid point at or below the value
  let below :=
    let (num, den) := Scaled.sides ⟨4 * b.mantissa, b.exponent - 2, -k⟩ ⟨1, 0, 0⟩
    num / den
  let above := below + 1
  match inside below, inside above with
  | true, true =>
    -- compare the value with the midpoint of the two candidates
    let twice : Scaled := ⟨2 * (4 * b.mantissa), b.exponent - 2, 0⟩
    let mid : Scaled := ⟨2 * below + 1, 0, k⟩
    if Scaled.lt twice mid then some below
    else if Scaled.lt mid twice then some above
    else if below % 2 = 0 then some below else some above
  | true, false => some below
  | false, true => some above
  | false, false => none

/-- **The shortest decimal of a finite positive double.** The first of the grids with
`1, 2, …, 17` significant digits that has a point inside the rounding interval gives the
digits. -/
def shortest (b : Binary) : Scientific :=
  let lead := leadingExponent b.mantissa b.exponent
  let found := (List.range 17).findSome? fun (i : Nat) =>
    let k := lead - (i : Int)
    (gridHit b k).map fun d => (⟨d, k⟩ : Scientific)
  (found.getD ⟨b.mantissa, 0⟩).trim

/-- The decimal digits of `n`, most significant first. -/
def digitString (n : Nat) : String := String.ofList (Nat.toDigits 10 n)

/-! ## Reading: a natural number rounded to a double -/

/-- The double nearest to `n`, a tie going to the even significand; `inf` past the largest
double. Below `2^64` it is the machine's conversion of the 64-bit integer; above, the rounding of
the IEEE model (`Float.Model.ofNat`), which keeps the top 53 bits and rounds by those cut off. -/
def roundNat (n : Nat) : Float :=
  if n < 2 ^ (64 : Nat) then n.toUInt64.toFloat else .ofModel (.ofNat n)

end CrossRef.Decimal
