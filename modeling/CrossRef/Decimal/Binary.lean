import CrossRef.Text.Bytes
/-!
Binary floating-point numbers of a given precision.

A binary format keeps a significand of `precision` bits; a value below the least normal one keeps
fewer, down to the unit `2^minExponent`, and a value at or above `2^maxExponent` is infinite.
Doubles have 53 bits, the x87 extended format 64.

Reading text gives the value of the format nearest to the number written, a tie going to the
even significand, as the C library's `strtod` reads it: blanks, a sign, then `inf`, `infinity`
or `nan` in any case, a hexadecimal significand after `0x` with a binary exponent after `p`, or
decimal digits with a point and an exponent after `e`. A number too large for the format is
infinite and out of range, one that is not zero but rounds to zero or below the least normal
value is out of range too.

Writing a finite value in fixed or scientific notation rounds its exact value to the digits
asked for, a tie going to the even digit; `%g` notation chooses between the two by the exponent
and drops trailing zeros.

This module belongs to the simulated test host that one-shot analyzer commands run on, not to
the library's program: the program reaches the host only through `Cli.Machine` and
`Host.System`, and no theorem of the library is about this module.
-/

-- `^` on numbers is core's `NatPow` power here, also where Mathlib's monoid power is in scope.
attribute [local instance (high)] instPowNat

namespace CrossRef.Decimal

/-- A binary floating-point format. -/
structure Format where
  /-- The bits of a significand. -/
  precision : Nat
  /-- The exponent of the unit of the least subnormal value. -/
  minExponent : Int
  /-- Values from `2^maxExponent` up are infinite. -/
  maxExponent : Int
  deriving Repr, Inhabited

/-- IEEE doubles. -/
def Format.double : Format := ⟨53, -1074, 1024⟩

/-- The x87 extended format. -/
def Format.extended : Format := ⟨64, -16445, 16384⟩

/-- A value of a binary format. -/
inductive Value where
  /-- `± significand · 2^exponent`. -/
  | finite (negative : Bool) (significand : Nat) (exponent : Int)
  | infinite (negative : Bool)
  | nan (negative : Bool)
  deriving Repr, Inhabited

/-- Whether a value has a minus sign. -/
def Value.negative : Value → Bool
  | .finite n _ _ | .infinite n | .nan n => n

/-- The quotient of two naturals rounded to the nearest natural, a tie going to the even one. -/
def roundHalfEven (num den : Nat) : Nat :=
  let q := num / den
  let r := num % den
  if 2 * r > den || (2 * r == den && q % 2 == 1) then q + 1 else q

/-- **The value nearest to `num / den`** in a format, ties to even, and whether it is out of range
(infinite, or below the least normal value and not exact, or zero though `num` is not). -/
def Format.nearest (f : Format) (negative : Bool) (num den : Nat) : Value × Bool :=
  if num = 0 ∨ den = 0 then (.finite negative 0 0, false)
  else
    let e0 : Int := (Nat.log2 num : Int) - (Nat.log2 den : Int) - (f.precision + 2 : Nat)
    let n := if e0 ≥ 0 then num else num * 2 ^ (-e0).toNat
    let d := if e0 ≥ 0 then den * 2 ^ e0.toNat else den
    let q := n / d
    let below := n % d ≠ 0
    let s0 : Int := (Nat.log2 q : Int) + 1 - f.precision
    let ef0 := e0 + s0
    let tiny := ef0 < f.minExponent
    let s := if tiny then s0 + (f.minExponent - ef0) else s0
    let ef := if tiny then f.minExponent else ef0
    let cut := s.toNat
    let m := q >>> cut
    let rest := q % 2 ^ cut
    let half := 2 ^ (cut - 1)
    let up := cut > 0 && (rest > half ∨ (rest = half ∧ (below ∨ m % 2 = 1)))
    let inexact := below || rest ≠ 0
    let m := if up then m + 1 else m
    if (Nat.log2 m : Int) + ef ≥ f.maxExponent then (.infinite negative, true)
    else (.finite negative m ef, (tiny && inexact) || m = 0)

/-- How reading a number ended: the value, what follows it, and whether it is out of range. -/
structure Reading where
  value : Value
  rest : Bytes
  outOfRange : Bool
  deriving Inhabited

/-- Decimal digits at the start of bytes: their value, their number and what follows. -/
def digitsOf (base : Nat) : Bytes → Nat → Nat → Nat × Nat × Bytes
  | c :: cs, v, n =>
    if Bytes.digitValue c < base then digitsOf base cs (v * base + Bytes.digitValue c) (n + 1)
    else (v, n, c :: cs)
  | [], v, n => (v, n, [])

/-- Whether bytes start with a word, in any case. -/
def startsWithWord (b : Bytes) (w : String) : Bool :=
  (b.take w.length).map Bytes.lower == Bytes.ofString w

/-- An exponent after a mark (`e` or `p`): its value and what follows, or nothing when no digit
follows the mark and its sign. -/
def exponentPart (mark : UInt8) (b : Bytes) : Option (Int × Bytes) :=
  match b with
  | c :: rest =>
    if Bytes.lower c != mark then none
    else
      let (neg, rest) := match rest with
        | 45 :: r => (true, r)
        | 43 :: r => (false, r)
        | r => (false, r)
      let (v, n, after) := digitsOf 10 rest 0 0
      if n = 0 then none else some (if neg then -(v : Int) else v, after)
  | [] => none

/-- The value of `digits · base^exponent` in a format, for base 2 or 10. Magnitudes far beyond
every format's range are infinite or zero without computing them. -/
def Format.scaled (f : Format) (negative : Bool) (digits : Nat) (base : Nat) (exponent : Int) : Value × Bool :=
  let size : Int := if base == 10 then (Nat.toDigits 10 digits).length else Nat.log2 digits + 1
  let magnitude := size + exponent
  let bound : Int := if base == 10 then 5000 else 17000
  if digits = 0 then (.finite negative 0 0, false)
  else if magnitude > bound then (.infinite negative, true)
  else if magnitude < -bound then (.finite negative 0 0, true)
  else if exponent ≥ 0 then f.nearest negative (digits * base ^ exponent.toNat) 1
  else f.nearest negative digits (base ^ (-exponent).toNat)

/-- **Read a number** at the start of some bytes in a format. When no number is there, the value
is zero and all of the bytes follow it. -/
def Format.read (f : Format) (b : Bytes) : Reading :=
  let s := Bytes.trimStart b
  let (negative, s) := match s with
    | 45 :: r => (true, r)
    | 43 :: r => (false, r)
    | r => (false, r)
  if startsWithWord s "infinity" then { value := .infinite negative, rest := s.drop 8, outOfRange := false }
  else if startsWithWord s "inf" then { value := .infinite negative, rest := s.drop 3, outOfRange := false }
  else if startsWithWord s "nan" then
    let after := s.drop 3
    let rest := match after with
      | 40 :: r =>
        let inner := r.takeWhile (fun c => Bytes.isAlnum c || c == 95)
        match r.drop inner.length with
        | 41 :: r' => r'
        | _ => after
      | _ => after
    { value := .nan negative, rest, outOfRange := false }
  else
    let hex := match s with
      | 48 :: x :: d :: _ => (x == 120 || x == 88) && (Bytes.digitValue d < 16 || d == 46)
      | _ => false
    let base := if hex then 16 else 10
    let body := if hex then s.drop 2 else s
    let (whole, nWhole, afterWhole) := digitsOf base body 0 0
    let (frac, nFrac, afterFrac) := match afterWhole with
      | 46 :: r => digitsOf base r whole 0
      | r => (whole, 0, r)
    if nWhole + nFrac = 0 then
      if hex then { value := .finite negative 0 0, rest := s.drop 1, outOfRange := false }
      else { value := .finite false 0 0, rest := b, outOfRange := false }
    else
      let (exp, rest) := (exponentPart (if hex then 112 else 101) afterFrac).getD (0, afterFrac)
      let (value, range) :=
        if hex then f.scaled negative frac 2 (exp - 4 * nFrac)
        else f.scaled negative frac 10 (exp - nFrac)
      { value, rest, outOfRange := range }

/-- The exact value of `m · 2^e` as a fraction. -/
def fraction (m : Nat) (e : Int) : Nat × Nat :=
  if e ≥ 0 then (m * 2 ^ e.toNat, 1) else (m, 2 ^ (-e).toNat)

/-- `num / den` scaled by `10^k`, as a fraction. -/
def scale10 (num den : Nat) (k : Int) : Nat × Nat :=
  if k ≥ 0 then (num * 10 ^ k.toNat, den) else (num, den * 10 ^ (-k).toNat)

/-- **The digits of a value in fixed notation** with `places` digits after the point, as one
natural: `m · 2^e · 10^places` rounded, ties to even. -/
def fixedDigits (m : Nat) (e : Int) (places : Nat) : Nat :=
  let (num, den) := fraction m e
  roundHalfEven (num * 10 ^ places) den

/-- The exponent `k` with `10^k ≤ num / den < 10^(k+1)`, for a positive fraction. -/
def decimalExponent (num den : Nat) : Int :=
  let guess : Int := (Nat.toDigits 10 num).length - (Nat.toDigits 10 den).length
  -- The guess is at most one too large.
  let (n, d) := scale10 num den (-guess)
  if n < d then guess - 1 else guess

/-- **The digits and exponent of a value in scientific notation** with `places` digits after the
point: the significand as one natural of `places + 1` digits, rounded, ties to even, and the
exponent of ten. Zero has exponent 0. -/
def scientificDigits (m : Nat) (e : Int) (places : Nat) : Nat × Int :=
  if m = 0 then (0, 0)
  else
    let (num, den) := fraction m e
    let k := decimalExponent num den
    let (n, d) := scale10 num den ((places : Int) - k)
    let digits := roundHalfEven n d
    if digits ≥ 10 ^ (places + 1) then
      let (n, d) := scale10 num den ((places : Int) - (k + 1))
      (roundHalfEven n d, k + 1)
    else (digits, k)

end CrossRef.Decimal
