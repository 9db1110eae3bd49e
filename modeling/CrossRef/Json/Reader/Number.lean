import CrossRef.Json.Reader.Cursor
import CrossRef.Decimal.Shortest
/-!
Reading numbers.

An integer is kept as one while it fits: below `2^64` without a sign, from `-2^63` to `-1` with
one. `-0` is the double `-0.0`, and a negative integer below `-2^63` a double.

The digits of a longer integer or of a number with a fraction or exponent are gathered into a
significand below `2^64`; digits that would overflow it are dropped and only counted in the
decimal exponent. The double is then the significand, rounded to a double, multiplied or divided
by a power of ten taken from a table of the doubles nearest to `10^0 … 10^308`; an exponent
past the table divides by `10^308` first. A result too large for a double is an error, not
infinity, while one too small becomes zero. This is a fast reading and, for long significands or
large exponents, not always the double nearest to the decimal; it is the reading this format
has.

The exponent itself saturates at the bounds of a 32-bit integer, and one that overflows while it
is read is an error when it is positive and the significand is not zero, and otherwise
gives zero.

A number being skipped is only checked for its shape: leading zero, digits after a point and
after an exponent mark.
-/

-- `^` on numbers is core's `NatPow` power here, also where Mathlib's monoid power is in scope.
attribute [local instance (high)] instPowNat

namespace CrossRef.Json.Reader

open CrossRef.Decimal

/-- The largest significand. -/
def maxSignificand : Nat := 2 ^ (64 : Nat) - 1

/-- The largest exponent. -/
def maxExponent : Int := 2 ^ (31 : Nat) - 1

/-- The least exponent. -/
def minExponent : Int := -(2 ^ (31 : Nat))

/-- A 32-bit sum that stops at the bounds instead of wrapping. -/
def saturate (x : Int) : Int := max minExponent (min maxExponent x)

/-- Whether `a * 10 + d` would pass `limit`. -/
def overflows (a d limit : Nat) : Bool := a ≥ limit / 10 && (a > limit / 10 || d > limit % 10)

/-- A decimal digit byte's value. -/
def digitOf (b : UInt8) : Option Nat :=
  if 48 ≤ b && b ≤ 57 then some (b.toNat - 48) else none

/-- The byte under the cursor, `0` at the end. -/
def peekOrNull : Reader UInt8 := do return (← peek).getD 0

/-- The double nearest to `10^k`, for the table of powers. -/
def pow10 (k : Nat) : Float := roundNat (10 ^ k)

/-- The double of `significand · 10^exponent` as this format computes it. -/
def composeFloat (significand : Nat) (exponent : Int) : Except Syntax Float :=
  go (roundNat significand) exponent 4
where
  go (f : Float) (e : Int) : Nat → Except Syntax Float
    | 0 => .ok f
    | fuel + 1 =>
      if e.natAbs ≤ 308 then
        if e ≥ 0 then
          let g := f * pow10 e.natAbs
          if g.isInf then .error .numberOutOfRange else .ok g
        else .ok (f / pow10 e.natAbs)
      else if f == 0 then .ok f
      else if e ≥ 0 then .error .numberOutOfRange
      else go (f / pow10 308) (e + 308) fuel

/-- The double of the parts, with the sign; an overflow is reported at the cursor. -/
def fromParts (positive : Bool) (significand : Nat) (exponent : Int) : Reader Float :=
  match composeFloat significand exponent with
  | .ok f => pure (if positive then f else -f)
  | .error s => fail s

/-- Skip the digits under the cursor. -/
def skipDigits : Nat → Reader Unit
  | 0 => pure ()
  | fuel + 1 => do
    match digitOf (← peekOrNull) with
    | some _ => bump; skipDigits fuel
    | none => pure ()

/-- An exponent that overflowed while being read: zero, or an error. -/
def exponentOverflow (positive zeroSignificand positiveExp : Bool) : Reader Float := do
  if !zeroSignificand && positiveExp then fail .numberOutOfRange
  else
    skipDigits (← budget)
    pure (if positive then 0.0 else -0.0)

/-- The digits of an exponent after its first. -/
def exponentDigits (positive : Bool) (significand : Nat) (start : Int) (positiveExp : Bool)
    (exp : Nat) : Nat → Reader Float
  | 0 => pure 0.0
  | fuel + 1 => do
    match digitOf (← peekOrNull) with
    | some d =>
      bump
      if overflows exp d maxExponent.toNat then
        exponentOverflow positive (significand == 0) positiveExp
      else exponentDigits positive significand start positiveExp (exp * 10 + d) fuel
    | none =>
      let e := if positiveExp then saturate (start + exp) else saturate (start - exp)
      fromParts positive significand e

/-- An exponent, the cursor on its `e` or `E`. -/
def exponentPart (positive : Bool) (significand : Nat) (start : Int) : Reader Float := do
  bump
  let positiveExp ← do
    match ← peekOrNull with
    | 43 => bump; pure true
    | 45 => bump; pure false
    | _ => pure true
  match ← next with
  | none => fail .eofValue
  | some b =>
    match digitOf b with
    | some d => exponentDigits positive significand start positiveExp d (← budget)
    | none => fail .invalidNumber

/-- After a significand that is full: skip further digits, then an exponent if any. -/
def decimalOverflow (positive : Bool) (significand : Nat) (exponent : Int) : Reader Float := do
  skipDigits (← budget)
  match ← peekOrNull with
  | 101 | 69 => exponentPart positive significand exponent
  | _ => fromParts positive significand exponent

/-- The digits after a point; `after` counts them, negatively. -/
def fractionDigits (positive : Bool) (significand : Nat) (before after : Int) :
    Nat → Reader Float
  | 0 => pure 0.0
  | fuel + 1 => do
    match digitOf (← peekOrNull) with
    | some d =>
      if overflows significand d maxSignificand then
        decimalOverflow positive significand (before + after)
      else
        bump
        fractionDigits positive (significand * 10 + d) before (after - 1) fuel
    | none =>
      if after = 0 then
        match ← peek with
        | some _ => failAhead .invalidNumber
        | none => failAhead .eofValue
      else
        match ← peekOrNull with
        | 101 | 69 => exponentPart positive significand (before + after)
        | _ => fromParts positive significand (before + after)

/-- A fraction, the cursor on its point. -/
def fractionPart (positive : Bool) (significand : Nat) (before : Int) : Reader Float := do
  bump
  fractionDigits positive significand before 0 (← budget)

/-- The digits of an integer past a full significand, counted as a decimal exponent. -/
def longInteger (positive : Bool) (significand : Nat) (exponent : Int) : Nat → Reader Float
  | 0 => pure 0.0
  | fuel + 1 => do
    match ← peekOrNull with
    | 46 => fractionPart positive significand exponent
    | 101 | 69 => exponentPart positive significand exponent
    | b =>
      match digitOf b with
      | some _ => bump; longInteger positive significand (exponent + 1) fuel
      | none => fromParts positive significand exponent

/-- What follows the digits of an integer part that fits. -/
def afterInteger (positive : Bool) (significand : Nat) : Reader Number := do
  match ← peekOrNull with
  | 46 => return .float (← fractionPart positive significand 0)
  | 101 | 69 => return .float (← exponentPart positive significand 0)
  | _ =>
    if positive then pure (.nat significand)
    else if significand = 0 then pure (.float (-0.0))
    else if significand ≤ 2 ^ (63 : Nat) then pure (.neg (-(significand : Int)))
    else pure (.float (-(roundNat significand)))

/-- The digits of an integer part after its first. -/
def integerDigits (positive : Bool) (significand : Nat) : Nat → Reader Number
  | 0 => pure (.nat significand)
  | fuel + 1 => do
    match digitOf (← peekOrNull) with
    | some d =>
      if overflows significand d maxSignificand then
        return .float (← longInteger positive significand 0 (← budget))
      else
        bump
        integerDigits positive (significand * 10 + d) fuel
    | none => afterInteger positive significand

/-- **A number**, its sign already taken. -/
def number (positive : Bool) : Reader Number := do
  match ← next with
  | none => fail .eofValue
  | some 48 =>
    match digitOf (← peekOrNull) with
    | some _ => failAhead .invalidNumber
    | none => afterInteger positive 0
  | some b =>
    match digitOf b with
    | some d => integerDigits positive d (← budget)
    | none => fail .invalidNumber

/-- Skip an exponent, the cursor on its mark. -/
def skipExponent : Reader Unit := do
  bump
  match ← peekOrNull with
  | 43 | 45 => bump
  | _ => pure ()
  match digitOf ((← next).getD 0) with
  | some _ => skipDigits (← budget)
  | none => fail .invalidNumber

/-- Skip a number whose sign is taken, checking only its shape. -/
def skipNumber : Reader Unit := do
  match (← next).getD 0 with
  | 48 =>
    if (digitOf (← peekOrNull)).isSome then failAhead .invalidNumber
  | b =>
    if (digitOf b).isSome then skipDigits (← budget)
    else fail .invalidNumber
  match ← peekOrNull with
  | 46 =>
    bump
    match digitOf (← peekOrNull) with
    | some _ =>
      skipDigits (← budget)
      match ← peekOrNull with
      | 101 | 69 => skipExponent
      | _ => pure ()
    | none => failAhead .invalidNumber
  | 101 | 69 => skipExponent
  | _ => pure ()

end CrossRef.Json.Reader
