import CrossRef.Decimal.Binary
/-!
Conversion specifications of formatted output.

A specification `%[flags][width][.precision]conversion` turns one value into bytes. The flags
are `-` (pad on the right), `+` (always a sign), a space (a space for a sign that is not minus),
`#` (the alternate form) and `0` (pad numbers with zeros after their sign and prefix, unless `-`
is given, or a precision for an integer). The width is the least number of bytes; the precision is
the least number of digits of an integer, the most bytes of a string, and the digits after the
point (or, for `g`, the significant digits) of a floating-point number.

Integers are written in decimal (`d`, `i`, `u`), octal (`o`) or hexadecimal (`x`, `X`); the
alternate form starts octal with a zero and non-zero hexadecimal with `0x`. Floating-point values
are written in fixed (`f`, `F`), scientific (`e`, `E`) or general (`g`, `G`) notation, exactly
rounded, ties to even; infinity and NaN are `inf` and `nan`, in capitals for the capital
conversions, and are never padded with zeros.

This module belongs to the simulated test host that one-shot analyzer commands run on, not to
the library's program: the program reaches the host only through `Cli.Machine` and
`Host.System`, and no theorem of the library is about this module.
-/

-- `^` on numbers is core's `NatPow` power here, also where Mathlib's monoid power is in scope.
attribute [local instance (high)] instPowNat

namespace CrossRef

/-- A conversion specification. -/
structure ConvSpec where
  minus : Bool := false
  plus : Bool := false
  space : Bool := false
  alt : Bool := false
  zero : Bool := false
  width : Option Nat := none
  precision : Option Nat := none
  /-- The conversion letter. -/
  conversion : UInt8 := 115
  deriving Repr, Inhabited

namespace ConvSpec

/-- Add a flag byte to a specification. -/
def withFlag (s : ConvSpec) (c : UInt8) : ConvSpec :=
  if c == 45 then { s with minus := true }
  else if c == 43 then { s with plus := true }
  else if c == 32 then { s with space := true }
  else if c == 35 then { s with alt := true }
  else if c == 48 then { s with zero := true }
  else s

/-- Set the width from a number given as an argument: a negative width pads on the right. -/
def withWidthArg (s : ConvSpec) (w : Int) : ConvSpec :=
  if w < 0 then { s with minus := true, width := some w.natAbs } else { s with width := some w.toNat }

/-- Set the precision from a number given as an argument: a negative precision is none. -/
def withPrecisionArg (s : ConvSpec) (p : Int) : ConvSpec :=
  if p < 0 then { s with precision := none } else { s with precision := some p.toNat }

/-- Spaces. -/
def spaces (n : Nat) : Bytes := List.replicate n 32

/-- **Pad to the width** with spaces, on the left or, with `-`, on the right. -/
def pad (s : ConvSpec) (b : Bytes) : Bytes :=
  match s.width with
  | some w =>
    if b.length ≥ w then b
    else if s.minus then b ++ spaces (w - b.length)
    else spaces (w - b.length) ++ b
  | none => b

/-- Pad a number of a prefix (sign, `0x`) and digits to the width, with zeros between them when
the zero flag asks for it and `zeroOk`. -/
def padNumber (s : ConvSpec) (pre body : Bytes) (zeroOk : Bool) : Bytes :=
  match s.width with
  | some w =>
    let len := pre.length + body.length
    if len ≥ w then pre ++ body
    else if s.minus then pre ++ body ++ spaces (w - len)
    else if s.zero && zeroOk then pre ++ List.replicate (w - len) 48 ++ body
    else spaces (w - len) ++ pre ++ body
  | none => pre ++ body

/-- The sign written before a number. -/
def signOf (s : ConvSpec) (negative : Bool) : Bytes :=
  if negative then [45] else if s.plus then [43] else if s.space then [32] else []

/-- Digits padded with zeros to the precision; no digits for zero at precision 0. -/
def withPrecision (s : ConvSpec) (zero : Bool) (digits : Bytes) : Bytes :=
  match s.precision with
  | some p => if p == 0 && zero then [] else List.replicate (p - digits.length) 48 ++ digits
  | none => digits

/-- The digits of a natural in a base, in lower or upper case. -/
def digitsIn (base : Nat) (upper : Bool) (n : Nat) : Bytes :=
  let ds := Nat.toDigits base n
  Bytes.ofString (String.ofList (if upper then ds.map Char.toUpper else ds))

/-- **Write a signed integer** (`d`, `i`). -/
def signed (s : ConvSpec) (v : Int) : Bytes :=
  let body := s.withPrecision (v == 0) (digitsIn 10 false v.natAbs)
  s.padNumber (s.signOf (v < 0)) body s.precision.isNone

/-- **Write an unsigned integer** (`o`, `u`, `x`, `X`). -/
def unsigned (s : ConvSpec) (v : Nat) : Bytes :=
  let c := s.conversion
  let base := if c == 111 then 8 else if c == 120 || c == 88 then 16 else 10
  let body := s.withPrecision (v == 0) (digitsIn base (c == 88) v)
  let body := if c == 111 && s.alt && body.head? != some 48 then 48 :: body else body
  let pre := if (c == 120 || c == 88) && s.alt && v != 0 then Bytes.ofString (if c == 88 then "0X" else "0x") else []
  s.padNumber pre body s.precision.isNone

/-- **Write a string** (`s`): at most `precision` bytes of it. -/
def string (s : ConvSpec) (b : Bytes) : Bytes :=
  s.pad (match s.precision with
    | some p => b.take p
    | none => b)

/-- **Write a byte** (`c`). -/
def char (s : ConvSpec) (c : UInt8) : Bytes := s.pad [c]

/-- A natural as exactly `n` digits, with leading zeros. -/
def fixedWidth (n : Nat) (v : Nat) : Bytes :=
  let d := digitsIn 10 false v
  List.replicate (n - d.length) 48 ++ d

/-- Fixed notation of `m · 2^e` with `places` digits after the point. -/
def fixedText (alt : Bool) (m : Nat) (e : Int) (places : Nat) : Bytes :=
  let n := Decimal.fixedDigits m e places
  let whole := digitsIn 10 false (n / 10 ^ places)
  if places == 0 then (if alt then whole ++ [46] else whole)
  else whole ++ [46] ++ fixedWidth places (n % 10 ^ places)

/-- Scientific notation of `m · 2^e` with `places` digits after the point. -/
def scientificText (alt upper : Bool) (m : Nat) (e : Int) (places : Nat) : Bytes :=
  let (n, k) := Decimal.scientificDigits m e places
  let lead := digitsIn 10 false (n / 10 ^ places)
  let frac := if places == 0 then (if alt then [46] else []) else [46] ++ fixedWidth places (n % 10 ^ places)
  let expo := (if upper then [69] else [101]) ++ (if k < 0 then [45] else [43]) ++ fixedWidth 2 k.natAbs
  lead ++ frac ++ expo

/-- Text without the trailing zeros of its fraction, and without its point if nothing follows it. -/
def dropTrailingZeros (b : Bytes) : Bytes :=
  let mantissa := b.takeWhile fun c => c != 101 && c != 69
  let expo := b.drop mantissa.length
  if !mantissa.contains 46 then b
  else
    let m := (mantissa.reverse.dropWhile (· == 48)).reverse
    let m := if m.getLast? == some 46 then m.dropLast else m
    m ++ expo

/-- General notation of `m · 2^e` with `digits` significant digits. -/
def generalText (alt upper : Bool) (m : Nat) (e : Int) (digits : Nat) : Bytes :=
  let p := if digits == 0 then 1 else digits
  let (_, x) := Decimal.scientificDigits m e (p - 1)
  let text := if x < p && x ≥ -4 then fixedText alt m e (p - 1 - x).toNat
    else scientificText alt upper m e (p - 1)
  if alt then text else dropTrailingZeros text

/-- **Write a floating-point value** (`e`, `E`, `f`, `F`, `g`, `G`). -/
def float (s : ConvSpec) (v : Decimal.Value) : Bytes :=
  let c := s.conversion
  let upper := c == 69 || c == 70 || c == 71
  let sign := s.signOf v.negative
  match v with
  | .infinite _ => { s with zero := false }.padNumber sign (Bytes.ofString (if upper then "INF" else "inf")) false
  | .nan _ => { s with zero := false }.padNumber sign (Bytes.ofString (if upper then "NAN" else "nan")) false
  | .finite _ m e =>
    let p := s.precision.getD 6
    let body :=
      if c == 102 || c == 70 then fixedText s.alt m e p
      else if c == 101 || c == 69 then scientificText s.alt upper m e p
      else generalText s.alt upper m e p
    s.padNumber sign body true

end ConvSpec

end CrossRef
