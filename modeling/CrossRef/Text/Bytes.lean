import CrossRef.Text.Utf8
/-!
Byte strings.

Shell words, environment values, file contents and the output of programs are byte strings: they
need not be valid UTF-8, and every count, cut and comparison on them is by bytes. Character
classes are those of the C locale, where only ASCII letters, digits and the six blanks (space,
tab, newline, vertical tab, form feed, carriage return) have a class.

Integers are read from text the way the C library's `strtoimax` and `strtoumax` read them:
leading blanks, an optional sign, and digits in a base that is either given or, for base 0, told
by the prefix (`0x` for hexadecimal, a leading `0` for octal). A value out of range is clamped to
the nearest bound of the type and marked as an overflow; an unsigned read of a negative number
wraps around modulo 2^64.
-/

-- `^` on numbers is core's `NatPow` power here, also where Mathlib's monoid power is in scope.
attribute [local instance (high)] instPowNat

namespace CrossRef

/-- A byte string. -/
abbrev Bytes := List UInt8

namespace Bytes

/-- The UTF-8 bytes of a text. -/
def ofString (s : String) : Bytes := s.toUTF8.toList

/-- The bytes as an array. -/
def toArray (b : Bytes) : ByteArray := ⟨List.toArray b⟩

/-- The text of some bytes, each invalid sequence replaced by U+FFFD. -/
def text (b : Bytes) : String := Utf8.decodeLossy b.toArray

/-- Whether a byte is an ASCII decimal digit. -/
def isDigit (c : UInt8) : Bool := 48 ≤ c && c ≤ 57

/-- Whether a byte is an ASCII letter. -/
def isAlpha (c : UInt8) : Bool := (65 ≤ c && c ≤ 90) || (97 ≤ c && c ≤ 122)

/-- Whether a byte is an ASCII letter or digit. -/
def isAlnum (c : UInt8) : Bool := isAlpha c || isDigit c

/-- Whether a byte is one of the six blanks of the C locale. -/
def isSpace (c : UInt8) : Bool := c == 32 || (9 ≤ c && c ≤ 13)

/-- Whether a byte is a space or a tab. -/
def isBlank (c : UInt8) : Bool := c == 32 || c == 9

/-- Whether a byte may start a variable name: a letter or an underscore. -/
def isNameStart (c : UInt8) : Bool := isAlpha c || c == 95

/-- Whether a byte may continue a variable name. -/
def isNameChar (c : UInt8) : Bool := isAlnum c || c == 95

/-- Whether a byte is a printable ASCII character, space included. -/
def isPrint (c : UInt8) : Bool := 32 ≤ c && c ≤ 126

/-- Whether bytes form a variable name. -/
def isName (b : Bytes) : Bool :=
  match b with
  | c :: cs => isNameStart c && cs.all isNameChar
  | [] => false

/-- The ASCII upper case of a byte. -/
def upper (c : UInt8) : UInt8 := if 97 ≤ c && c ≤ 122 then c - 32 else c

/-- The ASCII lower case of a byte. -/
def lower (c : UInt8) : UInt8 := if 65 ≤ c && c ≤ 90 then c + 32 else c

/-- The value of a digit in bases up to 36, or 36 for a byte that is not a digit. -/
def digitValue (c : UInt8) : Nat :=
  if isDigit c then (c - 48).toNat
  else if 97 ≤ c && c ≤ 122 then (c - 87).toNat
  else if 65 ≤ c && c ≤ 90 then (c - 55).toNat
  else 36

/-- The decimal digits of a natural number. -/
def ofNat (n : Nat) : Bytes := ofString (toString n)

/-- The decimal text of an integer, with a minus sign when it is negative. -/
def ofInt (n : Int) : Bytes := ofString (toString n)

/-- Bytes without the blanks at their start. -/
def trimStart (b : Bytes) : Bytes := b.dropWhile isSpace

/-- Whether some bytes start with others. -/
def startsWith (b p : Bytes) : Bool := b.take p.length == p

/-- Split bytes at every occurrence of one byte. -/
def splitOn (sep : UInt8) (b : Bytes) : List Bytes := List.splitOn sep b

/-- Replace the bytes of a text that are not UTF-8 by U+FFFD, keeping the rest. -/
def lossy (b : Bytes) : Bytes := ofString (text b)

end Bytes

/-- How an integer read from text ended. -/
structure IntRead where
  /-- The value, clamped to the range of the type. -/
  value : Int
  /-- What follows the number; all of the text when no digit was read. -/
  rest : Bytes
  /-- Whether any digit was read. -/
  digits : Bool
  /-- Whether the number was out of range. -/
  overflow : Bool
  deriving Inhabited

namespace IntRead

/-- The largest signed 64-bit integer. -/
def maxSigned : Int := 2 ^ (63 : Nat) - 1

/-- The smallest signed 64-bit integer. -/
def minSigned : Int := -(2 ^ (63 : Nat))

/-- The largest unsigned 64-bit integer. -/
def maxUnsigned : Int := 2 ^ (64 : Nat) - 1

/-- The digits of a base at the start of some bytes, and their value. -/
def digitsIn (base : Nat) : Bytes → Nat → Nat → Nat × Nat × Bytes
  | c :: cs, n, acc =>
    if Bytes.digitValue c < base then digitsIn base cs (n + 1) (acc * base + Bytes.digitValue c)
    else (n, acc, c :: cs)
  | [], n, acc => (n, acc, [])

/-- The base of a number and the bytes its digits start at: an explicit base is kept (with an
optional `0x` before hexadecimal digits), and base 0 reads `0x` as hexadecimal, a leading `0` as
octal and anything else as decimal. A `0x` with no hexadecimal digit after it is the number 0. -/
def baseOf (base : Nat) (b : Bytes) : Nat × Bytes :=
  match b with
  | 48 :: x :: d :: rest =>
    if (x == 120 || x == 88) && Bytes.digitValue d < 16 && (base == 0 || base == 16) then
      (16, d :: rest)
    else if base == 0 then (8, b) else (base, b)
  | 48 :: _ => if base == 0 then (8, b) else (base, b)
  | _ => if base == 0 then (10, b) else (base, b)

/-- **Read an integer** at the start of some bytes, signed or unsigned, in a base (0 for the base
its prefix tells). -/
def read (signed : Bool) (base : Nat) (b : Bytes) : IntRead :=
  let s := Bytes.trimStart b
  let (negative, s) := match s with
    | 45 :: r => (true, r)
    | 43 :: r => (false, r)
    | _ => (false, s)
  let (base, s) := baseOf base s
  let (n, magnitude, rest) := digitsIn base s 0 0
  if n == 0 then { value := 0, rest := b, digits := false, overflow := false }
  else
    let m : Int := magnitude
    if signed then
      if negative then
        if -m < minSigned then { value := minSigned, rest, digits := true, overflow := true }
        else { value := -m, rest, digits := true, overflow := false }
      else if m > maxSigned then { value := maxSigned, rest, digits := true, overflow := true }
      else { value := m, rest, digits := true, overflow := false }
    else if m > maxUnsigned then { value := maxUnsigned, rest, digits := true, overflow := true }
    else if negative then { value := (2 ^ (64 : Nat) - m) % 2 ^ (64 : Nat), rest, digits := true, overflow := false }
    else { value := m, rest, digits := true, overflow := false }

end IntRead

end CrossRef
