/-!
Base64 with the standard alphabet and padding (RFC 4648, section 4).

Every three bytes become four characters of six bits each, most significant first; a final group
of one or two bytes becomes two or three characters and is padded with `=` to four.
-/

namespace CrossRef.Base64

/-- The standard alphabet. -/
def alphabet : List Char :=
  "ABCDEFGHIJKLMNOPQRSTUVWXYZabcdefghijklmnopqrstuvwxyz0123456789+/".toList

/-- The character of a six-bit value. -/
def digit (n : Nat) : Char := alphabet.getD (n % 64) '='

/-- Encode groups of three bytes. -/
def encodeList : List UInt8 → List Char
  | [] => []
  | [a] =>
    let n := a.toNat * 65536
    [digit (n / 262144), digit (n / 4096), '=', '=']
  | [a, b] =>
    let n := a.toNat * 65536 + b.toNat * 256
    [digit (n / 262144), digit (n / 4096), digit (n / 64), '=']
  | a :: b :: c :: rest =>
    let n := a.toNat * 65536 + b.toNat * 256 + c.toNat
    digit (n / 262144) :: digit (n / 4096) :: digit (n / 64) :: digit n :: encodeList rest

/-- **Encode bytes.** -/
def encode (bytes : ByteArray) : String := String.ofList (encodeList bytes.toList)

/-- Encode the UTF-8 bytes of a text. -/
def encodeText (s : String) : String := encode s.toUTF8

/-- The six-bit value of a character of the alphabet. -/
def value? (c : UInt8) : Option Nat :=
  if 65 ≤ c && c ≤ 90 then some (c - 65).toNat
  else if 97 ≤ c && c ≤ 122 then some ((c - 97).toNat + 26)
  else if 48 ≤ c && c ≤ 57 then some ((c - 48).toNat + 52)
  else if c == 43 then some 62
  else if c == 47 then some 63
  else none

/-- **Decode a group** of up to four characters: the bytes it gives, and whether it is a whole
group. The first two characters must be of the alphabet and give a byte; a third gives a second
byte, or is `=` padding when the fourth is too; a fourth gives a third byte, or is `=`. A group that
breaks off gives the bytes before the break and is not whole. -/
def decodeGroup : List UInt8 → List UInt8 × Bool
  | a :: b :: rest =>
    match value? a, value? b with
    | some x, some y =>
      let first := (x * 4 + y / 16).toUInt8
      match rest with
      | [c, d] =>
        if c == 61 then ([first], d == 61)
        else match value? c with
          | none => ([first], false)
          | some z =>
            let second := ((y % 16) * 16 + z / 4).toUInt8
            if d == 61 then ([first, second], true)
            else match value? d with
              | some w => ([first, second, ((z % 4) * 64 + w).toUInt8], true)
              | none => ([first, second], false)
      | [c] =>
        match value? c with
        | some z => ([first, ((y % 16) * 16 + z / 4).toUInt8], false)
        | none => ([first], false)
      | _ => ([first], false)
    | _, _ => ([], false)
  | _ => ([], false)

/-- **Decode characters**, four at a time, up to the first group that is not whole: the bytes,
and whether every group was whole. Padding may end a group in the middle of the text. -/
def decodeList : List UInt8 → List UInt8 × Bool
  | [] => ([], true)
  | a :: b :: c :: d :: rest =>
    match decodeGroup [a, b, c, d] with
    | (out, true) =>
      let (more, ok) := decodeList rest
      (out ++ more, ok)
    | (out, false) => (out, false)
  | g => ((decodeGroup g).1, false)

theorem length_encodeList (bs : List UInt8) :
    (encodeList bs).length = 4 * ((bs.length + 2) / 3) := by
  induction bs using encodeList.induct with
  | case1 => rfl
  | case2 => simp [encodeList]
  | case3 => simp [encodeList]
  | case4 a b c rest ih => simp [encodeList, ih]; omega

end CrossRef.Base64
