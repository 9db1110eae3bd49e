/-!
UTF-8 decoding of byte strings.

A well-formed sequence is one of the forms of the Unicode standard (table 3-7): one byte below
`0x80`; a lead byte `C2`–`DF` and one continuation; `E0` then `A0`–`BF`, `ED` then `80`–`9F`,
other `E1`–`EF` then any continuation, and one more; `F0` then `90`–`BF`, `F4` then `80`–`8F`,
`F1`–`F3` then any continuation, and two more. This excludes overlong forms, surrogates and
code points past `U+10FFFF`.

`step` reads one sequence at a position and says how long it is, or how long the longest
prefix of a sequence is that could still have been completed (its *maximal subpart*). Strict
decoding stops at the first bad sequence and reports where it starts; lossy decoding replaces
each maximal subpart by `U+FFFD` and goes on.
-/

namespace CrossRef.Utf8

/-- What one step of decoding finds at a position. -/
inductive Step where
  /-- A well-formed sequence of `len` bytes encoding `c`. -/
  | char (c : Char) (len : Nat)
  /-- A bad sequence whose maximal subpart has `len ≥ 1` bytes. -/
  | bad (len : Nat)

/-- A continuation byte: `10xxxxxx`. -/
def isCont (b : UInt8) : Bool := b &&& 0xC0 == 0x80

/-- The byte at `i`, if there is one. -/
def byteAt (bytes : ByteArray) (i : Nat) : Option UInt8 :=
  if h : i < bytes.size then some bytes[i] else none

/-- The range allowed for the second byte of a sequence led by `lead`, and the sequence's
length; `none` for a byte that cannot lead. -/
def leadShape (lead : UInt8) : Option (Nat × UInt8 × UInt8) :=
  if lead < 0x80 then some (1, 0, 0)
  else if lead < 0xC2 then none
  else if lead < 0xE0 then some (2, 0x80, 0xBF)
  else if lead == 0xE0 then some (3, 0xA0, 0xBF)
  else if lead == 0xED then some (3, 0x80, 0x9F)
  else if lead < 0xF0 then some (3, 0x80, 0xBF)
  else if lead == 0xF0 then some (4, 0x90, 0xBF)
  else if lead < 0xF4 then some (4, 0x80, 0xBF)
  else if lead == 0xF4 then some (4, 0x80, 0x8F)
  else none

/-- The code point of a well-formed sequence, from its lead byte and continuations. -/
def codePoint (lead : UInt8) (conts : List UInt8) : Nat :=
  let start : Nat :=
    match conts.length with
    | 0 => lead.toNat
    | 1 => lead.toNat % 0x20
    | 2 => lead.toNat % 0x10
    | _ => lead.toNat % 0x08
  conts.foldl (fun acc b => acc * 64 + b.toNat % 64) start

/-- Read one sequence at `i < bytes.size`. -/
def step (bytes : ByteArray) (i : Nat) : Step :=
  match byteAt bytes i with
  | none => .bad 1
  | some lead =>
    match leadShape lead with
    | none => .bad 1
    | some (1, _, _) => .char (Char.ofNat lead.toNat) 1
    | some (len, lo, hi) =>
      match byteAt bytes (i + 1) with
      | some b1 =>
        if lo ≤ b1 ∧ b1 ≤ hi then
          -- the remaining continuations, as far as they go
          let more := (List.range (len - 2)).map (fun k => byteAt bytes (i + 2 + k))
          let good := more.takeWhile (fun o => o.any isCont)
          if good.length = len - 2 then
            .char (Char.ofNat (codePoint lead (b1 :: good.filterMap id))) len
          else .bad (2 + good.length)
        else .bad 1
      | none => .bad 1

/-- Decode `bytes` from `i` on, strictly: the characters, or the index where the first bad
sequence starts. -/
def decodeFrom (bytes : ByteArray) (i : Nat) (acc : List Char) : Nat → Except Nat (List Char)
  | 0 => .ok acc.reverse
  | fuel + 1 =>
    if i < bytes.size then
      match step bytes i with
      | .char c len => decodeFrom bytes (i + len) (c :: acc) fuel
      | .bad _ => .error i
    else .ok acc.reverse

/-- **Strict decoding.** The text of a byte string, or the index of its first bad sequence. -/
def decode (bytes : ByteArray) : Except Nat String :=
  (decodeFrom bytes 0 [] bytes.size).map String.ofList

/-- Whether a bad sequence at `i` whose maximal subpart has `len` bytes is only cut short: it
could still have been completed, but the bytes end first. -/
def cutShort (bytes : ByteArray) (i len : Nat) : Bool :=
  match byteAt bytes i with
  | some lead => lead ≥ 0x80 && (leadShape lead).isSome && i + len == bytes.size
  | none => false

/-- The first bad sequence from `i` on: where it starts, and the length of its maximal subpart,
or `none` for the length when the bytes end inside a sequence that could still be completed. -/
def problemFrom (bytes : ByteArray) (i : Nat) : Nat → Option (Nat × Option Nat)
  | 0 => none
  | fuel + 1 =>
    if i < bytes.size then
      match step bytes i with
      | .char _ len => problemFrom bytes (i + len) fuel
      | .bad len => some (i, if cutShort bytes i len then none else some len)
    else none

/-- **The first bad sequence** of a byte string, as `problemFrom` finds it. -/
def problem (bytes : ByteArray) : Option (Nat × Option Nat) := problemFrom bytes 0 bytes.size

/-- Lossy decoding from `i` on: every maximal subpart of a bad sequence becomes `U+FFFD`. -/
def decodeLossyFrom (bytes : ByteArray) (i : Nat) (acc : List Char) : Nat → List Char
  | 0 => acc.reverse
  | fuel + 1 =>
    if i < bytes.size then
      match step bytes i with
      | .char c len => decodeLossyFrom bytes (i + len) (c :: acc) fuel
      | .bad len => decodeLossyFrom bytes (i + max len 1) ('�' :: acc) fuel
    else acc.reverse

/-- **Lossy decoding.** Bad sequences become replacement characters. -/
def decodeLossy (bytes : ByteArray) : String :=
  String.ofList (decodeLossyFrom bytes 0 [] bytes.size)

end CrossRef.Utf8
