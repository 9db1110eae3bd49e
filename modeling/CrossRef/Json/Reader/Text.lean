import CrossRef.Json.Reader.Cursor
/-!
Reading strings.

A string runs from its opening quote to the next unescaped quote. Between escapes its bytes must
be UTF-8. That is checked once the closing quote is reached, so a bad escape, a raw control
character below `0x20` or the end of the text inside the string is reported first. A bad
sequence is reported one byte past its maximal subpart, or, when the string ends inside a
sequence that could still have been completed, one byte past its first byte.

An escape is one of `\" \\ \/ \b \f \n \r \t` or `\u` with four hex digits. A `\u` escape of a
high surrogate must be followed at once by `\u` and a low surrogate, and the pair encodes one
character past `U+FFFF`; a low surrogate on its own, or a high one not followed by a low one, is
an error.

A string being skipped is checked for its escapes and control characters only.
-/

namespace CrossRef.Json.Reader

/-- A byte that ends a raw run inside a string: a quote, a backslash or a control byte. -/
def endsRun (b : UInt8) : Bool := b == 34 || b == 92 || b < 32

/-- The first index at or after `i` that ends a raw run. -/
def runEnd (bytes : ByteArray) (i : Nat) : Nat → Nat
  | 0 => i
  | fuel + 1 =>
    match Utf8.byteAt bytes i with
    | some b => if endsRun b then i else runEnd bytes (i + 1) fuel
    | none => i

/-- Where a bad sequence among the raw bytes `[i, j)` of a string is reported, if there is one.
An escape after the bytes ends a sequence cut short there, so its maximal subpart counts whole;
the closing quote ends the string itself, so only the first byte counts. -/
def badRunPosition (b : ByteArray) (i j : Nat) (beforeEscape : Bool) : Option Nat :=
  match Utf8.problem (b.extract i j) with
  | none => none
  | some (k, some n) => some (i + k + n)
  | some (k, none) => some (if beforeEscape then j else i + k + 1)

/-- The value of a hex digit byte. -/
def hexDigit (b : UInt8) : Option Nat :=
  if 48 ≤ b && b ≤ 57 then some (b.toNat - 48)
  else if 97 ≤ b && b ≤ 102 then some (b.toNat - 87)
  else if 65 ≤ b && b ≤ 70 then some (b.toNat - 55)
  else none

/-- Four hex digits after `\u`; fewer than four bytes left is the end of the text. -/
def hexEscape : Reader Nat := do
  let b ← read
  let i ← get
  if i + 4 ≤ b.size then
    set (i + 4)
    let ds := (List.range 4).map fun k => (Utf8.byteAt b (i + k)).bind hexDigit
    match ds with
    | [some a, some c, some d, some e] => pure (((a * 16 + c) * 16 + d) * 16 + e)
    | _ => fail .invalidEscape
  else
    set b.size
    fail .eofString

/-- A byte that must come next inside a surrogate pair. -/
def expectPairByte (c : UInt8) : Reader Unit := do
  match ← peek with
  | none => fail .eofString
  | some b => if b == c then bump else do bump; fail .unexpectedEndOfHexEscape

/-- The character of a `\u` escape, the cursor after the `u`. -/
def unicodeEscape : Reader Char := do
  let n ← hexEscape
  if 0xDC00 ≤ n ∧ n ≤ 0xDFFF then fail .loneLeadingSurrogate
  else if n < 0xD800 ∨ n > 0xDBFF then pure (Char.ofNat n)
  else
    expectPairByte 92
    expectPairByte 117
    let low ← hexEscape
    if low < 0xDC00 ∨ low > 0xDFFF then fail .loneLeadingSurrogate
    else pure (Char.ofNat (((n - 0xD800) * 0x400 + (low - 0xDC00)) + 0x10000))

/-- The character of an escape, the cursor after the backslash. -/
def escape : Reader Char := do
  match ← next with
  | none => fail .eofString
  | some 34 => pure '"'
  | some 92 => pure '\\'
  | some 47 => pure '/'
  | some 98 => pure '\x08'
  | some 102 => pure '\x0c'
  | some 110 => pure '\n'
  | some 114 => pure '\r'
  | some 116 => pure '\t'
  | some 117 => unicodeEscape
  | some _ => fail .invalidEscape

/-- The rest of a string from the cursor: characters so far reversed in `acc`, and where the
first bad sequence so far is reported. -/
def stringRest (acc : List Char) (bad : Option Nat) : Nat → Reader String
  | 0 => fail .eofString
  | fuel + 1 => do
    let b ← read
    let i ← get
    let j := runEnd b i (b.size - i)
    let bad := bad <|> badRunPosition b i j (Utf8.byteAt b j == some 92)
    let acc := (Utf8.decodeLossy (b.extract i j)).toList.reverse ++ acc
    set j
    match Utf8.byteAt b j with
    | none => fail .eofString
    | some 34 =>
      set (j + 1)
      match bad with
      | some p => failAt Syntax.invalidCodePoint.message p
      | none => pure (String.ofList acc.reverse)
    | some 92 =>
      set (j + 1)
      let c ← escape
      stringRest (c :: acc) bad fuel
    | some _ => set (j + 1); fail .controlCharacter

/-- **A string**, the cursor after its opening quote. -/
def string : Reader String := do stringRest [] none (← budget)

/-- Skip an escape, the cursor after the backslash. -/
def skipEscape : Reader Unit := do
  match ← next with
  | none => fail .eofString
  | some 117 => discard hexEscape
  | some b =>
    if b == 34 || b == 92 || b == 47 || b == 98 || b == 102 || b == 110 || b == 114 || b == 116
    then pure () else fail .invalidEscape

/-- Skip the rest of a string. -/
def skipStringRest : Nat → Reader Unit
  | 0 => fail .eofString
  | fuel + 1 => do
    let b ← read
    let i ← get
    let j := runEnd b i (b.size - i)
    set j
    match Utf8.byteAt b j with
    | none => fail .eofString
    | some 34 => set (j + 1)
    | some 92 => set (j + 1); skipEscape; skipStringRest fuel
    | some _ => fail .controlCharacter

/-- Skip a string, the cursor after its opening quote. -/
def skipString : Reader Unit := do skipStringRest (← budget)

end CrossRef.Json.Reader
