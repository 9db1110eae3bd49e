import CrossRef.Json.Basic
import CrossRef.Text.Utf8
/-!
The reading machine: a cursor over the bytes of a JSON text, and where errors are reported.

A reader walks the bytes once, left to right. It fails with a message and a byte index; the
index becomes "line L column C" when the error is shown, lines counted from one and columns as
the number of bytes since the last newline.

Two places are used. An error *at* the cursor is reported at its index; an error *ahead* of the
cursor, about the byte not yet taken, one past it (never past the end). Errors that are about
a decoded value rather than the text (a wrong type, a missing field) are raised without a place
and get one where a value of the text ends: `placed` gives them the cursor's index at that
moment. Several decoders look at the end of a container even after its contents failed, and
report the failure from there; `observe` keeps a failure as a value so that they can.

The reader is an exception monad over a state, so a failure keeps the cursor where it stopped.
-/

namespace CrossRef.Json

/-- The syntax errors of JSON text. -/
inductive Syntax where
  | eofList
  | eofObject
  | eofString
  | eofValue
  | expectedColon
  | expectedListCommaOrEnd
  | expectedObjectCommaOrEnd
  | expectedIdent
  | expectedValue
  | invalidEscape
  | invalidNumber
  | numberOutOfRange
  | invalidCodePoint
  | controlCharacter
  | keyMustBeString
  | loneLeadingSurrogate
  | trailingComma
  | trailingCharacters
  | unexpectedEndOfHexEscape
  | recursionLimit

/-- The words of each syntax error. -/
def Syntax.message : Syntax → String
  | .eofList => "EOF while parsing a list"
  | .eofObject => "EOF while parsing an object"
  | .eofString => "EOF while parsing a string"
  | .eofValue => "EOF while parsing a value"
  | .expectedColon => "expected `:`"
  | .expectedListCommaOrEnd => "expected `,` or `]`"
  | .expectedObjectCommaOrEnd => "expected `,` or `\x7d`"
  | .expectedIdent => "expected ident"
  | .expectedValue => "expected value"
  | .invalidEscape => "invalid escape"
  | .invalidNumber => "invalid number"
  | .numberOutOfRange => "number out of range"
  | .invalidCodePoint => "invalid unicode code point"
  | .controlCharacter => "control character (\\u0000-\\u001F) found while parsing a string"
  | .keyMustBeString => "key must be a string"
  | .loneLeadingSurrogate => "lone leading surrogate in hex escape"
  | .trailingComma => "trailing comma"
  | .trailingCharacters => "trailing characters"
  | .unexpectedEndOfHexEscape => "unexpected end of hex escape"
  | .recursionLimit => "recursion limit exceeded"

/-- A failure of reading: what went wrong, and the byte index it is reported at once known. -/
structure ReadError where
  message : String
  index : Option Nat

/-- Line and column of a byte index: lines from one, columns as bytes since the last newline. -/
def lineColumn (bytes : ByteArray) (i : Nat) : Nat × Nat :=
  let before := (bytes.extract 0 i).toList
  let lineStart := before.length - (before.reverse.takeWhile (· != 10)).length
  (1 + before.count 10, i - lineStart)

/-- The text of a failure, with its place when it has one. -/
def ReadError.render (bytes : ByteArray) (e : ReadError) : String :=
  match e.index with
  | some i =>
    let (l, c) := lineColumn bytes i
    e.message ++ " at line " ++ toString l ++ " column " ++ toString c
  | none => e.message

/-- A reader of JSON text: the bytes, a failure or a result, and the cursor. -/
abbrev Reader := ReaderT ByteArray (ExceptT ReadError (StateM Nat))

namespace Reader

/-- Run a reader from the start of the bytes: its outcome and where the cursor stopped. -/
def run (r : Reader α) (bytes : ByteArray) : Except ReadError α × Nat :=
  (ExceptT.run (ReaderT.run r bytes)).run 0

/-- The byte under the cursor. -/
def peek : Reader (Option UInt8) := do
  let b ← read
  let i ← get
  pure (Utf8.byteAt b i)

/-- Move the cursor one byte on. -/
def bump : Reader Unit := modify (· + 1)

/-- Take the byte under the cursor. -/
def next : Reader (Option UInt8) := do
  let c ← peek
  if c.isSome then bump
  pure c

/-- Fail with a message at a byte index. -/
def failAt (message : String) (i : Nat) : Reader α := throw ⟨message, some i⟩

/-- Fail at the cursor. -/
def fail (s : Syntax) : Reader α := do failAt s.message (← get)

/-- Fail about the byte ahead: one past the cursor, never past the end. -/
def failAhead (s : Syntax) : Reader α := do
  let b ← read
  let i ← get
  failAt s.message (min b.size (i + 1))

/-- Fail about a decoded value; the place is given later by `placed`. -/
def failValue (message : String) : Reader α := throw ⟨message, none⟩

/-- Give a failure without a place the cursor's index at the time it passes here. -/
def placed (r : Reader α) : Reader α :=
  tryCatch r fun e =>
    match e.index with
    | some _ => throw e
    | none => do throw { e with index := some (← get) }

/-- Run a reader and keep its failure as a value. -/
def observe (r : Reader α) : Reader (Except ReadError α) :=
  tryCatch (do let a ← r; pure (.ok a)) fun e => pure (.error e)

/-- Whitespace between tokens: space, newline, tab and carriage return. -/
def isBlank (b : UInt8) : Bool := b == 32 || b == 10 || b == 9 || b == 13

/-- The first index at or after `i` that is not whitespace. -/
def skipFrom (bytes : ByteArray) (i : Nat) : Nat → Nat
  | 0 => i
  | fuel + 1 =>
    match Utf8.byteAt bytes i with
    | some b => if isBlank b then skipFrom bytes (i + 1) fuel else i
    | none => i

/-- Skip whitespace and look at the next byte. -/
def skipBlank : Reader (Option UInt8) := do
  let b ← read
  let i ← get
  set (skipFrom b i (b.size - i))
  peek

/-- A bound on the steps of a loop that takes at least one byte per step. -/
def budget : Reader Nat := do
  let b ← read
  let i ← get
  pure (b.size - i + 2)

/-- The rest of a keyword, byte by byte. -/
def ident : List UInt8 → Reader Unit
  | [] => pure ()
  | c :: rest => do
    match ← next with
    | none => fail .eofValue
    | some b => if b == c then ident rest else fail .expectedIdent

/-- The byte values of an ASCII word. -/
def word (s : String) : List UInt8 := s.toList.map (·.toNat.toUInt8)

end Reader

end CrossRef.Json
