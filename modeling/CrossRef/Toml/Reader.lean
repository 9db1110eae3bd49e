/-!
Readers over the bytes of a document, and how they fail.

A reader looks at the bytes from a cursor on, and either succeeds with a value and the cursor
after it, or fails with the cursor where the failure left it. A failure is *soft* when another
reading may still be tried, and *hard* (`cut`) once the text is known to be wrong; hard failures
end the whole reading. A failure carries what was being read (labels such as `table header`),
what would have been accepted there (`` `]` ``, `digit`) and, for failures of meaning rather than
of shape, a cause in words. These are collected innermost first as the failure leaves the readers
that contain it.

Where the cursor stands after a failure matters, since it is where the error is reported: the
single-byte tests, the fixed words and the runs of bytes leave the cursor where it was; a reader
whose result is checked afterwards (`tryMap`, `verify`) moves it back to its start; a choice
between readers moves it back before each new branch, but not after the last; an optional or
repeated reader moves it back when its item fails softly. Everything else leaves the cursor
where the failure happened.
-/

namespace CrossRef.Toml

/-- Something that would have been accepted. -/
inductive Expected where
  /-- A character. -/
  | char (c : Char)
  /-- A fixed text. -/
  | text (s : String)
  /-- A description, such as `digit`. -/
  | description (s : String)
  deriving DecidableEq, Repr, Inhabited

/-- How an expected thing is named: a newline by that word, a description as it is, anything
else between backticks. -/
def Expected.display : Expected → String
  | .char '\n' => "newline"
  | .char '`' => "'`'"
  | .char c => "`" ++ c.toString ++ "`"
  | .text s => "`" ++ s ++ "`"
  | .description s => s

/-- What a failure says about where it happened. -/
inductive Context where
  | label (s : String)
  | expected (e : Expected)
  deriving DecidableEq, Repr, Inhabited

/-- A failed reading. -/
structure Failure where
  cut : Bool := false
  /-- Innermost first. -/
  contexts : List Context := []
  cause : Option String := none
  deriving Repr, Inhabited

/-- **A failure in words**: `invalid` and the innermost label, then what was expected, then the
cause, each on a line of its own. -/
def Failure.message (f : Failure) : String :=
  let label := f.contexts.findSome? fun | .label s => some s | _ => none
  let expected := f.contexts.filterMap fun | .expected e => some e.display | _ => none
  let parts := (label.map ("invalid " ++ ·)).toList ++
    (if expected.isEmpty then [] else ["expected " ++ ", ".intercalate expected]) ++ f.cause.toList
  "\n".intercalate parts

/-- A reader of a document's bytes. -/
abbrev Reader := ReaderT ByteArray (ExceptT Failure (StateM Nat))

namespace Reader

/-- Run a reader from a position: the outcome and the cursor at its end. -/
def run {α : Type} (r : Reader α) (input : ByteArray) (pos : Nat) : Except Failure α × Nat :=
  (ExceptT.run (ReaderT.run r input)).run pos

/-- The byte under the cursor. -/
def peek? : Reader (Option UInt8) := do
  let input ← read
  let pos ← get
  pure (if h : pos < input.size then some (input.get pos h) else none)

/-- The byte after the cursor's. -/
def peekSecond? : Reader (Option UInt8) := do
  let input ← read
  let pos ← get
  pure (if h : pos + 1 < input.size then some (input.get (pos + 1) h) else none)

/-- Move the cursor on. -/
def advance (n : Nat) : Reader Unit := modify (· + n)

/-- The bytes left. -/
def remaining : Reader Nat := do return (← read).size - (← get)

/-- A soft failure with nothing to say. -/
def backtrack {α : Type} : Reader α := throw {}

/-- A soft failure of meaning. -/
def refuse {α : Type} (cause : String) : Reader α := throw { cause := some cause }

/-- Make the failures of a reader hard. -/
def cutErr {α : Type} (r : Reader α) : Reader α :=
  tryCatch r fun e => throw { e with cut := true }

/-- Add to the failures of a reader what was being read there. -/
def context {α : Type} (c : Context) (r : Reader α) : Reader α :=
  tryCatch r fun e => throw { e with contexts := e.contexts ++ [c] }

/-- Add a label. -/
def label {α : Type} (s : String) (r : Reader α) : Reader α := context (.label s) r

/-- Add something expected. -/
def expect {α : Type} (e : Expected) (r : Reader α) : Reader α := context (.expected e) r

/-- A reader that may fail softly, moving the cursor back when it does. -/
def opt {α : Type} (r : Reader α) : Reader (Option α) := do
  let start ← get
  tryCatch (some <$> r) fun e => if e.cut then throw e else do set start; pure none

/-- **The first of several readers that succeeds**, each tried from the same start; when all fail
softly, the last one's failure stands, with the cursor where it left it. -/
def alt {α : Type} : List (Reader α) → Reader α
  | [] => backtrack
  | [r] => r
  | r :: rs => do
    let start ← get
    tryCatch r fun e => if e.cut then throw e else do set start; alt rs

/-- A reader whose result is converted, the conversion failing softly with the cursor back at
the reader's start. -/
def tryMap {α β : Type} (r : Reader α) (f : α → Except String β) : Reader β := do
  let start ← get
  let a ← r
  match f a with
  | .ok b => pure b
  | .error cause => do set start; refuse cause

/-- A reader whose result is checked, failing softly with the cursor back at its start. -/
def verify {α : Type} (r : Reader α) (ok : α → Bool) : Reader α := do
  let start ← get
  let a ← r
  if ok a then pure a else do set start; backtrack

/-- A reader and the byte range it read. -/
def spanned {α : Type} (r : Reader α) : Reader (α × Nat × Nat) := do
  let start ← get
  let a ← r
  pure (a, start, ← get)

/-- One byte that passes a test. -/
def oneOf (ok : UInt8 → Bool) : Reader UInt8 := do
  match ← peek? with
  | some b => if ok b then do advance 1; pure b else backtrack
  | none => backtrack

/-- One given byte. -/
def byte (b : UInt8) : Reader UInt8 := oneOf (· == b)

/-- Any byte. -/
def any : Reader UInt8 := oneOf fun _ => true

/-- Whether the input has these bytes at a position. -/
def bytesAt (input : ByteArray) (pos : Nat) (w : List UInt8) : Bool :=
  w.length ≤ input.size - pos && (List.range w.length).all fun i => input.get! (pos + i) == w.getD i 0

/-- A fixed word. -/
def tag (w : String) : Reader Unit := do
  let input ← read
  let pos ← get
  let bytes := w.toUTF8.toList
  if bytesAt input pos bytes then advance bytes.length else backtrack

/-- How many bytes from a position pass a test, at most `limit`. -/
def countWhile (input : ByteArray) (ok : UInt8 → Bool) (pos : Nat) : Nat → Nat
  | 0 => 0
  | limit + 1 =>
    if h : pos < input.size then
      if ok (input.get pos h) then countWhile input ok (pos + 1) limit + 1 else 0
    else 0

/-- **A run of bytes** that pass a test, of a length between `least` and `most`; the bytes. -/
def takeWhile (least most : Nat) (ok : UInt8 → Bool) : Reader ByteArray := do
  let input ← read
  let pos ← get
  let n := countWhile input ok pos most
  if n < least then backtrack
  else do
    advance n
    pure (input.extract pos (pos + n))

/-- A run of any length. -/
def takeMany (ok : UInt8 → Bool) : Reader ByteArray := do
  takeWhile 0 (← remaining) ok

/-- A run of at least one byte. -/
def takeSome (ok : UInt8 → Bool) : Reader ByteArray := do
  takeWhile 1 (← remaining) ok

/-- The end of the input. -/
def eof : Reader Unit := do
  if (← remaining) = 0 then pure () else backtrack

/-- Repeat a reader with a bound on the rounds. -/
def manyFor {α : Type} (r : Reader α) : Nat → List α → Reader (List α)
  | 0, acc => pure acc.reverse
  | fuel + 1, acc => do
    let start ← get
    let step ← tryCatch (some <$> r) fun e => if e.cut then throw e else do set start; pure none
    match step with
    | none => pure acc.reverse
    | some a => if (← get) = start then pure (a :: acc).reverse else manyFor r fuel (a :: acc)

/-- **Repeat a reader** until it fails softly; the cursor goes back to the start of the round
that failed. -/
def many {α : Type} (r : Reader α) : Reader (List α) := do
  manyFor r ((← remaining) + 1) []

/-- Repeat a reader at least once. -/
def many1 {α : Type} (r : Reader α) : Reader (List α) := do
  let a ← r
  let rest ← many r
  pure (a :: rest)

/-- The rounds after the first of a separated list. -/
def separatedFor {α β : Type} (r : Reader α) (sep : Reader β) : Nat → List α → Reader (List α)
  | 0, acc => pure acc.reverse
  | fuel + 1, acc => do
    let start ← get
    let s ← tryCatch (some <$> sep) fun e => if e.cut then throw e else do set start; pure none
    match s with
    | none => pure acc.reverse
    | some _ =>
      let a ← tryCatch (some <$> r) fun e => if e.cut then throw e else do set start; pure none
      match a with
      | none => pure acc.reverse
      | some a => separatedFor r sep fuel (a :: acc)

/-- **Items between separators**, at least one; a separator not followed by an item is left
unread. -/
def separated1 {α β : Type} (r : Reader α) (sep : Reader β) : Reader (List α) := do
  let a ← r
  separatedFor r sep ((← remaining) + 1) [a]

/-- Items between separators, possibly none. -/
def separated0 {α β : Type} (r : Reader α) (sep : Reader β) : Reader (List α) := do
  match ← opt r with
  | none => pure []
  | some a => separatedFor r sep ((← remaining) + 1) [a]

end Reader

end CrossRef.Toml
