import CrossRef.Toml.Value
/-!
Reading a TOML document, and reporting where it is wrong.

A document is a sequence of lines: blank, a comment, a `[table]` or `[[array of tables]]`
header, or a key and its value, each line closed by a comment or a line end. Headers and keys
are assembled into the document's tables as they are read (`Toml.Document`), so a key given
twice or a table defined twice is reported at the start of the line that does it.

An error is reported with its place in the text: the line and column of the byte it points at
(columns count characters), the line itself, and carets under the bytes it covers, cut to the
line. A reading error covers the one byte where the reading stopped, or none at the end of the
text.
-/

namespace CrossRef.Toml

open Reader

/-- **A key and its value**, up to the end of the line. -/
def keyValue : Reader (List Key × Key × Item) := do
  let path ← key
  cutErr do
    discard (expect (.char '=') (expect (.char '.') (byte 61)))
    ws
    let v ← value nestingRoom
    expect (.char '#') (expect (.char '\n') lineTrailing)
    pure (path.dropLast, path.getLast?.getD default, v)

/-- Apply a change of the assembly, reporting its error at a position. -/
def assemble (start : Nat) (r : Except Custom Assembly) : Reader Assembly :=
  match r with
  | .ok st => pure st
  | .error c => do
    set start
    refuse c.message

/-- A header between given brackets, with the rest of its line; the key and the header's
range. -/
def header (opening closing : String) : Reader (List Key × Range) := do
  let start ← get
  tag opening
  let path ← cutErr key
  expect (.text closing) (expect (.char '.') (cutErr (tag closing)))
  let stop ← get
  expect (.char '#') (expect (.char '\n') (cutErr lineTrailing))
  pure (path, ⟨start, stop⟩)

/-- **A table header**, `[a.b]` or `[[a.b]]`. -/
def tableHeader (st : Assembly) : Reader Assembly := label "table header" do
  let input ← read
  let start ← get
  if (← remaining) < 2 then backtrack
  else if bytesAt input start [91, 91] then do
    let (path, span) ← header "[[" "]]"
    assemble start (st.startArrayTable path span)
  else do
    let (path, span) ← header "[" "]"
    assemble start (st.startTable path span)

/-- One line's worth of the document. -/
def statement (st : Assembly) : Reader Assembly := do
  match ← peek? with
  | some 35 => do
    cutErr (do comment; lineEnding)
    pure st
  | some 91 => cutErr (tableHeader st)
  | some 10 => do newline; pure st
  | some 13 => do newline; pure st
  | some _ => cutErr do
    let start ← get
    let (path, k, v) ← keyValue
    assemble start (st.addKeyValue path k v)
  | none => backtrack

/-- The statements of a document, each followed by blank space. -/
def statementsFor : Nat → Assembly → Reader Assembly
  | 0, st => pure st
  | fuel + 1, st => do
    let start ← get
    let next ← tryCatch (some <$> (do let st ← statement st; ws; pure st)) fun e =>
      if e.cut then throw e else do set start; pure none
    match next with
    | none => pure st
    | some st' => if (← get) = start then pure st' else statementsFor fuel st'

/-- **A whole document**, after an optional byte order mark. -/
def document : Reader Assembly := do
  discard (opt (tag "\uFEFF"))
  ws
  let st ← statementsFor ((← remaining) + 1) {}
  eof
  pure st

/-- An error of a document: its words and the bytes it is about. -/
structure Diagnostic where
  message : String
  span : Option Range := none
  /-- The keys leading to the value the error is about, outermost first. -/
  keys : List String := []
  deriving Repr, Inhabited

/-- **Read a document**: its root table, or where and why it is wrong. -/
def parse (text : String) : Except Diagnostic Entries :=
  let input := text.toUTF8
  match Reader.run document input 0 with
  | (.error f, pos) =>
    .error { message := f.message, span := some ⟨pos, if pos = input.size then pos else pos + 1⟩ }
  | (.ok st, _) =>
    match st.finish with
    | .ok root => .ok root
    | .error c => .error { message := c.message }

/-! ## Reporting -/

/-- The line and column of a byte of a text, both from zero. The column counts the characters
before the byte on its line; when the bytes up to it do not end a character, it counts bytes.
Past the end, the column goes on from the last byte. -/
def position (bytes : ByteArray) (index : Nat) : Nat × Nat :=
  if bytes.size = 0 then (0, index)
  else
    let safe := min index (bytes.size - 1)
    let before := (bytes.extract 0 safe).toList
    let lineStart := before.length - (before.reverse.takeWhile (· != 10)).length
    let line := ((bytes.extract 0 lineStart).toList.filter (· == 10)).length
    let column := match Utf8.decode (bytes.extract lineStart (safe + 1)) with
      | .ok s => s.length - 1
      | .error _ => safe - lineStart
    (line, column + (index - safe))

/-- `n` spaces. -/
def spaces (n : Nat) : String := String.ofList (List.replicate n ' ')

/-- **An error as text**: with the place in the source when it has one, the keys leading to it
when it has none. -/
def Diagnostic.render (source : String) (d : Diagnostic) : String :=
  match d.span with
  | some span =>
    let (line, column) := position source.toUTF8 span.start
    let lineNumber := toString (line + 1)
    let gutter := lineNumber.length
    let content := ((source.splitOn "\n")[line]?).getD ""
    let highlight := min (span.stop - span.start) (content.utf8ByteSize - column)
    "TOML parse error at line " ++ lineNumber ++ ", column " ++ toString (column + 1) ++ "\n" ++
      spaces (gutter + 1) ++ "|\n" ++
      lineNumber ++ " | " ++ content ++ "\n" ++
      spaces (gutter + 1) ++ "|" ++ spaces (column + 1) ++
      String.ofList (List.replicate (max 1 highlight) '^') ++ "\n" ++
      d.message ++ "\n"
  | none =>
    d.message ++ "\n" ++ (if d.keys.isEmpty then "" else "in `" ++ ".".intercalate d.keys ++ "`\n")

end CrossRef.Toml
