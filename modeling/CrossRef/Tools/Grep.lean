import CrossRef.Tools.Text
import CrossRef.Text.Regex
/-!
`grep`: the lines of files that match patterns.

Patterns come from `-e` (each may hold several, one a line), from the lines of `-f` files, or
else from the first operand; they are basic regular expressions, extended ones with `-E`, or
fixed strings with `-F`, and `-i` ignores case. A line is selected when some pattern matches in it
(with `-w` only a match with no word byte just before or after it counts, with `-x` only one that
is the whole line), or with `-v` when none does.

Selected lines are written with the file's name before them when there are several files (or
`-H`), their number with `-n` and their byte offset with `-b`, each followed by `:`; lines of
context (`-A`, `-B`, `-C`) are written the same way with `-`, and `--` between groups that do not
touch. `-o` writes each non-empty match instead of the line, `-c` the count of selected lines,
`-l` and `-L` the names of the files with and without them, and `-q` nothing; `-m` stops after
that many selected lines. A file with a zero byte in it is binary: its first selected line ends
the search of it with a note on standard error instead of the line.

The status is 0 when some line was selected, 1 when none was, and 2 when a file could not be read
or the arguments are wrong (with `-q`, a selected line makes it 0 all the same).

This module belongs to the simulated test host that one-shot analyzer commands run on, not to
the library's program: the program reaches the host only through `Cli.Machine` and
`Host.System`, and no theorem of the library is about this module.
-/

namespace CrossRef.Tools

open CrossRef.Host CrossRef.Regex

/-- **What finds matches** in a line: compiled expressions, or fixed strings. -/
inductive Finder where
  | regex (patterns : List Compiled)
  | fixed (words : List Bytes) (icase : Bool)
  deriving Inhabited

/-- Whether a fixed string stands in a line at a position. -/
def fixedAt (icase : Bool) (bytes : Array UInt8) (pos : Nat) (w : Bytes) : Bool :=
  let fold := fun (b : UInt8) => if icase then Bytes.upper b else b
  w.zipIdx.all fun (b, i) => (bytes[pos + i]?).map fold == some (fold b)

/-- **The ends of the matches** that start at a position, longest first. -/
def Finder.endsAt (f : Finder) (line : Array UInt8) (pos : Nat) : List Nat :=
  let ends := match f with
    | .regex cs => cs.flatMap fun (c : Compiled) => (c.waysAt { text := line, icase := c.icase } pos).map Prod.fst
    | .fixed ws icase => ws.filterMap fun w => if fixedAt icase line pos w then some (pos + w.length) else none
  (ends.mergeSort (· ≥ ·)).eraseDups

/-- **The first match** at or after `from` that `fits` accepts, as its start and end: the
leftmost start, and there the longest end. With `whole`, only matches from the start count. -/
def Finder.find (f : Finder) (line : Array UInt8) (from_ : Nat) (whole : Bool)
    (fits : Nat → Nat → Bool) : Option (Nat × Nat) :=
  let starts := if whole then (if from_ == 0 then [0] else []) else (List.range (line.size + 1 - from_)).map (from_ + ·)
  starts.findSome? fun p => ((f.endsAt line p).find? (fits p)).map (p, ·)

/-- The choices of a search. -/
structure GrepOptions where
  invert : Bool := false
  words : Bool := false
  whole : Bool := false
  count : Bool := false
  listMatching : Bool := false
  listMissing : Bool := false
  lineNumbers : Bool := false
  byteOffsets : Bool := false
  onlyMatching : Bool := false
  quiet : Bool := false
  noMessages : Bool := false
  maxCount : Option Nat := none
  before : Nat := 0
  after : Nat := 0
  withNames : Bool := false
  text : Bool := false
  deriving Inhabited

/-- Whether a match from `p` to `e` fits the options: with `-x` it is the whole line, with `-w`
no word byte touches it. -/
def GrepOptions.fits (o : GrepOptions) (bytes : Array UInt8) (p e : Nat) : Bool :=
  if o.whole then p == 0 && e == bytes.size
  else if o.words then
    (p == 0 || !(bytes[p - 1]?.map isWordByte).getD false) && !(bytes[e]?.map isWordByte).getD false
  else true

/-- Whether a line matches. -/
def GrepOptions.matches (o : GrepOptions) (f : Finder) (line : Array UInt8) : Bool :=
  (f.find line 0 o.whole (o.fits line)).isSome

/-- The non-empty matches of a line, left to right, as starts and ends. -/
def onlyMatches (o : GrepOptions) (f : Finder) (line : Array UInt8) : Nat → Nat → List (Nat × Nat)
  | 0, _ => []
  | k + 1, from_ =>
    if from_ > line.size then [] else
    match f.find line from_ o.whole (o.fits line) with
    | none => []
    | some (p, e) =>
      if e == p then onlyMatches o f line k (p + 1)
      else (p, e) :: onlyMatches o f line k e

/-- Where a file's search stands. -/
structure Scan where
  out : Bytes := []
  selected : Nat := 0
  /-- The last line written, by index. -/
  lastShown : Option Nat := none
  /-- How many lines of context are still to follow the last selected one. -/
  afterLeft : Nat := 0
  /-- Whether the search of the file has ended: the count is reached, or it is binary. -/
  done : Bool := false
  binaryMatch : Bool := false
  deriving Inhabited

/-- The text before a written line: the file's name, the line's number and its offset, each
followed by the separator. -/
def linePrefix (o : GrepOptions) (name : Bytes) (index offset : Nat) (sep : UInt8) : Bytes :=
  (if o.withNames then name ++ [sep] else []) ++
    (if o.lineNumbers then Bytes.ofNat (index + 1) ++ [sep] else []) ++
    (if o.byteOffsets then Bytes.ofNat offset ++ [sep] else [])

/-- Whether lines are written (rather than counts, names or nothing). -/
def GrepOptions.writesLines (o : GrepOptions) : Bool :=
  !o.count && !o.listMatching && !o.listMissing && !o.quiet

/-- **Search the lines of a file**: `lines` with their byte offsets; `shownBefore` says whether
an earlier file wrote lines, so that a group of context here is set apart from them. -/
def scanLines (o : GrepOptions) (f : Finder) (name : Bytes) (binary shownBefore : Bool)
    (lines : List (Bytes × Nat)) : Scan :=
  let context := o.writesLines && !o.onlyMatching && (o.before > 0 || o.after > 0)
  let limit := o.maxCount.getD (lines.length + 1)
  let arr := lines.toArray
  let emit := fun (s : Scan) (i : Nat) (sep : UInt8) =>
    let (line, offset) := arr[i]?.getD ([], 0)
    let gap := match s.lastShown with
      | some j => j + 1 < i
      | none => shownBefore
    let mark := if context && gap then [45, 45, 10] else []
    { s with out := s.out ++ mark ++ linePrefix o name i offset sep ++ line ++ [10], lastShown := some i }
  let step := fun (s : Scan) ((line, offset) : Bytes × Nat) (i : Nat) =>
    if s.done && s.afterLeft == 0 then s
    else if s.done then
      let s := emit s i 45
      { s with afterLeft := s.afterLeft - 1 }
    else
      let lineArr : Array UInt8 := List.toArray line
      let sel := o.matches f lineArr != o.invert
      if sel then
        let s := { s with selected := s.selected + 1, done := s.selected + 1 ≥ limit }
        if !o.writesLines then s
        else if binary then { s with binaryMatch := true, done := true, afterLeft := 0 }
        else if o.onlyMatching then
          if o.invert then s else
          let ms := onlyMatches o f lineArr (lineArr.size + 2) 0
          let text := ms.foldl (fun acc (p, e) =>
            acc ++ linePrefix o name i (offset + p) 58 ++ (line.drop p).take (e - p) ++ [10]) []
          { s with out := s.out ++ text, lastShown := some i }
        else
          let first := max (i - o.before) (match s.lastShown with | some j => j + 1 | none => 0)
          let s := (List.range (i - first)).foldl (fun s j => emit s (first + j) 45) s
          let s := emit s i 58
          { s with afterLeft := if context then o.after else 0 }
      else if s.afterLeft > 0 && context then
        let s := emit s i 45
        { s with afterLeft := s.afterLeft - 1 }
      else s
  if limit == 0 then {} else
  lines.zipIdx.foldl (fun s (l, i) => step s l i) {}

/-- The lines of a file with the byte offset of each, without their newlines. -/
def linesWithOffsets (data : Bytes) : List (Bytes × Nat) :=
  let (rows, _) := (linesOf data).foldl (fun (acc : List (Bytes × Nat) × Nat) l =>
    let body := if l.getLast? == some 10 then l.dropLast else l
    ((body, acc.2) :: acc.1, acc.2 + l.length)) ([], 0)
  rows.reverse

/-- A count of `-m`, `-A`, `-B` or `-C`: decimal digits. -/
def readNonNegative (w : Bytes) : Option Nat :=
  if !w.isEmpty && w.all Bytes.isDigit then some (Bytes.text w).toNat! else none

/-- Print the usage lines of a wrong command line and fail. -/
def grepUsage : ToolM Exit := do
  putErr (txt "Usage: " ++ (← progName) ++ txt " [OPTION]... PATTERNS [FILE]...\n")
  tryHelp
  return .code 2

/-- **`grep`**. -/
def grep : ToolM Exit := do
  let p ← proc
  let args := p.argv.tail.map fun a =>
    if a == txt "--color" || a == txt "--colour" then txt "--color=auto" else a
  let spec : OptSpec := {
    short := [(69, false), (70, false), (71, false), (105, false), (121, false), (118, false),
      (119, false), (120, false), (99, false), (108, false), (76, false), (110, false), (104, false),
      (72, false), (111, false), (113, false), (115, false), (109, true), (101, true), (102, true),
      (98, false), (65, true), (66, true), (67, true), (97, false)]
    long := [("extended-regexp", false, 69), ("fixed-strings", false, 70), ("basic-regexp", false, 71),
      ("ignore-case", false, 105), ("no-ignore-case", false, 73), ("invert-match", false, 118),
      ("word-regexp", false, 119), ("line-regexp", false, 120), ("count", false, 99),
      ("files-with-matches", false, 108), ("files-without-match", false, 76),
      ("line-number", false, 110), ("no-filename", false, 104), ("with-filename", false, 72),
      ("only-matching", false, 111), ("quiet", false, 113), ("silent", false, 113),
      ("no-messages", false, 115), ("max-count", true, 109), ("regexp", true, 101),
      ("file", true, 102), ("byte-offset", false, 98), ("after-context", true, 65),
      ("before-context", true, 66), ("context", true, 67), ("text", false, 97),
      ("color", true, 1), ("colour", true, 1), ("label", true, 2)] }
  let parsed := parseOptions spec args
  if let .error e := parsed then
    complain e.message
    return ← grepUsage
  let (opts, operands) := match parsed with
    | .ok r => r
    | .error _ => ([], [])
  let mut kind : UInt8 := 71
  let mut icase := false
  let mut o : GrepOptions := {}
  let mut patterns : List Bytes := []
  let mut fromOptions := false
  let mut label := txt "(standard input)"
  for (c, a) in opts do
    match c with
    | 69 | 70 | 71 => kind := c
    | 105 | 121 => icase := true
    | 73 => icase := false
    | 118 => o := { o with invert := true }
    | 119 => o := { o with words := true }
    | 120 => o := { o with whole := true }
    | 99 => o := { o with count := true }
    | 108 => o := { o with listMatching := true }
    | 76 => o := { o with listMissing := true }
    | 110 => o := { o with lineNumbers := true }
    | 104 => o := { o with withNames := false }
    | 72 => o := { o with withNames := true }
    | 111 => o := { o with onlyMatching := true }
    | 113 => o := { o with quiet := true }
    | 115 => o := { o with noMessages := true }
    | 98 => o := { o with byteOffsets := true }
    | 97 => o := { o with text := true }
    | 2 => label := a
    | 109 =>
      match readNonNegative a with
      | some n => o := { o with maxCount := some n }
      | none =>
        complain (txt "invalid max count")
        return .code 2
    | 65 | 66 | 67 =>
      match readNonNegative a with
      | some n =>
        if c == 65 then o := { o with after := n }
        else if c == 66 then o := { o with before := n }
        else o := { o with after := n, before := n }
      | none =>
        complain (a ++ txt ": invalid context length argument")
        return .code 2
    | 101 =>
      patterns := patterns ++ Bytes.splitOn 10 a
      fromOptions := true
    | 102 =>
      match ← readOperand a with
      | .ok b =>
        patterns := patterns ++ plainLines b.toList
        fromOptions := true
      | .error e =>
        complain (a ++ txt ": " ++ txt e.text)
        return .code 2
    | _ => pure ()
  let mut files := operands
  if !fromOptions then
    match operands with
    | [] => return ← grepUsage
    | pat :: rest =>
      patterns := Bytes.splitOn 10 pat
      files := rest
  let explicitNames := opts.any fun (c, _) => c == 72 || c == 104
  if !explicitNames then o := { o with withNames := files.length > 1 }
  let sx : Syntax := if kind == 69 then { extended := true, braceOrd := true, icase } else { icase }
  let results := if kind == 70 then [] else patterns.map (compile sx)
  if let some m := results.findSome? (fun r => match r with | .error m => some m | .ok _ => none) then
    complain (txt m)
    return .code 2
  let compiled := results.filterMap fun r => match r with | .ok c => some c | .error _ => none
  if compiled.any (·.confusing) then
    complain (txt "character class syntax is [[:space:]], not [:space:]")
    return .code 2
  for c in compiled do
    for op in c.leadingOps do
      complain (txt ("warning: " ++ op ++ " at start of expression"))
  let finder := if kind == 70 then Finder.fixed patterns icase else Finder.regex compiled
  let mut anySelected := false
  let mut failed := false
  let mut shown := false
  for name in operandsOrStdin files do
    let shownName := if name == [45] then label else name
    match ← readOperand name with
    | .error e =>
      if !o.noMessages then complain (name ++ txt ": " ++ txt e.text)
      failed := true
    | .ok data =>
      let data := data.toList
      let binary := !o.text && data.contains 0
      let s := scanLines o finder shownName binary shown (linesWithOffsets data)
      put s.out
      if s.lastShown.isSome then shown := true
      if s.binaryMatch then
        putErr ((← progName) ++ txt ": " ++ shownName ++ txt ": binary file matches\n")
      if s.selected > 0 then anySelected := true
      if o.quiet && s.selected > 0 then return ← finish 0
      if o.count && !o.listMatching && !o.listMissing && !o.quiet then
        put ((if o.withNames then shownName ++ [58] else []) ++ Bytes.ofNat s.selected ++ [10])
      if o.listMatching && !o.quiet && s.selected > 0 then put (shownName ++ [10])
      if o.listMissing && !o.quiet && s.selected == 0 then put (shownName ++ [10])
  finish (if failed then 2 else if anySelected then 0 else 1)

end CrossRef.Tools
