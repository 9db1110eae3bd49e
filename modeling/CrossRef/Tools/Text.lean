import CrossRef.Tools.Basic
import CrossRef.Text.Base64
/-!
The text tools of the host: `cat`, `head`, `tail`, `tr`, `wc`, `sort`, `uniq`, `cut`, `seq`,
`tee` and `base64`.

Each reads its file operands in order (standard input when there are none, or for `-`), and a
file that cannot be read is reported and makes the status 1 while the others are still read.
Lines end at newlines; a last line without one is a line too. Bytes are compared and classified
as in the C locale.

This module belongs to the simulated test host that one-shot analyzer commands run on, not to
the library's program: the program reaches the host only through `Cli.Machine` and
`Host.System`, and no theorem of the library is about this module.
-/

-- `^` on numbers is core's `NatPow` power here, also where Mathlib's monoid power is in scope.
attribute [local instance (high)] instPowNat

namespace CrossRef.Tools

open CrossRef.Host

/-- Split text into lines, each with its newline if it had one. -/
def linesOf (b : Bytes) : List Bytes :=
  let parts := Bytes.splitOn 10 b
  let n := parts.length
  (parts.zipIdx.filterMap fun (p, i) =>
    if i + 1 < n then some (p ++ [10]) else if p.isEmpty then none else some p)

/-- The lines of text without their newlines. -/
def plainLines (b : Bytes) : List Bytes := (linesOf b).map fun l => if l.getLast? == some 10 then l.dropLast else l

/-- The operands, or `-` when there are none. -/
def operandsOrStdin (ops : List Bytes) : List Bytes := if ops.isEmpty then [[45]] else ops

/-- Read an operand for a tool that names files with their quotes only when needed; a failure is
reported and gives none. -/
def readReported (name : Bytes) : ToolM (Option ByteArray) := do
  match ← readOperand name with
  | .ok b => return some b
  | .error e =>
    complain (quoteIfNeeded name ++ txt ": " ++ txt e.text)
    return none

/-! ## `cat` -/

/-- How `cat` shows its input. -/
structure CatShow where
  numberAll : Bool := false
  numberNonblank : Bool := false
  squeeze : Bool := false
  ends : Bool := false
  tabs : Bool := false
  nonprinting : Bool := false
  deriving Inhabited

/-- What `cat` remembers from one file to the next: the last line number, whether it is at the
start of a line, and how many empty lines came last. -/
structure CatState where
  number : Nat := 0
  atStart : Bool := true
  blanks : Nat := 0
  deriving Inhabited

/-- A line number as `cat` writes it: right-aligned in six columns, then a tab. -/
def lineNumber (n : Nat) : Bytes :=
  let d := toString n
  txt (String.ofList (List.replicate (6 - d.length) ' ') ++ d ++ "\t")

/-- A byte as `cat -v` shows it. -/
def showByte (tabs : Bool) (nonprinting : Bool) (c : UInt8) : Bytes :=
  if c == 9 then (if tabs then txt "^I" else [9])
  else if c == 10 then [10]
  else if !nonprinting then [c]
  else if c < 32 then [94, c + 64]
  else if c == 127 then txt "^?"
  else if c < 128 then [c]
  else
    let d := c - 128
    txt "M-" ++ (if d < 32 then [94, d + 64] else if d == 127 then txt "^?" else [d])

/-- **Show one line** (with its newline if it had one) as `cat` does with options. -/
def catLine (o : CatShow) (st : CatState) (line : Bytes) : Bytes × CatState :=
  let ended := line.getLast? == some 10
  let body := if ended then line.dropLast else line
  let blank := body.isEmpty && ended && st.atStart
  let st := if blank then { st with blanks := st.blanks + 1 } else if st.atStart then { st with blanks := 0 } else st
  if o.squeeze && blank && st.blanks > 1 then ([], st)
  else
    let numbered := st.atStart && (o.numberAll && !o.numberNonblank || (o.numberNonblank && !blank))
    let st := if numbered then { st with number := st.number + 1 } else st
    let head := if numbered then lineNumber st.number else []
    let shown := body.flatMap (showByte o.tabs o.nonprinting)
    let tail := if ended then (if o.ends then txt "$\n" else [10]) else []
    (head ++ shown ++ tail, { st with atStart := ended })

/-- **`cat`**: its files, one after another. -/
def cat : ToolM Exit := do
  let spec : OptSpec := {
    short := [(65, false), (98, false), (101, false), (69, false), (110, false), (115, false),
      (116, false), (84, false), (117, false), (118, false)]
    long := [("show-all", false, 65), ("number-nonblank", false, 98), ("show-ends", false, 69),
      ("number", false, 110), ("squeeze-blank", false, 115), ("show-tabs", false, 84),
      ("show-nonprinting", false, 118)] }
  let some (opts, ops) ← options spec ((← proc).argv.drop 1) | return .code 1
  let o := opts.foldl (fun (o : CatShow) (c, _) =>
    match c with
    | 65 => { o with nonprinting := true, ends := true, tabs := true }
    | 98 => { o with numberNonblank := true, numberAll := true }
    | 101 => { o with nonprinting := true, ends := true }
    | 69 => { o with ends := true }
    | 110 => { o with numberAll := true }
    | 115 => { o with squeeze := true }
    | 116 => { o with nonprinting := true, tabs := true }
    | 84 => { o with tabs := true }
    | 118 => { o with nonprinting := true }
    | _ => o) {}
  let plain := !(o.numberAll || o.squeeze || o.ends || o.tabs || o.nonprinting)
  let mut st : CatState := {}
  let mut status := 0
  for name in operandsOrStdin ops do
    match ← readReported name with
    | none => status := 1
    | some b =>
      if plain then put b.toList
      else
        for line in linesOf b.toList do
          let (shown, st') := catLine o st line
          st := st'
          put shown
  finish status

/-! ## `head` and `tail` -/

/-- A count of lines or bytes: how many, and whether counted from the other end (`head -n -N`:
all but the last N; `tail -n +N`: from the Nth on). -/
structure Count where
  n : Nat
  fromOther : Bool := false
  deriving Inhabited

/-- The multiplier of a size suffix. -/
def suffixFactor (s : Bytes) : Option Nat :=
  let units : List (String × Nat) :=
    [("", 1), ("b", 512), ("kB", 1000), ("K", 1024), ("KiB", 1024), ("MB", 1000 ^ (2 : Nat)), ("M", 1024 ^ (2 : Nat)),
     ("MiB", 1024 ^ (2 : Nat)), ("GB", 1000 ^ (3 : Nat)), ("G", 1024 ^ (3 : Nat)), ("GiB", 1024 ^ (3 : Nat)), ("TB", 1000 ^ (4 : Nat)),
     ("T", 1024 ^ (4 : Nat)), ("TiB", 1024 ^ (4 : Nat))]
  (units.find? (txt ·.1 == s)).map (·.2)

/-- **Read a count** with an optional sign and size suffix; `other` is the sign that counts from
the other end. -/
def readCount (other : UInt8) (w : Bytes) : Option Count :=
  let (fromOther, rest) := match w with
    | c :: r => if c == other then (true, r) else if c == 43 || c == 45 then (false, r) else (false, w)
    | [] => (false, w)
  let digits := rest.takeWhile Bytes.isDigit
  if digits.isEmpty then none
  else (suffixFactor (rest.drop digits.length)).map fun f =>
    { n := (Bytes.text digits).toNat! * f, fromOther }

/-- Turn an old-style first argument `-N` (or `+N` for `tail`) into `-n N`. -/
def oldCount (allowPlus : Bool) (args : List Bytes) : List Bytes :=
  match args with
  | (c :: rest) :: more =>
    if (c == 45 || (allowPlus && c == 43)) && !rest.isEmpty && rest.all Bytes.isDigit then
      [txt "-n", if c == 43 then 43 :: rest else rest] ++ more
    else args
  | _ => args

/-- The first `n` lines of text, or all but the last `n`. -/
def headLines (c : Count) (b : Bytes) : Bytes :=
  let ls := linesOf b
  (if c.fromOther then ls.take (ls.length - c.n) else ls.take c.n).flatten

/-- The last `n` lines of text, or those from the `n`th on. -/
def tailLines (c : Count) (b : Bytes) : Bytes :=
  let ls := linesOf b
  (if c.fromOther then ls.drop (c.n - 1) else ls.drop (ls.length - c.n)).flatten

/-- The shared work of `head` and `tail`: read the options, then show each file with a header
when there are several. -/
def headOrTail (isHead : Bool) : ToolM Exit := do
  let spec : OptSpec := {
    short := [(99, true), (110, true), (113, false), (118, false), (122, false)] ++
      (if isHead then [] else [(102, false), (70, false), (115, true)])
    long := [("bytes", true, 99), ("lines", true, 110), ("quiet", false, 113), ("silent", false, 113),
      ("verbose", false, 118), ("zero-terminated", false, 122)] ++
      (if isHead then [] else [("follow", false, 102), ("sleep-interval", true, 115)]) }
  let args := oldCount (!isHead) ((← proc).argv.drop 1)
  let some (opts, ops) ← options spec args | return .code 1
  let other : UInt8 := if isHead then 45 else 43
  let mut bytes : Option Count := none
  let mut lines : Count := { n := 10 }
  let mut headers : Option Bool := none
  for (c, a) in opts do
    if c == 99 || c == 110 then
      match readCount other a with
      | some k => if c == 99 then bytes := some k else do bytes := none; lines := k
      | none =>
        complain (txt (if c == 99 then "invalid number of bytes: " else "invalid number of lines: ") ++ quoteLocale a)
        return .code 1
    else if c == 113 then headers := some false
    else if c == 118 then headers := some true
  let names := operandsOrStdin ops
  let showHeaders := headers.getD (names.length > 1)
  let mut status := 0
  let mut first := true
  for name in names do
    match ← readOperand name with
    | .error e =>
      let what := if e == .isDirectory then txt "error reading " else txt "cannot open "
      complain (what ++ quoteName (if name == [45] then txt "standard input" else name) ++
        (if e == .isDirectory then [] else txt " for reading") ++ txt ": " ++ txt e.text)
      status := 1
    | .ok b =>
      if showHeaders then
        put ((if first then [] else [10]) ++ txt "==> " ++
          (if name == [45] then txt "standard input" else name) ++ txt " <==\n")
      first := false
      let b := b.toList
      let shown := match bytes with
        | some k =>
          if isHead then (if k.fromOther then b.take (b.length - k.n) else b.take k.n)
          else (if k.fromOther then b.drop (k.n - 1) else b.drop (b.length - k.n))
        | none => if isHead then headLines lines b else tailLines lines b
      put shown
  finish status

/-- **`head`**: the first lines (or bytes) of files. -/
def head : ToolM Exit := headOrTail true

/-- **`tail`**: the last lines (or bytes) of files. -/
def tail : ToolM Exit := headOrTail false

/-! ## `tr` -/

/-- The bytes of a character class, in order. -/
def classBytes (name : String) : Option Bytes :=
  let all := (List.range 256).map (·.toUInt8)
  let pick (p : UInt8 → Bool) := some (all.filter p)
  match name with
  | "alpha" => pick Bytes.isAlpha
  | "digit" => pick Bytes.isDigit
  | "alnum" => pick Bytes.isAlnum
  | "upper" => pick fun c => 65 ≤ c && c ≤ 90
  | "lower" => pick fun c => 97 ≤ c && c ≤ 122
  | "space" => pick Bytes.isSpace
  | "blank" => pick Bytes.isBlank
  | "punct" => pick fun c => 33 ≤ c && c ≤ 126 && !Bytes.isAlnum c
  | "print" => pick fun c => 32 ≤ c && c ≤ 126
  | "graph" => pick fun c => 33 ≤ c && c ≤ 126
  | "cntrl" => pick fun c => c < 32 || c == 127
  | "xdigit" => pick isHexDigitByte
  | _ => none
where
  isHexDigitByte (c : UInt8) : Bool := Bytes.isDigit c || (65 ≤ c && c ≤ 70) || (97 ≤ c && c ≤ 102)

/-- One byte of a set, with its escape read: the byte and what follows. -/
def setByte (b : Bytes) : Option (UInt8 × Bytes) :=
  match b with
  | 92 :: c :: rest =>
    if 48 ≤ c && c ≤ 55 then
      let ds := (c :: rest).takeWhile (fun d => 48 ≤ d && d ≤ 55) |>.take 3
      some ((ds.foldl (fun (v : Nat) (d : UInt8) => v * 8 + (d - 48).toNat) 0 % 256).toUInt8, (c :: rest).drop ds.length)
    else
      let v := match c with
        | 97 => 7 | 98 => 8 | 102 => 12 | 110 => 10 | 114 => 13 | 116 => 9 | 118 => 11
        | _ => c
      some (v, rest)
  | [92] => some (92, [])
  | c :: rest => some (c, rest)
  | [] => none

/-- An element of a set as written. -/
inductive SetPart where
  | bytes (b : Bytes)
  /-- `[c*n]`: a byte repeated, `n = 0` meaning as often as needed. -/
  | repeatByte (c : UInt8) (n : Nat)
  deriving Inhabited

/-- **Read a set** of `tr`: bytes, ranges, classes and repeats, or what is wrong with it. -/
def readSet : Nat → Bytes → List SetPart → Except Bytes (List SetPart)
  | 0, _, acc => .ok acc.reverse
  | k + 1, b, acc =>
    match b with
    | [] => .ok acc.reverse
    | 91 :: 58 :: rest =>
      let name := rest.takeWhile (· != 58)
      if (rest.drop name.length).take 2 == [58, 93] then
        match classBytes (Bytes.text name) with
        | some cs => readSet k (rest.drop (name.length + 2)) (.bytes cs :: acc)
        | none => .error (txt "invalid character class " ++ quoteLocale name)
      else readSet k rest (.bytes [91] :: acc)
    | 91 :: 61 :: c :: 61 :: 93 :: rest => readSet k rest (.bytes [c] :: acc)
    | 91 :: rest =>
      match setByte rest with
      | some (c, 42 :: more) =>
        let ds := more.takeWhile Bytes.isDigit
        if (more.drop ds.length).head? == some 93 then
          let n := if ds.isEmpty then 0 else
            if ds.head? == some 48 then (Bytes.text ds).foldl (fun v d => v * 8 + (d.toNat - 48)) 0
            else (Bytes.text ds).toNat!
          readSet k (more.drop (ds.length + 1)) (.repeatByte c n :: acc)
        else readSet k rest (.bytes [91] :: acc)
      | _ => readSet k rest (.bytes [91] :: acc)
    | _ =>
      match setByte b with
      | some (c, 45 :: more) =>
        match setByte more with
        | some (d, after) =>
          if d < c then .error (txt "range-endpoints of '" ++ [c, 45, d] ++ txt "' are in reverse collating sequence order")
          else readSet k after (.bytes ((List.range (d.toNat - c.toNat + 1)).map fun i => (c.toNat + i).toUInt8) :: acc)
        | none => readSet k more (.bytes [c, 45] :: acc)
      | some (c, rest) => readSet k rest (.bytes [c] :: acc)
      | none => .ok acc.reverse

/-- The bytes of a set; a repeat with no count fills up to `length`. -/
def setBytes (parts : List SetPart) (length : Nat) : Bytes :=
  let fixed := parts.foldl (fun n p => match p with
    | .bytes b => n + b.length
    | .repeatByte _ m => n + m) 0
  parts.flatMap fun p => match p with
    | .bytes b => b
    | .repeatByte c 0 => List.replicate (length - fixed) c
    | .repeatByte c m => List.replicate m c

/-- Squeeze runs of a byte in a set into one. -/
def squeezeRuns (set : Bytes) (b : Bytes) : Bytes :=
  (b.foldl (fun (acc : Bytes) c =>
    match acc with
    | d :: _ => if d == c && set.contains c then acc else c :: acc
    | [] => [c]) []).reverse

/-- **`tr`**: translate, delete or squeeze bytes of the standard input. -/
def tr : ToolM Exit := do
  let spec : OptSpec := {
    short := [(99, false), (67, false), (100, false), (115, false), (116, false)]
    long := [("complement", false, 99), ("delete", false, 100), ("squeeze-repeats", false, 115),
      ("truncate-set1", false, 116)] }
  let some (opts, ops) ← options spec ((← proc).argv.drop 1) | return .code 1
  let has (c : UInt8) := opts.any (·.1 == c)
  let complement := has 99 || has 67
  let delete := has 100
  let squeeze := has 115
  let need := if delete && squeeze then 2 else if delete || (squeeze && ops.length < 2) then 1 else 2
  if ops.isEmpty then
    complain (txt "missing operand")
    tryHelp
    return .code 1
  if ops.length < need then
    complain (txt "missing operand after " ++ quoteLocale (ops.getLast?.getD []))
    putErr (txt (if squeeze then "Two strings must be given when both deleting and squeezing repeats.\n"
      else "Two strings must be given when translating.\n"))
    tryHelp
    return .code 1
  if ops.length > need then
    complain (txt "extra operand " ++ quoteLocale (ops.getD need []))
    if need == 1 && delete then
      putErr (txt "Only one string may be given when deleting without squeezing repeats.\n")
    tryHelp
    return .code 1
  let parse (w : Bytes) : Except Bytes (List SetPart) := readSet (w.length + 1) w []
  match parse (ops.getD 0 []), parse (ops.getD 1 []) with
  | .error m, _ | _, .error m =>
    complain m
    return .code 1
  | .ok p1, .ok p2 =>
    let set1 := setBytes p1 0
    let set1 := if complement then ((List.range 256).map (·.toUInt8)).filter (!set1.contains ·) else set1
    let input ← match ← host (System.read (← proc).fds 0 none) with
      | .ok b => pure b.toList
      | .error _ => pure []
    let set2 := setBytes p2 set1.length
    let out :=
      if delete then
        let kept := input.filter (!set1.contains ·)
        if squeeze then squeezeRuns set2 kept else kept
      else if ops.length < 2 then squeezeRuns set1 input
      else
        let set2 := if set2.isEmpty then [] else set2 ++ List.replicate (set1.length - set2.length) (set2.getLast?.getD 0)
        let mapped := input.map fun c =>
          match set1.zipIdx.reverse.find? (·.1 == c) with
          | some (_, i) => set2.getD i c
          | none => c
        if squeeze then squeezeRuns set2 mapped else mapped
    put out
    finish 0

/-! ## `wc` -/

/-- The counts of a text: lines, words, characters, bytes and the longest line. -/
structure Counts where
  lines : Nat := 0
  words : Nat := 0
  chars : Nat := 0
  bytes : Nat := 0
  longest : Nat := 0
  deriving Inhabited

/-- **Count a text.** Words are runs of bytes that are not white space; characters are bytes
that do not continue a UTF-8 sequence. -/
def countText (b : Bytes) : Counts :=
  let (c, _, cur) := b.foldl (fun ((c : Counts), (inWord : Bool), (cur : Nat)) (x : UInt8) =>
    let c := { c with bytes := c.bytes + 1, chars := c.chars + (if x &&& 0xC0 == 0x80 then 0 else 1) }
    let c := if x == 10 then { c with lines := c.lines + 1, longest := max c.longest cur } else c
    let cur := if x == 10 then 0 else if x == 9 then cur + 8 - cur % 8 else cur + 1
    if Bytes.isSpace x then (c, false, cur)
    else if inWord then (c, true, cur) else ({ c with words := c.words + 1 }, true, cur)) ({}, false, 0)
  { c with longest := max c.longest cur }

/-- **`wc`**: count lines, words and bytes of files. -/
def wc : ToolM Exit := do
  let spec : OptSpec := {
    short := [(99, false), (109, false), (108, false), (119, false), (76, false)]
    long := [("bytes", false, 99), ("chars", false, 109), ("lines", false, 108), ("words", false, 119),
      ("max-line-length", false, 76)] }
  let some (opts, ops) ← options spec ((← proc).argv.drop 1) | return .code 1
  let has (c : UInt8) := opts.any (·.1 == c)
  let anyOpt := !opts.isEmpty
  let showL := has 108 || !anyOpt
  let showW := has 119 || !anyOpt
  let showM := has 109
  let showC := has 99 || !anyOpt
  let showMax := has 76
  let names := operandsOrStdin ops
  let fs := (← host get).files
  let cwd := (← proc).cwd
  let regularSize := names.foldl (fun acc n =>
    match acc with
    | none => none
    | some t =>
      if n == [45] then none
      else match fs.node? (resolve cwd (Bytes.text n)) with
        | some (.file b _) => some (t + b.size)
        | _ => if fs.isDir (resolve cwd (Bytes.text n)) then some t else none) (some 0)
  let fields := [showL, showW, showM, showC, showMax].count true
  let width := match regularSize with
    | some t => (toString t).length
    | none => 7
  let width := if fields == 1 && names.length == 1 then 1 else width
  let render (c : Counts) (name : Option Bytes) : Bytes :=
    let vals := [(showL, c.lines), (showW, c.words), (showM, c.chars), (showC, c.bytes), (showMax, c.longest)]
    let cols := vals.filterMap fun (on, v) =>
      if on then
        let d := toString v
        some (txt (String.ofList (List.replicate (width - d.length) ' ') ++ d))
      else none
    (txt " ").intercalate cols ++ (match name with
      | some n => [32] ++ n
      | none => []) ++ [10]
  let mut total : Counts := {}
  let mut status := 0
  for name in names do
    match ← readReported name with
    | none => status := 1
    | some b =>
      let c := countText b.toList
      total := { lines := total.lines + c.lines, words := total.words + c.words,
                 chars := total.chars + c.chars, bytes := total.bytes + c.bytes,
                 longest := max total.longest c.longest }
      put (render c (if ops.isEmpty then none else some name))
  if names.length > 1 then put (render total (some (txt "total")))
  finish status

/-! ## `sort`, `uniq` and `cut` -/

/-- The number at the start of a line, for `sort -n`: its sign, integer digits and fraction
digits, blanks before it skipped. -/
def numericKey (l : Bytes) : Bool × Nat × Bytes :=
  let l := l.dropWhile Bytes.isBlank
  let (neg, l) := match l with
    | 45 :: r => (true, r)
    | _ => (false, l)
  let ints := l.takeWhile Bytes.isDigit
  let rest := l.drop ints.length
  let frac := match rest with
    | 46 :: r => r.takeWhile Bytes.isDigit
    | _ => []
  let v := if ints.isEmpty then 0 else (Bytes.text ints).toNat!
  let frac := (frac.reverse.dropWhile (· == 48)).reverse
  let zero := v == 0 && frac.isEmpty
  (neg && !zero, v, frac)

/-- Compare lines by their leading numbers: whether the first is less. -/
def numericLess (a b : Bytes) : Ordering :=
  let (na, va, fa) := numericKey a
  let (nb, vb, fb) := numericKey b
  let mag : Ordering :=
    match compare va vb with
    | .eq =>
      let n := max fa.length fb.length
      let pad (f : Bytes) := f ++ List.replicate (n - f.length) 48
      compare (Bytes.text (pad fa)) (Bytes.text (pad fb))
    | o => o
  match na, nb with
  | true, false => .lt
  | false, true => .gt
  | true, true => mag.swap
  | false, false => mag

/-- Compare byte strings. -/
def byteCompare (a b : Bytes) : Ordering :=
  if a < b then .lt else if a == b then .eq else .gt

/-- **`sort`** the lines of files. -/
def sort : ToolM Exit := do
  let spec : OptSpec := {
    short := [(114, false), (110, false), (117, false), (102, false), (115, false), (98, false)]
    long := [("reverse", false, 114), ("numeric-sort", false, 110), ("unique", false, 117),
      ("ignore-case", false, 102), ("stable", false, 115), ("ignore-leading-blanks", false, 98)] }
  let some (opts, ops) ← options spec ((← proc).argv.drop 1) | return .code 1
  let has (c : UInt8) := opts.any (·.1 == c)
  let mut lines : List Bytes := []
  for name in operandsOrStdin ops do
    match ← readOperand name with
    | .ok b => lines := lines ++ plainLines b.toList
    | .error e =>
      complain (txt "cannot read: " ++ (if name == [45] then txt "-" else name) ++ txt ": " ++ txt e.text)
      return .code 2
  let keyOf (l : Bytes) : Bytes :=
    let l := if has 98 then l.dropWhile Bytes.isBlank else l
    if has 102 then l.map Bytes.upper else l
  let primary (a b : Bytes) : Ordering :=
    if has 110 then numericLess a b else byteCompare (keyOf a) (keyOf b)
  let full (a b : Bytes) : Ordering :=
    match primary a b with
    | .eq => if has 115 || has 117 then .eq else byteCompare a b
    | o => o
  let ordered (a b : Bytes) : Bool :=
    let o := full a b
    if has 114 then o != .lt else o != .gt
  let sorted := lines.mergeSort ordered
  let sorted := if has 117 then
      (sorted.foldl (fun (acc : List Bytes) l =>
        match acc with
        | p :: _ => if primary p l == .eq then acc else l :: acc
        | [] => [l]) []).reverse
    else sorted
  for l in sorted do put (l ++ [10])
  finish 0

/-- **`uniq`**: adjacent equal lines once, counted with `-c`, only repeated ones with `-d`, only
single ones with `-u`. -/
def uniq : ToolM Exit := do
  let spec : OptSpec := {
    short := [(99, false), (100, false), (117, false), (105, false)]
    long := [("count", false, 99), ("repeated", false, 100), ("unique", false, 117),
      ("ignore-case", false, 105)] }
  let some (opts, ops) ← options spec ((← proc).argv.drop 1) | return .code 1
  let has (c : UInt8) := opts.any (·.1 == c)
  let name := ops.head?.getD [45]
  match ← readReported name with
  | none => return .code 1
  | some b =>
    let same (a b : Bytes) : Bool := if has 105 then a.map Bytes.lower == b.map Bytes.lower else a == b
    let groups := (plainLines b.toList).foldl (fun (acc : List (Bytes × Nat)) l =>
      match acc with
      | (p, n) :: rest => if same p l then (p, n + 1) :: rest else (l, 1) :: acc
      | [] => [(l, 1)]) []
    for (l, n) in groups.reverse do
      if (has 100 && n < 2) || (has 117 && n > 1) then continue
      let count := if has 99 then
          let d := toString n
          txt (String.ofList (List.replicate (7 - d.length) ' ') ++ d ++ " ")
        else []
      put (count ++ l ++ [10])
    finish 0

/-- A list of ranges for `cut`: each from and to, both counted from 1. -/
def readRanges (w : Bytes) : Option (List (Nat × Nat)) :=
  (Bytes.splitOn 44 w).mapM fun part =>
    let num (b : Bytes) : Option Nat := if !b.isEmpty && b.all Bytes.isDigit then some (Bytes.text b).toNat! else none
    match Bytes.splitOn 45 part with
    | [a] => (num a).bind fun n => if n == 0 then none else some (n, n)
    | [[], b] => (num b).map fun n => (1, n)
    | [a, []] => (num a).bind fun n => if n == 0 then none else some (n, 1000000000)
    | [a, b] => do
      let x ← num a
      let y ← num b
      if x == 0 || y < x then none else some (x, y)
    | _ => none

/-- Whether a position is in some range. -/
def inRanges (rs : List (Nat × Nat)) (i : Nat) : Bool := rs.any fun (a, b) => a ≤ i && i ≤ b

/-- **`cut`**: parts of each line, by bytes (`-b`, `-c`) or by fields (`-f`) split at a
delimiter (`-d`, a tab by default). -/
def cut : ToolM Exit := do
  let spec : OptSpec := {
    short := [(98, true), (99, true), (102, true), (100, true), (115, false)]
    long := [("bytes", true, 98), ("characters", true, 99), ("fields", true, 102),
      ("delimiter", true, 100), ("only-delimited", false, 115)] }
  let some (opts, ops) ← options spec ((← proc).argv.drop 1) | return .code 1
  let listOpt := opts.find? fun (c, _) => c == 98 || c == 99 || c == 102
  let delim := ((opts.find? (·.1 == 100)).map (·.2)).getD [9]
  match listOpt with
  | none =>
    complain (txt "you must specify a list of bytes, characters, or fields")
    tryHelp
    return .code 1
  | some (kind, list) =>
    if delim.length != 1 then
      complain (txt "the delimiter must be a single character")
      tryHelp
      return .code 1
    match readRanges list with
    | none =>
      complain (txt "invalid field value " ++ quoteLocale list)
      tryHelp
      return .code 1
    | some rs =>
      let d := delim.head?.getD 9
      let mut status := 0
      for name in operandsOrStdin ops do
        match ← readReported name with
        | none => status := 1
        | some b =>
          for l in plainLines b.toList do
            if kind == 102 then
              if !l.contains d then
                if !opts.any (·.1 == 115) then put (l ++ [10])
              else
                let fields := Bytes.splitOn d l
                let kept := (fields.zipIdx.filter fun (_, i) => inRanges rs (i + 1)).map (·.1)
                put ([d].intercalate kept ++ [10])
            else
              put ((l.zipIdx.filter fun (_, i) => inRanges rs (i + 1)).map (·.1) ++ [10])
      finish status

/-! ## `seq` and `tee` -/

/-- A decimal number for `seq`: its value scaled by ten to the number of its fraction digits. -/
def readDecimal (w : Bytes) : Option (Int × Nat) :=
  let (neg, r) := match w with
    | 45 :: r => (true, r)
    | 43 :: r => (false, r)
    | _ => (false, w)
  let ints := r.takeWhile Bytes.isDigit
  let rest := r.drop ints.length
  let frac := match rest with
    | 46 :: f => f
    | _ => []
  if (ints.isEmpty && frac.isEmpty) || !frac.all Bytes.isDigit || !(rest.isEmpty || rest.head? == some 46) then none
  else
    let v : Int := ((Bytes.text (ints ++ frac)).toNat? |>.getD 0)
    some (if neg then -v else v, frac.length)

/-- A scaled number with a number of fraction digits. -/
def showScaled (v : Int) (places : Nat) : Bytes :=
  let a := v.natAbs
  let s := toString a
  let s := if places == 0 then s
    else
      let s := String.ofList (List.replicate (places + 1 - min s.length (places + 1)) '0') ++ s
      (s.take (s.length - places)).toString ++ "." ++ (s.drop (s.length - places)).toString
  txt ((if v < 0 then "-" else "") ++ s)

/-- **`seq`**: numbers from a first (1) by an increment (1) up to a last. -/
def seq : ToolM Exit := do
  let spec : OptSpec := {
    short := [(115, true), (119, false)]
    long := [("separator", true, 115), ("equal-width", false, 119)] }
  let args := (← proc).argv.drop 1
  let isNumber (w : Bytes) : Bool := match w with
    | 45 :: c :: _ => Bytes.isDigit c || c == 46
    | _ => false
  let leading := args.takeWhile (!isNumber ·)
  let some (opts, ops) ← options spec leading | return .code 1
  let ops := ops ++ args.drop leading.length
  let sep := ((opts.find? (·.1 == 115)).map (·.2)).getD [10]
  let nums := ops.map fun w => (w, readDecimal w)
  match nums.find? (·.2.isNone) with
  | some (w, _) =>
    complain (txt "invalid floating point argument: " ++ quoteLocale w)
    tryHelp
    return .code 1
  | none =>
    let vals := nums.filterMap (·.2)
    let (first, step, last) ← match vals with
      | [l] => pure ((1, 0), (1, 0), l)
      | [f, l] => pure (f, (1, 0), l)
      | [f, s, l] => pure (f, s, l)
      | [] =>
        complain (txt "missing operand")
        tryHelp
        return .code 1
      | _ =>
        complain (txt "extra operand " ++ quoteLocale (ops.getD 3 []))
        tryHelp
        return .code 1
    let places := max first.2 step.2
    let scale (x : Int × Nat) : Int := x.1 * (10 : Int) ^ (places - x.2)
    let lastScaled := last.1 * (10 : Int) ^ places
    let lastPlaces := last.2
    let f := scale first
    let s := scale step
    if s == 0 then
      complain (txt "invalid Zero increment value: " ++ quoteLocale (ops.getD 1 []))
      tryHelp
      return .code 1
    let lastCmp := lastScaled
    let count := if s > 0 then
        (if f * (10 : Int) ^ lastPlaces > lastCmp then 0 else ((lastCmp - f * (10 : Int) ^ lastPlaces) / (s * (10 : Int) ^ lastPlaces)).toNat + 1)
      else
        (if f * (10 : Int) ^ lastPlaces < lastCmp then 0 else ((f * (10 : Int) ^ lastPlaces - lastCmp) / (-s * (10 : Int) ^ lastPlaces)).toNat + 1)
    let items := (List.range (min count 1000000)).map fun (i : Nat) => showScaled (f + s * (i : Int)) places
    let width := items.foldl (fun w x => max w x.length) 0
    let items := if opts.any (·.1 == 119) then
        items.map fun x =>
          match x with
          | 45 :: r => [45] ++ List.replicate (width - x.length) 48 ++ r
          | _ => List.replicate (width - x.length) 48 ++ x
      else items
    if !items.isEmpty then put (sep.intercalate items ++ [10])
    finish 0

/-- **`tee`**: copy the standard input to the standard output and to files. -/
def tee : ToolM Exit := do
  let spec : OptSpec := { short := [(97, false), (105, false)], long := [("append", false, 97)] }
  let some (opts, ops) ← options spec ((← proc).argv.drop 1) | return .code 1
  let input ← match ← host (System.read (← proc).fds 0 none) with
    | .ok b => pure b
    | .error _ => pure .empty
  let access : System.Access := if opts.any (·.1 == 97) then .append else .truncate
  let mut status := 0
  for name in ops do
    match ← host (System.openFile (← pathOf name) access) with
    | .ok d =>
      discard (host (System.writeChannel d.channel input))
    | .error e =>
      complain (quoteIfNeeded name ++ txt ": " ++ txt e.text)
      status := 1
  put input.toList
  finish status

/-- Text in lines of a width, each ended by a newline. -/
def wrapLines (width : Nat) (text : Bytes) : Bytes :=
  (List.range ((text.length + width - 1) / width)).flatMap fun i => ((text.drop (i * width)).take width) ++ [10]

/-- **`base64`**: encode a file or the standard input, in lines of 76 characters (`-w` sets the
width; 0 writes one line with no end), or decode it (`-d`), skipping newlines and, with `-i`,
every byte that is neither of the alphabet nor `=`. When the input does not decode, what did is
written before the failure is said. -/
def base64 : ToolM Exit := do
  let spec : OptSpec := {
    short := [(100, false), (105, false), (119, true)]
    long := [("decode", false, 100), ("ignore-garbage", false, 105), ("wrap", true, 119)] }
  let some (opts, names) ← options spec ((← proc).argv.drop 1) | return .code 1
  let width ← match (opts.filter (·.1 == 119)).getLast? with
    | none => pure 76
    | some (_, w) =>
      if !w.isEmpty && w.all Bytes.isDigit then pure (Bytes.text w).toNat!
      else
        complain (txt "invalid wrap size: " ++ quoteLocale w)
        return .code 1
  if let _ :: extra :: _ := names then
    complain (txt "extra operand " ++ quoteLocale extra)
    tryHelp
    return .code 1
  let some input ← readReported (names.headD [45]) | return .code 1
  if given opts 100 then
    let keep (c : UInt8) : Bool :=
      if given opts 105 then (Base64.value? c).isSome || c == 61 else c != 10
    let (out, ok) := Base64.decodeList (input.toList.filter keep)
    put out
    if !ok then
      complain (txt "invalid input")
      return .code 1
    finish 0
  else
    let text := txt (Base64.encode input)
    put (if width == 0 then text else wrapLines width text)
    finish 0

end CrossRef.Tools
