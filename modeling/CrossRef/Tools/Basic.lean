import CrossRef.Host.System
/-!
The plumbing the host's tools share.

A tool is a program: it runs on a process's arguments, environment and descriptors and ends
with a status. Its messages go to standard error after its name as it was started
(`cat: a.txt: No such file or directory`). Output goes to standard output as it is made; when a
write fails the tool stops writing and, at its end, says `write error` and why, with status 1.

Options are read as the C library's long-option reader reads them: short options cluster
(`-ne`), an option taking an argument takes the rest of its word or the next word, a long
option may be shortened to any unambiguous prefix and takes its argument after `=` or as the
next word, `--` ends the options, and options may come after operands. A lone `-` is an
operand.

This module belongs to the simulated test host that one-shot analyzer commands run on, not to
the library's program: the program reaches the host only through `Cli.Machine` and
`Host.System`, and no theorem of the library is about this module.
-/

namespace CrossRef.Tools

open CrossRef.Host

/-- Text as bytes. -/
def txt (s : String) : Bytes := Bytes.ofString s

/-- Running a tool: its process, and whether writing its output failed. -/
abbrev ToolM := ReaderT Proc (StateT (Option Errno) SysM)

/-- Run a step on the host. -/
def host (m : SysM α) : ToolM α := fun _ => StateT.lift m

/-- The tool's process. -/
def proc : ToolM Proc := read

/-- The name the tool was started by. -/
def progName : ToolM Bytes := do return (← proc).argv.head?.getD []

/-- **Write output**; after a failed write, nothing more is written. -/
def put (b : Bytes) : ToolM Unit := do
  if b.isEmpty || (← get).isSome then return
  match ← host (System.write (← proc).fds 1 (Bytes.toArray b)) with
  | .ok () => pure ()
  | .error e => set (some e)

/-- Write to standard error. -/
def putErr (b : Bytes) : ToolM Unit := do
  discard (host (System.write (← proc).fds 2 (Bytes.toArray b)))

/-- **Print a message** on standard error after the tool's name. -/
def complain (msg : Bytes) : ToolM Unit := do
  putErr ((← progName) ++ txt ": " ++ msg ++ [10])

/-- Print the hint that follows a usage error. -/
def tryHelp : ToolM Unit := do
  putErr (txt "Try '" ++ (← progName) ++ txt " --help' for more information.\n")

/-- **End the tool** with a status, or with status 1 after saying why writing failed. -/
def finish (status : Nat) : ToolM Exit := do
  match ← get with
  | some e =>
    complain (txt "write error: " ++ txt e.text)
    return .code 1
  | none => return .code status

/-- **Run a tool** in a process. -/
def ToolM.start (t : ToolM Exit) (p : Proc) : SysM Exit := (t.run p).run' none

/-- The escape of a byte that cannot be shown as it is: a letter for the usual control bytes,
otherwise three octal digits. -/
def escapeByte (c : UInt8) : Bytes :=
  match c with
  | 7 => txt "\\a"
  | 8 => txt "\\b"
  | 9 => txt "\\t"
  | 10 => txt "\\n"
  | 11 => txt "\\v"
  | 12 => txt "\\f"
  | 13 => txt "\\r"
  | _ =>
    let ds := Nat.toDigits 8 c.toNat
    [92] ++ txt (String.ofList (List.replicate (3 - ds.length) '0' ++ ds))

/-- Whether a byte is printable in the C locale. -/
def printable (c : UInt8) : Bool := 32 ≤ c && c < 127

/-- **Quote text as messages quote a value**: in single quotes, a quote or backslash inside
escaped with a backslash, and a byte that is not printable escaped. -/
def quoteLocale (b : Bytes) : Bytes :=
  [39] ++ b.flatMap (fun c =>
    if c == 39 then [92, 39]
    else if c == 92 then [92, 92]
    else if printable c then [c]
    else escapeByte c) ++ [39]

/-- A name in single quotes as a shell reads it: a quote inside written `'\''`, and bytes that
are not printable as `$'...'` pieces with escapes. -/
def shellQuoted (name : Bytes) : Bytes :=
  let step (acc : Bytes × Bool) (c : UInt8) : Bytes × Bool :=
    let (out, escaping) := acc
    if c == 39 then (out ++ txt "'\\''", false)
    else if printable c then (out ++ (if escaping then [39, 39] else []) ++ [c], false)
    else (out ++ (if escaping then [] else txt "'$'") ++ escapeByte c, true)
  (name.foldl step ([39], false)).1 ++ [39]

/-- Whether a byte at a place in a name means the same in double quotes as unquoted, with no
escape: letters, digits, a space, a quote and `%+,-./:]_@`; `#` and `~` only first, and a brace
only as the whole name. -/
def doubleQuotable (name : Bytes) (c : UInt8) (i : Nat) : Bool :=
  Bytes.isAlnum c || (txt "%+,-./:]_@' ").contains c || ((c == 35 || c == 126) && i == 0) ||
    ((c == 123 || c == 125) && name.length == 1)

/-- **Quote a file name** the way messages about files always quote one: a name with a single
quote and nothing a shell reads differently in double quotes goes in double quotes; any other
in single quotes, as a shell reads them. -/
def quoteName (name : Bytes) : Bytes :=
  if name.contains 39 && name.zipIdx.all (fun (c, i) => doubleQuotable name c i) then [34] ++ name ++ [34]
  else shellQuoted name

/-- Whether a byte at a place in a name needs no quoting before a colon in a message: letters,
digits and `%+,-./]_@`; `#` and `~` but not first, and a brace but not as the whole name. -/
def plainInMessage (name : Bytes) (c : UInt8) (i : Nat) : Bool :=
  Bytes.isAlnum c || (txt "%+,-./]_@").contains c || ((c == 35 || c == 126) && i != 0) ||
    ((c == 123 || c == 125) && name.length != 1)

/-- Quote a file name only when it needs it: when it is empty, or has a byte a shell would read
specially, or a colon, which would run into the message after it. -/
def quoteIfNeeded (name : Bytes) : Bytes :=
  if !name.isEmpty && name.zipIdx.all (fun (c, i) => plainInMessage name c i) then name else quoteName name

/-! ## Reading files -/

/-- A path of an operand, resolved against the working directory; an empty name names nothing,
and stays empty. -/
def pathOf (name : Bytes) : ToolM String := do
  let cwd := (← proc).cwd
  return if name.isEmpty then "" else resolve cwd (Bytes.text name)

/-- **Read a file operand**, or all of standard input for `-`. -/
def readOperand (name : Bytes) : ToolM (Except Errno ByteArray) := do
  if name == [45] then host (System.read (← proc).fds 0 none)
  else
    let path ← pathOf name
    let fs := (← host get).files
    match fs.node? path with
    | some (.device .zero) => return .ok ⟨Array.replicate 65536 0⟩
    | some (.device .tty) => return .error .noDevice
    | some (.device _) => return .ok .empty
    | _ => return fs.read path

/-! ## Options -/

/-- The options a tool takes: short letters (with whether each takes an argument), and long
names, each with whether it takes an argument and the letter it stands for. -/
structure OptSpec where
  short : List (UInt8 × Bool) := []
  long : List (String × Bool × UInt8) := []

/-- Why reading options failed. -/
inductive OptError where
  | invalid (c : UInt8)
  | needsArg (c : UInt8)
  | unrecognized (w : Bytes)
  | longNeedsArg (name : String)
  | longTakesNoArg (name : String)
  | ambiguous (w : Bytes) (names : List String)
  deriving Inhabited

/-- The message of an option error. -/
def OptError.message : OptError → Bytes
  | .invalid c => txt "invalid option -- '" ++ [c] ++ txt "'"
  | .needsArg c => txt "option requires an argument -- '" ++ [c] ++ txt "'"
  | .unrecognized w => txt "unrecognized option '" ++ w ++ txt "'"
  | .longNeedsArg n => txt ("option '--" ++ n ++ "' requires an argument")
  | .longTakesNoArg n => txt ("option '--" ++ n ++ "' doesn't allow an argument")
  | .ambiguous w ns =>
    txt "option '" ++ w ++ txt "' is ambiguous; possibilities:" ++
      ns.foldl (fun acc n => acc ++ txt (" '--" ++ n ++ "'")) []

/-- Read a run of short options. -/
def shortRun (spec : OptSpec) : Nat → Bytes → List Bytes → List (UInt8 × Bytes) →
    Except OptError (List (UInt8 × Bytes) × List Bytes)
  | 0, _, rest, acc => .ok (acc, rest)
  | _ + 1, [], rest, acc => .ok (acc, rest)
  | k + 1, c :: more, rest, acc =>
    match spec.short.find? (·.1 == c) with
    | none => .error (.invalid c)
    | some (_, false) => shortRun spec k more rest ((c, []) :: acc)
    | some (_, true) =>
      if !more.isEmpty then .ok ((c, more) :: acc, rest)
      else match rest with
        | a :: rest => .ok ((c, a) :: acc, rest)
        | [] => .error (.needsArg c)

/-- Read a long option (the word without its `--`). -/
def longOption (spec : OptSpec) (w : Bytes) (rest : List Bytes) :
    Except OptError ((UInt8 × Bytes) × List Bytes) := do
  let name := w.takeWhile (· != 61)
  let value := if name.length < w.length then some (w.drop (name.length + 1)) else none
  let exact := spec.long.find? (fun (n, _, _) => txt n == name)
  let candidates := spec.long.filter fun (n, _, _) => (txt n).take name.length == name
  let found ← match exact, candidates with
    | some o, _ => pure o
    | none, [o] => pure o
    | none, [] => throw (.unrecognized ([45, 45] ++ w))
    | none, os =>
      if os.all (fun (_, a, c) => os.head?.map (fun (_, b, d) => a == b && c == d) == some true) then
        pure (os.head?.getD ("", false, 0))
      else throw (.ambiguous ([45, 45] ++ name) (os.map (·.1)))
  let (n, takes, c) := found
  if takes then
    match value with
    | some v => return ((c, v), rest)
    | none =>
      match rest with
      | a :: rest => return ((c, a), rest)
      | [] => throw (.longNeedsArg n)
  else
    match value with
    | some _ => throw (.longTakesNoArg n)
    | none => return ((c, []), rest)

/-- Read options and operands from the words left. -/
def optionScan (spec : OptSpec) : Nat → List Bytes → List (UInt8 × Bytes) → List Bytes →
    Except OptError (List (UInt8 × Bytes) × List Bytes)
  | 0, args, opts, operands => .ok (opts, operands ++ args)
  | k + 1, args, opts, operands =>
    match args with
    | [] => .ok (opts, operands)
    | [45, 45] :: rest => .ok (opts, operands ++ rest)
    | (45 :: 45 :: w) :: rest => do
      let (o, rest) ← longOption spec w rest
      optionScan spec k rest (o :: opts) operands
    | (45 :: c :: more) :: rest => do
      let (opts, rest) ← shortRun spec (more.length + 2) (c :: more) rest opts
      optionScan spec k rest opts operands
    | a :: rest => optionScan spec k rest opts (operands ++ [a])

/-- **Read a tool's options**: the options in order and the operands. -/
def parseOptions (spec : OptSpec) (args : List Bytes) :
    Except OptError (List (UInt8 × Bytes) × List Bytes) := do
  let (opts, operands) ← optionScan spec (args.length + 1) args [] []
  return (opts.reverse, operands)

/-- Read a tool's options, or say what is wrong and fail with status 1. -/
def options (spec : OptSpec) (args : List Bytes) : ToolM (Option (List (UInt8 × Bytes) × List Bytes)) := do
  match parseOptions spec args with
  | .ok r => return some r
  | .error e =>
    complain e.message
    tryHelp
    return none

/-- Whether an option letter was given. -/
def given (opts : List (UInt8 × Bytes)) (c : UInt8) : Bool := opts.any (·.1 == c)

/-! ## Small tools -/

/-- **`true` and `false`**: a fixed status, whatever the arguments. -/
def constant (status : Nat) : ToolM Exit := finish status

/-- **`pwd`**: the working directory. -/
def pwd : ToolM Exit := do
  put (txt (← proc).cwd ++ [10])
  finish 0

/-- **`sleep`**: nothing, as time does not pass here; it needs an operand. -/
def sleep : ToolM Exit := do
  if (← proc).argv.length ≤ 1 then
    complain (txt "missing operand")
    tryHelp
    return .code 1
  finish 0

/-- How much `yes` writes before its reader is taken to have gone: a pipe's worth. -/
def pipeCapacity : Nat := 65536

/-- **`yes`**: its operands (or `y`) as a line, again and again. Programs here run one after
another, so the reader of a pipe has not stopped yet when `yes` writes; it writes what fills a
pipe and then ends as a writer to a closed pipe does, killed by the signal for it. -/
def yes : ToolM Exit := do
  let args := (← proc).argv.tail
  let args := if args.head? == some [45, 45] then args.tail else args
  let line := (if args.isEmpty then [121] else (args.intersperse [32]).flatten) ++ [10]
  put ((List.replicate (pipeCapacity / line.length + 1) line).flatten)
  return .signal 13

/-- **`printenv`**: the whole environment, or the values of the variables named, each on a line
(or ended by a zero byte, with `-0`); the status is 1 when one is not set. -/
def printenv : ToolM Exit := do
  let spec : OptSpec := { short := [(48, false)], long := [("null", false, 48)] }
  let some (opts, names) ← options spec (← proc).argv.tail | return .code 2
  let ending : UInt8 := if given opts 48 then 0 else 10
  let env := (← proc).env
  if names.isEmpty then
    for (n, v) in env do put (txt n ++ [61] ++ v ++ [ending])
    return ← finish 0
  let mut st := 0
  for n in names do
    match env.find? (fun e => txt e.1 == n) with
    | some (_, v) => if n.contains 61 then st := 1 else put (v ++ [ending])
    | none => st := 1
  finish st

/-- The last component of a name: trailing slashes dropped, then up to the last slash. -/
def lastComponent (name : Bytes) : Bytes :=
  let trimmed := (name.reverse.dropWhile (· == 47)).reverse
  if trimmed.isEmpty then (if name.isEmpty then [] else [47])
  else (trimmed.reverse.takeWhile (· != 47)).reverse

/-- **`basename`**: a name's last component, without a suffix when one is given and it is not
all of it. -/
def basename : ToolM Exit := do
  match (← proc).argv.drop 1 with
  | [] =>
    complain (txt "missing operand")
    tryHelp
    return .code 1
  | name :: rest =>
    let base := lastComponent name
    let base := match rest with
      | [suffix] =>
        if !suffix.isEmpty && suffix.length < base.length && base.drop (base.length - suffix.length) == suffix
        then base.take (base.length - suffix.length) else base
      | _ => base
    if rest.length > 1 then
      complain (txt "extra operand " ++ quoteLocale (rest.getD 1 []))
      tryHelp
      return .code 1
    put (base ++ [10])
    finish 0

/-- The directory part of a name: up to its last component, `.` when there is none. -/
def directoryPart (name : Bytes) : Bytes :=
  let trimmed := (name.reverse.dropWhile (· == 47)).reverse
  if trimmed.isEmpty then (if name.isEmpty then [46] else [47])
  else
    let dir := (trimmed.reverse.dropWhile (· != 47)).reverse
    if dir.isEmpty then [46]
    else
      let dir := (dir.reverse.dropWhile (· == 47)).reverse
      if dir.isEmpty then [47] else dir

/-- **`dirname`**: the directory part of each name. -/
def dirname : ToolM Exit := do
  let names := (← proc).argv.drop 1
  if names.isEmpty then
    complain (txt "missing operand")
    tryHelp
    return .code 1
  for n in names do put (directoryPart n ++ [10])
  finish 0

end CrossRef.Tools
