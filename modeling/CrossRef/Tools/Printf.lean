import CrossRef.Tools.Basic
import CrossRef.Text.Conversion
/-!
The `echo` and `printf` programs of the host.

`echo` writes its arguments separated by spaces and ended by a newline. Leading arguments made of
`-` and the letters `n`, `e` and `E` are options: `-n` leaves the newline out, `-e` turns escapes
on and `-E` off (the default). With escapes, a backslash before `a b e f n r t v \` writes that
character, `\c` ends all output, `\0` and up to three octal digits or `\` and one to three octal
digits write that byte, `\x` and one or two hexadecimal digits too; a backslash before anything
else writes itself. `--help` and `--version` alone print help or the version.

`printf` goes through its format again and again while arguments are left and some were used.
Besides the escapes of `echo` it knows `\"`, `\u` and `\U` (a character by code; outside ASCII
its escape is written), and reads up to three octal digits after `\`; `%b` writes an argument
with escapes (`\0` and three octal digits there), and `%q` writes it quoted for a shell.
Integers are read as the C library reads them with base 0 (an argument starting with a quote is
the code of the byte after it, with a warning when more follows), and floating-point numbers as
long doubles; a number not all read, or out of range, is warned about and makes the status 1.
An invalid conversion ends the program with status 1 after what came before it.

This module belongs to the simulated test host that one-shot analyzer commands run on, not to
the library's program: the program reaches the host only through `Cli.Machine` and
`Host.System`, and no theorem of the library is about this module.
-/

-- `^` on numbers is core's `NatPow` power here, also where Mathlib's monoid power is in scope.
attribute [local instance (high)] instPowNat

namespace CrossRef.Tools

open CrossRef.Host

/-! ## Escapes -/

/-- Whether a byte is an octal digit. -/
def isOctalDigit (c : UInt8) : Bool := 48 ≤ c && c ≤ 55

/-- Whether a byte is a hexadecimal digit. -/
def isHexDigit (c : UInt8) : Bool := Bytes.isDigit c || (65 ≤ c && c ≤ 70) || (97 ≤ c && c ≤ 102)

/-- The value of a hexadecimal digit. -/
def hexValue (c : UInt8) : Nat :=
  if Bytes.isDigit c then (c - 48).toNat else if c ≤ 70 then (c - 55).toNat else (c - 87).toNat

/-- Up to `n` digits of a base: their value, how many, and what follows. -/
def digitRun (base : Nat) (ok : UInt8 → Bool) : Nat → Bytes → Nat → Nat → Nat × Nat × Bytes
  | 0, b, v, count => (v, count, b)
  | n + 1, c :: rest, v, count =>
    if ok c then digitRun base ok n rest (v * base + hexValue c) (count + 1) else (v, count, c :: rest)
  | _ + 1, [], v, count => (v, count, [])

/-- What an escape stands for. -/
inductive Escaped where
  | bytes (b : Bytes)
  /-- `\c`: all output ends. -/
  | stop
  /-- A malformed escape, with its message. -/
  | bad (msg : Bytes)
  deriving Inhabited

/-- The byte a letter escape stands for. -/
def letterEscape (c : UInt8) : Option UInt8 :=
  match c with
  | 97 => some 7 | 98 => some 8 | 101 => some 27 | 102 => some 12 | 110 => some 10
  | 114 => some 13 | 116 => some 9 | 118 => some 11 | 92 => some 92 | 34 => some 34
  | _ => none

/-- A character code as UTF-8 bytes. -/
def utf8Of (n : Nat) : Bytes := Bytes.ofString (String.singleton (Char.ofNat n))

/-- Four or eight hexadecimal digits, uppercase, for an escape written back. -/
def hexCode (width : Nat) (n : Nat) : Bytes :=
  let ds := Nat.toDigits 16 n
  txt (String.ofList (List.replicate (width - ds.length) '0' ++ ds.map Char.toUpper))

/-- **One escape of `printf`** after its backslash; `inB` for `%b`, where `\0` may take three
more octal digits. What it stands for and what follows. -/
def printfEscape (inB : Bool) (b : Bytes) : Escaped × Bytes :=
  match b with
  | 120 :: rest =>
    let (v, n, after) := digitRun 16 isHexDigit 2 rest 0 0
    if n == 0 then (.bad (txt "missing hexadecimal number in escape"), after)
    else (.bytes [v.toUInt8], after)
  | 99 :: rest => (.stop, rest)
  | 117 :: rest | 85 :: rest =>
    let long := b.head? == some 85
    let width := if long then 8 else 4
    let (v, n, after) := digitRun 16 isHexDigit width rest 0 0
    if n < width then (.bad (txt "missing hexadecimal number in escape"), after)
    else if (v ≤ 0x9f && v != 0x24 && v != 0x40 && v != 0x60) || (0xd800 ≤ v && v ≤ 0xdfff) || v > 0x10ffff then
      (.bad (txt "invalid universal character name \\" ++ [if long then 85 else 117] ++ hexCode width v), after)
    else if v < 128 then (.bytes [v.toUInt8], after)
    else (.bytes (txt "\\" ++ (if v > 0xffff then txt "U" ++ hexCode 8 v else txt "u" ++ hexCode 4 v)), after)
  | c :: rest =>
    if isOctalDigit c then
      let digits := if inB && c == 48 then rest else b
      let (v, _, after) := digitRun 8 isOctalDigit 3 digits 0 0
      (.bytes [(v % 256).toUInt8], after)
    else match letterEscape c with
      | some x => (.bytes [x], rest)
      | none => (.bytes [92, c], rest)
  | [] => (.bytes [92], [])

/-- **The text of `echo -e`**: its escapes replaced, and whether `\c` ended it. -/
def echoEscapes : Nat → Bytes → Bytes → Bytes × Bool
  | 0, _, acc => (acc.reverse, false)
  | k + 1, b, acc =>
    match b with
    | [] => (acc.reverse, false)
    | [92] => ((92 :: acc).reverse, false)
    | 92 :: c :: rest =>
      if c == 99 then (acc.reverse, true)
      else if c == 120 then
        let (v, n, after) := digitRun 16 isHexDigit 2 rest 0 0
        if n == 0 then echoEscapes k rest (120 :: 92 :: acc)
        else echoEscapes k after (v.toUInt8 :: acc)
      else if c == 48 then
        let (v, _, after) := digitRun 8 isOctalDigit 3 rest 0 0
        echoEscapes k after ((v % 256).toUInt8 :: acc)
      else if isOctalDigit c then
        let (v, _, after) := digitRun 8 isOctalDigit 3 (c :: rest) 0 0
        echoEscapes k after ((v % 256).toUInt8 :: acc)
      else if c == 34 then echoEscapes k rest (34 :: 92 :: acc)
      else match letterEscape c with
        | some x => echoEscapes k rest (x :: acc)
        | none => echoEscapes k rest (c :: 92 :: acc)
    | c :: rest => echoEscapes k rest (c :: acc)

/-! ## `echo` -/

/-- Whether a word is a run of `echo`'s option letters after `-`. -/
def isEchoOptions (w : Bytes) : Bool :=
  match w with
  | 45 :: letters => !letters.isEmpty && letters.all fun c => c == 110 || c == 101 || c == 69
  | _ => false

/-- The version text of the tools. -/
def versionText (name : String) : Bytes := txt (name ++ " (GNU coreutils) 9.4\n")

/-- The help of `echo`. -/
def echoHelp : Bytes :=
  txt ("Usage: echo [SHORT-OPTION]... [STRING]...\n  or:  echo LONG-OPTION\n" ++
    "Echo the STRING(s) to standard output.\n\n" ++
    "  -n             do not output the trailing newline\n" ++
    "  -e             enable interpretation of backslash escapes\n" ++
    "  -E             disable interpretation of backslash escapes (default)\n" ++
    "      --help        display this help and exit\n" ++
    "      --version     output version information and exit\n")

/-- **`echo`.** -/
def echo : ToolM Exit := do
  let args := (← proc).argv.drop 1
  if args == [txt "--help"] then
    put echoHelp
    return ← finish 0
  if args == [txt "--version"] then
    put (versionText "echo")
    return ← finish 0
  let opts := args.takeWhile isEchoOptions
  let words := args.drop opts.length
  let letters := opts.flatMap (·.drop 1)
  let newline := !letters.contains 110
  let escapes := letters.foldl (fun e c => if c == 101 then true else if c == 69 then false else e) false
  let rec go : List Bytes → Bytes → Bytes × Bool
    | [], acc => (acc, false)
    | w :: rest, acc =>
      let (t, stop) := if escapes then echoEscapes (w.length + 1) w [] else (w, false)
      if stop then (acc ++ t, true)
      else go rest (acc ++ t ++ (if rest.isEmpty then [] else [32]))
  let (text, stopped) := go words []
  put (if stopped || !newline then text else text ++ [10])
  finish 0

/-! ## `printf` -/

/-- The state of `printf`: the arguments left, how many were used, the output so far, and the
status. -/
structure PrintState where
  args : List Bytes
  used : Nat := 0
  out : Bytes := []
  status : Nat := 0
  deriving Inhabited

/-- How `printf` stops before the end. -/
inductive PrintStop where
  /-- All output ends, with status 0. -/
  | stop
  /-- An error ends the program with status 1. -/
  | fail (msg : Bytes)
  deriving Inhabited

/-- Running `printf`: its warnings are written as they come. -/
abbrev PrintM := ExceptT PrintStop (StateT PrintState ToolM)

/-- Write output. -/
def printOut (b : Bytes) : PrintM Unit := modify fun s => { s with out := s.out ++ b }

/-- Warn, and make the status 1. -/
def printWarn (msg : Bytes) : PrintM Unit := do
  (complain msg : ToolM Unit)
  modify fun s => { s with status := 1 }

/-- The next argument, if one is left. -/
def takeArg : PrintM (Option Bytes) := modifyGet fun s =>
  match s.args with
  | a :: rest => (some a, { s with args := rest, used := s.used + 1 })
  | [] => (none, s)

/-- Check how a number was read: all of the argument, and in range. -/
def checkNumber (arg rest : Bytes) (overflow : Bool) : PrintM Unit := do
  if !rest.isEmpty then
    if rest.length == arg.length then printWarn (quoteLocale arg ++ txt ": expected a numeric value")
    else printWarn (quoteLocale arg ++ txt ": value not completely converted")
  else if overflow then printWarn (quoteLocale arg ++ txt ": Numerical result out of range")

/-- The code of the byte after a leading quote, warning when more follows. -/
def quotedCode (a : Bytes) : PrintM (Option Nat) := do
  match a with
  | q :: c :: more =>
    if q == 34 || q == 39 then
      if !more.isEmpty then
        printWarn (txt "warning: " ++ more ++ txt ": character(s) following character constant have been ignored")
      return some c.toNat
    else return none
  | _ => return none

/-- **An integer argument**, signed or not. -/
def intArgument (signed : Bool) (a : Bytes) : PrintM Int := do
  match ← quotedCode a with
  | some c => return c
  | none =>
    let r := IntRead.read signed 0 a
    checkNumber a r.rest r.overflow
    return r.value

/-- **A floating-point argument**, read as a long double. -/
def floatArgument (a : Bytes) : PrintM Decimal.Value := do
  match ← quotedCode a with
  | some c => return .finite false c 0
  | none =>
    let r := Decimal.Format.extended.read a
    checkNumber a r.rest r.outOfRange
    return r.value

/-- Quote text for a shell, as `%q` does: as it is when every byte is safe, else in single
quotes, with bytes that do not print written as `$'…'` escapes. -/
def shellQuote (b : Bytes) : Bytes :=
  let safe (i : Nat) (c : UInt8) : Bool :=
    Bytes.isAlnum c || (txt "%+,-./:@_").contains c || (i > 0 && (c == 35 || c == 126))
  let printable (c : UInt8) : Bool := 32 ≤ c && c < 127
  if b.isEmpty then txt "''"
  else if (b.zipIdx.all fun (c, i) => safe i c) then b
  else
    let escapeOf (c : UInt8) : Bytes :=
      match c with
      | 7 => txt "\\a" | 8 => txt "\\b" | 9 => txt "\\t" | 10 => txt "\\n" | 11 => txt "\\v"
      | 12 => txt "\\f" | 13 => txt "\\r" | 27 => txt "\\E"
      | _ =>
        let ds := Nat.toDigits 8 c.toNat
        [92] ++ txt (String.ofList (List.replicate (3 - ds.length) '0' ++ ds))
    let (out, inQuote) := b.foldl (fun (acc, open_) c =>
      if printable c then
        let piece := if c == 39 then txt "'\\''" else [c]
        if open_ then (acc ++ piece, true) else (acc ++ [39] ++ piece, true)
      else
        let closing := if open_ then [39] else []
        (acc ++ closing ++ txt "$'" ++ escapeOf c ++ [39], false)) ([], false)
    if inQuote then out ++ [39] else out

/-- Whether a conversion letter may follow the flags seen. -/
def conversionOk (flags : Bytes) (precision : Bool) (c : UInt8) : Bool :=
  let all := txt "aAcdeEfFgGiosuxX"
  if !all.contains c then false
  else if flags.any (fun f => f == 39 || f == 73) && (txt "aAceEosxX").contains c then false
  else if flags.contains 35 && (txt "cdisu").contains c then false
  else if flags.contains 48 && (c == 99 || c == 115) then false
  else if precision && c == 99 then false
  else true

/-- Read the digits of a width or precision. -/
def specDigits (b : Bytes) : Option Nat × Bytes :=
  let ds := b.takeWhile Bytes.isDigit
  (if ds.isEmpty then none else some (Bytes.text ds).toNat!, b.drop ds.length)

/-- **Format one directive** whose text starts after the `%`: what follows it. -/
def directive (spec : Bytes) : PrintM Bytes := do
  match spec with
  | 98 :: after =>
    if let some a ← takeArg then
      let rec go : Nat → Bytes → PrintM Unit
        | 0, _ => pure ()
        | k + 1, b =>
          match b with
          | [] => pure ()
          | 92 :: rest =>
            match printfEscape true rest with
            | (.bytes x, r) => do printOut x; go k r
            | (.stop, _) => throw .stop
            | (.bad m, _) => throw (.fail m)
          | c :: rest => do printOut [c]; go k rest
      go (a.length + 1) a
    return after
  | 113 :: after =>
    if let some a ← takeArg then printOut (shellQuote a)
    return after
  | _ =>
    let flags := spec.takeWhile fun c => (txt "'-+ #0I").contains c
    let s0 : ConvSpec := flags.foldl ConvSpec.withFlag {}
    let rest := spec.drop flags.length
    let (s1, rest) ← match rest with
      | 42 :: r => do
        match ← takeArg with
        | some a =>
          let w ← intArgument true a
          if w < -2147483648 || w > 2147483647 then throw (.fail (txt "invalid field width: " ++ quoteLocale a))
          pure (s0.withWidthArg w, r)
        | none => pure (s0.withWidthArg 0, r)
      | _ =>
        let (w, r) := specDigits rest
        pure ({ s0 with width := w }, r)
    let (s2, hasPrecision, rest) ← match rest with
      | 46 :: 42 :: r => do
        match ← takeArg with
        | some a =>
          let p ← intArgument true a
          if p > 2147483647 then throw (.fail (txt "invalid precision: " ++ quoteLocale a))
          pure (s1.withPrecisionArg p, true, r)
        | none => pure ({ s1 with precision := some 0 }, true, r)
      | 46 :: r =>
        let (p, r) := specDigits r
        pure ({ s1 with precision := some (p.getD 0) }, true, r)
      | _ => pure (s1, false, rest)
    let rest := rest.dropWhile fun c => (txt "lLhjtz").contains c
    match rest with
    | c :: after =>
      if !conversionOk flags hasPrecision c then
        throw (.fail ([37] ++ spec.take (spec.length - after.length) ++ txt ": invalid conversion specification"))
      let s := { s2 with conversion := c }
      let arg := (← takeArg).getD []
      if c == 99 then printOut (s.char (arg.head?.getD 0))
      else if c == 115 then printOut (s.string arg)
      else if c == 100 || c == 105 then printOut (s.signed (← intArgument true arg))
      else if (txt "ouxX").contains c then
        let v ← intArgument false arg
        printOut (s.unsigned (if v < 0 then (v + 2 ^ (64 : Nat)).toNat else v.toNat))
      else printOut (s.float (← floatArgument arg))
      return after
    | [] => throw (.fail ([37] ++ spec ++ txt ": invalid conversion specification"))

/-- **Go through the format once.** -/
def formatPass : Nat → Bytes → PrintM Unit
  | 0, _ => pure ()
  | k + 1, fmt =>
    match fmt with
    | [] => pure ()
    | 37 :: 37 :: rest => do printOut [37]; formatPass k rest
    | 37 :: rest => do formatPass k (← directive rest)
    | 92 :: rest =>
      match printfEscape false rest with
      | (.bytes x, r) => do printOut x; formatPass k r
      | (.stop, _) => throw .stop
      | (.bad m, _) => throw (.fail m)
    | c :: rest => do printOut [c]; formatPass k rest

/-- Go through the format while arguments are left and the last pass used some. -/
def formatPasses : Nat → Bytes → PrintM Unit
  | 0, _ => pure ()
  | k + 1, fmt => do
    let before := (← get).used
    formatPass (fmt.length + 1) fmt
    let s ← get
    if s.used != before && !s.args.isEmpty then formatPasses k fmt

/-- The help of `printf`. -/
def printfHelp : Bytes :=
  txt ("Usage: printf FORMAT [ARGUMENT]...\n  or:  printf OPTION\n" ++
    "Print ARGUMENT(s) according to FORMAT, or execute according to OPTION:\n\n" ++
    "      --help        display this help and exit\n" ++
    "      --version     output version information and exit\n")

/-- **`printf`.** -/
def printf : ToolM Exit := do
  let args := (← proc).argv.drop 1
  if args == [txt "--help"] then
    put printfHelp
    return ← finish 0
  if args == [txt "--version"] then
    put (versionText "printf")
    return ← finish 0
  let args := if args.head? == some [45, 45] then args.drop 1 else args
  match args with
  | [] =>
    complain (txt "missing operand")
    tryHelp
    return .code 1
  | format :: rest =>
    let (r, s) ← (formatPasses (rest.length + 1) format).run.run { args := rest }
    match r with
    | .ok () =>
      if let some a := s.args.head? then
        complain (txt "warning: ignoring excess arguments, starting with " ++ quoteLocale a)
      put s.out
      finish s.status
    | .error .stop =>
      put s.out
      finish 0
    | .error (.fail m) =>
      complain m
      put s.out
      let _ ← finish 1
      return .code 1

end CrossRef.Tools
