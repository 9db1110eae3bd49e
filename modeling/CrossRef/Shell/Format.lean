import CrossRef.Text.Conversion
/-!
The shell's `echo` and `printf`.

Both write their output at once when they finish, so warnings about arguments come before it; an
error drops what was written and ends the command.

Backslash escapes: `\\ \a \b \e \f \n \r \t \v` and one to three octal digits. A backslash before
anything else stands for itself. In the text of `echo` and of `%b`, octal digits may follow
`\0`, and `\c` ends all output at once.

`echo` writes its arguments separated by spaces and ended by a newline, which a first argument
`-n` leaves out; there are no other options.

`printf` goes through its format, again and again while arguments are left over and some were
used. A conversion with no argument left gets an empty one. Integers are read as the C library
reads them with base 0 (`0x1f`, `017`), and an argument starting with a quote stands for the
code of the byte after it; a number that is not all read, or is out of range, is warned about,
used as far as it was read, and makes the status 1. Floating-point arguments are doubles.

This module belongs to the simulated test host that one-shot analyzer commands run on, not to
the library's program: the program reaches the host only through `Cli.Machine` and
`Host.System`, and no theorem of the library is about this module.
-/

namespace CrossRef.Shell.Format

/-- What a formatting command produced: its output, its warnings, its status, and the error that
ended it, if one did. -/
structure Result where
  out : Bytes := []
  warnings : List Bytes := []
  status : Nat := 0
  error : Option Bytes := none
  deriving Inhabited

/-- Whether a byte is an octal digit. -/
def isOctal (c : UInt8) : Bool := 48 ≤ c && c ≤ 55

/-- Up to `n` octal digits: their value and what follows. -/
def octal : Nat → Bytes → Nat → Nat × Bytes
  | 0, b, v => (v, b)
  | n + 1, c :: rest, v => if isOctal c then octal n rest (v * 8 + (c - 48).toNat) else (v, c :: rest)
  | _ + 1, [], v => (v, [])

/-- **One escape** after its backslash: the byte it stands for and what follows; a backslash
before an unknown byte stands for itself, and the byte is read next. -/
def escape (b : Bytes) : UInt8 × Bytes :=
  match b with
  | 92 :: r => (92, r)
  | 97 :: r => (7, r)
  | 98 :: r => (8, r)
  | 101 :: r => (27, r)
  | 102 :: r => (12, r)
  | 110 :: r => (10, r)
  | 114 :: r => (13, r)
  | 116 :: r => (9, r)
  | 118 :: r => (11, r)
  | c :: _ =>
    if isOctal c then
      let (v, r) := octal 3 b 0
      (v.toUInt8, r)
    else (92, b)
  | [] => (92, [])

/-- **The text of `echo` and `%b`**: its escapes replaced, and whether `\c` ended it. -/
def escapedText : Nat → Bytes → Bytes → Bytes × Bool
  | 0, _, acc => (acc.reverse, false)
  | k + 1, b, acc =>
    match b with
    | [] => (acc.reverse, false)
    | 92 :: 99 :: _ => (acc.reverse, true)
    | 92 :: 48 :: d :: r =>
      if isOctal d then
        let (c, r) := escape (d :: r)
        escapedText k r (c :: acc)
      else
        let (c, r) := escape (48 :: d :: r)
        escapedText k r (c :: acc)
    | 92 :: r =>
      let (c, r) := escape r
      escapedText k r (c :: acc)
    | c :: r => escapedText k r (c :: acc)

/-- **`echo`**: its arguments, spaced, with a newline unless the first is `-n`; `\c` ends it. -/
def echo (args : List Bytes) : Bytes :=
  let (newline, args) := match args with
    | a :: rest => if a == Bytes.ofString "-n" then (false, rest) else (true, args)
    | [] => (true, [])
  let rec go : List Bytes → Bytes → Bytes
    | [], acc => if newline then acc ++ [10] else acc
    | [a], acc =>
      let (t, stop) := escapedText (a.length + 1) a []
      if stop then acc ++ t else if newline then acc ++ t ++ [10] else acc ++ t
    | a :: rest, acc =>
      let (t, stop) := escapedText (a.length + 1) a []
      if stop then acc ++ t else go rest (acc ++ t ++ [32])
  go args []

/-- The state of `printf`: the arguments left and what it produced so far. -/
structure Run where
  args : List Bytes
  /-- How many arguments were used. -/
  used : Nat := 0
  out : Bytes := []
  warnings : List Bytes := []
  status : Nat := 0
  deriving Inhabited

/-- How `printf` stops early. -/
inductive Stop where
  /-- An error: the message. -/
  | error (msg : Bytes)
  /-- `\c` in a `%b` argument: output ends. -/
  | cut
  deriving Inhabited

/-- Running `printf`. -/
abbrev PrintfM := ExceptT Stop (StateM Run)

/-- The next argument, or an empty one. -/
def nextArg : PrintfM Bytes := modifyGet fun r =>
  match r.args with
  | a :: rest => (a, { r with args := rest, used := r.used + 1 })
  | [] => ([], r)

/-- Whether arguments are left. -/
def hasArg : PrintfM Bool := do return !(← get).args.isEmpty

/-- Warn about an argument. -/
def warnArg (arg : Bytes) (what : String) : PrintfM Unit :=
  modify fun r => { r with warnings := r.warnings ++ [arg ++ Bytes.ofString (": " ++ what)], status := 1 }

/-- Write output. -/
def emit (b : Bytes) : PrintfM Unit := modify fun r => { r with out := r.out ++ b }

/-- Check how a number was read: all of the argument, and in range. -/
def checkRead (arg rest : Bytes) (overflow : Bool) : PrintfM Unit := do
  if !rest.isEmpty then
    warnArg arg (if rest.length == arg.length then "expected numeric value" else "not completely converted")
  else if overflow then warnArg arg "Numerical result out of range"

/-- **An integer argument**, signed or unsigned. -/
def intArg (signed : Bool) : PrintfM Int := do
  if !(← hasArg) then return 0
  let a ← nextArg
  match a with
  | 34 :: c :: _ | 39 :: c :: _ => return c.toNat
  | [34] | [39] => return 0
  | _ =>
    let r := IntRead.read signed 0 a
    checkRead a r.rest r.overflow
    return r.value

/-- **A floating-point argument.** -/
def floatArg : PrintfM Decimal.Value := do
  if !(← hasArg) then return .finite false 0 0
  let a ← nextArg
  match a with
  | 34 :: c :: _ | 39 :: c :: _ => return .finite false c.toNat 0
  | [34] | [39] => return .finite false 0 0
  | _ =>
    let r := Decimal.Format.double.read a
    checkRead a r.rest r.outOfRange
    return r.value

/-- Bytes of a specification that are flags. -/
def isFlag (c : UInt8) : Bool := c == 35 || c == 45 || c == 43 || c == 32 || c == 48

/-- Read decimal digits (and stars) of a width or precision: their value, if digits. -/
def widthDigits (b : Bytes) : Option Nat × Bytes :=
  let ds := b.takeWhile fun c => Bytes.isDigit c || c == 42
  let digits := ds.filter Bytes.isDigit
  (if digits.isEmpty then none else some (Bytes.text digits).toNat!, b.drop ds.length)

/-- **Format one conversion** whose text starts after the `%`; what follows it. -/
def conversion (spec : Bytes) : PrintfM Bytes := do
  let flags := spec.takeWhile isFlag
  let s0 : ConvSpec := flags.foldl ConvSpec.withFlag {}
  let rest := spec.drop flags.length
  let (s1, rest) ← match rest with
    | 42 :: r => do
      let w ← intArg true
      pure (s0.withWidthArg (max (min w 2147483647) (-2147483648)), r)
    | _ => pure (s0, rest)
  let (w, rest) := widthDigits rest
  let s2 := match w with
    | some w => if s1.width.isNone then { s1 with width := some w } else s1
    | none => s1
  let (s3, rest) ← match rest with
    | 46 :: 42 :: r => do
      let p ← intArg true
      let (_, r) := widthDigits r
      pure (s2.withPrecisionArg p, r)
    | 46 :: r =>
      let (p, r) := widthDigits r
      pure ({ s2 with precision := some (p.getD 0) }, r)
    | _ => pure (s2, rest)
  match rest with
  | [] => throw (.error (Bytes.ofString "missing format character"))
  | c :: after =>
    let s := { s3 with conversion := c }
    if c == 98 then
      let a ← nextArg
      let (t, cut) := escapedText (a.length + 1) a []
      emit (s.string t)
      if cut then throw .cut
    else if c == 99 then
      let a ← nextArg
      emit (s.char (a.head?.getD 0))
    else if c == 115 then
      emit (s.string (← nextArg))
    else if c == 100 || c == 105 then
      emit (s.signed (← intArg true))
    else if c == 111 || c == 117 || c == 120 || c == 88 then
      emit (s.unsigned (← intArg false).toNat)
    else if [101, 69, 102, 70, 103, 71].contains c then
      emit (s.float (← floatArg))
    else throw (.error ([37] ++ spec.take (spec.length - after.length) ++ Bytes.ofString ": invalid directive"))
    return after

/-- **Go through a format once.** -/
def pass : Nat → Bytes → PrintfM Unit
  | 0, _ => pure ()
  | k + 1, fmt =>
    match fmt with
    | [] => pure ()
    | 37 :: 37 :: rest => do emit [37]; pass k rest
    | 37 :: rest => do
      let after ← conversion rest
      pass k after
    | 92 :: rest => do
      let (c, r) := escape rest
      emit [c]
      pass k r
    | c :: rest => do emit [c]; pass k rest

/-- Go through a format while arguments are left and the last pass used some. -/
def passes : Nat → Bytes → PrintfM Unit
  | 0, _ => pure ()
  | k + 1, fmt => do
    let before := (← get).used
    pass (fmt.length + 1) fmt
    let r ← get
    if r.used != before && !r.args.isEmpty then passes k fmt

/-- **`printf`** with a format and arguments. -/
def printf (format : Bytes) (args : List Bytes) : Result :=
  match (passes (args.length + 1) format).run.run { args } with
  | (.ok (), r) | (.error .cut, r) => { out := r.out, warnings := r.warnings, status := r.status }
  | (.error (.error msg), r) => { warnings := r.warnings, error := some msg, status := 2 }

end CrossRef.Shell.Format
