import CrossRef.Shell.Expand
import CrossRef.Shell.Format
import CrossRef.Shell.Test
import CrossRef.Shell.Parse
/-!
The shell's built-in commands that do not run other commands.

A built-in command writes its output to a buffer that reaches its standard output when it ends;
an error it reports drops the buffer. Its messages name it: `sh: 1: shift: can't shift that many`.

Options are read the way every built-in command reads them: words that start with `-` and
are not `-` itself, up to `--`, each a run of option letters, an option that takes an argument
taking the rest of its word or the next word.

Numbers given to `exit`, `shift`, `break` and the like are whole decimal numbers from 0 to
2147483647, with blanks around them allowed; anything else is an illegal number.

This module belongs to the simulated test host that one-shot analyzer commands run on, not to
the library's program: the program reaches the host only through `Cli.Machine` and
`Host.System`, and no theorem of the library is about this module.
-/

namespace CrossRef.Shell

open CrossRef.Host

/-! ## Numbers, quoting and options -/

/-- **A number as built-in commands read it**, if the word is one. -/
def shellNumber (w : Bytes) : Option Nat :=
  let r := IntRead.read true 10 w
  if !r.digits || r.overflow || !r.rest.all Bytes.isSpace || r.value < 0 || r.value > 2147483647 then none
  else some r.value.toNat

/-- A number, or the error that the word is not one. -/
def needNumber (w : Bytes) : ShellM Nat :=
  match shellNumber w with
  | some n => pure n
  | none => raise (lit "Illegal number: " ++ w)

/-- Quote text for the shell in single quotes; a run of single quotes goes in double quotes. -/
def singleQuote (s : Bytes) : Bytes := go (s.length + 1) s
where
  go : Nat → Bytes → Bytes
    | 0, _ => []
    | k + 1, s =>
      let seg := s.takeWhile (· != 39)
      let rest := s.drop seg.length
      let quoted := [39] ++ seg ++ [39]
      if rest.isEmpty then quoted
      else
        let qs := rest.takeWhile (· == 39)
        let after := rest.drop qs.length
        quoted ++ [34] ++ qs ++ [34] ++ (if after.isEmpty then [] else go k after)

/-- The option letters of one word; `spec` tells which letters exist and which take an
argument. The options found, last first, and the words left. -/
def optionRun (spec : List (UInt8 × Bool)) :
    Nat → Bytes → List Bytes → List (UInt8 × Bytes) → ShellM (List (UInt8 × Bytes) × List Bytes)
  | 0, _, rest, acc => pure (acc, rest)
  | _ + 1, [], rest, acc => pure (acc, rest)
  | k + 1, c :: more, rest, acc =>
    match spec.find? (·.1 == c) with
    | none => raise (lit "Illegal option -" ++ [c])
    | some (_, false) => optionRun spec k more rest ((c, []) :: acc)
    | some (_, true) =>
      if !more.isEmpty then pure ((c, more) :: acc, rest)
      else match rest with
        | a :: rest => pure ((c, a) :: acc, rest)
        | [] => raise (lit "No arg for -" ++ [c] ++ lit " option")

/-- Read options from the words, last found first. -/
def optionWords (spec : List (UInt8 × Bool)) :
    Nat → List Bytes → List (UInt8 × Bytes) → ShellM (List (UInt8 × Bytes) × List Bytes)
  | 0, args, acc => pure (acc, args)
  | k + 1, args, acc =>
    match args with
    | [45, 45] :: rest => pure (acc, rest)
    | (45 :: c :: more) :: rest => do
      let (acc, rest) ← optionRun spec (more.length + 2) (c :: more) rest acc
      optionWords spec k rest acc
    | _ => pure (acc, args)

/-- **Read the options of a built-in command**: the option letters it takes, each with whether
it takes an argument. The options in order, and the words after them. -/
def options (spec : String) (args : List Bytes) : ShellM (List (UInt8 × Bytes) × List Bytes) := do
  let letters := spec.toList.map fun c => c.toNat.toUInt8
  let rec specOf : List UInt8 → List (UInt8 × Bool)
    | [] => []
    | c :: 58 :: rest => (c, true) :: specOf rest
    | c :: rest => (c, false) :: specOf rest
  let (found, rest) ← optionWords (specOf letters) (args.length + 1) args []
  return (found.reverse, rest)

/-! ## Variables -/

/-- Whether a word names a variable. -/
def isVarName (w : Bytes) : Bool := Bytes.isName w

/-- Split `name=value` at its first `=`. -/
def splitAssignmentWord (w : Bytes) : Bytes × Option Bytes :=
  let name := w.takeWhile (· != 61)
  if name.length < w.length then (name, some (w.drop (name.length + 1))) else (w, none)

/-- **Set a variable named by a word**, which must be a name. -/
def setNamed (name : Bytes) (value : Bytes) : ShellM Unit := do
  if !isVarName name then raise (name ++ lit ": bad variable name")
  setVar (Bytes.text name) value

/-- The variables with a property, sorted by name. -/
def sortedVars (keep : Var → Bool) : ShellM (List (String × Var)) := do
  let vs := (← get).vars.filter fun (_, v) => keep v
  return vs.mergeSort fun a b => Bytes.ofString a.1 ≤ Bytes.ofString b.1

/-- List variables as `prefix name='value'`, or `prefix name` for those without a value. -/
def showVars (pre : Bytes) (keep : Var → Bool) : ShellM Unit := do
  for (n, v) in ← sortedVars keep do
    let head := if pre.isEmpty then lit n else pre ++ [32] ++ lit n
    match v.value with
    | some x => emitOut (head ++ [61] ++ singleQuote x ++ [10])
    | none => emitOut (head ++ [10])

/-- **`export` and `readonly`**: mark variables, assigning those given a value; with no
names (or `-p`), list the marked ones. -/
def exportOrReadonly (readonly : Bool) (args : List Bytes) : ShellM Nat := do
  let (opts, names) ← options "p" args
  let mark (v : Var) : Var := if readonly then { v with readonly := true } else { v with exported := true }
  let marked (v : Var) : Bool := if readonly then v.readonly else v.exported
  if !opts.isEmpty || names.isEmpty then
    showVars (lit (if readonly then "readonly" else "export")) marked
    return 0
  for w in names do
    let (name, value) := splitAssignmentWord w
    if !isVarName name then raise (name ++ lit ": bad variable name")
    let n := Bytes.text name
    match value with
    | some x =>
      setVar n x
      putVar n (mark ((← findVar n).getD {}))
    | none => putVar n (mark ((← findVar n).getD {}))
  return 0

/-- **`unset`**: variables, or functions with `-f`. -/
def unsetBuiltin (args : List Bytes) : ShellM Nat := do
  let (opts, names) ← options "vf" args
  let functions := opts.getLast?.map (·.1) == some 102
  for w in names do
    if functions then
      modify fun s => { s with funcs := s.funcs.filter (·.1 != Bytes.text w) }
    else
      if !isVarName w then raise (w ++ lit ": bad variable name")
      unsetVar (Bytes.text w)
  return 0

/-- **`local`**: make variables local to the running function, remembering what they were;
a name with a value assigns it, one without keeps the variable's value. -/
def localBuiltin (args : List Bytes) : ShellM Nat := do
  if (← get).frames.isEmpty then raise (lit "not in a function")
  for w in args do
    if w == [45] then
      -- `local -` keeps the options, to be put back when the function returns
      modify fun s => match s.frames with
        | f :: rest => { s with frames := { f with options := some (f.options.getD s.opts) } :: rest }
        | [] => s
      continue
    let (name, value) := splitAssignmentWord w
    if !isVarName name then raise (name ++ lit ": bad variable name")
    let n := Bytes.text name
    let old ← findVar n
    modify fun s => match s.frames with
      | f :: rest =>
        if f.vars.any (·.1 == n) then s else { s with frames := { f with vars := (n, old) :: f.vars } :: rest }
      | [] => s
    match value with
    | some x => setVar n x
    | none => pure ()
  return 0

/-- Put back the variables a function made local, and its options when it kept them. -/
def restoreLocals (frame : Frame) : ShellM Unit := do
  for (n, old) in frame.vars do
    match old with
    | some v => putVar n v
    | none => modify fun s => { s with vars := s.vars.filter (·.1 != n) }
  if let some o := frame.options then modify fun s => { s with opts := o }

/-! ## Options and parameters -/

/-- The long names of options that exist but change nothing here. -/
def idleOptions : List (Char × String) :=
  [('I', "ignoreeof"), ('i', "interactive"), ('m', "monitor"), ('s', "stdin"), ('V', "vi"),
   ('E', "emacs"), ('b', "notify"), ('p', "privileged")]

/-- Turn an option letter on or off, if it exists. -/
def setLetter (o : Options) (c : Char) (on : Bool) : Option Options :=
  match optionLetters.find? (·.1 == c) with
  | some (_, _, _, put) => some (put o on)
  | none => if idleOptions.any (·.1 == c) then some o else none

/-- Turn an option named in full on or off, if it exists. -/
def setLong (o : Options) (name : String) (on : Bool) : Option Options :=
  match optionLetters.find? (·.2.1 == name) with
  | some (_, _, _, put) => some (put o on)
  | none => if idleOptions.any (·.2 == name) then some o else none

/-- The settings of all options, as `set -o` lists them. -/
def optionTable (o : Options) : List (String × Bool) :=
  [("errexit", o.errexit), ("noglob", o.noglob), ("ignoreeof", false), ("interactive", false),
   ("monitor", false), ("noexec", o.noexec), ("stdin", false), ("xtrace", o.xtrace),
   ("verbose", o.verbose), ("vi", false), ("emacs", false), ("noclobber", o.noclobber),
   ("allexport", o.allexport), ("notify", false), ("nounset", o.nounset),
   ("privileged", false), ("nolog", false), ("debug", false)]

/-- Pad text with blanks to a width. -/
def padRight (s : String) (n : Nat) : String := s ++ String.ofList (List.replicate (n - s.length) ' ')

/-- What reading `set`'s arguments found: the options after them, and the positional parameters
to set, if any are given. -/
def setOptions (o : Options) : Nat → List Bytes → ShellM (Options × Option (List Bytes))
  | 0, args => pure (o, if args.isEmpty then none else some args)
  | k + 1, args =>
    match args with
    | [45] :: rest => do
      let o := { o with xtrace := false, verbose := false }
      pure (o, if rest.isEmpty then none else some rest)
    | [45, 45] :: rest => pure (o, some rest)
    | (c :: letters) :: rest =>
      if c != 45 && c != 43 then pure (o, some args)
      else do
        let on := c == 45
        let mut o := o
        let mut rest := rest
        for l in letters do
          if l == 111 then
            match rest with
            | name :: more =>
              rest := more
              match setLong o (Bytes.text name) on with
              | some o' => o := o'
              | none => raise (lit "Illegal option -o " ++ name)
            | [] =>
              if on then
                emitOut (lit "Current option settings\n")
                for (n, v) in optionTable o do
                  emitOut (lit (padRight n 16 ++ (if v then "on" else "off") ++ "\n"))
              else
                for (n, v) in optionTable o do
                  emitOut (lit ("set " ++ (if v then "-o " else "+o ") ++ n ++ "\n"))
          else
            match setLetter o (Char.ofNat l.toNat) on with
            | some o' => o := o'
            | none => raise (lit "Illegal option " ++ [c, l])
        setOptions o k rest
    | [] :: _ => pure (o, some args)
    | [] => pure (o, none)

/-- **`set`**: with no arguments list the variables; otherwise set options and, after them,
the positional parameters. -/
def setBuiltin (args : List Bytes) : ShellM Nat := do
  if args.isEmpty then
    showVars [] (·.value.isSome)
    return 0
  let (o, params) ← setOptions (← get).opts (args.length + 1) args
  modify fun s => { s with opts := o }
  match params with
  | some ps => modify fun s => { s with params := ps }
  | none => pure ()
  return 0

/-- **`shift`** the positional parameters. -/
def shiftBuiltin (args : List Bytes) : ShellM Nat := do
  let n ← match args with
    | a :: _ => needNumber a
    | [] => pure 1
  let ps := (← get).params
  if n > ps.length then raise (lit "can't shift that many")
  modify fun s => { s with params := ps.drop n }
  return 0

/-- **`getopts`**: read the next option from the positional parameters (or the arguments
given) into a variable, and its argument into `OPTARG`; the status is 1 when the options end.
An unknown option, or one missing its argument, is `?` (with a message), or, when the option
letters start with `:`, `?` or `:` with the letter in `OPTARG`. -/
def getoptsBuiltin (args : List Bytes) : ShellM Nat := do
  match args with
  | optstr :: var :: given =>
    let s ← get
    let base := if given.isEmpty then s.params else given
    let (ind, off) := if s.optIndex > base.length + 1 then (1, none) else (s.optIndex, s.optOffset)
    let silent := optstr.head? == some 58
    -- the rest of the word being read, and the index of the next word
    let current : Option Bytes := match off, base[ind - 2]? with
      | some o, some w => if ind ≤ 1 || w.length < o then none else some (w.drop o)
      | _, _ => none
    let start : Option (Bytes × Nat) := match current with
      | some p => if p.isEmpty then none else some (p, ind - 1)
      | none => none
    let start ← match start with
      | some st => pure (some st)
      | none =>
        match base[ind - 1]? with
        | some (45 :: rest) => if rest.isEmpty || rest == [45] then pure none else pure (some (rest, ind))
        | _ => pure none
    let rec spec : Bytes → List (UInt8 × Bool)
      | [] => []
      | c :: 58 :: rest => (c, true) :: spec rest
      | c :: rest => (c, false) :: spec rest
    let letters := spec (if silent then optstr.drop 1 else optstr)
    let (c, next, rest, done) ← match start with
      | none =>
        let next := match base[ind - 1]? with
          | some [45, 45] => ind
          | _ => ind - 1
        pure (63, next, none, true)
      | some (p, next) =>
        match p with
        | [] => pure (63, next, none, true)
        | c :: more =>
          match letters.find? (·.1 == c) with
          | none =>
            if silent then setVar "OPTARG" [c]
            else
              say 2 (lit "Illegal option -" ++ [c, 10])
              unsetVar "OPTARG"
            pure (63, next, some more, false)
          | some (_, false) =>
            setVar "OPTARG" []
            pure (c, next, some more, false)
          | some (_, true) =>
            if !more.isEmpty then
              setVar "OPTARG" more
              pure (c, next, none, false)
            else match base[next]? with
              | some a =>
                setVar "OPTARG" a
                pure (c, next + 1, none, false)
              | none =>
                if silent then
                  setVar "OPTARG" [c]
                  pure (58, next, none, false)
                else
                  say 2 (lit "No arg for -" ++ [c] ++ lit " option\n")
                  unsetVar "OPTARG"
                  pure (63, next, none, false)
    setVar "OPTIND" (Bytes.ofNat (next + 1))
    setNamed var [c]
    let offset := match rest with
      | some r => if r.isEmpty then none else (base[next - 1]?).map fun w => w.length - r.length
      | none => none
    modify fun s => { s with optIndex := next + 1, optOffset := offset }
    return if done then 1 else 0
  | _ => raise (lit "Usage: getopts optstring var [arg...]")

/-! ## Leaving -/

/-- **`exit`**: end the shell with a status, or with the last command's. -/
def exitBuiltin (args : List Bytes) : ShellM Nat := do
  match args with
  | a :: _ =>
    let n ← needNumber a
    modify fun s => { s with exitStatus := some n }
  | [] => pure ()
  throw .exit

/-- **`return`** from a function or a sourced script, with a status or the last command's. -/
def returnBuiltin (args : List Bytes) : ShellM Nat := do
  match args with
  | a :: _ => setStatus (← needNumber a)
  | [] => pure ()
  throw .ret

/-- **`break` and `continue`**: leave or go on with the `n`th enclosing loop, or the outermost
when there are fewer; nothing outside loops. -/
def loopControl (continuing : Bool) (args : List Bytes) : ShellM Nat := do
  let n ← match args with
    | a :: _ => do
      let n ← needNumber a
      if n == 0 then raise (lit "Illegal number: " ++ a)
      pure n
    | [] => pure 1
  let depth := (← get).loopDepth
  let n := min n depth
  setStatus 0
  if n > 0 then throw (if continuing then .cont n else .brk n)
  return 0

/-! ## The working directory -/

/-- **`cd`**: change to a directory, logically: `..` takes off the last component of the path.
No directory is `HOME`; `-` is `OLDPWD`, and is printed. -/
def cdBuiltin (args : List Bytes) : ShellM Nat := do
  let (_, rest) ← options "LP" args
  let (dest, print) ← match rest with
    | [45] :: _ => pure ((← getVar "OLDPWD").getD [], true)
    | d :: _ => pure (d, false)
    | [] => pure ((← getVar "HOME").getD [], false)
  let target := if dest.isEmpty then lit "." else dest
  let s ← get
  let full := resolve s.cwd (Bytes.text target)
  if !s.sys.files.isDir full then raise (lit "can't cd to " ++ dest)
  let old := (← getVar "PWD").getD (lit s.cwd)
  modify fun s => { s with cwd := full }
  setVar "OLDPWD" old true
  setVar "PWD" (lit full) true
  if print then emitOut (lit full ++ [10])
  return 0

/-- **`pwd`**: the working directory. -/
def pwdBuiltin (args : List Bytes) : ShellM Nat := do
  let _ ← options "LP" args
  emitOut (lit (← get).cwd ++ [10])
  return 0

/-- **`umask`**: print the mask in octal (or symbolically with `-S`), or set it. -/
def umaskBuiltin (args : List Bytes) : ShellM Nat := do
  let (opts, rest) ← options "S" args
  let m := (← get).umask
  match rest with
  | [] =>
    if opts.isEmpty then
      let digits := Nat.toDigits 8 m
      emitOut (lit (String.ofList (List.replicate (4 - digits.length) '0' ++ digits)) ++ [10])
    else
      let part (shift : Nat) : String :=
        let bits := (m >>> shift) % 8
        (if bits &&& 4 == 0 then "r" else "") ++ (if bits &&& 2 == 0 then "w" else "") ++
          (if bits &&& 1 == 0 then "x" else "")
      emitOut (lit ("u=" ++ part 6 ++ ",g=" ++ part 3 ++ ",o=" ++ part 0 ++ "\n"))
    return 0
  | a :: _ =>
    if a.all fun c => 48 ≤ c && c ≤ 55 then
      modify fun s => { s with umask := a.foldl (fun acc c => acc * 8 + (c - 48).toNat) 0 % 512 }
      return 0
    else raise (lit "Illegal mode: " ++ a)

/-! ## Reading a line -/

/-- Whether a byte of input separates fields: it was not escaped and is in `IFS`. -/
def isSep (ifs : Bytes) (x : UInt8 × Bool) : Bool := !x.2 && ifs.contains x.1

/-- Whether a byte of input is separating white space. -/
def isWhiteSep (ifs : Bytes) (x : UInt8 × Bool) : Bool :=
  isSep ifs x && (x.1 == 32 || x.1 == 9 || x.1 == 10)

/-- Skip one separator: white space, then at most one other separating byte and the white space
after it. -/
def dropSeparator (ifs : Bytes) (l : List (UInt8 × Bool)) : List (UInt8 × Bool) :=
  match l.dropWhile (isWhiteSep ifs) with
  | x :: rest => if isSep ifs x && !isWhiteSep ifs x then rest.dropWhile (isWhiteSep ifs) else x :: rest
  | [] => []

/-- The last field of a line: the rest of it without trailing white space, and without its
separator when what is left is one field and the separator after it. -/
def lastField (ifs : Bytes) (l : List (UInt8 × Bool)) : Bytes :=
  let l := (l.reverse.dropWhile (isWhiteSep ifs)).reverse
  let first := l.takeWhile (!isSep ifs ·)
  let after := l.drop first.length
  if !after.isEmpty && (dropSeparator ifs after).isEmpty then first.map (·.1) else l.map (·.1)

/-- **Split a line read by `read`** into `n` fields: the last takes the rest of the line. -/
def readFields (ifs : Bytes) : Nat → List (UInt8 × Bool) → List Bytes
  | 0, _ => []
  | 1, l => [lastField ifs l]
  | n + 2, l =>
    let field := l.takeWhile (!isSep ifs ·)
    (field.map (·.1)) :: readFields ifs (n + 1) (dropSeparator ifs (l.drop field.length))

/-- Read input bytes up to a newline not escaped: each with whether a backslash escaped it, and
whether the input ended first. Without `raw`, a backslash escapes the next byte and drops a
newline after it; NUL bytes are skipped. -/
def readInput (raw : Bool) : Nat → List (UInt8 × Bool) → Bool → ShellM (List (UInt8 × Bool) × Bool)
  | 0, acc, _ => pure (acc.reverse, true)
  | k + 1, acc, escaped => do
    let fds := (← get).fds
    match ← onSystem (System.read fds 0 (some 1)) with
    | .error _ => pure (acc.reverse, true)
    | .ok b =>
      match b.toList with
      | [] => pure (acc.reverse, true)
      | c :: _ =>
        if c == 0 then readInput raw k acc escaped
        else if escaped then
          if c == 10 then readInput raw k acc false else readInput raw k ((c, true) :: acc) false
        else if !raw && c == 92 then readInput raw k acc true
        else if c == 10 then pure (acc.reverse, false)
        else readInput raw k ((c, false) :: acc) false

/-- **`read`** a line from the standard input into variables, split at `IFS`; the status is 1
when the input ended before a newline. -/
def readBuiltin (args : List Bytes) : ShellM Nat := do
  let (opts, names) ← options "p:r" args
  if names.isEmpty then raise (lit "arg count")
  let raw := opts.any (·.1 == 114)
  let (line, ended) ← readInput raw 1048576 [] false
  let sep ← ifs
  let line := line.dropWhile (isWhiteSep sep)
  let fields := readFields sep names.length line
  for (n, v) in names.zip fields do setNamed n v
  return if ended then 1 else 0

/-! ## Signals and traps -/

/-- The name the shell gives a signal from 1 to 64: none for 16, 32 and 33, and `RTMIN`,
`RTMIN+1`, ..., `RTMAX-1`, `RTMAX` for the real-time signals from 34. -/
def shellSignalName (n : Nat) : Option String :=
  if n == 0 || n == 16 || n == 32 || n == 33 || n > 64 then none
  else if n < 32 then signalName n
  else if n == 34 then some "RTMIN"
  else if n < 50 then some ("RTMIN+" ++ toString (n - 34))
  else if n < 64 then some ("RTMAX-" ++ toString (64 - n))
  else some "RTMAX"

/-- The number of a signal given by number or by name (without `SIG`, in any case), from
`least` on. -/
def signalOf (least : Nat) (w : Bytes) : Option Nat :=
  if !w.isEmpty && w.all Bytes.isDigit then
    let n := (Bytes.text w).toNat!
    if n < 65 then some n else none
  else if least == 0 && w.map Bytes.upper == lit "EXIT" then some 0
  else (List.range 64).map (· + 1) |>.find? fun n => (shellSignalName n).map lit == some (w.map Bytes.upper)

/-- The name of a signal, or its number when it has none. -/
def signalWord (n : Nat) : String := (shellSignalName n).getD (toString n)

/-- The name of a trap's condition. -/
def conditionName (n : Nat) : String := if n == 0 then "EXIT" else signalWord n

/-- **`trap`**: set, ignore or reset the actions for conditions; with no arguments, list them. -/
def trapBuiltin (args : List Bytes) : ShellM Nat := do
  let (_, args) ← options "" args
  match args with
  | [] =>
    let ts := (← get).traps.mergeSort fun a b => a.1 ≤ b.1
    for (n, action) in ts do
      emitOut (lit "trap -- " ++ singleQuote action ++ [32] ++ lit (conditionName n) ++ [10])
    return 0
  | first :: rest =>
    let (action, conds) := if rest.isEmpty || (signalOf 0 first).isSome then (none, args)
      else (if first == [45] then none else some first, rest)
    for c in conds do
      match signalOf 0 c with
      | none =>
        say 2 (lit "trap: " ++ c ++ lit ": bad trap\n")
        return 1
      | some n =>
        modify fun s => { s with traps := (s.traps.filter (·.1 != n)) ++
          (match action with
            | some a => [(n, a)]
            | none => []) }
    return 0

/-- The usage of `kill`. -/
def killUsage : Bytes :=
  lit "Usage: kill [-s sigspec | -signum | -sigspec] [pid | job]... or\nkill -l [exitstatus]"

/-- **Send a signal to the shell's own process.** A signal it does not trap kills it at once,
unless its default is to leave a process running; a trapped one waits for the command to end. -/
def signalSelf (sig : Nat) : ShellM Unit := do
  if sig == 0 then return
  let s ← get
  match s.traps.find? (·.1 == sig) with
  | some (_, action) =>
    if sig == 9 || sig == 19 then throw (.killed sig)
    if !action.isEmpty then onSystem (System.signal s.procId sig)
  | none =>
    if signalSpares sig then return
    throw (.killed sig)

/-- **`kill`**: send a signal (TERM unless named) to processes, or list signals with `-l`. -/
def killBuiltin (args : List Bytes) : ShellM Nat := do
  if args.isEmpty then raise killUsage
  let (signo, list, targets) ← match args with
    | (45 :: w) :: rest =>
      match signalOf 1 w with
      | some n => pure (some n, false, rest)
      | none => do
        let (opts, rest) ← options "ls:" args
        let mut signo : Option Nat := none
        let mut list := false
        for (c, a) in opts do
          if c == 108 then list := true
          else
            match signalOf 1 a with
            | some n => signo := some n
            | none => raise (lit "invalid signal number or name: " ++ a)
        pure (signo, list, rest)
    | _ => pure (none, false, args)
  let signo := if !list && signo.isNone then some 15 else signo
  if (signo.isNone || targets.isEmpty) != list then raise killUsage
  if list then
    match targets with
    | [] =>
      for n in List.range 65 do emitOut (lit (signalWord n) ++ [10])
      return 0
    | t :: _ =>
      let n ← needNumber t
      let n := if n > 128 then n - 128 else n
      if 1 ≤ n && n ≤ 64 then
        emitOut (lit (signalWord n) ++ [10])
        return 0
      else raise (lit "invalid signal number or exit status: " ++ t)
  let sig := signo.getD 15
  let mut failed := false
  for t in targets do
    let pid ← match t with
      | 45 :: w => do let _ ← needNumber w; pure none
      | _ => do pure (some (← needNumber t))
    let s ← get
    match pid with
    | some p =>
      if p == s.procId || p == 0 then signalSelf sig
      else if ← onSystem (System.isRunning p) then
        if sig != 0 then onSystem (System.signal p sig)
      else
        warn (lit (Errno.text .noProcess) ++ [10])
        failed := true
    | none =>
      warn (lit (Errno.text .noProcess) ++ [10])
      failed := true
  return if failed then 1 else 0

/-- The job a `%` word names: `%%`, `%+` or `%` the newest, `%-` the one started before it,
`%N` the one in slot N. Jobs keep no command text, so no other name finds one. -/
def jobOf (jobs : List Job) (w : Bytes) : ShellM Job := do
  let spec := w.drop 1
  let recent := jobs.mergeSort fun a b => a.serial ≥ b.serial
  let pick (j : Option Job) (msg : Bytes) : ShellM Job :=
    match j with
    | some j => pure j
    | none => raise msg
  if spec.isEmpty || spec == [43] || spec == [37] then pick recent.head? (lit "No current job")
  else if spec == [45] then pick recent[1]? (lit "No previous job")
  else if spec.all Bytes.isDigit then
    let n := (Bytes.text spec).toNat!
    pick (if n == 0 then none else jobs[n - 1]?) (lit "No such job: " ++ w)
  else raise (lit "No such job: " ++ w)

/-- **`wait`** for background jobs: the status of the last one named, 127 for a process that is
not a job; with none named, all, and the status is 0. Jobs have ended by the time they are waited
for; a job waited for stays, and waiting again gives the same status, until a new job takes its
slot. -/
def waitBuiltin (args : List Bytes) : ShellM Nat := do
  let (_, pids) ← options "" args
  if pids.isEmpty then
    modify fun s => { s with jobs := s.jobs.map fun j => { j with waited := true } }
    return 0
  let mut st := 127
  for w in pids do
    let found ← if w.head? == some 37 then some <$> jobOf (← get).jobs w
      else do
        let p ← needNumber w
        pure ((← get).jobs.find? (·.pid == p))
    match found with
    | some j =>
      st := j.status
      modify fun s => { s with jobs := s.jobs.map fun k => if k.serial == j.serial then { k with waited := true } else k }
    | none => st := 127
  return st

/-! ## Looking up commands -/

/-- The built-in commands, with whether each is special. -/
def builtins : List (String × Bool) :=
  (specialBuiltins.map (·, true)) ++
  (["[", "alias", "bg", "cd", "chdir", "command", "echo", "false", "fg", "getopts", "hash", "jobs",
    "kill", "printf", "pwd", "read", "test", "true", "type", "ulimit", "umask", "unalias",
    "wait"].map (·, false))

/-- Whether a name is a built-in command, and whether a special one. -/
def builtinKind (name : String) : Option Bool := (builtins.find? (·.1 == name)).map (·.2)

/-- Whether a node of the host can be run as a program: a program or an executable file. -/
def isExecutable : Option Node → Bool
  | some (.program _) => true
  | some (.file _ x) => x
  | _ => false

/-- Whether a node is a regular file: a program or a file. -/
def isRegular : Option Node → Bool
  | some (.program _) | some (.file _ _) => true
  | _ => false

/-- **Search `PATH`** for a command name: the path made of the first directory holding a regular
file of that name. -/
def searchPath (name : Bytes) : ShellM (Option Bytes) := do
  let s ← get
  let path := (← getVar "PATH").getD []
  let dirs := Bytes.splitOn 58 path
  return dirs.findSome? fun d =>
    let candidate := if d.isEmpty then name else d ++ [47] ++ name
    if isRegular (s.sys.files.node? (resolve s.cwd (Bytes.text candidate))) then some candidate else none

/-! ## Aliases -/

/-- The bucket of the table an alias is kept in: the first byte times 16 plus the sum of the
bytes, each a signed byte, in 39 buckets. Aliases are listed bucket by bucket. -/
def aliasBucket (name : String) : Nat :=
  let bs := name.toUTF8.toList
  let start := (bs.head?.getD 0).toNat * 16
  let sum := bs.foldl (fun acc b => acc + (if b.toNat ≥ 128 then b.toNat + 4294967040 else b.toNat)) start
  sum % 4294967296 % 39

/-- An alias as the shell shows it: its name, an equals sign and its text in single quotes. -/
def showAlias (name : String) (value : Bytes) : Bytes := lit name ++ [61] ++ singleQuote value ++ [10]

/-- **`alias`**: list the aliases, show some, or make some (`name=text`). -/
def aliasBuiltin (args : List Bytes) : ShellM Nat := do
  if args.isEmpty then
    let all := (← get).aliases
    for i in List.range 39 do
      for (n, v) in all.filter (fun a => aliasBucket a.1 == i) do emitOut (showAlias n v)
    return 0
  let mut st := 0
  for a in args do
    match (a.drop 1).idxOf? 61 with
    | none =>
      let n := Bytes.text a
      match (← get).aliases.find? (·.1 == n) with
      | some (_, v) => emitOut (showAlias n v)
      | none =>
        say 2 (lit ("alias: " ++ n ++ " not found\n"))
        st := 1
    | some i =>
      let n := Bytes.text (a.take (i + 1))
      let v := a.drop (i + 2)
      modify fun s =>
        { s with
          aliases := if s.aliases.any (·.1 == n) then s.aliases.map (fun e => if e.1 == n then (n, v) else e)
            else s.aliases ++ [(n, v)] }
  return st

/-- **`unalias`**: remove aliases, or all of them with `-a`. -/
def unaliasBuiltin (args : List Bytes) : ShellM Nat := do
  let (opts, names) ← options "a" args
  if opts.any (·.1 == 97) then
    modify fun s => { s with aliases := [] }
    return 0
  let mut st := 0
  for a in names do
    let n := Bytes.text a
    if (← get).aliases.any (·.1 == n) then modify fun s => { s with aliases := s.aliases.filter (·.1 != n) }
    else
      say 2 (lit ("unalias: " ++ n ++ " not found\n"))
      st := 1
  return st

/-- What a command name is, as `type` and `command -v` describe it. -/
inductive Kind where
  | keyword
  | alias (text : Bytes)
  | function
  | builtin (special : Bool)
  /-- A file, found at a path, remembered from an earlier search or not. -/
  | file (path : Bytes) (remembered : Bool)
  | missing
  deriving Inhabited

/-- **What a command name is**: a keyword, a function, a built-in command, or a file. -/
def kindOf (name : Bytes) : ShellM Kind := do
  let n := Bytes.text name
  let s ← get
  if keywords.contains n then return .keyword
  if let some (_, v) := s.aliases.find? (·.1 == n) then return .alias v
  if s.funcs.any (·.1 == n) then return .function
  match builtinKind n with
  | some sp => return .builtin sp
  | none =>
    if name.contains 47 then
      return if s.sys.files.present (resolve s.cwd n) then .file name false else .missing
    match s.hashed.find? (·.1 == n) with
    | some (_, p) => return .file p true
    | none =>
      match ← searchPath name with
      | some p => return .file p false
      | none => return .missing

/-- **Describe a command name**, in words (`type`) or as the word to run it by: the status is 127
when it is not found. -/
def describe (verbose : Bool) (name : Bytes) : ShellM Nat := do
  match ← kindOf name with
  | .keyword => emitOut (if verbose then name ++ lit " is a shell keyword\n" else name ++ [10])
  | .alias v =>
    emitOut (if verbose then name ++ lit " is an alias for " ++ v ++ [10] else lit "alias " ++ showAlias (Bytes.text name) v)
  | .function => emitOut (if verbose then name ++ lit " is a shell function\n" else name ++ [10])
  | .builtin sp =>
    emitOut (if verbose then name ++ lit (if sp then " is a special shell builtin\n" else " is a shell builtin\n")
      else name ++ [10])
  | .file p remembered =>
    emitOut (if verbose then name ++ lit (if remembered then " is a tracked alias for " else " is ") ++ p ++ [10]
      else p ++ [10])
  | .missing =>
    if verbose then emitOut (name ++ lit ": not found\n")
    return 127
  return 0

/-- **`type`**: describe each name. -/
def typeBuiltin (args : List Bytes) : ShellM Nat := do
  let mut st := 0
  for a in args do
    if (← describe true a) != 0 then st := 127
  return st

/-! ## Output and tests -/

/-- **`printf`** as a built-in command. -/
def printfBuiltin (args : List Bytes) : ShellM Nat := do
  let (_, args) ← options "" args
  match args with
  | [] => raise (lit "usage: printf format [arg ...]")
  | format :: rest =>
    let r := Format.printf format rest
    for w in r.warnings do warn w
    match r.error with
    | some e => raise e
    | none =>
      emitOut r.out
      return r.status

/-- What `test` knows of the files of the host. -/
def fileFacts (fs : Files) (cwd : String) (p : Bytes) : Option Test.FileFacts :=
  if p.isEmpty then none
  else
    let full := resolve cwd (Bytes.text p)
    match fs.node? full with
    | some (.file b x) => some { regular := true, size := b.size, executable := x }
    | some (.program name) => some { regular := true, size := name.length, executable := true }
    | some (.device _) => some { charDevice := true }
    | none => if fs.isDir full then some { directory := true, executable := true } else none

/-- **`test` and `[`.** -/
def testBuiltin (bracket : Bool) (args : List Bytes) : ShellM Nat := do
  let s ← get
  match Test.run bracket args (fileFacts s.sys.files s.cwd) with
  | .ok b => return if b then 0 else 1
  | .error m => raise m

/-- **`times`**: the times used, which are none. -/
def timesBuiltin : ShellM Nat := do
  emitOut (lit "0m0.000000s 0m0.000000s\n0m0.000000s 0m0.000000s\n")
  return 0

/-- **`hash`**: forget the remembered commands with `-r`; list them otherwise. -/
def hashBuiltin (args : List Bytes) : ShellM Nat := do
  let (opts, _) ← options "rv" args
  if opts.any (·.1 == 114) then
    modify fun s => { s with hashed := [] }
  else
    for (_, p) in (← get).hashed do emitOut (p ++ [10])
  return 0

/-- **Run a built-in command that runs no other command**: its status. -/
def plainBuiltin (name : String) (args : List Bytes) : ShellM Nat :=
  match name with
  | ":" | "true" => pure 0
  | "false" => pure 1
  | "echo" => do emitOut (Format.echo args); pure 0
  | "printf" => printfBuiltin args
  | "test" => testBuiltin false args
  | "[" => testBuiltin true args
  | "read" => readBuiltin args
  | "set" => setBuiltin args
  | "shift" => shiftBuiltin args
  | "export" => exportOrReadonly false args
  | "readonly" => exportOrReadonly true args
  | "unset" => unsetBuiltin args
  | "local" => localBuiltin args
  | "exit" => exitBuiltin args
  | "return" => returnBuiltin args
  | "break" => loopControl false args
  | "continue" => loopControl true args
  | "cd" | "chdir" => cdBuiltin args
  | "pwd" => pwdBuiltin args
  | "umask" => umaskBuiltin args
  | "trap" => trapBuiltin args
  | "kill" => killBuiltin args
  | "wait" => waitBuiltin args
  | "type" => typeBuiltin args
  | "times" => timesBuiltin
  | "hash" => hashBuiltin args
  | "ulimit" => do emitOut (lit "unlimited\n"); pure 0
  | "getopts" => getoptsBuiltin args
  | "alias" => aliasBuiltin args
  | "unalias" => unaliasBuiltin args
  | "jobs" => pure 0
  | "fg" | "bg" => raise (lit "No current job")
  | _ => pure 0

end CrossRef.Shell
