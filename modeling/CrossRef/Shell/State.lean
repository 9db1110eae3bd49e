import CrossRef.Shell.Syntax
import CrossRef.Host.System
/-!
The state of a running shell.

A shell is a process: it has variables (each with a value or none, and marked exported or
read-only), functions, positional parameters, option flags, the status of the last command,
file descriptors, a working directory, traps and the line it is running. Its processes' shared
state is the host's `System`.

Running a command may end it early: the shell exits, a function returns, a loop is broken or
continued, a signal kills the process, or an error is reported. Each is a `Flow` that unwinds
running commands until something takes it: the shell's end, a function call, a loop, a subshell,
or, for an error in a regular built-in command, the command itself.

Messages of the shell start with its name (`$0`), the line of the command and, inside a
built-in command, the command's name: `sh: 1: shift: can't shift that many`.

This module belongs to the simulated test host that one-shot analyzer commands run on, not to
the library's program: the program reaches the host only through `Cli.Machine` and
`Host.System`, and no theorem of the library is about this module.
-/

namespace CrossRef.Shell

open CrossRef.Host

/-- Text as bytes. -/
def lit (s : String) : Bytes := Bytes.ofString s

/-- A shell variable. -/
structure Var where
  value : Option Bytes := none
  exported : Bool := false
  readonly : Bool := false
  deriving Inhabited

/-- The shell's option flags. -/
structure Options where
  /-- `-e`: exit when a command fails. -/
  errexit : Bool := false
  /-- `-f`: no file name expansion. -/
  noglob : Bool := false
  /-- `-n`: read commands without running them. -/
  noexec : Bool := false
  /-- `-x`: trace commands. -/
  xtrace : Bool := false
  /-- `-v`: print input as it is read. -/
  verbose : Bool := false
  /-- `-C`: do not overwrite files with `>`. -/
  noclobber : Bool := false
  /-- `-a`: export every variable assigned. -/
  allexport : Bool := false
  /-- `-u`: expanding an unset parameter is an error. -/
  nounset : Bool := false
  deriving Inhabited

/-- What a function call made local: the variables, each with what it was before, and the
options as they were, when `local -` kept them. -/
structure Frame where
  vars : List (String × Option Var) := []
  options : Option Options := none
  deriving Inhabited

/-- A background job: its process, its status (it has ended by the time it is looked at), when
it was started, and whether `wait` has reported it, after which its slot may be taken by a new
job. -/
structure Job where
  pid : Nat
  status : Nat
  serial : Nat
  waited : Bool := false
  deriving Inhabited

/-- **Add a job** in the first slot whose job was waited for, or in a new slot. -/
def addJob (jobs : List Job) (j : Job) : List Job :=
  match jobs.findIdx? (·.waited) with
  | some i => jobs.set i j
  | none => jobs ++ [j]

/-- The letters of the options, with how to read and set each. -/
def optionLetters : List (Char × String × (Options → Bool) × (Options → Bool → Options)) :=
  [('e', "errexit", (·.errexit), fun o b => { o with errexit := b }),
   ('f', "noglob", (·.noglob), fun o b => { o with noglob := b }),
   ('n', "noexec", (·.noexec), fun o b => { o with noexec := b }),
   ('x', "xtrace", (·.xtrace), fun o b => { o with xtrace := b }),
   ('v', "verbose", (·.verbose), fun o b => { o with verbose := b }),
   ('C', "noclobber", (·.noclobber), fun o b => { o with noclobber := b }),
   ('a', "allexport", (·.allexport), fun o b => { o with allexport := b }),
   ('u', "nounset", (·.nounset), fun o b => { o with nounset := b })]

/-- The state of a shell. -/
structure State where
  sys : System
  vars : List (String × Var) := []
  funcs : List (String × Command) := []
  /-- The positional parameters `$1`, `$2`, …. -/
  params : List Bytes := []
  /-- `$0`. -/
  arg0 : Bytes := lit "sh"
  opts : Options := {}
  /-- `$?`. -/
  status : Nat := 0
  /-- The status given to `exit`, if it was called. -/
  exitStatus : Option Nat := none
  fds : Fds := []
  cwd : String := "/"
  /-- `$$`: the number of the shell's process, which a subshell keeps. -/
  pid : Nat := 0
  /-- The number of the process this shell runs in, a subshell's own. -/
  procId : Nat := 0
  ppid : Nat := 0
  /-- Traps by condition (0 for the shell's exit, else a signal's number), with their actions;
  an empty action ignores the signal. -/
  traps : List (Nat × Bytes) := []
  /-- The line of the command running. -/
  line : Nat := 0
  funcDepth : Nat := 0
  /-- The line the running function was defined on, or 0 outside functions: lines inside a
  function are counted from it. -/
  funcLine : Nat := 0
  loopDepth : Nat := 0
  /-- The variables each function call made local, with what they were, innermost call first. -/
  frames : List Frame := []
  /-- `$!`. -/
  lastBg : Option Nat := none
  /-- The built-in command running, for messages. -/
  commandName : Option Bytes := none
  /-- The background jobs, by slot: a job's number is its place. -/
  jobs : List Job := []
  /-- How many background jobs were started. -/
  jobCount : Nat := 0
  /-- Whether the shell runs in a subshell of another. -/
  subshell : Bool := false
  /-- What the built-in command running has written, not yet on its standard output. -/
  output : ByteArray := .empty
  /-- The status of the last command substitution of the command being expanded. -/
  substStatus : Option Nat := none
  /-- The file mode creation mask. -/
  umask : Nat := 18
  /-- Where `getopts` is: the index of the next argument (`OPTIND`), and how far into the
  argument before it the options were read, if not to its end. -/
  optIndex : Nat := 1
  optOffset : Option Nat := none
  /-- Commands found by searching `PATH`, with the paths found. -/
  hashed : List (String × Bytes) := []
  /-- The aliases, by name, with their texts, in the order they were made. -/
  aliases : List (String × Bytes) := []
  deriving Inhabited

/-- How running a command can end early. -/
inductive Flow where
  /-- The shell exits. -/
  | exit
  /-- The process is killed by a signal. -/
  | killed (signal : Nat)
  /-- A function or a sourced script returns. -/
  | ret
  /-- `break` out of `n` loops. -/
  | brk (n : Nat)
  /-- `continue` the `n`th enclosing loop. -/
  | cont (n : Nat)
  /-- An error was reported; its status is 2. -/
  | error
  deriving DecidableEq, Repr, Inhabited

/-- Running shell commands. -/
abbrev ShellM := ExceptT Flow (StateM State)

/-- Run a step on the host's shared state. -/
def onSystem (m : SysM α) : ShellM α := do
  let s ← get
  let (a, sys) := m.run s.sys
  set { s with sys }
  return a

/-- **Write to a file descriptor** of the shell. -/
def writeFd (fd : Nat) (b : Bytes) : ShellM (Except Errno Unit) := do
  let fds := (← get).fds
  onSystem (System.write fds fd (Bytes.toArray b))

/-- Write to a file descriptor, ignoring failures. -/
def say (fd : Nat) (b : Bytes) : ShellM Unit := discard (writeFd fd b)

/-- The start of the shell's messages: its name, the line and the built-in command running. -/
def messagePrefix : ShellM Bytes := do
  let s ← get
  let base := s.arg0 ++ lit (": " ++ toString s.line ++ ": ")
  return match s.commandName with
    | some c => base ++ c ++ lit ": "
    | none => base

/-- **Print a message** of the shell on its standard error. -/
def warn (msg : Bytes) : ShellM Unit := do
  say 2 ((← messagePrefix) ++ msg ++ [10])

/-- **Report an error**: print its message, set the status to 2 and unwind. -/
def raise (msg : Bytes) : ShellM α := do
  warn msg
  modify fun s => { s with status := 2 }
  throw .error

/-- Set the line of the command running, counted from the function's definition inside one. -/
def setLine (line : Nat) : ShellM Unit := modify fun s =>
  { s with line := if s.funcLine > 0 then line + 1 - s.funcLine else line }

/-- Set the status of the last command. -/
def setStatus (n : Nat) : ShellM Unit := modify fun s => { s with status := n }

/-- The status of the last command. -/
def status : ShellM Nat := do return (← get).status

/-- A variable. -/
def findVar (name : String) : ShellM (Option Var) := do
  return ((← get).vars.find? (·.1 == name)).map (·.2)

/-- The value of a variable, if it is set. -/
def getVar (name : String) : ShellM (Option Bytes) := do
  return (← findVar name).bind (·.value)

/-- Put a variable in place. -/
def putVar (name : String) (v : Var) : ShellM Unit := modify fun s =>
  if s.vars.any (·.1 == name) then
    { s with vars := s.vars.map fun (n, w) => if n == name then (n, v) else (n, w) }
  else { s with vars := s.vars ++ [(name, v)] }

/-- **Set a variable**, which must not be read-only; with `-a` it is exported. Setting `OPTIND`
starts `getopts` again from that argument. -/
def setVar (name : String) (value : Bytes) (exporting : Bool := false) : ShellM Unit := do
  let v := (← findVar name).getD {}
  if v.readonly then raise (lit name ++ lit ": is read only")
  let allexport := (← get).opts.allexport
  putVar name { v with value := some value, exported := v.exported || exporting || allexport }
  if name == "OPTIND" then
    let n := ((Bytes.text value).toNat?).getD 1
    modify fun s => { s with optIndex := if n == 0 then 1 else n, optOffset := none }

/-- **Unset a variable**, which must not be read-only. -/
def unsetVar (name : String) : ShellM Unit := do
  match ← findVar name with
  | some v =>
    if v.readonly then raise (lit name ++ lit ": is read only")
    modify fun s => { s with vars := s.vars.filter (·.1 != name) }
  | none => pure ()

/-- The environment of a program the shell starts: its exported variables that have values. -/
def environment : ShellM (List (String × Bytes)) := do
  return (← get).vars.filterMap fun (n, v) =>
    if v.exported then v.value.map fun x => (n, x) else none

/-- Add to what the built-in command running writes. -/
def emitOut (b : Bytes) : ShellM Unit :=
  modify fun s => { s with output := s.output ++ Bytes.toArray b }

/-- The field separators: `IFS`, or blank, tab and newline when it is unset. -/
def ifs : ShellM Bytes := do
  return (← getVar "IFS").getD [32, 9, 10]

/-- The option letters that are on, for `$-`. -/
def optionFlags : ShellM Bytes := do
  let o := (← get).opts
  return Bytes.ofString (String.ofList (optionLetters.filterMap fun (c, _, get, _) => if get o then some c else none))

/-- A path resolved against the shell's working directory. -/
def resolvePath (p : Bytes) : ShellM String := do
  return resolve (← get).cwd (Bytes.text p)

end CrossRef.Shell
