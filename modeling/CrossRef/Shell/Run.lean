import CrossRef.Shell.Builtin
/-!
Running shell commands.

A simple command runs in steps: its words are expanded into arguments, the words of its
redirections are expanded, the redirections are applied, its assignments are expanded, the
command is traced with `-x`, and then it runs: a function, a built-in command or a program
found through `PATH`, looked up in that order. Assignments before a special built-in command (or
with no command) stay; before anything else they hold for that command only and are exported
to it. Redirections are undone after the command, except for `exec` without a command.

A failing redirection or a missing command makes the status 2, 126 or 127 and the script goes
on, except that a redirection failing for a special built-in command is an error. An error ends
the script (and the shell): in an expansion, an assignment, a special built-in command, or a
syntax error; an error in a regular built-in command only ends that command, with status 2.

With `-e`, the shell exits when a simple command, a pipeline or a subshell fails, unless its
status is tested: by `if`, `while` or `until`, by `!`, or on the left of `&&` or `||`; functions,
subshells and `eval` run under the testing of the command that runs them.

A subshell, each stage of a pipeline, a background job and a command substitution run in a copy
of the shell in a new process: what they change of the shell is lost, and they share only the
host. The stages of a pipeline run one after another, each reading what the one before wrote.
A background job runs at once, its standard input from `/dev/null`.

A program runs as a new process of the host with the shell's descriptors, working directory and
exported variables. An executable file starting with `#!` runs the interpreter it names; any
other executable file runs as a shell script. When a program is killed by a signal the shell
says so (save for `INT` and `PIPE`) and its status is 128 and the signal's number.

Signals sent to the shell itself are handled between commands: a trapped signal runs its trap
(and leaves `$?` as it was), an ignored one is dropped, and any other kills the shell, unless
its default is to leave a process running. When the shell exits, its `EXIT` trap runs once; an
`exit` inside it sets the status the shell exits with.

Every step takes fuel: each command nested in another and each turn of a loop spends one.

This module belongs to the simulated test host that one-shot analyzer commands run on, not to
the library's program: the program reaches the host only through `Cli.Machine` and
`Host.System`, and no theorem of the library is about this module.
-/

namespace CrossRef.Shell

open CrossRef.Host

/-! ## Steps that end early -/

/-- Run a step, catching how it ended early. -/
def attempt (m : ShellM α) : ShellM (Except Flow α) :=
  tryCatch (Except.ok <$> m) (fun e => pure (.error e))

/-- Run a step, then a cleanup however the step ended. -/
def ensuring (m : ShellM α) (cleanup : ShellM Unit) : ShellM α := do
  let r ← attempt m
  cleanup
  match r with
  | .ok a => pure a
  | .error e => throw e

/-- **Exit for `-e`**: when the status of an untested command is not 0. -/
def errexit (tested : Bool) : ShellM Unit := do
  let s ← get
  if !tested && s.opts.errexit && s.status != 0 then throw .exit

/-! ## Redirections -/

/-- A redirection with its word expanded. -/
inductive Planned where
  | openFile (fd : Nat) (mode : OpenMode) (path : Bytes)
  /-- Duplicate a descriptor, or close one. -/
  | dup (fd : Nat) (source : Option Nat)
  /-- Read from a here-document's text. -/
  | text (fd : Nat) (body : Bytes)
  deriving Inhabited

/-- **Expand the words of redirections.** A descriptor to duplicate must be a number or `-`. -/
def planRedirects (hooks : Hooks) (rs : List Redirect) : ShellM (List Planned) :=
  rs.mapM fun r => match r with
    | .file fd mode w => do return .openFile fd mode (← expandString hooks w)
    | .dup fd _ src => pure (.dup fd src)
    | .dupWord fd _ w => do
      let v ← expandString hooks w
      if v == [45] then return .dup fd none
      else if !v.isEmpty && v.all Bytes.isDigit then return .dup fd (some (← needNumber v))
      else raise (lit "Syntax error: Bad fd number")
    | .here fd body expand => do
      if expand then return .text fd (flatten [] (← expandPieces hooks .quoted body))
      else return .text fd (Word.literal body)
    | .doc fd _ => pure (.text fd [])

/-- The message for a file that cannot be opened for reading, or created. -/
def openMessage (creating : Bool) (path : Bytes) (e : Errno) : Bytes :=
  let why := match e with
    | .noEntry | .notDirectory => if creating then "Directory nonexistent" else "No such file"
    | e => e.text
  lit (if creating then "cannot create " else "cannot open ") ++ path ++ lit ": " ++ lit why

/-- **Apply a redirection** to the shell's descriptors: the message when it fails. -/
def applyPlanned (p : Planned) : ShellM (Option Bytes) := do
  match p with
  | .openFile fd mode path =>
    let access : System.Access := match mode with
      | .read => .read
      | .write | .clobber => .truncate
      | .append => .append
      | .readWrite => .readWrite
    let creating := mode != .read
    if path.isEmpty then return some (openMessage creating path .noEntry)
    let full ← resolvePath path
    let s ← get
    let kept : Bool := match s.sys.files.node? full with
      | some (.file _ _) | some (.program _) => mode == .write && s.opts.noclobber
      | _ => false
    if kept then return some (openMessage creating path .fileExists)
    match ← onSystem (System.openFile full access) with
    | .ok d =>
      modify fun s => { s with fds := s.fds.set fd d }
      return none
    | .error e => return some (openMessage creating path e)
  | .dup fd (some src) =>
    match (← get).fds.get? src with
    | some d =>
      if src != fd then modify fun s => { s with fds := s.fds.set fd d }
      return none
    | none => return some (Bytes.ofNat src ++ lit ": " ++ lit (Errno.text .badDescriptor))
  | .dup fd none =>
    modify fun s => { s with fds := s.fds.close fd }
    return none
  | .text fd body =>
    let id ← onSystem (System.newStream (Bytes.toArray body))
    modify fun s => { s with fds := s.fds.set fd { channel := .stream id, readable := true, writable := false } }
    return none

/-- Apply redirections in order, stopping at the first that fails: its message. -/
def applyAll (ps : List Planned) : ShellM (Option Bytes) := do
  for p in ps do
    if let some msg ← applyPlanned p then return some msg
  return none

/-! ## Simple commands -/

/-- Split an assignment word at its `=`: the name and the word of the value. -/
def splitAssignment : Word → String × Word
  | .plain b :: rest =>
    let name := b.takeWhile (· != 61)
    let after := b.drop (name.length + 1)
    (Bytes.text name, (if after.isEmpty then [] else [Piece.plain after]) ++ rest)
  | w => ("", w)

/-- **Expand the words of a simple command** into its arguments, split into fields and matched
against file names; after `export`, `readonly` or `local`, a word that is an assignment is
expanded whole. -/
def expandArgs (hooks : Hooks) (words : List Word) : ShellM (List Bytes) := do
  let mut out : List Bytes := []
  let mut declaring := false
  let mut first := true
  for w in words do
    if declaring && isAssignment w then
      out := out ++ [← expandString hooks w]
    else
      let sep ← ifs
      let items ← expandWordItems hooks w
      for f in splitFields sep items do
        out := out ++ (← globField f)
    if first && !out.isEmpty then
      first := false
      declaring := ["export", "readonly", "local"].contains (Bytes.text (out.head?.getD []))
  return out

/-- **Trace a command** for `-x`, before its redirections: `PS4`, its assignments and its
arguments. -/
def trace (fds : Fds) (values : List (String × Bytes)) (argv : List Bytes) : ShellM Unit := do
  let ps4 := (← getVar "PS4").getD (lit "+ ")
  let words := values.map (fun (n, v) => lit n ++ [61] ++ v) ++ argv
  let line := ps4 ++ (lit " ").intercalate words ++ [10]
  discard (onSystem (System.write fds 2 (Bytes.toArray line)))

/-- Run with variables assigned for the command only, and exported to it. -/
def withAssigned (values : List (String × Bytes)) (act : ShellM Unit) : ShellM Unit := do
  if values.isEmpty then act
  else
    let olds ← values.mapM fun (n, _) => do return (n, ← findVar n)
    for (n, v) in values do
      setVar n v
      let var := (← findVar n).getD {}
      putVar n { var with exported := true }
    ensuring act (do
      for (n, old) in olds.reverse do
        match old with
        | some v => putVar n v
        | none => modify fun s => { s with vars := s.vars.filter (·.1 != n) })

/-- Say how a program ended, when a signal killed it, and take its status. -/
def reportExit (e : Exit) : ShellM Unit := do
  match e with
  | .signal n => if n != 2 && n != 13 then say 2 (lit (signalText n) ++ [10])
  | .code _ => pure ()
  setStatus e.status

/-- What the shell says when a program cannot be run. -/
def execMessage (e : Errno) : String :=
  match e with
  | .noEntry | .notDirectory => "not found"
  | e => e.text

/-- The status for a program that cannot be run. -/
def execStatus (e : Errno) : Nat :=
  match e with
  | .noEntry | .notDirectory => 127
  | .access => 126
  | _ => 2

section Programs

variable (spawn : Spawner)

/-- **Start a program** at a path in a process, with the shell's descriptors and directory. -/
def runProgram (pid : Nat) (path : String) (argv : List Bytes) (env : List (String × Bytes)) :
    ShellM Exit := do
  let s ← get
  let proc : Proc := { argv, env, cwd := s.cwd, fds := s.fds, pid, ppid := s.procId }
  onSystem (spawn path proc)

/-- **Run a file as a program** in a process: a program of the host, or an executable file,
which runs the interpreter named after `#!` on its first line, or else runs as a shell script.
`shown` is the path as the command named it. -/
def launch (pid : Nat) (full : String) (shown : Bytes) (argv : List Bytes)
    (env : List (String × Bytes)) : ShellM (Except Errno Exit) := do
  let s ← get
  let fs := s.sys.files
  match fs.node? full with
  | some (.program _) => return .ok (← runProgram spawn pid full argv env)
  | some (.file content x) =>
    if !x then return .error .access
    match content.toList with
    | 35 :: 33 :: rest =>
      let line := (rest.takeWhile (· != 10)).dropWhile Bytes.isBlank
      let interp := line.takeWhile (!Bytes.isBlank ·)
      let arg := (line.drop interp.length).dropWhile Bytes.isBlank
      let arg := (arg.reverse.dropWhile Bytes.isBlank).reverse
      let ipath := resolve s.cwd (Bytes.text interp)
      if !isExecutable (fs.node? ipath) then return .error .noEntry
      let args := [interp] ++ (if arg.isEmpty then [] else [arg]) ++ [shown] ++ argv.drop 1
      return .ok (← runProgram spawn pid ipath args env)
    | _ => return .ok (← runProgram spawn pid "/bin/sh" ([lit "/bin/sh", shown] ++ argv.drop 1) env)
  | some (.device _) => return .error .access
  | none => return .error (if fs.isDir full then .access else .noEntry)

/-- Where a command name leads: the path given, or the one `PATH` search finds, which is
remembered. -/
def findProgram (cmd : Bytes) : ShellM (Option Bytes) := do
  if cmd.contains 47 then return some cmd
  match ← searchPath cmd with
  | some p =>
    let n := Bytes.text cmd
    modify fun s => { s with hashed := (s.hashed.filter (·.1 != n)) ++ [(n, p)] }
    return some p
  | none => return none

/-- **Run a program** by command name in a new process; the status is its exit status, or
127 when it is not found and 126 when it cannot be run. -/
def runExternal (cmd : Bytes) (args : List Bytes) : ShellM Unit := do
  match ← findProgram cmd with
  | none =>
    warn (cmd ++ lit ": not found")
    setStatus 127
  | some p =>
    let env ← environment
    let full ← resolvePath p
    let pid ← onSystem System.newPid
    match ← launch spawn pid full p (cmd :: args) env with
    | .ok e => reportExit e
    | .error e =>
      warn (cmd ++ lit ": " ++ lit (execMessage e))
      setStatus (execStatus e)

/-- **`exec` with a command**: the program takes the shell's process, and the shell ends as it
does. -/
def replaceShell (cmd : Bytes) (args : List Bytes) : ShellM Nat := do
  match ← findProgram cmd with
  | none =>
    warn (cmd ++ lit ": not found")
    modify fun s => { s with exitStatus := some 127 }
    throw .exit
  | some p =>
    let env ← environment
    let full ← resolvePath p
    match ← launch spawn (← get).procId full p (cmd :: args) env with
    | .ok (.code n) =>
      modify fun s => { s with exitStatus := some n }
      throw .exit
    | .ok (.signal n) => throw (.killed n)
    | .error e =>
      warn (cmd ++ lit ": " ++ lit (execMessage e))
      modify fun s => { s with exitStatus := some (execStatus e) }
      throw .exit

end Programs

/-- **Run in a subshell**: a copy of the shell in a new process, with descriptors of its own;
what it changes of the shell is dropped when it ends, and how its process ended is returned.
`atExit` runs its `EXIT` trap. Traps with actions are not inherited. -/
def forked (pid : Nat) (fds : Fds) (body : ShellM Unit) (atExit : ShellM Unit) : ShellM Exit := do
  let saved ← get
  onSystem (System.enter pid)
  set { saved with
    fds, procId := pid, subshell := true, output := .empty, commandName := none
    traps := saved.traps.filter (·.2.isEmpty), exitStatus := none, jobs := [] }
  let r ← attempt body
  let ended ← match r with
    | .error (.killed sig) => pure (Exit.signal sig)
    | _ => do
      let s ← get
      let final := match r with
        | .error .exit => s.exitStatus.getD s.status
        | _ => s.status
      modify fun s => { s with exitStatus := some final }
      match ← attempt atExit with
      | .error (.killed sig) => pure (Exit.signal sig)
      | _ =>
        let s ← get
        pure (Exit.code ((s.exitStatus.getD s.status) % 256))
  onSystem (System.leave pid)
  let sys := (← get).sys
  set { saved with sys }
  return ended

/-! ## The interpreter -/

section Interpreter

variable (spawn : Spawner)

mutual

/-- **Run a command.** `tested` is set where the command's status is tested, so that `-e` does
not end the shell when it fails. -/
def exec : Nat → Command → Bool → ShellM Unit
  | 0, _, _ => pure ()
  | k + 1, c, tested => do
    handleSignals k
    if (← get).opts.noexec then return
    match c with
    | .simple line assigns words redirs =>
      runSimple k line assigns words redirs tested
      errexit tested
    | .pipeline negated stages =>
      if negated then
        runPipeline k stages true
        setStatus (if (← status) == 0 then 1 else 0)
      else
        runPipeline k stages tested
        errexit tested
    | .both a b =>
      exec k a true
      if (← status) == 0 then exec k b tested
    | .either a b =>
      exec k a true
      if (← status) != 0 then exec k b tested
    | .seq a b =>
      exec k a tested
      exec k b tested
    | .background a =>
      let s ← get
      let pid ← onSystem System.newPid
      let fds := s.fds.set 0 { channel := .device .null, readable := true, writable := false }
      let e ← forked pid fds (exec k a false) (exitTrap k)
      modify fun s =>
        { s with
          lastBg := some pid
          jobs := addJob s.jobs { pid, status := e.status, serial := s.jobCount }
          jobCount := s.jobCount + 1 }
      setStatus 0
    | .subshell line body redirs =>
      setLine line
      let plan ← planRedirects (hooksOf k) redirs
      let pid ← onSystem System.newPid
      let e ← forked pid (← get).fds (do
          match ← applyAll plan with
          | some msg =>
            warn msg
            setStatus 2
          | none => execOpt k body tested) (exitTrap k)
      reportExit e
      errexit tested
    | .redirected line body redirs =>
      setLine line
      let plan ← planRedirects (hooksOf k) redirs
      let saved := (← get).fds
      match ← applyAll plan with
      | some msg =>
        warn msg
        setStatus 2
        modify fun s => { s with fds := saved }
        if (← get).opts.errexit then throw .exit
      | none => ensuring (exec k body tested) (modify fun s => { s with fds := saved })
    | .ifThen cond thenPart elsePart =>
      execOpt k cond true
      if (← status) == 0 then execOpt k thenPart tested
      else match elsePart with
        | some e => exec k e tested
        | none => setStatus 0
    | .loop negate cond body =>
      modify fun s => { s with loopDepth := s.loopDepth + 1 }
      ensuring (whileLoop k negate cond body tested 0)
        (modify fun s => { s with loopDepth := s.loopDepth - 1 })
    | .forIn line var items body =>
      setLine line
      let values ← match items with
        | some ws => expandArgs (hooksOf k) ws
        | none => pure (← get).params
      setStatus 0
      modify fun s => { s with loopDepth := s.loopDepth + 1 }
      ensuring (forEach k var values body tested)
        (modify fun s => { s with loopDepth := s.loopDepth - 1 })
    | .caseOf line subject arms =>
      setLine line
      let hooks := hooksOf k
      let subj ← expandString hooks subject
      let mut chosen : Option (Option Command) := none
      for (pats, body) in arms do
        if chosen.isSome then break
        for p in pats do
          let m ← expandPattern hooks p
          if Pat.matches (Pat.ofMarked m) subj then
            chosen := some body
            break
      setStatus 0
      match chosen with
      | some (some body) => exec k body tested
      | _ => pure ()
    | .function _ name _ =>
      modify fun s => { s with funcs := (s.funcs.filter (·.1 != name)) ++ [(name, c)] }
      setStatus 0
    handleSignals k

/-- Run a command that may be absent. -/
def execOpt : Nat → Option Command → Bool → ShellM Unit
  | 0, _, _ => pure ()
  | k + 1, some c, tested => exec k c tested
  | _ + 1, none, _ => pure ()

/-- **Run the stages of a pipeline**, each in a subshell reading what the one before wrote; the
status is the last one's. -/
def runPipeline : Nat → List Command → Bool → ShellM Unit
  | 0, _, _ => pure ()
  | k + 1, stages, tested =>
    match stages with
    | [c] => exec k c tested
    | _ => do
      let saved := (← get).fds
      let n := stages.length
      let mut input : Option Nat := none
      let mut i := 0
      let mut last : Exit := .code 0
      for c in stages do
        i := i + 1
        let fds0 := match input with
          | some id => saved.set 0 { channel := .stream id, readable := true, writable := false }
          | none => saved
        let pid ← onSystem System.newPid
        if i < n then
          let id ← onSystem System.newStream
          let fds := fds0.set 1 { channel := .stream id, readable := false, writable := true }
          let _ ← forked pid fds (exec k c tested) (exitTrap k)
          input := some id
        else
          last ← forked pid fds0 (exec k c tested) (exitTrap k)
      reportExit last

/-- **Run a simple command**: expand it, apply its redirections and run it. -/
def runSimple : Nat → Nat → List Word → List Word → List Redirect → Bool → ShellM Unit
  | 0, _, _, _, _, _ => pure ()
  | k + 1, line, assigns, words, redirs, tested => do
    setLine line
    modify fun s => { s with substStatus := none }
    let hooks := hooksOf k
    let argv ← expandArgs hooks words
    let plan ← planRedirects hooks redirs
    let special := match argv.head? with
      | some n => builtinKind (Bytes.text n) == some true
      | none => false
    let saved := (← get).fds
    match ← applyAll plan with
    | some msg =>
      warn msg
      setStatus 2
      modify fun s => { s with fds := saved }
      if special then throw .error
    | none =>
      let keep := argv == [lit "exec"]
      ensuring (do
          let values ← assigns.mapM fun a => do
            let (n, w) := splitAssignment a
            return (n, ← expandString hooks w)
          if (← get).opts.xtrace then trace saved values argv
          dispatch k argv values tested)
        (if keep then pure () else modify fun s => { s with fds := saved })

/-- **Run an expanded command**: a function, a built-in command or a program; with no command,
make the assignments. -/
def dispatch : Nat → List Bytes → List (String × Bytes) → Bool → ShellM Unit
  | 0, _, _, _ => pure ()
  | k + 1, argv, values, tested => do
    match argv with
    | [] =>
      for (n, v) in values do setVar n v
      setStatus ((← get).substStatus.getD 0)
    | cmd :: args =>
      let name := Bytes.text cmd
      match (← get).funcs.find? (·.1 == name) with
      | some (_, .function fline _ body) => withAssigned values (callFunction k fline body args tested)
      | _ =>
        match builtinKind name with
        | some true =>
          for (n, v) in values do setVar n v
          runBuiltin k name args true tested
        | some false => withAssigned values (runBuiltin k name args false tested)
        | none => withAssigned values (runExternal spawn cmd args)

/-- **Call a function** with arguments as its positional parameters; `return` ends it, and the
variables it made local get back what they were. -/
def callFunction : Nat → Nat → Command → List Bytes → Bool → ShellM Unit
  | 0, _, _, _, _ => pure ()
  | k + 1, fline, body, args, tested => do
    let s ← get
    let (params, funcLine, loopDepth, line) := (s.params, s.funcLine, s.loopDepth, s.line)
    let (optIndex, optOffset) := (s.optIndex, s.optOffset)
    modify fun s => { s with
      params := args, funcLine := fline, loopDepth := 0, optIndex := 1, optOffset := none
      funcDepth := s.funcDepth + 1, frames := {} :: s.frames }
    let r ← attempt (exec k body tested)
    restoreLocals (((← get).frames.head?).getD {})
    modify fun s => { s with
      params, funcLine, loopDepth, line, optIndex, optOffset
      funcDepth := s.funcDepth - 1, frames := s.frames.drop 1 }
    match r with
    | .ok () | .error .ret => pure ()
    | .error e => throw e

/-- **Run a built-in command**: its output reaches its standard output when it ends, and a
failing write makes its status odd; an error ends it with status 2, and also ends the script
when it is special. -/
def runBuiltin : Nat → String → List Bytes → Bool → Bool → ShellM Unit
  | 0, _, _, _, _ => pure ()
  | k + 1, name, args, special, tested => do
    let before ← get
    modify fun s => { s with commandName := some (lit name), output := .empty }
    let r ← attempt (builtin k name args tested)
    let s ← get
    let out := s.output
    let finish : ShellM Unit :=
      modify fun s => { s with commandName := before.commandName, output := before.output }
    match r with
    | .ok st =>
      let st ← if out.size == 0 then pure st else do
        match ← onSystem (System.write s.fds 1 out) with
        | .ok () => pure st
        | .error _ => do
          warn (lit name ++ lit ": I/O error")
          pure (st ||| 1)
      finish
      setStatus st
    | .error .error =>
      finish
      if special then throw .error
    | .error f =>
      if out.size > 0 then discard (onSystem (System.write s.fds 1 out))
      finish
      throw f

/-- **The built-in commands that run commands** (`eval`, `.`, `exec`, `command`), and the
others: the status. -/
def builtin : Nat → String → List Bytes → Bool → ShellM Nat
  | 0, _, _, _ => pure 0
  | k + 1, name, args, tested => do
    match name with
    | "eval" =>
      if args.isEmpty then return 0
      let ran ← runText k ((lit " ").intercalate args) tested
      if ran then status else return 0
    | "." =>
      let (_, args) ← options "" args
      match args with
      | [] => return 0
      | file :: _ =>
        let path ← if file.contains 47 then pure file else do
          match ← searchPath file with
          | some p => pure p
          | none => raise (file ++ lit ": not found")
        let full ← resolvePath path
        let text ← match (← get).sys.files.read full with
          | .ok b => pure b.toList
          | .error e => raise (openMessage false path e)
        let savedName := (← get).commandName
        modify fun s => { s with commandName := some path }
        let r ← attempt (runText k text false)
        modify fun s => { s with commandName := savedName }
        match r with
        | .ok ran => if ran then status else return 0
        | .error .ret => status
        | .error e => throw e
    | "exec" =>
      let (_, args) ← options "" args
      match args with
      | [] => return 0
      | cmd :: rest => replaceShell spawn cmd rest
    | "command" =>
      let (opts, rest) ← options "pvV" args
      let verbose := opts.any (·.1 == 86)
      match rest with
      | [] => return 0
      | cmd :: more =>
        if verbose || opts.any (·.1 == 118) then describe verbose cmd
        else
          match builtinKind (Bytes.text cmd) with
          | some _ => runBuiltin k (Bytes.text cmd) more false tested
          | none =>
            -- the program runs as if named directly, so messages do not name `command`
            modify fun s => { s with commandName := none }
            runExternal spawn cmd more
          status
    | _ => plainBuiltin name args

/-- **Run the commands of a text**, each as soon as it is read: whether any ran. -/
def runText : Nat → Bytes → Bool → ShellM Bool
  | 0, _, _ => pure false
  | k + 1, text, tested => runFrom k (Reader.start text) tested false

/-- Run the commands a reader has left. -/
def runFrom : Nat → Reader → Bool → Bool → ShellM Bool
  | 0, _, _, ran => pure ran
  | k + 1, r, tested, ran => do
    match nextCommand.run { r with aliases := (← get).aliases } with
    | .error e => do
      modify fun s => { s with line := e.line }
      raise (lit e.message)
    | .ok (.eof, _) => pure ran
    | .ok (.empty, r) => runFrom k r tested ran
    | .ok (.command c, r) => do
      exec k c tested
      runFrom k r tested true

/-- Run a `while` (or `until`) loop from its next test; `last` is the status of the body's last
run. -/
def whileLoop : Nat → Bool → Option Command → Option Command → Bool → Nat → ShellM Unit
  | 0, _, _, _, _, _ => pure ()
  | k + 1, negate, cond, body, tested, last => do
    match ← attempt (execOpt k cond true) with
    | .error (.brk n) => if n > 1 then throw (.brk (n - 1))
    | .error (.cont n) =>
      if n > 1 then throw (.cont (n - 1)) else whileLoop k negate cond body tested last
    | .error e => throw e
    | .ok () =>
      let st ← status
      if (st == 0) == negate then setStatus last
      else
        match ← attempt (execOpt k body tested) with
        | .error (.brk n) => if n > 1 then throw (.brk (n - 1))
        | .error (.cont n) =>
          if n > 1 then throw (.cont (n - 1)) else whileLoop k negate cond body tested (← status)
        | .error e => throw e
        | .ok () => whileLoop k negate cond body tested (← status)

/-- Run a `for` loop over the values left. -/
def forEach : Nat → String → List Bytes → Option Command → Bool → ShellM Unit
  | 0, _, _, _, _ => pure ()
  | _ + 1, _, [], _, _ => pure ()
  | k + 1, var, v :: rest, body, tested => do
    setVar var v
    match ← attempt (execOpt k body tested) with
    | .error (.brk n) => if n > 1 then throw (.brk (n - 1))
    | .error (.cont n) => if n > 1 then throw (.cont (n - 1)) else forEach k var rest body tested
    | .error e => throw e
    | .ok () => forEach k var rest body tested

/-- **The output of a command substitution**, run in a subshell; its status is kept for an
assignment-only command. -/
def substitute : Nat → Option Command → ShellM Bytes
  | 0, _ => pure []
  | k + 1, c => do
    let id ← onSystem System.newStream
    let fds := (← get).fds.set 1 { channel := .stream id, readable := false, writable := true }
    let pid ← onSystem System.newPid
    let e ← forked pid fds (execOpt k c false) (exitTrap k)
    modify fun s => { s with substStatus := some e.status }
    return (← onSystem (System.streamData id)).toList

/-- What expanding words needs of the interpreter. -/
def hooksOf : Nat → Hooks
  | 0 => { substitute := fun _ => pure [] }
  | k + 1 => { substitute := substitute k }

/-- **Handle the signals sent to the shell**: run their traps, drop those ignored, and die of
the others. -/
def handleSignals : Nat → ShellM Unit
  | 0 => pure ()
  | k + 1 => do
    let sigs ← onSystem (System.takeSignals (← get).procId)
    for sig in sigs do
      match (← get).traps.find? (·.1 == sig) with
      | some (_, action) =>
        if sig == 9 || sig == 19 then throw (.killed sig)
        if !action.isEmpty then
          let st ← status
          let _ ← runText k action false
          setStatus st
      | none => if !signalSpares sig then throw (.killed sig)

/-- **Run the `EXIT` trap**, once, with `$?` the status the shell exits with; an `exit` in it
sets that status. -/
def exitTrap : Nat → ShellM Unit
  | 0 => pure ()
  | k + 1 => do
    match (← get).traps.find? (·.1 == 0) with
    | none => pure ()
    | some (_, action) =>
      let s ← get
      let final := s.exitStatus.getD s.status
      modify fun s => { s with
        traps := s.traps.filter (·.1 != 0), exitStatus := none, status := final }
      match ← attempt (runText k action false) with
      | .error .exit => pure ()
      | .error (.killed sig) => throw (.killed sig)
      | _ => modify fun s => { s with exitStatus := some final }

end

end Interpreter

/-! ## The shell as a program -/

/-- How the shell was asked to run. -/
structure Invocation where
  opts : Options := {}
  /-- The commands given with `-c`. -/
  command : Option Bytes := none
  /-- The script file named, if one is. -/
  script : Option Bytes := none
  arg0 : Bytes
  params : List Bytes := []
  deriving Inhabited

/-- Read the letters of one option word of the command line: the options, whether `-c` and
`-s` were given, and the words left. -/
def flagLetters (on : Bool) : List UInt8 → Options × Bool × Bool × List Bytes →
    Except Bytes (Options × Bool × Bool × List Bytes)
  | [], st => .ok st
  | l :: ls, (o, minusC, stdin, rest) =>
    if l == 99 then flagLetters on ls (o, true, stdin, rest)
    else if l == 115 then flagLetters on ls (o, minusC, on, rest)
    else if l == 108 then flagLetters on ls (o, minusC, stdin, rest)
    else if l == 111 then
      match rest with
      | name :: more =>
        match setLong o (Bytes.text name) on with
        | some o => flagLetters on ls (o, minusC, stdin, more)
        | none => .error (lit "Illegal option -o " ++ name)
      | [] => flagLetters on ls (o, minusC, stdin, [])
    else
      match setLetter o (Char.ofNat l.toNat) on with
      | some o => flagLetters on ls (o, minusC, stdin, rest)
      | none => .error (lit "Illegal option " ++ [if on then 45 else 43, l])

/-- Read the option words of the command line, up to the first word that is not one. -/
def readFlags : Nat → Options × Bool × Bool × List Bytes → Except Bytes (Options × Bool × Bool × List Bytes)
  | 0, st => .ok st
  | k + 1, (o, minusC, stdin, args) =>
    match args with
    | [45] :: rest | [45, 45] :: rest => .ok (o, minusC, stdin, rest)
    | (c :: letters) :: rest =>
      if c != 45 && c != 43 then .ok (o, minusC, stdin, args)
      else do
        let st ← flagLetters (c == 45) letters (o, minusC, stdin, rest)
        readFlags k st
    | _ => .ok (o, minusC, stdin, args)

/-- **Read the shell's command line**: options, then the commands (with `-c`), a script file or
nothing (standard input), then `$0` (after `-c`) and the positional parameters. -/
def invocation (argv : List Bytes) : Except Bytes Invocation := do
  let arg0 := argv.head?.getD (lit "sh")
  let (opts, minusC, stdin, rest) ← readFlags (argv.length + 1) ({}, false, false, argv.drop 1)
  if minusC then
    match rest with
    | [] => throw (lit "-c requires an argument")
    | cmd :: a0 :: ps => return { opts, command := some cmd, arg0 := a0, params := ps }
    | [cmd] => return { opts, command := some cmd, arg0 }
  else if stdin then return { opts, arg0, params := rest }
  else match rest with
    | f :: ps => return { opts, script := some f, arg0 := f, params := ps }
    | [] => return { opts, arg0 }

/-- The variables a shell starts with: its environment, exported, and its own. -/
def startVars (proc : Proc) : List (String × Var) :=
  let env := proc.env.map fun (n, v) => (n, ({ value := some v, exported := true } : Var))
  let own : List (String × Var) :=
    [("IFS", { value := some [32, 9, 10] }), ("PS1", { value := some (lit "# ") }),
     ("PS2", { value := some (lit "> ") }), ("PS4", { value := some (lit "+ ") }),
     ("OPTIND", { value := some (lit "1") }), ("PPID", { value := some (Bytes.ofNat proc.ppid) }),
     ("PATH", { value := some (lit "/usr/local/sbin:/usr/local/bin:/usr/sbin:/usr/bin:/sbin:/bin") }),
     ("PWD", { value := some (lit proc.cwd), exported := true })]
  let fresh := own.filter fun (n, _) => !env.any (·.1 == n) || n == "PWD" || n == "PPID"
  (env.filter fun (n, _) => n != "PWD" && n != "PPID") ++ fresh

/-- The fuel of a shell: how many nested commands and turns of loops it may run. -/
def shellFuel : Nat := 100000

/-- The script a shell runs: the commands given, a file's bytes, or its standard input. -/
def scriptOf (inv : Invocation) : ShellM Bytes := do
  match inv.command, inv.script with
  | some c, _ => return c
  | none, some f =>
    match (← get).sys.files.read (← resolvePath f) with
    | .ok b => return b.toList
    | .error e => raise (openMessage false f e)
  | none, none =>
    match ← onSystem (System.read (← get).fds 0 none) with
    | .ok b => return b.toList
    | .error _ => return []

/-- **A shell session**: read the command line, run the script and the `EXIT` trap. -/
def session (spawn : Spawner) (proc : Proc) : ShellM Unit := do
  let r ← attempt (do
    match invocation proc.argv with
    | .error msg => raise msg
    | .ok inv =>
      modify fun s => { s with opts := inv.opts, params := inv.params }
      let text ← scriptOf inv
      modify fun s => { s with arg0 := inv.arg0 }
      modify fun s => { s with line := 1 }
      discard (runText spawn shellFuel text false))
  match r with
  | .error (.killed sig) => throw (.killed sig)
  | _ =>
    let s ← get
    let final := match r with
      | .error .exit => s.exitStatus.getD s.status
      | _ => s.status
    modify fun s => { s with exitStatus := some final }
    exitTrap spawn shellFuel

/-- **The shell as a program.** -/
def main (spawn : Spawner) (proc : Proc) : SysM Exit := do
  let start : State := {
    sys := ← get, arg0 := proc.argv.head?.getD (lit "sh"), vars := startVars proc
    fds := proc.fds, cwd := proc.cwd, pid := proc.pid, procId := proc.pid, ppid := proc.ppid }
  let (r, s) := (session spawn proc).run.run start
  set s.sys
  return match r with
    | .error (.killed sig) => .signal sig
    | _ => .code ((s.exitStatus.getD s.status) % 256)

end CrossRef.Shell
